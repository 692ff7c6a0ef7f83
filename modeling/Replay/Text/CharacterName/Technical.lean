import Replay.Text.CharacterName.Run

/-
  This file defines the names of technical symbols, enclosed
  letters, shapes and dingbats, after Unicode 14.

  Key definitions include:
    * `technicalNames`
-/

------------------------------------------------------------
-- Tables
------------------------------------------------------------

namespace Replay

namespace Text

/- Names of technical symbols and shapes. -/
def technicalNames : List NameRun :=
  [
    ⟨0x2300, "",
      ["DIAMETER SIGN|ELECTRIC ARROW|HOUSE|UP ARROWHEAD",
       "DOWN ARROWHEAD|PROJECTIVE|PERSPECTIVE|WAVY LINE",
       "LEFT CEILING|RIGHT CEILING|LEFT FLOOR|RIGHT FLOOR",
       "BOTTOM RIGHT CROP|BOTTOM LEFT CROP|TOP RIGHT CROP",
       "TOP LEFT CROP|REVERSED NOT SIGN|SQUARE LOZENGE|ARC",
       "SEGMENT|SECTOR|TELEPHONE RECORDER",
       "POSITION INDICATOR|VIEWDATA SQUARE",
       "PLACE OF INTEREST SIGN|TURNED NOT SIGN|WATCH",
       "HOURGLASS|TOP LEFT CORNER|TOP RIGHT CORNER",
       "BOTTOM LEFT CORNER|BOTTOM RIGHT CORNER",
       "TOP HALF INTEGRAL|BOTTOM HALF INTEGRAL|FROWN|SMILE",
       "UP ARROWHEAD BETWEEN TWO HORIZONTAL BARS|OPTION KEY",
       "ERASE TO THE RIGHT|X IN A RECTANGLE BOX|KEYBOARD",
       "LEFT-POINTING ANGLE BRACKET",
       "RIGHT-POINTING ANGLE BRACKET|ERASE TO THE LEFT",
       "BENZENE RING|CYLINDRICITY|ALL AROUND-PROFILE",
       "SYMMETRY|TOTAL RUNOUT|DIMENSION ORIGIN",
       "CONICAL TAPER|SLOPE|COUNTERBORE|COUNTERSINK"]⟩,
    ⟨0x2336, "APL FUNCTIONAL SYMBOL ",
      ["I-BEAM|SQUISH QUAD|QUAD EQUAL|QUAD DIVIDE",
       "QUAD DIAMOND|QUAD JOT|QUAD CIRCLE|CIRCLE STILE",
       "CIRCLE JOT|SLASH BAR|BACKSLASH BAR|QUAD SLASH",
       "QUAD BACKSLASH|QUAD LESS-THAN|QUAD GREATER-THAN",
       "LEFTWARDS VANE|RIGHTWARDS VANE|QUAD LEFTWARDS ARROW",
       "QUAD RIGHTWARDS ARROW|CIRCLE BACKSLASH",
       "DOWN TACK UNDERBAR|DELTA STILE|QUAD DOWN CARET",
       "QUAD DELTA|DOWN TACK JOT|UPWARDS VANE",
       "QUAD UPWARDS ARROW|UP TACK OVERBAR|DEL STILE",
       "QUAD UP CARET|QUAD DEL|UP TACK JOT|DOWNWARDS VANE",
       "QUAD DOWNWARDS ARROW|QUOTE UNDERBAR|DELTA UNDERBAR",
       "DIAMOND UNDERBAR|JOT UNDERBAR|CIRCLE UNDERBAR",
       "UP SHOE JOT|QUOTE QUAD|CIRCLE STAR|QUAD COLON",
       "UP TACK DIAERESIS|DEL DIAERESIS|STAR DIAERESIS",
       "JOT DIAERESIS|CIRCLE DIAERESIS|DOWN SHOE STILE",
       "LEFT SHOE STILE|TILDE DIAERESIS",
       "GREATER-THAN DIAERESIS|COMMA BAR|DEL TILDE|ZILDE",
       "STILE TILDE|SEMICOLON UNDERBAR|QUAD NOT EQUAL",
       "QUAD QUESTION|DOWN CARET TILDE|UP CARET TILDE|IOTA",
       "RHO|OMEGA|ALPHA UNDERBAR|EPSILON UNDERBAR",
       "IOTA UNDERBAR|OMEGA UNDERBAR|ALPHA"]⟩,
    ⟨0x237B, "",
      ["NOT CHECK MARK",
       "RIGHT ANGLE WITH DOWNWARDS ZIGZAG ARROW",
       "SHOULDERED OPEN BOX|BELL SYMBOL",
       "VERTICAL LINE WITH MIDDLE DOT|INSERTION SYMBOL",
       "CONTINUOUS UNDERLINE SYMBOL",
       "DISCONTINUOUS UNDERLINE SYMBOL|EMPHASIS SYMBOL",
       "COMPOSITION SYMBOL",
       "WHITE SQUARE WITH CENTRE VERTICAL LINE|ENTER SYMBOL",
       "ALTERNATIVE KEY SYMBOL|HELM SYMBOL",
       "CIRCLED HORIZONTAL BAR WITH NOTCH",
       "CIRCLED TRIANGLE DOWN",
       "BROKEN CIRCLE WITH NORTHWEST ARROW|UNDO SYMBOL",
       "MONOSTABLE SYMBOL|HYSTERESIS SYMBOL",
       "OPEN-CIRCUIT-OUTPUT H-TYPE SYMBOL",
       "OPEN-CIRCUIT-OUTPUT L-TYPE SYMBOL",
       "PASSIVE-PULL-DOWN-OUTPUT SYMBOL",
       "PASSIVE-PULL-UP-OUTPUT SYMBOL",
       "DIRECT CURRENT SYMBOL FORM TWO",
       "SOFTWARE-FUNCTION SYMBOL|APL FUNCTIONAL SYMBOL QUAD",
       "DECIMAL SEPARATOR KEY SYMBOL|PREVIOUS PAGE",
       "NEXT PAGE|PRINT SCREEN SYMBOL|CLEAR SCREEN SYMBOL"]⟩,
    ⟨0x239B, "LEFT PARENTHESIS ",
      ["UPPER HOOK|EXTENSION|LOWER HOOK"]⟩,
    ⟨0x239E, "RIGHT PARENTHESIS ",
      ["UPPER HOOK|EXTENSION|LOWER HOOK"]⟩,
    ⟨0x23A1, "LEFT SQUARE BRACKET ",
      ["UPPER CORNER|EXTENSION|LOWER CORNER"]⟩,
    ⟨0x23A4, "RIGHT SQUARE BRACKET ",
      ["UPPER CORNER|EXTENSION|LOWER CORNER"]⟩,
    ⟨0x23A7, "LEFT CURLY BRACKET ",
      ["UPPER HOOK|MIDDLE PIECE|LOWER HOOK"]⟩,
    ⟨0x23AA, "",
      ["CURLY BRACKET EXTENSION",
       "RIGHT CURLY BRACKET UPPER HOOK",
       "RIGHT CURLY BRACKET MIDDLE PIECE",
       "RIGHT CURLY BRACKET LOWER HOOK|INTEGRAL EXTENSION",
       "HORIZONTAL LINE EXTENSION",
       "UPPER LEFT OR LOWER RIGHT CURLY BRACKET SECTION",
       "UPPER RIGHT OR LOWER LEFT CURLY BRACKET SECTION",
       "SUMMATION TOP|SUMMATION BOTTOM|TOP SQUARE BRACKET",
       "BOTTOM SQUARE BRACKET",
       "BOTTOM SQUARE BRACKET OVER TOP SQUARE BRACKET",
       "RADICAL SYMBOL BOTTOM|LEFT VERTICAL BOX LINE",
       "RIGHT VERTICAL BOX LINE"]⟩,
    ⟨0x23BA, "HORIZONTAL SCAN LINE-", ["1|3|7|9"]⟩,
    ⟨0x23BE, "DENTISTRY SYMBOL LIGHT ",
      ["VERTICAL AND TOP RIGHT|VERTICAL AND BOTTOM RIGHT",
       "VERTICAL WITH CIRCLE",
       "DOWN AND HORIZONTAL WITH CIRCLE",
       "UP AND HORIZONTAL WITH CIRCLE",
       "VERTICAL WITH TRIANGLE",
       "DOWN AND HORIZONTAL WITH TRIANGLE",
       "UP AND HORIZONTAL WITH TRIANGLE|VERTICAL AND WAVE",
       "DOWN AND HORIZONTAL WITH WAVE",
       "UP AND HORIZONTAL WITH WAVE|DOWN AND HORIZONTAL",
       "UP AND HORIZONTAL|VERTICAL AND TOP LEFT",
       "VERTICAL AND BOTTOM LEFT"]⟩,
    ⟨0x23CD, "",
      ["SQUARE FOOT|RETURN SYMBOL|EJECT SYMBOL",
       "VERTICAL LINE EXTENSION"]⟩,
    ⟨0x23D1, "METRICAL ",
      ["BREVE|LONG OVER SHORT|SHORT OVER LONG",
       "LONG OVER TWO SHORTS|TWO SHORTS OVER LONG",
       "TWO SHORTS JOINED|TRISEME|TETRASEME|PENTASEME"]⟩,
    ⟨0x23DA, "",
      ["EARTH GROUND|FUSE|TOP PARENTHESIS",
       "BOTTOM PARENTHESIS|TOP CURLY BRACKET",
       "BOTTOM CURLY BRACKET|TOP TORTOISE SHELL BRACKET",
       "BOTTOM TORTOISE SHELL BRACKET|WHITE TRAPEZIUM",
       "BENZENE RING WITH CIRCLE|STRAIGHTNESS|FLATNESS",
       "AC CURRENT|ELECTRICAL INTERSECTION",
       "DECIMAL EXPONENT SYMBOL",
       "BLACK RIGHT-POINTING DOUBLE TRIANGLE",
       "BLACK LEFT-POINTING DOUBLE TRIANGLE",
       "BLACK UP-POINTING DOUBLE TRIANGLE",
       "BLACK DOWN-POINTING DOUBLE TRIANGLE",
       "BLACK RIGHT-POINTING DOUBLE TRIANGLE WITH VERTICAL BAR",
       "BLACK LEFT-POINTING DOUBLE TRIANGLE WITH VERTICAL BAR",
       "BLACK RIGHT-POINTING TRIANGLE WITH DOUBLE VERTICAL BAR",
       "ALARM CLOCK|STOPWATCH|TIMER CLOCK",
       "HOURGLASS WITH FLOWING SAND",
       "BLACK MEDIUM LEFT-POINTING TRIANGLE",
       "BLACK MEDIUM RIGHT-POINTING TRIANGLE",
       "BLACK MEDIUM UP-POINTING TRIANGLE",
       "BLACK MEDIUM DOWN-POINTING TRIANGLE",
       "DOUBLE VERTICAL BAR|BLACK SQUARE FOR STOP",
       "BLACK CIRCLE FOR RECORD|POWER SYMBOL",
       "POWER ON-OFF SYMBOL|POWER ON SYMBOL",
       "POWER SLEEP SYMBOL|OBSERVER EYE SYMBOL"]⟩,
    ⟨0x2400, "SYMBOL FOR ",
      ["NULL|START OF HEADING|START OF TEXT|END OF TEXT",
       "END OF TRANSMISSION|ENQUIRY|ACKNOWLEDGE|BELL",
       "BACKSPACE|HORIZONTAL TABULATION|LINE FEED",
       "VERTICAL TABULATION|FORM FEED|CARRIAGE RETURN",
       "SHIFT OUT|SHIFT IN|DATA LINK ESCAPE",
       "DEVICE CONTROL ONE|DEVICE CONTROL TWO",
       "DEVICE CONTROL THREE|DEVICE CONTROL FOUR",
       "NEGATIVE ACKNOWLEDGE|SYNCHRONOUS IDLE",
       "END OF TRANSMISSION BLOCK|CANCEL|END OF MEDIUM",
       "SUBSTITUTE|ESCAPE|FILE SEPARATOR|GROUP SEPARATOR",
       "RECORD SEPARATOR|UNIT SEPARATOR|SPACE|DELETE"]⟩,
    ⟨0x2422, "",
      ["BLANK SYMBOL|OPEN BOX|SYMBOL FOR NEWLINE",
       "SYMBOL FOR DELETE FORM TWO",
       "SYMBOL FOR SUBSTITUTE FORM TWO"]⟩,
    ⟨0x2440, "OCR ",
      ["HOOK|CHAIR|FORK|INVERTED FORK|BELT BUCKLE|BOW TIE",
       "BRANCH BANK IDENTIFICATION|AMOUNT OF CHECK|DASH",
       "CUSTOMER ACCOUNT NUMBER|DOUBLE BACKSLASH"]⟩,
    ⟨0x2460, "CIRCLED DIGIT ",
      ["ONE|TWO|THREE|FOUR|FIVE|SIX|SEVEN|EIGHT|NINE"]⟩,
    ⟨0x2469, "CIRCLED NUMBER ",
      ["TEN|ELEVEN|TWELVE|THIRTEEN|FOURTEEN|FIFTEEN|SIXTEEN",
       "SEVENTEEN|EIGHTEEN|NINETEEN|TWENTY"]⟩,
    ⟨0x2474, "PARENTHESIZED DIGIT ",
      ["ONE|TWO|THREE|FOUR|FIVE|SIX|SEVEN|EIGHT|NINE"]⟩,
    ⟨0x247D, "PARENTHESIZED NUMBER ",
      ["TEN|ELEVEN|TWELVE|THIRTEEN|FOURTEEN|FIFTEEN|SIXTEEN",
       "SEVENTEEN|EIGHTEEN|NINETEEN|TWENTY"]⟩,
    ⟨0x2488, "DIGIT ",
      ["ONE FULL STOP|TWO FULL STOP|THREE FULL STOP",
       "FOUR FULL STOP|FIVE FULL STOP|SIX FULL STOP",
       "SEVEN FULL STOP|EIGHT FULL STOP|NINE FULL STOP"]⟩,
    ⟨0x2491, "NUMBER ",
      ["TEN FULL STOP|ELEVEN FULL STOP|TWELVE FULL STOP",
       "THIRTEEN FULL STOP|FOURTEEN FULL STOP",
       "FIFTEEN FULL STOP|SIXTEEN FULL STOP",
       "SEVENTEEN FULL STOP|EIGHTEEN FULL STOP",
       "NINETEEN FULL STOP|TWENTY FULL STOP"]⟩,
    ⟨0x249C, "PARENTHESIZED LATIN SMALL LETTER ",
      ["A|B|C|D|E|F|G|H|I|J|K|L|M|N|O|P|Q|R|S|T|U|V|W|X|Y|Z"]⟩,
    ⟨0x24B6, "CIRCLED LATIN CAPITAL LETTER ",
      ["A|B|C|D|E|F|G|H|I|J|K|L|M|N|O|P|Q|R|S|T|U|V|W|X|Y|Z"]⟩,
    ⟨0x24D0, "CIRCLED LATIN SMALL LETTER ",
      ["A|B|C|D|E|F|G|H|I|J|K|L|M|N|O|P|Q|R|S|T|U|V|W|X|Y|Z"]⟩,
    ⟨0x24EA, "CIRCLED DIGIT ", ["ZERO"]⟩,
    ⟨0x24EB, "NEGATIVE CIRCLED NUMBER ",
      ["ELEVEN|TWELVE|THIRTEEN|FOURTEEN|FIFTEEN|SIXTEEN",
       "SEVENTEEN|EIGHTEEN|NINETEEN|TWENTY"]⟩,
    ⟨0x24F5, "DOUBLE CIRCLED DIGIT ",
      ["ONE|TWO|THREE|FOUR|FIVE|SIX|SEVEN|EIGHT|NINE"]⟩,
    ⟨0x24FE, "",
      ["DOUBLE CIRCLED NUMBER TEN",
       "NEGATIVE CIRCLED DIGIT ZERO"]⟩,
    ⟨0x2500, "BOX DRAWINGS ",
      ["LIGHT HORIZONTAL|HEAVY HORIZONTAL|LIGHT VERTICAL",
       "HEAVY VERTICAL|LIGHT TRIPLE DASH HORIZONTAL",
       "HEAVY TRIPLE DASH HORIZONTAL",
       "LIGHT TRIPLE DASH VERTICAL",
       "HEAVY TRIPLE DASH VERTICAL",
       "LIGHT QUADRUPLE DASH HORIZONTAL",
       "HEAVY QUADRUPLE DASH HORIZONTAL",
       "LIGHT QUADRUPLE DASH VERTICAL",
       "HEAVY QUADRUPLE DASH VERTICAL|LIGHT DOWN AND RIGHT",
       "DOWN LIGHT AND RIGHT HEAVY",
       "DOWN HEAVY AND RIGHT LIGHT|HEAVY DOWN AND RIGHT",
       "LIGHT DOWN AND LEFT|DOWN LIGHT AND LEFT HEAVY",
       "DOWN HEAVY AND LEFT LIGHT|HEAVY DOWN AND LEFT",
       "LIGHT UP AND RIGHT|UP LIGHT AND RIGHT HEAVY",
       "UP HEAVY AND RIGHT LIGHT|HEAVY UP AND RIGHT",
       "LIGHT UP AND LEFT|UP LIGHT AND LEFT HEAVY",
       "UP HEAVY AND LEFT LIGHT|HEAVY UP AND LEFT",
       "LIGHT VERTICAL AND RIGHT",
       "VERTICAL LIGHT AND RIGHT HEAVY",
       "UP HEAVY AND RIGHT DOWN LIGHT",
       "DOWN HEAVY AND RIGHT UP LIGHT",
       "VERTICAL HEAVY AND RIGHT LIGHT",
       "DOWN LIGHT AND RIGHT UP HEAVY",
       "UP LIGHT AND RIGHT DOWN HEAVY",
       "HEAVY VERTICAL AND RIGHT|LIGHT VERTICAL AND LEFT",
       "VERTICAL LIGHT AND LEFT HEAVY",
       "UP HEAVY AND LEFT DOWN LIGHT",
       "DOWN HEAVY AND LEFT UP LIGHT",
       "VERTICAL HEAVY AND LEFT LIGHT",
       "DOWN LIGHT AND LEFT UP HEAVY",
       "UP LIGHT AND LEFT DOWN HEAVY",
       "HEAVY VERTICAL AND LEFT|LIGHT DOWN AND HORIZONTAL",
       "LEFT HEAVY AND RIGHT DOWN LIGHT",
       "RIGHT HEAVY AND LEFT DOWN LIGHT",
       "DOWN LIGHT AND HORIZONTAL HEAVY",
       "DOWN HEAVY AND HORIZONTAL LIGHT",
       "RIGHT LIGHT AND LEFT DOWN HEAVY",
       "LEFT LIGHT AND RIGHT DOWN HEAVY",
       "HEAVY DOWN AND HORIZONTAL|LIGHT UP AND HORIZONTAL",
       "LEFT HEAVY AND RIGHT UP LIGHT",
       "RIGHT HEAVY AND LEFT UP LIGHT",
       "UP LIGHT AND HORIZONTAL HEAVY",
       "UP HEAVY AND HORIZONTAL LIGHT",
       "RIGHT LIGHT AND LEFT UP HEAVY",
       "LEFT LIGHT AND RIGHT UP HEAVY",
       "HEAVY UP AND HORIZONTAL",
       "LIGHT VERTICAL AND HORIZONTAL",
       "LEFT HEAVY AND RIGHT VERTICAL LIGHT",
       "RIGHT HEAVY AND LEFT VERTICAL LIGHT",
       "VERTICAL LIGHT AND HORIZONTAL HEAVY",
       "UP HEAVY AND DOWN HORIZONTAL LIGHT",
       "DOWN HEAVY AND UP HORIZONTAL LIGHT",
       "VERTICAL HEAVY AND HORIZONTAL LIGHT",
       "LEFT UP HEAVY AND RIGHT DOWN LIGHT",
       "RIGHT UP HEAVY AND LEFT DOWN LIGHT",
       "LEFT DOWN HEAVY AND RIGHT UP LIGHT",
       "RIGHT DOWN HEAVY AND LEFT UP LIGHT",
       "DOWN LIGHT AND UP HORIZONTAL HEAVY",
       "UP LIGHT AND DOWN HORIZONTAL HEAVY",
       "RIGHT LIGHT AND LEFT VERTICAL HEAVY",
       "LEFT LIGHT AND RIGHT VERTICAL HEAVY",
       "HEAVY VERTICAL AND HORIZONTAL",
       "LIGHT DOUBLE DASH HORIZONTAL",
       "HEAVY DOUBLE DASH HORIZONTAL",
       "LIGHT DOUBLE DASH VERTICAL",
       "HEAVY DOUBLE DASH VERTICAL|DOUBLE HORIZONTAL",
       "DOUBLE VERTICAL|DOWN SINGLE AND RIGHT DOUBLE",
       "DOWN DOUBLE AND RIGHT SINGLE|DOUBLE DOWN AND RIGHT",
       "DOWN SINGLE AND LEFT DOUBLE",
       "DOWN DOUBLE AND LEFT SINGLE|DOUBLE DOWN AND LEFT",
       "UP SINGLE AND RIGHT DOUBLE",
       "UP DOUBLE AND RIGHT SINGLE|DOUBLE UP AND RIGHT",
       "UP SINGLE AND LEFT DOUBLE|UP DOUBLE AND LEFT SINGLE",
       "DOUBLE UP AND LEFT|VERTICAL SINGLE AND RIGHT DOUBLE",
       "VERTICAL DOUBLE AND RIGHT SINGLE",
       "DOUBLE VERTICAL AND RIGHT",
       "VERTICAL SINGLE AND LEFT DOUBLE",
       "VERTICAL DOUBLE AND LEFT SINGLE",
       "DOUBLE VERTICAL AND LEFT",
       "DOWN SINGLE AND HORIZONTAL DOUBLE",
       "DOWN DOUBLE AND HORIZONTAL SINGLE",
       "DOUBLE DOWN AND HORIZONTAL",
       "UP SINGLE AND HORIZONTAL DOUBLE",
       "UP DOUBLE AND HORIZONTAL SINGLE",
       "DOUBLE UP AND HORIZONTAL",
       "VERTICAL SINGLE AND HORIZONTAL DOUBLE",
       "VERTICAL DOUBLE AND HORIZONTAL SINGLE",
       "DOUBLE VERTICAL AND HORIZONTAL",
       "LIGHT ARC DOWN AND RIGHT|LIGHT ARC DOWN AND LEFT",
       "LIGHT ARC UP AND LEFT|LIGHT ARC UP AND RIGHT",
       "LIGHT DIAGONAL UPPER RIGHT TO LOWER LEFT",
       "LIGHT DIAGONAL UPPER LEFT TO LOWER RIGHT",
       "LIGHT DIAGONAL CROSS|LIGHT LEFT|LIGHT UP",
       "LIGHT RIGHT|LIGHT DOWN|HEAVY LEFT|HEAVY UP",
       "HEAVY RIGHT|HEAVY DOWN|LIGHT LEFT AND HEAVY RIGHT",
       "LIGHT UP AND HEAVY DOWN|HEAVY LEFT AND LIGHT RIGHT",
       "HEAVY UP AND LIGHT DOWN"]⟩,
    ⟨0x2580, "",
      ["UPPER HALF BLOCK|LOWER ONE EIGHTH BLOCK",
       "LOWER ONE QUARTER BLOCK|LOWER THREE EIGHTHS BLOCK",
       "LOWER HALF BLOCK|LOWER FIVE EIGHTHS BLOCK",
       "LOWER THREE QUARTERS BLOCK",
       "LOWER SEVEN EIGHTHS BLOCK|FULL BLOCK",
       "LEFT SEVEN EIGHTHS BLOCK|LEFT THREE QUARTERS BLOCK",
       "LEFT FIVE EIGHTHS BLOCK|LEFT HALF BLOCK",
       "LEFT THREE EIGHTHS BLOCK|LEFT ONE QUARTER BLOCK",
       "LEFT ONE EIGHTH BLOCK|RIGHT HALF BLOCK|LIGHT SHADE",
       "MEDIUM SHADE|DARK SHADE|UPPER ONE EIGHTH BLOCK",
       "RIGHT ONE EIGHTH BLOCK|QUADRANT LOWER LEFT",
       "QUADRANT LOWER RIGHT"]⟩,
    ⟨0x2598, "QUADRANT UPPER ",
      ["LEFT|LEFT AND LOWER LEFT AND LOWER RIGHT",
       "LEFT AND LOWER RIGHT",
       "LEFT AND UPPER RIGHT AND LOWER LEFT",
       "LEFT AND UPPER RIGHT AND LOWER RIGHT|RIGHT",
       "RIGHT AND LOWER LEFT",
       "RIGHT AND LOWER LEFT AND LOWER RIGHT"]⟩,
    ⟨0x25A0, "",
      ["BLACK SQUARE|WHITE SQUARE",
       "WHITE SQUARE WITH ROUNDED CORNERS",
       "WHITE SQUARE CONTAINING BLACK SMALL SQUARE"]⟩,
    ⟨0x25A4, "SQUARE WITH ",
      ["HORIZONTAL FILL|VERTICAL FILL",
       "ORTHOGONAL CROSSHATCH FILL",
       "UPPER LEFT TO LOWER RIGHT FILL",
       "UPPER RIGHT TO LOWER LEFT FILL",
       "DIAGONAL CROSSHATCH FILL"]⟩,
    ⟨0x25AA, "",
      ["BLACK SMALL SQUARE|WHITE SMALL SQUARE",
       "BLACK RECTANGLE|WHITE RECTANGLE",
       "BLACK VERTICAL RECTANGLE|WHITE VERTICAL RECTANGLE",
       "BLACK PARALLELOGRAM|WHITE PARALLELOGRAM",
       "BLACK UP-POINTING TRIANGLE",
       "WHITE UP-POINTING TRIANGLE",
       "BLACK UP-POINTING SMALL TRIANGLE",
       "WHITE UP-POINTING SMALL TRIANGLE",
       "BLACK RIGHT-POINTING TRIANGLE",
       "WHITE RIGHT-POINTING TRIANGLE",
       "BLACK RIGHT-POINTING SMALL TRIANGLE",
       "WHITE RIGHT-POINTING SMALL TRIANGLE",
       "BLACK RIGHT-POINTING POINTER",
       "WHITE RIGHT-POINTING POINTER",
       "BLACK DOWN-POINTING TRIANGLE",
       "WHITE DOWN-POINTING TRIANGLE",
       "BLACK DOWN-POINTING SMALL TRIANGLE",
       "WHITE DOWN-POINTING SMALL TRIANGLE",
       "BLACK LEFT-POINTING TRIANGLE",
       "WHITE LEFT-POINTING TRIANGLE",
       "BLACK LEFT-POINTING SMALL TRIANGLE",
       "WHITE LEFT-POINTING SMALL TRIANGLE",
       "BLACK LEFT-POINTING POINTER",
       "WHITE LEFT-POINTING POINTER|BLACK DIAMOND",
       "WHITE DIAMOND",
       "WHITE DIAMOND CONTAINING BLACK SMALL DIAMOND",
       "FISHEYE|LOZENGE|WHITE CIRCLE|DOTTED CIRCLE",
       "CIRCLE WITH VERTICAL FILL|BULLSEYE|BLACK CIRCLE"]⟩,
    ⟨0x25D0, "CIRCLE WITH ",
      ["LEFT HALF BLACK|RIGHT HALF BLACK|LOWER HALF BLACK",
       "UPPER HALF BLACK|UPPER RIGHT QUADRANT BLACK",
       "ALL BUT UPPER LEFT QUADRANT BLACK"]⟩,
    ⟨0x25D6, "",
      ["LEFT HALF BLACK CIRCLE|RIGHT HALF BLACK CIRCLE",
       "INVERSE BULLET|INVERSE WHITE CIRCLE",
       "UPPER HALF INVERSE WHITE CIRCLE",
       "LOWER HALF INVERSE WHITE CIRCLE",
       "UPPER LEFT QUADRANT CIRCULAR ARC",
       "UPPER RIGHT QUADRANT CIRCULAR ARC",
       "LOWER RIGHT QUADRANT CIRCULAR ARC",
       "LOWER LEFT QUADRANT CIRCULAR ARC|UPPER HALF CIRCLE",
       "LOWER HALF CIRCLE|BLACK LOWER RIGHT TRIANGLE",
       "BLACK LOWER LEFT TRIANGLE|BLACK UPPER LEFT TRIANGLE",
       "BLACK UPPER RIGHT TRIANGLE|WHITE BULLET",
       "SQUARE WITH LEFT HALF BLACK",
       "SQUARE WITH RIGHT HALF BLACK",
       "SQUARE WITH UPPER LEFT DIAGONAL HALF BLACK",
       "SQUARE WITH LOWER RIGHT DIAGONAL HALF BLACK",
       "WHITE SQUARE WITH VERTICAL BISECTING LINE",
       "WHITE UP-POINTING TRIANGLE WITH DOT",
       "UP-POINTING TRIANGLE WITH LEFT HALF BLACK",
       "UP-POINTING TRIANGLE WITH RIGHT HALF BLACK",
       "LARGE CIRCLE"]⟩,
    ⟨0x25F0, "WHITE SQUARE WITH ",
      ["UPPER LEFT QUADRANT|LOWER LEFT QUADRANT",
       "LOWER RIGHT QUADRANT|UPPER RIGHT QUADRANT"]⟩,
    ⟨0x25F4, "WHITE CIRCLE WITH ",
      ["UPPER LEFT QUADRANT|LOWER LEFT QUADRANT",
       "LOWER RIGHT QUADRANT|UPPER RIGHT QUADRANT"]⟩,
    ⟨0x25F8, "",
      ["UPPER LEFT TRIANGLE|UPPER RIGHT TRIANGLE",
       "LOWER LEFT TRIANGLE|WHITE MEDIUM SQUARE",
       "BLACK MEDIUM SQUARE|WHITE MEDIUM SMALL SQUARE",
       "BLACK MEDIUM SMALL SQUARE|LOWER RIGHT TRIANGLE",
       "BLACK SUN WITH RAYS|CLOUD|UMBRELLA|SNOWMAN|COMET",
       "BLACK STAR|WHITE STAR|LIGHTNING|THUNDERSTORM|SUN",
       "ASCENDING NODE|DESCENDING NODE|CONJUNCTION",
       "OPPOSITION|BLACK TELEPHONE|WHITE TELEPHONE",
       "BALLOT BOX|BALLOT BOX WITH CHECK|BALLOT BOX WITH X",
       "SALTIRE|UMBRELLA WITH RAIN DROPS|HOT BEVERAGE",
       "WHITE SHOGI PIECE|BLACK SHOGI PIECE|SHAMROCK",
       "REVERSED ROTATED FLORAL HEART BULLET",
       "BLACK LEFT POINTING INDEX",
       "BLACK RIGHT POINTING INDEX",
       "WHITE LEFT POINTING INDEX|WHITE UP POINTING INDEX",
       "WHITE RIGHT POINTING INDEX",
       "WHITE DOWN POINTING INDEX|SKULL AND CROSSBONES",
       "CAUTION SIGN|RADIOACTIVE SIGN|BIOHAZARD SIGN",
       "CADUCEUS|ANKH|ORTHODOX CROSS|CHI RHO",
       "CROSS OF LORRAINE|CROSS OF JERUSALEM",
       "STAR AND CRESCENT|FARSI SYMBOL|ADI SHAKTI",
       "HAMMER AND SICKLE|PEACE SYMBOL|YIN YANG"]⟩,
    ⟨0x2630, "TRIGRAM FOR ",
      ["HEAVEN|LAKE|FIRE|THUNDER|WIND|WATER|MOUNTAIN|EARTH"]⟩,
    ⟨0x2638, "",
      ["WHEEL OF DHARMA|WHITE FROWNING FACE",
       "WHITE SMILING FACE|BLACK SMILING FACE",
       "WHITE SUN WITH RAYS|FIRST QUARTER MOON",
       "LAST QUARTER MOON|MERCURY|FEMALE SIGN|EARTH",
       "MALE SIGN|JUPITER|SATURN|URANUS|NEPTUNE|PLUTO|ARIES",
       "TAURUS|GEMINI|CANCER|LEO|VIRGO|LIBRA|SCORPIUS",
       "SAGITTARIUS|CAPRICORN|AQUARIUS|PISCES"]⟩,
    ⟨0x2654, "WHITE CHESS ",
      ["KING|QUEEN|ROOK|BISHOP|KNIGHT|PAWN"]⟩,
    ⟨0x265A, "BLACK CHESS ",
      ["KING|QUEEN|ROOK|BISHOP|KNIGHT|PAWN"]⟩,
    ⟨0x2660, "",
      ["BLACK SPADE SUIT|WHITE HEART SUIT",
       "WHITE DIAMOND SUIT|BLACK CLUB SUIT|WHITE SPADE SUIT",
       "BLACK HEART SUIT|BLACK DIAMOND SUIT|WHITE CLUB SUIT",
       "HOT SPRINGS|QUARTER NOTE|EIGHTH NOTE",
       "BEAMED EIGHTH NOTES|BEAMED SIXTEENTH NOTES",
       "MUSIC FLAT SIGN|MUSIC NATURAL SIGN|MUSIC SHARP SIGN",
       "WEST SYRIAC CROSS|EAST SYRIAC CROSS",
       "UNIVERSAL RECYCLING SYMBOL"]⟩,
    ⟨0x2673, "RECYCLING SYMBOL FOR TYPE-",
      ["1 PLASTICS|2 PLASTICS|3 PLASTICS|4 PLASTICS",
       "5 PLASTICS|6 PLASTICS|7 PLASTICS"]⟩,
    ⟨0x267A, "",
      ["RECYCLING SYMBOL FOR GENERIC MATERIALS",
       "BLACK UNIVERSAL RECYCLING SYMBOL",
       "RECYCLED PAPER SYMBOL",
       "PARTIALLY-RECYCLED PAPER SYMBOL",
       "PERMANENT PAPER SIGN|WHEELCHAIR SYMBOL|DIE FACE-1",
       "DIE FACE-2|DIE FACE-3|DIE FACE-4|DIE FACE-5",
       "DIE FACE-6|WHITE CIRCLE WITH DOT RIGHT",
       "WHITE CIRCLE WITH TWO DOTS",
       "BLACK CIRCLE WITH WHITE DOT RIGHT",
       "BLACK CIRCLE WITH TWO WHITE DOTS|MONOGRAM FOR YANG",
       "MONOGRAM FOR YIN|DIGRAM FOR GREATER YANG",
       "DIGRAM FOR LESSER YIN|DIGRAM FOR LESSER YANG",
       "DIGRAM FOR GREATER YIN|WHITE FLAG|BLACK FLAG",
       "HAMMER AND PICK|ANCHOR|CROSSED SWORDS",
       "STAFF OF AESCULAPIUS|SCALES|ALEMBIC|FLOWER|GEAR",
       "STAFF OF HERMES|ATOM SYMBOL|FLEUR-DE-LIS",
       "OUTLINED WHITE STAR|THREE LINES CONVERGING RIGHT",
       "THREE LINES CONVERGING LEFT|WARNING SIGN",
       "HIGH VOLTAGE SIGN|DOUBLED FEMALE SIGN",
       "DOUBLED MALE SIGN|INTERLOCKED FEMALE AND MALE SIGN",
       "MALE AND FEMALE SIGN|MALE WITH STROKE SIGN",
       "MALE WITH STROKE AND MALE AND FEMALE SIGN",
       "VERTICAL MALE WITH STROKE SIGN",
       "HORIZONTAL MALE WITH STROKE SIGN",
       "MEDIUM WHITE CIRCLE|MEDIUM BLACK CIRCLE",
       "MEDIUM SMALL WHITE CIRCLE|MARRIAGE SYMBOL",
       "DIVORCE SYMBOL|UNMARRIED PARTNERSHIP SYMBOL|COFFIN",
       "FUNERAL URN|NEUTER|CERES|PALLAS|JUNO|VESTA|CHIRON",
       "BLACK MOON LILITH|SEXTILE|SEMISEXTILE|QUINCUNX",
       "SESQUIQUADRATE|SOCCER BALL|BASEBALL|SQUARED KEY",
       "WHITE DRAUGHTS MAN|WHITE DRAUGHTS KING",
       "BLACK DRAUGHTS MAN|BLACK DRAUGHTS KING",
       "SNOWMAN WITHOUT SNOW|SUN BEHIND CLOUD|RAIN",
       "BLACK SNOWMAN|THUNDER CLOUD AND RAIN",
       "TURNED WHITE SHOGI PIECE|TURNED BLACK SHOGI PIECE",
       "WHITE DIAMOND IN SQUARE|CROSSING LANES|DISABLED CAR",
       "OPHIUCHUS|PICK|CAR SLIDING|HELMET WITH WHITE CROSS",
       "CIRCLED CROSSING LANES|CHAINS|NO ENTRY",
       "ALTERNATE ONE-WAY LEFT WAY TRAFFIC",
       "BLACK TWO-WAY LEFT WAY TRAFFIC",
       "WHITE TWO-WAY LEFT WAY TRAFFIC",
       "BLACK LEFT LANE MERGE|WHITE LEFT LANE MERGE",
       "DRIVE SLOW SIGN|HEAVY WHITE DOWN-POINTING TRIANGLE",
       "LEFT CLOSED ENTRY|SQUARED SALTIRE",
       "FALLING DIAGONAL IN WHITE CIRCLE IN BLACK SQUARE",
       "BLACK TRUCK|RESTRICTED LEFT ENTRY-1",
       "RESTRICTED LEFT ENTRY-2",
       "ASTRONOMICAL SYMBOL FOR URANUS",
       "HEAVY CIRCLE WITH STROKE AND TWO DOTS ABOVE",
       "PENTAGRAM|RIGHT-HANDED INTERLACED PENTAGRAM",
       "LEFT-HANDED INTERLACED PENTAGRAM|INVERTED PENTAGRAM",
       "BLACK CROSS ON SHIELD|SHINTO SHRINE|CHURCH|CASTLE",
       "HISTORIC SITE|GEAR WITHOUT HUB|GEAR WITH HANDLES",
       "MAP SYMBOL FOR LIGHTHOUSE|MOUNTAIN",
       "UMBRELLA ON GROUND|FOUNTAIN|FLAG IN HOLE|FERRY",
       "SAILBOAT|SQUARE FOUR CORNERS|SKIER|ICE SKATE",
       "PERSON WITH BALL|TENT|JAPANESE BANK SYMBOL",
       "HEADSTONE GRAVEYARD SYMBOL|FUEL PUMP",
       "CUP ON BLACK SQUARE",
       "WHITE FLAG WITH HORIZONTAL MIDDLE BLACK STRIPE",
       "BLACK SAFETY SCISSORS|UPPER BLADE SCISSORS",
       "BLACK SCISSORS|LOWER BLADE SCISSORS|WHITE SCISSORS",
       "WHITE HEAVY CHECK MARK|TELEPHONE LOCATION SIGN",
       "TAPE DRIVE|AIRPLANE|ENVELOPE|RAISED FIST",
       "RAISED HAND|VICTORY HAND|WRITING HAND",
       "LOWER RIGHT PENCIL|PENCIL|UPPER RIGHT PENCIL",
       "WHITE NIB|BLACK NIB|CHECK MARK|HEAVY CHECK MARK",
       "MULTIPLICATION X|HEAVY MULTIPLICATION X|BALLOT X",
       "HEAVY BALLOT X|OUTLINED GREEK CROSS",
       "HEAVY GREEK CROSS|OPEN CENTRE CROSS",
       "HEAVY OPEN CENTRE CROSS|LATIN CROSS",
       "SHADOWED WHITE LATIN CROSS|OUTLINED LATIN CROSS",
       "MALTESE CROSS|STAR OF DAVID",
       "FOUR TEARDROP-SPOKED ASTERISK",
       "FOUR BALLOON-SPOKED ASTERISK",
       "HEAVY FOUR BALLOON-SPOKED ASTERISK",
       "FOUR CLUB-SPOKED ASTERISK|BLACK FOUR POINTED STAR",
       "WHITE FOUR POINTED STAR|SPARKLES",
       "STRESS OUTLINED WHITE STAR|CIRCLED WHITE STAR",
       "OPEN CENTRE BLACK STAR|BLACK CENTRE WHITE STAR",
       "OUTLINED BLACK STAR|HEAVY OUTLINED BLACK STAR",
       "PINWHEEL STAR|SHADOWED WHITE STAR|HEAVY ASTERISK",
       "OPEN CENTRE ASTERISK|EIGHT SPOKED ASTERISK",
       "EIGHT POINTED BLACK STAR",
       "EIGHT POINTED PINWHEEL STAR|SIX POINTED BLACK STAR",
       "EIGHT POINTED RECTILINEAR BLACK STAR",
       "HEAVY EIGHT POINTED RECTILINEAR BLACK STAR",
       "TWELVE POINTED BLACK STAR|SIXTEEN POINTED ASTERISK",
       "TEARDROP-SPOKED ASTERISK",
       "OPEN CENTRE TEARDROP-SPOKED ASTERISK",
       "HEAVY TEARDROP-SPOKED ASTERISK",
       "SIX PETALLED BLACK AND WHITE FLORETTE",
       "BLACK FLORETTE|WHITE FLORETTE",
       "EIGHT PETALLED OUTLINED BLACK FLORETTE",
       "CIRCLED OPEN CENTRE EIGHT POINTED STAR",
       "HEAVY TEARDROP-SPOKED PINWHEEL ASTERISK|SNOWFLAKE",
       "TIGHT TRIFOLIATE SNOWFLAKE|HEAVY CHEVRON SNOWFLAKE",
       "SPARKLE|HEAVY SPARKLE|BALLOON-SPOKED ASTERISK",
       "EIGHT TEARDROP-SPOKED PROPELLER ASTERISK",
       "HEAVY EIGHT TEARDROP-SPOKED PROPELLER ASTERISK",
       "CROSS MARK|SHADOWED WHITE CIRCLE",
       "NEGATIVE SQUARED CROSS MARK",
       "LOWER RIGHT DROP-SHADOWED WHITE SQUARE",
       "UPPER RIGHT DROP-SHADOWED WHITE SQUARE",
       "LOWER RIGHT SHADOWED WHITE SQUARE",
       "UPPER RIGHT SHADOWED WHITE SQUARE",
       "BLACK QUESTION MARK ORNAMENT",
       "WHITE QUESTION MARK ORNAMENT",
       "WHITE EXCLAMATION MARK ORNAMENT",
       "BLACK DIAMOND MINUS WHITE X",
       "HEAVY EXCLAMATION MARK SYMBOL|LIGHT VERTICAL BAR",
       "MEDIUM VERTICAL BAR|HEAVY VERTICAL BAR",
       "HEAVY SINGLE TURNED COMMA QUOTATION MARK ORNAMENT",
       "HEAVY SINGLE COMMA QUOTATION MARK ORNAMENT",
       "HEAVY DOUBLE TURNED COMMA QUOTATION MARK ORNAMENT",
       "HEAVY DOUBLE COMMA QUOTATION MARK ORNAMENT",
       "HEAVY LOW SINGLE COMMA QUOTATION MARK ORNAMENT",
       "HEAVY LOW DOUBLE COMMA QUOTATION MARK ORNAMENT",
       "CURVED STEM PARAGRAPH SIGN ORNAMENT",
       "HEAVY EXCLAMATION MARK ORNAMENT",
       "HEAVY HEART EXCLAMATION MARK ORNAMENT",
       "HEAVY BLACK HEART|ROTATED HEAVY BLACK HEART BULLET",
       "FLORAL HEART|ROTATED FLORAL HEART BULLET",
       "MEDIUM LEFT PARENTHESIS ORNAMENT",
       "MEDIUM RIGHT PARENTHESIS ORNAMENT",
       "MEDIUM FLATTENED LEFT PARENTHESIS ORNAMENT",
       "MEDIUM FLATTENED RIGHT PARENTHESIS ORNAMENT",
       "MEDIUM LEFT-POINTING ANGLE BRACKET ORNAMENT",
       "MEDIUM RIGHT-POINTING ANGLE BRACKET ORNAMENT",
       "HEAVY LEFT-POINTING ANGLE QUOTATION MARK ORNAMENT",
       "HEAVY RIGHT-POINTING ANGLE QUOTATION MARK ORNAMENT",
       "HEAVY LEFT-POINTING ANGLE BRACKET ORNAMENT",
       "HEAVY RIGHT-POINTING ANGLE BRACKET ORNAMENT",
       "LIGHT LEFT TORTOISE SHELL BRACKET ORNAMENT",
       "LIGHT RIGHT TORTOISE SHELL BRACKET ORNAMENT",
       "MEDIUM LEFT CURLY BRACKET ORNAMENT",
       "MEDIUM RIGHT CURLY BRACKET ORNAMENT"]⟩,
    ⟨0x2776, "DINGBAT NEGATIVE CIRCLED ",
      ["DIGIT ONE|DIGIT TWO|DIGIT THREE|DIGIT FOUR",
       "DIGIT FIVE|DIGIT SIX|DIGIT SEVEN|DIGIT EIGHT",
       "DIGIT NINE|NUMBER TEN"]⟩,
    ⟨0x2780, "DINGBAT CIRCLED SANS-SERIF ",
      ["DIGIT ONE|DIGIT TWO|DIGIT THREE|DIGIT FOUR",
       "DIGIT FIVE|DIGIT SIX|DIGIT SEVEN|DIGIT EIGHT",
       "DIGIT NINE|NUMBER TEN"]⟩,
    ⟨0x278A, "DINGBAT NEGATIVE CIRCLED SANS-SERIF ",
      ["DIGIT ONE|DIGIT TWO|DIGIT THREE|DIGIT FOUR",
       "DIGIT FIVE|DIGIT SIX|DIGIT SEVEN|DIGIT EIGHT",
       "DIGIT NINE|NUMBER TEN"]⟩,
    ⟨0x2794, "HEAVY ",
      ["WIDE-HEADED RIGHTWARDS ARROW|PLUS SIGN|MINUS SIGN",
       "DIVISION SIGN|SOUTH EAST ARROW|RIGHTWARDS ARROW",
       "NORTH EAST ARROW"]⟩,
    ⟨0x279B, "",
      ["DRAFTING POINT RIGHTWARDS ARROW",
       "HEAVY ROUND-TIPPED RIGHTWARDS ARROW",
       "TRIANGLE-HEADED RIGHTWARDS ARROW",
       "HEAVY TRIANGLE-HEADED RIGHTWARDS ARROW",
       "DASHED TRIANGLE-HEADED RIGHTWARDS ARROW",
       "HEAVY DASHED TRIANGLE-HEADED RIGHTWARDS ARROW",
       "BLACK RIGHTWARDS ARROW",
       "THREE-D TOP-LIGHTED RIGHTWARDS ARROWHEAD",
       "THREE-D BOTTOM-LIGHTED RIGHTWARDS ARROWHEAD",
       "BLACK RIGHTWARDS ARROWHEAD",
       "HEAVY BLACK CURVED DOWNWARDS AND RIGHTWARDS ARROW",
       "HEAVY BLACK CURVED UPWARDS AND RIGHTWARDS ARROW",
       "SQUAT BLACK RIGHTWARDS ARROW",
       "HEAVY CONCAVE-POINTED BLACK RIGHTWARDS ARROW",
       "RIGHT-SHADED WHITE RIGHTWARDS ARROW",
       "LEFT-SHADED WHITE RIGHTWARDS ARROW",
       "BACK-TILTED SHADOWED WHITE RIGHTWARDS ARROW",
       "FRONT-TILTED SHADOWED WHITE RIGHTWARDS ARROW",
       "HEAVY LOWER RIGHT-SHADOWED WHITE RIGHTWARDS ARROW",
       "HEAVY UPPER RIGHT-SHADOWED WHITE RIGHTWARDS ARROW",
       "NOTCHED LOWER RIGHT-SHADOWED WHITE RIGHTWARDS ARROW",
       "CURLY LOOP",
       "NOTCHED UPPER RIGHT-SHADOWED WHITE RIGHTWARDS ARROW",
       "CIRCLED HEAVY WHITE RIGHTWARDS ARROW",
       "WHITE-FEATHERED RIGHTWARDS ARROW"]⟩,
    ⟨0x27B4, "BLACK-FEATHERED ",
      ["SOUTH EAST ARROW|RIGHTWARDS ARROW|NORTH EAST ARROW"]⟩,
    ⟨0x27B7, "HEAVY BLACK-FEATHERED ",
      ["SOUTH EAST ARROW|RIGHTWARDS ARROW|NORTH EAST ARROW"]⟩,
    ⟨0x27BA, "",
      ["TEARDROP-BARBED RIGHTWARDS ARROW",
       "HEAVY TEARDROP-SHANKED RIGHTWARDS ARROW",
       "WEDGE-TAILED RIGHTWARDS ARROW",
       "HEAVY WEDGE-TAILED RIGHTWARDS ARROW",
       "OPEN-OUTLINED RIGHTWARDS ARROW|DOUBLE CURLY LOOP"]⟩]

end Text

end Replay
