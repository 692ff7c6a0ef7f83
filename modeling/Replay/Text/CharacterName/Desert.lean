import Replay.Text.CharacterName.Run

/-
  This file defines the names of ancient scripts of the Near
  East and of Central Asia, after Unicode 14.

  Key definitions include:
    * `desertNames`
-/

------------------------------------------------------------
-- Tables
------------------------------------------------------------

namespace Replay

namespace Text

/- Names of ancient letters of the Near East. -/
def desertNames : List NameRun :=
  [
    ⟨0x10800, "CYPRIOT SYLLABLE ", ["A|E|I|O|U|JA"]⟩,
    ⟨0x10808, "CYPRIOT SYLLABLE ", ["JO"]⟩,
    ⟨0x1080A, "CYPRIOT SYLLABLE ",
      ["KA|KE|KI|KO|KU|LA|LE|LI|LO|LU|MA|ME|MI|MO|MU|NA|NE",
       "NI|NO|NU|PA|PE|PI|PO|PU|RA|RE|RI|RO|RU|SA|SE|SI|SO",
       "SU|TA|TE|TI|TO|TU|WA|WE|WI|WO"]⟩,
    ⟨0x10837, "CYPRIOT SYLLABLE ", ["XA|XE"]⟩,
    ⟨0x1083C, "CYPRIOT SYLLABLE ", ["ZA"]⟩,
    ⟨0x1083F, "CYPRIOT SYLLABLE ", ["ZO"]⟩,
    ⟨0x10840, "IMPERIAL ARAMAIC LETTER ",
      ["ALEPH|BETH|GIMEL|DALETH|HE|WAW|ZAYIN|HETH|TETH|YODH",
       "KAPH|LAMEDH|MEM|NUN|SAMEKH|AYIN|PE|SADHE|QOPH|RESH",
       "SHIN|TAW"]⟩,
    ⟨0x10857, "IMPERIAL ARAMAIC SECTION ", ["SIGN"]⟩,
    ⟨0x10858, "IMPERIAL ARAMAIC NUMBER ",
      ["ONE|TWO|THREE|TEN|TWENTY|ONE HUNDRED|ONE THOUSAND",
       "TEN THOUSAND"]⟩,
    ⟨0x10860, "PALMYRENE LETTER ",
      ["ALEPH|BETH|GIMEL|DALETH|HE|WAW|ZAYIN|HETH|TETH|YODH",
       "KAPH|LAMEDH|MEM|FINAL NUN|NUN|SAMEKH|AYIN|PE|SADHE",
       "QOPH|RESH|SHIN|TAW"]⟩,
    ⟨0x10877, "PALMYRENE ",
      ["LEFT-POINTING FLEURON|RIGHT-POINTING FLEURON"]⟩,
    ⟨0x10879, "PALMYRENE NUMBER ",
      ["ONE|TWO|THREE|FOUR|FIVE|TEN|TWENTY"]⟩,
    ⟨0x10880, "NABATAEAN LETTER ",
      ["FINAL ALEPH|ALEPH|FINAL BETH|BETH|GIMEL|DALETH",
       "FINAL HE|HE|WAW|ZAYIN|HETH|TETH|FINAL YODH|YODH",
       "FINAL KAPH|KAPH|FINAL LAMEDH|LAMEDH|FINAL MEM|MEM",
       "FINAL NUN|NUN|SAMEKH|AYIN|PE|SADHE|QOPH|RESH",
       "FINAL SHIN|SHIN|TAW"]⟩,
    ⟨0x108A7, "NABATAEAN ",
      ["NUMBER ONE|NUMBER TWO|NUMBER THREE|NUMBER FOUR",
       "CRUCIFORM NUMBER FOUR|NUMBER FIVE|NUMBER TEN",
       "NUMBER TWENTY|NUMBER ONE HUNDRED"]⟩,
    ⟨0x108E0, "HATRAN LETTER ",
      ["ALEPH|BETH|GIMEL|DALETH-RESH|HE|WAW|ZAYN|HETH|TETH",
       "YODH|KAPH|LAMEDH|MEM|NUN|SAMEKH|AYN|PE|SADHE|QOPH"]⟩,
    ⟨0x108F4, "HATRAN LETTER ", ["SHIN|TAW"]⟩,
    ⟨0x108FB, "HATRAN NUMBER ",
      ["ONE|FIVE|TEN|TWENTY|ONE HUNDRED"]⟩,
    ⟨0x10900, "PHOENICIAN LETTER ",
      ["ALF|BET|GAML|DELT|HE|WAU|ZAI|HET|TET|YOD|KAF|LAMD",
       "MEM|NUN|SEMK|AIN|PE|SADE|QOF|ROSH|SHIN|TAU"]⟩,
    ⟨0x10916, "PHOENICIAN NUMBER ",
      ["ONE|TEN|TWENTY|ONE HUNDRED|TWO|THREE"]⟩,
    ⟨0x1091F, "PHOENICIAN WORD ", ["SEPARATOR"]⟩,
    ⟨0x10920, "LYDIAN LETTER ",
      ["A|B|G|D|E|V|I|Y|K|L|M|N|O|R|SS|T|U|F|Q|S|TT|AN|EN",
       "LY|NN|C"]⟩,
    ⟨0x1093F, "LYDIAN TRIANGULAR ", ["MARK"]⟩,
    ⟨0x10980, "MEROITIC HIEROGLYPHIC LETTER ",
      ["A|E|I|O|YA|WA|BA|BA-2|PA|MA|NA|NA-2|NE|NE-2|RA|RA-2",
       "LA|KHA|HHA|SA|SA-2|SE|KA|QA|TA|TA-2|TE|TE-2|TO|DA"]⟩,
    ⟨0x1099E, "MEROITIC HIEROGLYPHIC SYMBOL ",
      ["VIDJ|VIDJ-2"]⟩,
    ⟨0x109A0, "MEROITIC CURSIVE LETTER ",
      ["A|E|I|O|YA|WA|BA|PA|MA|NA|NE|RA|LA|KHA|HHA|SA",
       "ARCHAIC SA|SE|KA|QA|TA|TE|TO|DA"]⟩,
    ⟨0x109BC, "MEROITIC CURSIVE ",
      ["FRACTION ELEVEN TWELFTHS|FRACTION ONE HALF",
       "LOGOGRAM RMT|LOGOGRAM IMN"]⟩,
    ⟨0x109C0, "MEROITIC CURSIVE NUMBER ",
      ["ONE|TWO|THREE|FOUR|FIVE|SIX|SEVEN|EIGHT|NINE|TEN",
       "TWENTY|THIRTY|FORTY|FIFTY|SIXTY|SEVENTY"]⟩,
    ⟨0x109D2, "MEROITIC CURSIVE NUMBER ",
      ["ONE HUNDRED|TWO HUNDRED|THREE HUNDRED|FOUR HUNDRED",
       "FIVE HUNDRED|SIX HUNDRED|SEVEN HUNDRED",
       "EIGHT HUNDRED|NINE HUNDRED|ONE THOUSAND",
       "TWO THOUSAND|THREE THOUSAND|FOUR THOUSAND",
       "FIVE THOUSAND|SIX THOUSAND|SEVEN THOUSAND",
       "EIGHT THOUSAND|NINE THOUSAND|TEN THOUSAND",
       "TWENTY THOUSAND|THIRTY THOUSAND|FORTY THOUSAND",
       "FIFTY THOUSAND|SIXTY THOUSAND|SEVENTY THOUSAND",
       "EIGHTY THOUSAND|NINETY THOUSAND",
       "ONE HUNDRED THOUSAND|TWO HUNDRED THOUSAND",
       "THREE HUNDRED THOUSAND|FOUR HUNDRED THOUSAND",
       "FIVE HUNDRED THOUSAND|SIX HUNDRED THOUSAND",
       "SEVEN HUNDRED THOUSAND|EIGHT HUNDRED THOUSAND",
       "NINE HUNDRED THOUSAND"]⟩,
    ⟨0x109F6, "MEROITIC CURSIVE FRACTION ",
      ["ONE TWELFTH|TWO TWELFTHS|THREE TWELFTHS",
       "FOUR TWELFTHS|FIVE TWELFTHS|SIX TWELFTHS",
       "SEVEN TWELFTHS|EIGHT TWELFTHS|NINE TWELFTHS",
       "TEN TWELFTHS"]⟩,
    ⟨0x10A00, "KHAROSHTHI ",
      ["LETTER A|VOWEL SIGN I|VOWEL SIGN U",
       "VOWEL SIGN VOCALIC R"]⟩,
    ⟨0x10A05, "KHAROSHTHI VOWEL SIGN ", ["E|O"]⟩,
    ⟨0x10A0C, "KHAROSHTHI ",
      ["VOWEL LENGTH MARK|SIGN DOUBLE RING BELOW",
       "SIGN ANUSVARA|SIGN VISARGA|LETTER KA|LETTER KHA",
       "LETTER GA|LETTER GHA"]⟩,
    ⟨0x10A15, "KHAROSHTHI LETTER ", ["CA|CHA|JA"]⟩,
    ⟨0x10A19, "KHAROSHTHI LETTER ",
      ["NYA|TTA|TTHA|DDA|DDHA|NNA|TA|THA|DA|DHA|NA|PA|PHA",
       "BA|BHA|MA|YA|RA|LA|VA|SHA|SSA|SA|ZA|HA|KKA|TTTHA",
       "TTTA|VHA"]⟩,
    ⟨0x10A38, "KHAROSHTHI SIGN ",
      ["BAR ABOVE|CAUDA|DOT BELOW"]⟩,
    ⟨0x10A3F, "KHAROSHTHI ",
      ["VIRAMA|DIGIT ONE|DIGIT TWO|DIGIT THREE|DIGIT FOUR",
       "NUMBER TEN|NUMBER TWENTY|NUMBER ONE HUNDRED",
       "NUMBER ONE THOUSAND|FRACTION ONE HALF"]⟩,
    ⟨0x10A50, "KHAROSHTHI PUNCTUATION ",
      ["DOT|SMALL CIRCLE|CIRCLE|CRESCENT BAR|MANGALAM|LOTUS",
       "DANDA|DOUBLE DANDA|LINES"]⟩,
    ⟨0x10A60, "OLD SOUTH ARABIAN LETTER ",
      ["HE|LAMEDH|HETH|MEM|QOPH|WAW|SHIN|RESH|BETH|TAW|SAT",
       "KAPH|NUN|KHETH|SADHE|SAMEKH|FE|ALEF|AYN|DHADHE",
       "GIMEL|DALETH|GHAYN|TETH|ZAYN|DHALETH|YODH|THAW",
       "THETH"]⟩,
    ⟨0x10A7D, "OLD SOUTH ARABIAN ",
      ["NUMBER ONE|NUMBER FIFTY|NUMERIC INDICATOR"]⟩,
    ⟨0x10A80, "OLD NORTH ARABIAN LETTER ",
      ["HEH|LAM|HAH|MEEM|QAF|WAW|ES-2|REH|BEH|TEH|ES-1|KAF",
       "NOON|KHAH|SAD|ES-3|FEH|ALEF|AIN|DAD|GEEM|DAL|GHAIN",
       "TAH|ZAIN|THAL|YEH|THEH|ZAH"]⟩,
    ⟨0x10A9D, "OLD NORTH ARABIAN NUMBER ",
      ["ONE|TEN|TWENTY"]⟩,
    ⟨0x10AC0, "MANICHAEAN LETTER ",
      ["ALEPH|BETH|BHETH|GIMEL|GHIMEL|DALETH|HE|WAW"]⟩,
    ⟨0x10AC8, "MANICHAEAN SIGN ", ["UD"]⟩,
    ⟨0x10AC9, "MANICHAEAN LETTER ",
      ["ZAYIN|ZHAYIN|JAYIN|JHAYIN|HETH|TETH|YODH|KAPH|XAPH",
       "KHAPH|LAMEDH|DHAMEDH|THAMEDH|MEM|NUN|SAMEKH|AYIN",
       "AAYIN|PE|FE|SADHE|QOPH|XOPH|QHOPH|RESH|SHIN|SSHIN",
       "TAW"]⟩,
    ⟨0x10AE5, "MANICHAEAN ABBREVIATION MARK ",
      ["ABOVE|BELOW"]⟩,
    ⟨0x10AEB, "MANICHAEAN NUMBER ",
      ["ONE|FIVE|TEN|TWENTY|ONE HUNDRED"]⟩,
    ⟨0x10AF0, "MANICHAEAN PUNCTUATION ",
      ["STAR|FLEURON|DOUBLE DOT WITHIN DOT|DOT WITHIN DOT",
       "DOT|TWO DOTS|LINE FILLER"]⟩,
    ⟨0x10B00, "AVESTAN LETTER ",
      ["A|AA|AO|AAO|AN|AAN|AE|AEE|E|EE|O|OO|I|II|U|UU|KE|XE",
       "XYE|XVE|GE|GGE|GHE|CE|JE|TE|THE|DE|DHE|TTE|PE|FE|BE",
       "BHE|NGE|NGYE|NGVE|NE|NYE|NNE|ME|HME|YYE|YE|VE|RE|LE",
       "SE|ZE|SHE|ZHE|SHYE|SSHE|HE"]⟩,
    ⟨0x10B39, "",
      ["AVESTAN ABBREVIATION MARK",
       "TINY TWO DOTS OVER ONE DOT PUNCTUATION",
       "SMALL TWO DOTS OVER ONE DOT PUNCTUATION",
       "LARGE TWO DOTS OVER ONE DOT PUNCTUATION",
       "LARGE ONE DOT OVER TWO DOTS PUNCTUATION",
       "LARGE TWO RINGS OVER ONE RING PUNCTUATION",
       "LARGE ONE RING OVER TWO RINGS PUNCTUATION"]⟩,
    ⟨0x10B40, "INSCRIPTIONAL PARTHIAN LETTER ",
      ["ALEPH|BETH|GIMEL|DALETH|HE|WAW|ZAYIN|HETH|TETH|YODH",
       "KAPH|LAMEDH|MEM|NUN|SAMEKH|AYIN|PE|SADHE|QOPH|RESH",
       "SHIN|TAW"]⟩,
    ⟨0x10B58, "INSCRIPTIONAL PARTHIAN NUMBER ",
      ["ONE|TWO|THREE|FOUR|TEN|TWENTY|ONE HUNDRED",
       "ONE THOUSAND"]⟩,
    ⟨0x10B60, "INSCRIPTIONAL PAHLAVI LETTER ",
      ["ALEPH|BETH|GIMEL|DALETH|HE|WAW-AYIN-RESH|ZAYIN|HETH",
       "TETH|YODH|KAPH|LAMEDH|MEM-QOPH|NUN|SAMEKH|PE|SADHE",
       "SHIN|TAW"]⟩,
    ⟨0x10B78, "INSCRIPTIONAL PAHLAVI NUMBER ",
      ["ONE|TWO|THREE|FOUR|TEN|TWENTY|ONE HUNDRED",
       "ONE THOUSAND"]⟩,
    ⟨0x10B80, "PSALTER PAHLAVI LETTER ",
      ["ALEPH|BETH|GIMEL|DALETH|HE|WAW-AYIN-RESH|ZAYIN|HETH",
       "YODH|KAPH|LAMEDH|MEM-QOPH|NUN|SAMEKH|PE|SADHE|SHIN",
       "TAW"]⟩,
    ⟨0x10B99, "PSALTER PAHLAVI ",
      ["SECTION MARK|TURNED SECTION MARK",
       "FOUR DOTS WITH CROSS|FOUR DOTS WITH DOT"]⟩,
    ⟨0x10BA9, "PSALTER PAHLAVI NUMBER ",
      ["ONE|TWO|THREE|FOUR|TEN|TWENTY|ONE HUNDRED"]⟩,
    ⟨0x10C00, "OLD TURKIC LETTER ",
      ["ORKHON A|YENISEI A|YENISEI AE|ORKHON I|YENISEI I",
       "YENISEI E|ORKHON O|ORKHON OE|YENISEI OE|ORKHON AB",
       "YENISEI AB|ORKHON AEB|YENISEI AEB|ORKHON AG",
       "YENISEI AG|ORKHON AEG|YENISEI AEG|ORKHON AD",
       "YENISEI AD|ORKHON AED|ORKHON EZ|YENISEI EZ",
       "ORKHON AY|YENISEI AY|ORKHON AEY|YENISEI AEY",
       "ORKHON AEK|YENISEI AEK|ORKHON OEK|YENISEI OEK",
       "ORKHON AL|YENISEI AL|ORKHON AEL|ORKHON ELT",
       "ORKHON EM|ORKHON AN|ORKHON AEN|YENISEI AEN",
       "ORKHON ENT|YENISEI ENT|ORKHON ENC|YENISEI ENC",
       "ORKHON ENY|YENISEI ENY|YENISEI ANG|ORKHON ENG",
       "YENISEI AENG|ORKHON EP|ORKHON OP|ORKHON IC",
       "ORKHON EC|YENISEI EC|ORKHON AQ|YENISEI AQ|ORKHON IQ",
       "YENISEI IQ|ORKHON OQ|YENISEI OQ|ORKHON AR",
       "YENISEI AR|ORKHON AER|ORKHON AS|ORKHON AES",
       "ORKHON ASH|YENISEI ASH|ORKHON ESH|YENISEI ESH",
       "ORKHON AT|YENISEI AT|ORKHON AET|YENISEI AET",
       "ORKHON OT|ORKHON BASH"]⟩,
    ⟨0x10C80, "OLD HUNGARIAN CAPITAL LETTER ",
      ["A|AA|EB|AMB|EC|ENC|ECS|ED|AND|E|CLOSE E|EE|EF|EG",
       "EGY|EH|I|II|EJ|EK|AK|UNK|EL|ELY|EM|EN|ENY|O|OO",
       "NIKOLSBURG OE|RUDIMENTA OE|OEE|EP|EMP|ER|SHORT ER",
       "ES|ESZ|ET|ENT|ETY|ECH|U|UU|NIKOLSBURG UE",
       "RUDIMENTA UE|EV|EZ|EZS|ENT-SHAPED SIGN|US"]⟩,
    ⟨0x10CC0, "OLD HUNGARIAN SMALL LETTER ",
      ["A|AA|EB|AMB|EC|ENC|ECS|ED|AND|E|CLOSE E|EE|EF|EG",
       "EGY|EH|I|II|EJ|EK|AK|UNK|EL|ELY|EM|EN|ENY|O|OO",
       "NIKOLSBURG OE|RUDIMENTA OE|OEE|EP|EMP|ER|SHORT ER",
       "ES|ESZ|ET|ENT|ETY|ECH|U|UU|NIKOLSBURG UE",
       "RUDIMENTA UE|EV|EZ|EZS|ENT-SHAPED SIGN|US"]⟩,
    ⟨0x10CFA, "OLD HUNGARIAN NUMBER ",
      ["ONE|FIVE|TEN|FIFTY|ONE HUNDRED|ONE THOUSAND"]⟩,
    ⟨0x10D00, "HANIFI ROHINGYA LETTER ",
      ["A|BA|PA|TA|TTA|JA|CA|HA|KHA|FA|DA|DDA|RA|RRA|ZA|SA",
       "SHA|KA|GA|LA|MA|NA|WA|KINNA WA|YA|KINNA YA|NGA|NYA",
       "VA"]⟩,
    ⟨0x10D1D, "HANIFI ROHINGYA ",
      ["VOWEL A|VOWEL I|VOWEL U|VOWEL E|VOWEL O|MARK SAKIN",
       "MARK NA KHONNA|SIGN HARBAHAY|SIGN TAHALA|SIGN TANA",
       "SIGN TASSI"]⟩,
    ⟨0x10D30, "HANIFI ROHINGYA DIGIT ",
      ["ZERO|ONE|TWO|THREE|FOUR|FIVE|SIX|SEVEN|EIGHT|NINE"]⟩,
    ⟨0x10E60, "RUMI DIGIT ",
      ["ONE|TWO|THREE|FOUR|FIVE|SIX|SEVEN|EIGHT|NINE"]⟩,
    ⟨0x10E69, "RUMI NUMBER ",
      ["TEN|TWENTY|THIRTY|FORTY|FIFTY|SIXTY|SEVENTY|EIGHTY",
       "NINETY|ONE HUNDRED|TWO HUNDRED|THREE HUNDRED",
       "FOUR HUNDRED|FIVE HUNDRED|SIX HUNDRED|SEVEN HUNDRED",
       "EIGHT HUNDRED|NINE HUNDRED"]⟩,
    ⟨0x10E7B, "RUMI FRACTION ",
      ["ONE HALF|ONE QUARTER|ONE THIRD|TWO THIRDS"]⟩,
    ⟨0x10E80, "YEZIDI LETTER ",
      ["ELIF|BE|PE|PHE|THE|SE|CIM|CHIM|CHHIM|HHA|XA|DAL|ZAL",
       "RA|RHA|ZA|JA|SIN|SHIN|SAD|DAD|TA|ZE|EYN|XHEYN|FA|VA",
       "VA ALTERNATE FORM|QAF|KAF|KHAF|GAF|LAM|MIM|NUN|UM",
       "WAW|OW|EW|HAY|YOT|ET"]⟩,
    ⟨0x10EAB, "YEZIDI ",
      ["COMBINING HAMZA MARK|COMBINING MADDA MARK",
       "HYPHENATION MARK"]⟩,
    ⟨0x10EB0, "YEZIDI LETTER ",
      ["LAM WITH DOT ABOVE|YOT WITH CIRCUMFLEX ABOVE"]⟩,
    ⟨0x10F00, "OLD SOGDIAN LETTER ",
      ["ALEPH|FINAL ALEPH|BETH|FINAL BETH|GIMEL|HE|FINAL HE",
       "WAW|ZAYIN|HETH|YODH|KAPH|LAMEDH|MEM|NUN|FINAL NUN",
       "FINAL NUN WITH VERTICAL TAIL|SAMEKH|AYIN",
       "ALTERNATE AYIN|PE|SADHE|FINAL SADHE",
       "FINAL SADHE WITH VERTICAL TAIL|RESH-AYIN-DALETH",
       "SHIN|TAW|FINAL TAW|FINAL TAW WITH VERTICAL TAIL"]⟩,
    ⟨0x10F1D, "OLD SOGDIAN NUMBER ",
      ["ONE|TWO|THREE|FOUR|FIVE|TEN|TWENTY|THIRTY",
       "ONE HUNDRED"]⟩,
    ⟨0x10F26, "OLD SOGDIAN ",
      ["FRACTION ONE HALF|LIGATURE AYIN-DALETH"]⟩,
    ⟨0x10F30, "SOGDIAN LETTER ",
      ["ALEPH|BETH|GIMEL|HE|WAW|ZAYIN|HETH|YODH|KAPH|LAMEDH",
       "MEM|NUN|SAMEKH|AYIN|PE|SADHE|RESH-AYIN|SHIN|TAW",
       "FETH|LESH"]⟩,
    ⟨0x10F45, "SOGDIAN INDEPENDENT ", ["SHIN"]⟩,
    ⟨0x10F46, "SOGDIAN COMBINING ",
      ["DOT BELOW|TWO DOTS BELOW|DOT ABOVE|TWO DOTS ABOVE",
       "CURVE ABOVE|CURVE BELOW|HOOK ABOVE|HOOK BELOW",
       "LONG HOOK BELOW|RESH BELOW|STROKE BELOW"]⟩,
    ⟨0x10F51, "SOGDIAN NUMBER ",
      ["ONE|TEN|TWENTY|ONE HUNDRED"]⟩,
    ⟨0x10F55, "SOGDIAN PUNCTUATION ",
      ["TWO VERTICAL BARS|TWO VERTICAL BARS WITH DOTS",
       "CIRCLE WITH DOT|TWO CIRCLES WITH DOTS",
       "HALF CIRCLE WITH DOT"]⟩,
    ⟨0x10F70, "OLD UYGHUR LETTER ",
      ["ALEPH|BETH|GIMEL-HETH|WAW|ZAYIN|FINAL HETH|YODH",
       "KAPH|LAMEDH|MEM|NUN|SAMEKH|PE|SADHE|RESH|SHIN|TAW",
       "LESH"]⟩,
    ⟨0x10F82, "OLD UYGHUR COMBINING ",
      ["DOT ABOVE|DOT BELOW|TWO DOTS ABOVE|TWO DOTS BELOW"]⟩,
    ⟨0x10F86, "OLD UYGHUR PUNCTUATION ",
      ["BAR|TWO BARS|TWO DOTS|FOUR DOTS"]⟩,
    ⟨0x10FB0, "CHORASMIAN LETTER ",
      ["ALEPH|SMALL ALEPH|BETH|GIMEL|DALETH|HE|WAW",
       "CURLED WAW|ZAYIN|HETH|YODH|KAPH|LAMEDH|MEM|NUN",
       "SAMEKH|AYIN|PE|RESH|SHIN|TAW"]⟩,
    ⟨0x10FC5, "CHORASMIAN NUMBER ",
      ["ONE|TWO|THREE|FOUR|TEN|TWENTY|ONE HUNDRED"]⟩,
    ⟨0x10FE0, "ELYMAIC LETTER ",
      ["ALEPH|BETH|GIMEL|DALETH|HE|WAW|ZAYIN|HETH|TETH|YODH",
       "KAPH|LAMEDH|MEM|NUN|SAMEKH|AYIN|PE|SADHE|QOPH|RESH",
       "SHIN|TAW"]⟩,
    ⟨0x10FF6, "ELYMAIC LIGATURE ZAYIN-", ["YODH"]⟩]

end Text

end Replay
