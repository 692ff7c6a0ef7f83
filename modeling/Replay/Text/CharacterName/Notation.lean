import Replay.Text.CharacterName.Run

/-
  This file defines the names of notations of music and
  numbers, after Unicode 14.

  Key definitions include:
    * `notationNames`
-/

------------------------------------------------------------
-- Tables
------------------------------------------------------------

namespace Replay

namespace Text

/- Names of notations. -/
def notationNames : List NameRun :=
  [
    ⟨0x1D000, "BYZANTINE MUSICAL SYMBOL ",
      ["PSILI|DASEIA|PERISPOMENI|OXEIA EKFONITIKON",
       "OXEIA DIPLI|VAREIA EKFONITIKON|VAREIA DIPLI",
       "KATHISTI|SYRMATIKI|PARAKLITIKI|YPOKRISIS",
       "YPOKRISIS DIPLI|KREMASTI|APESO EKFONITIKON",
       "EXO EKFONITIKON|TELEIA|KENTIMATA|APOSTROFOS",
       "APOSTROFOS DIPLI|SYNEVMA|THITA|OLIGON ARCHAION",
       "GORGON ARCHAION|PSILON|CHAMILON|VATHY|ISON ARCHAION",
       "KENTIMA ARCHAION|KENTIMATA ARCHAION|SAXIMATA",
       "PARICHON|STAVROS APODEXIA|OXEIAI ARCHAION",
       "VAREIAI ARCHAION|APODERMA ARCHAION|APOTHEMA|KLASMA",
       "REVMA|PIASMA ARCHAION|TINAGMA|ANATRICHISMA|SEISMA",
       "SYNAGMA ARCHAION|SYNAGMA META STAVROU",
       "OYRANISMA ARCHAION|THEMA|LEMOI|DYO|TRIA|TESSERA",
       "KRATIMATA|APESO EXO NEO|FTHORA ARCHAION|IMIFTHORA",
       "TROMIKON ARCHAION|KATAVA TROMIKON|PELASTON",
       "PSIFISTON|KONTEVMA|CHOREVMA ARCHAION|RAPISMA",
       "PARAKALESMA ARCHAION|PARAKLITIKI ARCHAION|ICHADIN",
       "NANA|PETASMA|KONTEVMA ALLO|TROMIKON ALLO",
       "STRAGGISMATA|GRONTHISMATA|ISON NEO|OLIGON NEO",
       "OXEIA NEO|PETASTI|KOUFISMA|PETASTOKOUFISMA",
       "KRATIMOKOUFISMA|PELASTON NEO|KENTIMATA NEO ANO",
       "KENTIMA NEO ANO|YPSILI|APOSTROFOS NEO",
       "APOSTROFOI SYNDESMOS NEO|YPORROI|KRATIMOYPORROON",
       "ELAFRON|CHAMILI|MIKRON ISON|VAREIA NEO|PIASMA NEO",
       "PSIFISTON NEO|OMALON|ANTIKENOMA|LYGISMA",
       "PARAKLITIKI NEO|PARAKALESMA NEO|ETERON PARAKALESMA",
       "KYLISMA|ANTIKENOKYLISMA|TROMIKON NEO|EKSTREPTON",
       "SYNAGMA NEO|SYRMA|CHOREVMA NEO|EPEGERMA|SEISMA NEO",
       "XIRON KLASMA|TROMIKOPSIFISTON|PSIFISTOLYGISMA",
       "TROMIKOLYGISMA|TROMIKOPARAKALESMA",
       "PSIFISTOPARAKALESMA|TROMIKOSYNAGMA|PSIFISTOSYNAGMA",
       "GORGOSYNTHETON|ARGOSYNTHETON|ETERON ARGOSYNTHETON",
       "OYRANISMA NEO|THEMATISMOS ESO|THEMATISMOS EXO",
       "THEMA APLOUN|THES KAI APOTHES|KATAVASMA|ENDOFONON",
       "YFEN KATO|YFEN ANO|STAVROS|KLASMA ANO",
       "DIPLI ARCHAION|KRATIMA ARCHAION|KRATIMA ALLO",
       "KRATIMA NEO|APODERMA NEO|APLI|DIPLI|TRIPLI|TETRAPLI",
       "KORONIS|LEIMMA ENOS CHRONOU|LEIMMA DYO CHRONON",
       "LEIMMA TRION CHRONON|LEIMMA TESSARON CHRONON",
       "LEIMMA IMISEOS CHRONOU|GORGON NEO ANO",
       "GORGON PARESTIGMENON ARISTERA",
       "GORGON PARESTIGMENON DEXIA|DIGORGON",
       "DIGORGON PARESTIGMENON ARISTERA KATO",
       "DIGORGON PARESTIGMENON ARISTERA ANO",
       "DIGORGON PARESTIGMENON DEXIA|TRIGORGON|ARGON",
       "IMIDIARGON|DIARGON|AGOGI POLI ARGI|AGOGI ARGOTERI",
       "AGOGI ARGI|AGOGI METRIA|AGOGI MESI|AGOGI GORGI",
       "AGOGI GORGOTERI|AGOGI POLI GORGI",
       "MARTYRIA PROTOS ICHOS|MARTYRIA ALLI PROTOS ICHOS",
       "MARTYRIA DEYTEROS ICHOS",
       "MARTYRIA ALLI DEYTEROS ICHOS|MARTYRIA TRITOS ICHOS",
       "MARTYRIA TRIFONIAS|MARTYRIA TETARTOS ICHOS",
       "MARTYRIA TETARTOS LEGETOS ICHOS",
       "MARTYRIA LEGETOS ICHOS|MARTYRIA PLAGIOS ICHOS",
       "ISAKIA TELOUS ICHIMATOS|APOSTROFOI TELOUS ICHIMATOS",
       "FANEROSIS TETRAFONIAS|FANEROSIS MONOFONIAS",
       "FANEROSIS DIFONIAS|MARTYRIA VARYS ICHOS",
       "MARTYRIA PROTOVARYS ICHOS",
       "MARTYRIA PLAGIOS TETARTOS ICHOS|GORTHMIKON N APLOUN",
       "GORTHMIKON N DIPLOUN|ENARXIS KAI FTHORA VOU",
       "IMIFONON|IMIFTHORON|FTHORA ARCHAION DEYTEROU ICHOU",
       "FTHORA DIATONIKI PA|FTHORA DIATONIKI NANA",
       "FTHORA NAOS ICHOS|FTHORA DIATONIKI DI",
       "FTHORA SKLIRON DIATONON DI|FTHORA DIATONIKI KE",
       "FTHORA DIATONIKI ZO|FTHORA DIATONIKI NI KATO",
       "FTHORA DIATONIKI NI ANO",
       "FTHORA MALAKON CHROMA DIFONIAS",
       "FTHORA MALAKON CHROMA MONOFONIAS",
       "FHTORA SKLIRON CHROMA VASIS",
       "FTHORA SKLIRON CHROMA SYNAFI|FTHORA NENANO",
       "CHROA ZYGOS|CHROA KLITON|CHROA SPATHI",
       "FTHORA I YFESIS TETARTIMORION",
       "FTHORA ENARMONIOS ANTIFONIA|YFESIS TRITIMORION",
       "DIESIS TRITIMORION|DIESIS TETARTIMORION",
       "DIESIS APLI DYO DODEKATA",
       "DIESIS MONOGRAMMOS TESSERA DODEKATA",
       "DIESIS DIGRAMMOS EX DODEKATA",
       "DIESIS TRIGRAMMOS OKTO DODEKATA",
       "YFESIS APLI DYO DODEKATA",
       "YFESIS MONOGRAMMOS TESSERA DODEKATA",
       "YFESIS DIGRAMMOS EX DODEKATA",
       "YFESIS TRIGRAMMOS OKTO DODEKATA|GENIKI DIESIS",
       "GENIKI YFESIS|DIASTOLI APLI MIKRI",
       "DIASTOLI APLI MEGALI|DIASTOLI DIPLI",
       "DIASTOLI THESEOS|SIMANSIS THESEOS",
       "SIMANSIS THESEOS DISIMOU|SIMANSIS THESEOS TRISIMOU",
       "SIMANSIS THESEOS TETRASIMOU|SIMANSIS ARSEOS",
       "SIMANSIS ARSEOS DISIMOU|SIMANSIS ARSEOS TRISIMOU",
       "SIMANSIS ARSEOS TETRASIMOU|DIGRAMMA GG|DIFTOGGOS OU",
       "STIGMA|ARKTIKO PA|ARKTIKO VOU|ARKTIKO GA|ARKTIKO DI",
       "ARKTIKO KE|ARKTIKO ZO|ARKTIKO NI|KENTIMATA NEO MESO",
       "KENTIMA NEO MESO|KENTIMATA NEO KATO",
       "KENTIMA NEO KATO|KLASMA KATO|GORGON NEO KATO"]⟩,
    ⟨0x1D100, "MUSICAL SYMBOL ",
      ["SINGLE BARLINE|DOUBLE BARLINE|FINAL BARLINE",
       "REVERSE FINAL BARLINE|DASHED BARLINE|SHORT BARLINE",
       "LEFT REPEAT SIGN|RIGHT REPEAT SIGN|REPEAT DOTS",
       "DAL SEGNO|DA CAPO|SEGNO|CODA|REPEATED FIGURE-1",
       "REPEATED FIGURE-2|REPEATED FIGURE-3|FERMATA",
       "FERMATA BELOW|BREATH MARK|CAESURA|BRACE|BRACKET",
       "ONE-LINE STAFF|TWO-LINE STAFF|THREE-LINE STAFF",
       "FOUR-LINE STAFF|FIVE-LINE STAFF|SIX-LINE STAFF",
       "SIX-STRING FRETBOARD|FOUR-STRING FRETBOARD|G CLEF",
       "G CLEF OTTAVA ALTA|G CLEF OTTAVA BASSA|C CLEF",
       "F CLEF|F CLEF OTTAVA ALTA|F CLEF OTTAVA BASSA",
       "DRUM CLEF-1|DRUM CLEF-2"]⟩,
    ⟨0x1D129, "MUSICAL SYMBOL ",
      ["MULTIPLE MEASURE REST|DOUBLE SHARP|DOUBLE FLAT",
       "FLAT UP|FLAT DOWN|NATURAL UP|NATURAL DOWN|SHARP UP",
       "SHARP DOWN|QUARTER TONE SHARP|QUARTER TONE FLAT",
       "COMMON TIME|CUT TIME|OTTAVA ALTA|OTTAVA BASSA",
       "QUINDICESIMA ALTA|QUINDICESIMA BASSA|MULTI REST",
       "WHOLE REST|HALF REST|QUARTER REST|EIGHTH REST",
       "SIXTEENTH REST|THIRTY-SECOND REST|SIXTY-FOURTH REST",
       "ONE HUNDRED TWENTY-EIGHTH REST|X NOTEHEAD",
       "PLUS NOTEHEAD|CIRCLE X NOTEHEAD",
       "SQUARE NOTEHEAD WHITE|SQUARE NOTEHEAD BLACK"]⟩,
    ⟨0x1D148, "MUSICAL SYMBOL TRIANGLE NOTEHEAD ",
      ["UP WHITE|UP BLACK|LEFT WHITE|LEFT BLACK|RIGHT WHITE",
       "RIGHT BLACK|DOWN WHITE|DOWN BLACK|UP RIGHT WHITE",
       "UP RIGHT BLACK"]⟩,
    ⟨0x1D152, "MUSICAL SYMBOL ",
      ["MOON NOTEHEAD WHITE|MOON NOTEHEAD BLACK",
       "TRIANGLE-ROUND NOTEHEAD DOWN WHITE",
       "TRIANGLE-ROUND NOTEHEAD DOWN BLACK",
       "PARENTHESIS NOTEHEAD|VOID NOTEHEAD|NOTEHEAD BLACK",
       "NULL NOTEHEAD|CLUSTER NOTEHEAD WHITE",
       "CLUSTER NOTEHEAD BLACK|BREVE|WHOLE NOTE|HALF NOTE",
       "QUARTER NOTE|EIGHTH NOTE|SIXTEENTH NOTE",
       "THIRTY-SECOND NOTE|SIXTY-FOURTH NOTE",
       "ONE HUNDRED TWENTY-EIGHTH NOTE|COMBINING STEM",
       "COMBINING SPRECHGESANG STEM|COMBINING TREMOLO-1",
       "COMBINING TREMOLO-2|COMBINING TREMOLO-3",
       "FINGERED TREMOLO-1|FINGERED TREMOLO-2",
       "FINGERED TREMOLO-3|COMBINING AUGMENTATION DOT",
       "COMBINING FLAG-1|COMBINING FLAG-2|COMBINING FLAG-3",
       "COMBINING FLAG-4|COMBINING FLAG-5|BEGIN BEAM",
       "END BEAM|BEGIN TIE|END TIE|BEGIN SLUR|END SLUR",
       "BEGIN PHRASE|END PHRASE|COMBINING ACCENT",
       "COMBINING STACCATO|COMBINING TENUTO",
       "COMBINING STACCATISSIMO|COMBINING MARCATO",
       "COMBINING MARCATO-STACCATO",
       "COMBINING ACCENT-STACCATO|COMBINING LOURE",
       "ARPEGGIATO UP|ARPEGGIATO DOWN|COMBINING DOIT",
       "COMBINING RIP|COMBINING FLIP|COMBINING SMEAR",
       "COMBINING BEND|COMBINING DOUBLE TONGUE",
       "COMBINING TRIPLE TONGUE|RINFORZANDO|SUBITO|Z|PIANO",
       "MEZZO|FORTE|CRESCENDO|DECRESCENDO|GRACE NOTE SLASH",
       "GRACE NOTE NO SLASH|TR|TURN|INVERTED TURN",
       "TURN SLASH|TURN UP"]⟩,
    ⟨0x1D19B, "MUSICAL SYMBOL ORNAMENT STROKE-",
      ["1|2|3|4|5|6|7|8|9|10|11"]⟩,
    ⟨0x1D1A6, "MUSICAL SYMBOL ",
      ["HAUPTSTIMME|NEBENSTIMME|END OF STIMME|DEGREE SLASH",
       "COMBINING DOWN BOW|COMBINING UP BOW",
       "COMBINING HARMONIC|COMBINING SNAP PIZZICATO",
       "PEDAL MARK|PEDAL UP MARK|HALF PEDAL MARK",
       "GLISSANDO UP|GLISSANDO DOWN|WITH FINGERNAILS|DAMP",
       "DAMP ALL|MAXIMA|LONGA|BREVIS|SEMIBREVIS WHITE",
       "SEMIBREVIS BLACK|MINIMA|MINIMA BLACK",
       "SEMIMINIMA WHITE|SEMIMINIMA BLACK|FUSA WHITE",
       "FUSA BLACK|LONGA PERFECTA REST",
       "LONGA IMPERFECTA REST|BREVIS REST|SEMIBREVIS REST",
       "MINIMA REST|SEMIMINIMA REST"]⟩,
    ⟨0x1D1C7, "MUSICAL SYMBOL TEMPUS PERFECTUM CUM PROLATIONE ",
      ["PERFECTA|IMPERFECTA|PERFECTA DIMINUTION-1"]⟩,
    ⟨0x1D1CA, "MUSICAL SYMBOL TEMPUS IMPERFECTUM CUM PROLATIONE ",
      ["PERFECTA|IMPERFECTA|IMPERFECTA DIMINUTION-1",
       "IMPERFECTA DIMINUTION-2|IMPERFECTA DIMINUTION-3"]⟩,
    ⟨0x1D1CF, "MUSICAL SYMBOL ",
      ["CROIX|GREGORIAN C CLEF|GREGORIAN F CLEF|SQUARE B",
       "VIRGA|PODATUS|CLIVIS|SCANDICUS|CLIMACUS|TORCULUS",
       "PORRECTUS|PORRECTUS FLEXUS|SCANDICUS FLEXUS",
       "TORCULUS RESUPINUS|PES SUBPUNCTIS|KIEVAN C CLEF",
       "KIEVAN END OF PIECE|KIEVAN FINAL NOTE",
       "KIEVAN RECITATIVE MARK|KIEVAN WHOLE NOTE",
       "KIEVAN HALF NOTE|KIEVAN QUARTER NOTE STEM DOWN",
       "KIEVAN QUARTER NOTE STEM UP",
       "KIEVAN EIGHTH NOTE STEM DOWN",
       "KIEVAN EIGHTH NOTE STEM UP|KIEVAN FLAT SIGN|SORI",
       "KORON"]⟩,
    ⟨0x1D200, "GREEK VOCAL NOTATION SYMBOL-",
      ["1|2|3|4|5|6|7|8|9|10|11|12|13|14|15|16|17|18|19|20",
       "21|22|23|24|50|51|52|53|54"]⟩,
    ⟨0x1D21D, "GREEK INSTRUMENTAL NOTATION SYMBOL-",
      ["1|2|4|5|7|8|11|12|13|14|17|18|19|23|24|25|26|27|29",
       "30|32|36|37|38|39|40|42|43|45|47|48|49|50|51|52|53",
       "54"]⟩,
    ⟨0x1D242, "COMBINING GREEK MUSICAL ",
      ["TRISEME|TETRASEME|PENTASEME"]⟩,
    ⟨0x1D245, "GREEK MUSICAL ", ["LEIMMA"]⟩,
    ⟨0x1D2E0, "MAYAN NUMERAL ",
      ["ZERO|ONE|TWO|THREE|FOUR|FIVE|SIX|SEVEN|EIGHT|NINE",
       "TEN|ELEVEN|TWELVE|THIRTEEN|FOURTEEN|FIFTEEN|SIXTEEN",
       "SEVENTEEN|EIGHTEEN|NINETEEN"]⟩,
    ⟨0x1D300, "MONOGRAM FOR ", ["EARTH"]⟩,
    ⟨0x1D301, "DIGRAM FOR ",
      ["HEAVENLY EARTH|HUMAN EARTH|EARTHLY HEAVEN",
       "EARTHLY HUMAN|EARTH"]⟩,
    ⟨0x1D306, "TETRAGRAM FOR ",
      ["CENTRE|FULL CIRCLE|MIRED|BARRIER|KEEPING SMALL",
       "CONTRARIETY|ASCENT|OPPOSITION|BRANCHING OUT",
       "DEFECTIVENESS OR DISTORTION|DIVERGENCE|YOUTHFULNESS",
       "INCREASE|PENETRATION|REACH|CONTACT|HOLDING BACK",
       "WAITING|FOLLOWING|ADVANCE|RELEASE|RESISTANCE|EASE",
       "JOY|CONTENTION|ENDEAVOUR|DUTIES|CHANGE|DECISIVENESS",
       "BOLD RESOLUTION|PACKING|LEGION|CLOSENESS|KINSHIP",
       "GATHERING|STRENGTH|PURITY|FULLNESS|RESIDENCE",
       "LAW OR MODEL|RESPONSE|GOING TO MEET|ENCOUNTERS",
       "STOVE|GREATNESS|ENLARGEMENT|PATTERN|RITUAL|FLIGHT",
       "VASTNESS OR WASTING|CONSTANCY|MEASURE|ETERNITY",
       "UNITY|DIMINISHMENT|CLOSED MOUTH|GUARDEDNESS",
       "GATHERING IN|MASSING|ACCUMULATION|EMBELLISHMENT",
       "DOUBT|WATCH|SINKING|INNER|DEPARTURE|DARKENING",
       "DIMMING|EXHAUSTION|SEVERANCE|STOPPAGE|HARDNESS",
       "COMPLETION|CLOSURE|FAILURE|AGGRAVATION|COMPLIANCE",
       "ON THE VERGE|DIFFICULTIES|LABOURING|FOSTERING"]⟩,
    ⟨0x1D360, "COUNTING ROD UNIT DIGIT ",
      ["ONE|TWO|THREE|FOUR|FIVE|SIX|SEVEN|EIGHT|NINE"]⟩,
    ⟨0x1D369, "COUNTING ROD TENS DIGIT ",
      ["ONE|TWO|THREE|FOUR|FIVE|SIX|SEVEN|EIGHT|NINE"]⟩,
    ⟨0x1D372, "IDEOGRAPHIC TALLY MARK ",
      ["ONE|TWO|THREE|FOUR|FIVE"]⟩,
    ⟨0x1D377, "TALLY MARK ", ["ONE|FIVE"]⟩]

end Text

end Replay
