import Replay.Text.CharacterName.Run

/-
  This file defines the names of the scripts of South Asia,
  after Unicode 14.

  Key definitions include:
    * `southAsianNames`
-/

------------------------------------------------------------
-- Tables
------------------------------------------------------------

namespace Replay

namespace Text

/- Names of letters of South Asia. -/
def southAsianNames : List NameRun :=
  [
    ⟨0x0900, "DEVANAGARI SIGN ",
      ["INVERTED CANDRABINDU|CANDRABINDU|ANUSVARA|VISARGA"]⟩,
    ⟨0x0904, "DEVANAGARI LETTER ",
      ["SHORT A|A|AA|I|II|U|UU|VOCALIC R|VOCALIC L|CANDRA E",
       "SHORT E|E|AI|CANDRA O|SHORT O|O|AU|KA|KHA|GA|GHA",
       "NGA|CA|CHA|JA|JHA|NYA|TTA|TTHA|DDA|DDHA|NNA|TA|THA",
       "DA|DHA|NA|NNNA|PA|PHA|BA|BHA|MA|YA|RA|RRA|LA|LLA",
       "LLLA|VA|SHA|SSA|SA|HA"]⟩,
    ⟨0x093A, "DEVANAGARI ",
      ["VOWEL SIGN OE|VOWEL SIGN OOE|SIGN NUKTA",
       "SIGN AVAGRAHA"]⟩,
    ⟨0x093E, "DEVANAGARI VOWEL SIGN ",
      ["AA|I|II|U|UU|VOCALIC R|VOCALIC RR|CANDRA E|SHORT E",
       "E|AI|CANDRA O|SHORT O|O|AU"]⟩,
    ⟨0x094D, "DEVANAGARI ",
      ["SIGN VIRAMA|VOWEL SIGN PRISHTHAMATRA E",
       "VOWEL SIGN AW|OM|STRESS SIGN UDATTA",
       "STRESS SIGN ANUDATTA|GRAVE ACCENT|ACUTE ACCENT",
       "VOWEL SIGN CANDRA LONG E|VOWEL SIGN UE",
       "VOWEL SIGN UUE|LETTER QA|LETTER KHHA|LETTER GHHA",
       "LETTER ZA|LETTER DDDHA|LETTER RHA|LETTER FA",
       "LETTER YYA|LETTER VOCALIC RR|LETTER VOCALIC LL",
       "VOWEL SIGN VOCALIC L|VOWEL SIGN VOCALIC LL|DANDA",
       "DOUBLE DANDA|DIGIT ZERO|DIGIT ONE|DIGIT TWO",
       "DIGIT THREE|DIGIT FOUR|DIGIT FIVE|DIGIT SIX",
       "DIGIT SEVEN|DIGIT EIGHT|DIGIT NINE",
       "ABBREVIATION SIGN|SIGN HIGH SPACING DOT"]⟩,
    ⟨0x0972, "DEVANAGARI LETTER ",
      ["CANDRA A|OE|OOE|AW|UE|UUE|MARWARI DDA|ZHA|HEAVY YA",
       "GGA|JJA|GLOTTAL STOP|DDDA|BBA"]⟩,
    ⟨0x0980, "BENGALI ",
      ["ANJI|SIGN CANDRABINDU|SIGN ANUSVARA|SIGN VISARGA"]⟩,
    ⟨0x0985, "BENGALI LETTER ",
      ["A|AA|I|II|U|UU|VOCALIC R|VOCALIC L"]⟩,
    ⟨0x098F, "BENGALI LETTER ", ["E|AI"]⟩,
    ⟨0x0993, "BENGALI LETTER ",
      ["O|AU|KA|KHA|GA|GHA|NGA|CA|CHA|JA|JHA|NYA|TTA|TTHA",
       "DDA|DDHA|NNA|TA|THA|DA|DHA|NA"]⟩,
    ⟨0x09AA, "BENGALI LETTER ", ["PA|PHA|BA|BHA|MA|YA|RA"]⟩,
    ⟨0x09B2, "BENGALI LETTER ", ["LA"]⟩,
    ⟨0x09B6, "BENGALI LETTER ", ["SHA|SSA|SA|HA"]⟩,
    ⟨0x09BC, "BENGALI SIGN ", ["NUKTA|AVAGRAHA"]⟩,
    ⟨0x09BE, "BENGALI VOWEL SIGN ",
      ["AA|I|II|U|UU|VOCALIC R|VOCALIC RR"]⟩,
    ⟨0x09C7, "BENGALI VOWEL SIGN ", ["E|AI"]⟩,
    ⟨0x09CB, "BENGALI ",
      ["VOWEL SIGN O|VOWEL SIGN AU|SIGN VIRAMA",
       "LETTER KHANDA TA"]⟩,
    ⟨0x09D7, "BENGALI AU LENGTH ", ["MARK"]⟩,
    ⟨0x09DC, "BENGALI LETTER ", ["RRA|RHA"]⟩,
    ⟨0x09DF, "BENGALI LETTER ",
      ["YYA|VOCALIC RR|VOCALIC LL"]⟩,
    ⟨0x09E2, "BENGALI VOWEL SIGN VOCALIC ", ["L|LL"]⟩,
    ⟨0x09E6, "BENGALI DIGIT ",
      ["ZERO|ONE|TWO|THREE|FOUR|FIVE|SIX|SEVEN|EIGHT|NINE"]⟩,
    ⟨0x09F0, "BENGALI ",
      ["LETTER RA WITH MIDDLE DIAGONAL",
       "LETTER RA WITH LOWER DIAGONAL|RUPEE MARK|RUPEE SIGN"]⟩,
    ⟨0x09F4, "BENGALI CURRENCY NUMERATOR ",
      ["ONE|TWO|THREE|FOUR|ONE LESS THAN THE DENOMINATOR"]⟩,
    ⟨0x09F9, "BENGALI ",
      ["CURRENCY DENOMINATOR SIXTEEN|ISSHAR|GANDA MARK",
       "LETTER VEDIC ANUSVARA|ABBREVIATION SIGN|SANDHI MARK"]⟩,
    ⟨0x0A01, "GURMUKHI SIGN ",
      ["ADAK BINDI|BINDI|VISARGA"]⟩,
    ⟨0x0A05, "GURMUKHI LETTER ", ["A|AA|I|II|U|UU"]⟩,
    ⟨0x0A0F, "GURMUKHI LETTER ", ["EE|AI"]⟩,
    ⟨0x0A13, "GURMUKHI LETTER ",
      ["OO|AU|KA|KHA|GA|GHA|NGA|CA|CHA|JA|JHA|NYA|TTA|TTHA",
       "DDA|DDHA|NNA|TA|THA|DA|DHA|NA"]⟩,
    ⟨0x0A2A, "GURMUKHI LETTER ",
      ["PA|PHA|BA|BHA|MA|YA|RA"]⟩,
    ⟨0x0A32, "GURMUKHI LETTER ", ["LA|LLA"]⟩,
    ⟨0x0A35, "GURMUKHI LETTER ", ["VA|SHA"]⟩,
    ⟨0x0A38, "GURMUKHI LETTER ", ["SA|HA"]⟩,
    ⟨0x0A3C, "GURMUKHI SIGN ", ["NUKTA"]⟩,
    ⟨0x0A3E, "GURMUKHI VOWEL SIGN ", ["AA|I|II|U|UU"]⟩,
    ⟨0x0A47, "GURMUKHI VOWEL SIGN ", ["EE|AI"]⟩,
    ⟨0x0A4B, "GURMUKHI ",
      ["VOWEL SIGN OO|VOWEL SIGN AU|SIGN VIRAMA"]⟩,
    ⟨0x0A51, "GURMUKHI SIGN ", ["UDAAT"]⟩,
    ⟨0x0A59, "GURMUKHI LETTER ", ["KHHA|GHHA|ZA|RRA"]⟩,
    ⟨0x0A5E, "GURMUKHI LETTER ", ["FA"]⟩,
    ⟨0x0A66, "GURMUKHI DIGIT ",
      ["ZERO|ONE|TWO|THREE|FOUR|FIVE|SIX|SEVEN|EIGHT|NINE"]⟩,
    ⟨0x0A70, "GURMUKHI ",
      ["TIPPI|ADDAK|IRI|URA|EK ONKAR|SIGN YAKASH",
       "ABBREVIATION SIGN"]⟩,
    ⟨0x0A81, "GUJARATI SIGN ",
      ["CANDRABINDU|ANUSVARA|VISARGA"]⟩,
    ⟨0x0A85, "GUJARATI LETTER ",
      ["A|AA|I|II|U|UU|VOCALIC R|VOCALIC L"]⟩,
    ⟨0x0A8D, "GUJARATI VOWEL CANDRA ", ["E"]⟩,
    ⟨0x0A8F, "GUJARATI ",
      ["LETTER E|LETTER AI|VOWEL CANDRA O"]⟩,
    ⟨0x0A93, "GUJARATI LETTER ",
      ["O|AU|KA|KHA|GA|GHA|NGA|CA|CHA|JA|JHA|NYA|TTA|TTHA",
       "DDA|DDHA|NNA|TA|THA|DA|DHA|NA"]⟩,
    ⟨0x0AAA, "GUJARATI LETTER ",
      ["PA|PHA|BA|BHA|MA|YA|RA"]⟩,
    ⟨0x0AB2, "GUJARATI LETTER ", ["LA|LLA"]⟩,
    ⟨0x0AB5, "GUJARATI LETTER ", ["VA|SHA|SSA|SA|HA"]⟩,
    ⟨0x0ABC, "GUJARATI SIGN ", ["NUKTA|AVAGRAHA"]⟩,
    ⟨0x0ABE, "GUJARATI VOWEL SIGN ",
      ["AA|I|II|U|UU|VOCALIC R|VOCALIC RR|CANDRA E"]⟩,
    ⟨0x0AC7, "GUJARATI VOWEL SIGN ", ["E|AI|CANDRA O"]⟩,
    ⟨0x0ACB, "GUJARATI ",
      ["VOWEL SIGN O|VOWEL SIGN AU|SIGN VIRAMA"]⟩,
    ⟨0x0AD0, "GUJARATI ", ["OM"]⟩,
    ⟨0x0AE0, "GUJARATI LETTER VOCALIC ", ["RR|LL"]⟩,
    ⟨0x0AE2, "GUJARATI VOWEL SIGN VOCALIC ", ["L|LL"]⟩,
    ⟨0x0AE6, "GUJARATI DIGIT ",
      ["ZERO|ONE|TWO|THREE|FOUR|FIVE|SIX|SEVEN|EIGHT|NINE"]⟩,
    ⟨0x0AF0, "GUJARATI ", ["ABBREVIATION SIGN|RUPEE SIGN"]⟩,
    ⟨0x0AF9, "GUJARATI ",
      ["LETTER ZHA|SIGN SUKUN|SIGN SHADDA|SIGN MADDAH",
       "SIGN THREE-DOT NUKTA ABOVE|SIGN CIRCLE NUKTA ABOVE",
       "SIGN TWO-CIRCLE NUKTA ABOVE"]⟩,
    ⟨0x0B01, "ORIYA SIGN ",
      ["CANDRABINDU|ANUSVARA|VISARGA"]⟩,
    ⟨0x0B05, "ORIYA LETTER ",
      ["A|AA|I|II|U|UU|VOCALIC R|VOCALIC L"]⟩,
    ⟨0x0B0F, "ORIYA LETTER ", ["E|AI"]⟩,
    ⟨0x0B13, "ORIYA LETTER ",
      ["O|AU|KA|KHA|GA|GHA|NGA|CA|CHA|JA|JHA|NYA|TTA|TTHA",
       "DDA|DDHA|NNA|TA|THA|DA|DHA|NA"]⟩,
    ⟨0x0B2A, "ORIYA LETTER ", ["PA|PHA|BA|BHA|MA|YA|RA"]⟩,
    ⟨0x0B32, "ORIYA LETTER ", ["LA|LLA"]⟩,
    ⟨0x0B35, "ORIYA LETTER ", ["VA|SHA|SSA|SA|HA"]⟩,
    ⟨0x0B3C, "ORIYA SIGN ", ["NUKTA|AVAGRAHA"]⟩,
    ⟨0x0B3E, "ORIYA VOWEL SIGN ",
      ["AA|I|II|U|UU|VOCALIC R|VOCALIC RR"]⟩,
    ⟨0x0B47, "ORIYA VOWEL SIGN ", ["E|AI"]⟩,
    ⟨0x0B4B, "ORIYA ",
      ["VOWEL SIGN O|VOWEL SIGN AU|SIGN VIRAMA"]⟩,
    ⟨0x0B55, "ORIYA ",
      ["SIGN OVERLINE|AI LENGTH MARK|AU LENGTH MARK"]⟩,
    ⟨0x0B5C, "ORIYA LETTER ", ["RRA|RHA"]⟩,
    ⟨0x0B5F, "ORIYA LETTER ",
      ["YYA|VOCALIC RR|VOCALIC LL"]⟩,
    ⟨0x0B62, "ORIYA VOWEL SIGN VOCALIC ", ["L|LL"]⟩,
    ⟨0x0B66, "ORIYA DIGIT ",
      ["ZERO|ONE|TWO|THREE|FOUR|FIVE|SIX|SEVEN|EIGHT|NINE"]⟩,
    ⟨0x0B70, "ORIYA ", ["ISSHAR|LETTER WA"]⟩,
    ⟨0x0B72, "ORIYA FRACTION ",
      ["ONE QUARTER|ONE HALF|THREE QUARTERS|ONE SIXTEENTH",
       "ONE EIGHTH|THREE SIXTEENTHS"]⟩,
    ⟨0x0B82, "TAMIL SIGN ", ["ANUSVARA|VISARGA"]⟩,
    ⟨0x0B85, "TAMIL LETTER ", ["A|AA|I|II|U|UU"]⟩,
    ⟨0x0B8E, "TAMIL LETTER ", ["E|EE|AI"]⟩,
    ⟨0x0B92, "TAMIL LETTER ", ["O|OO|AU|KA"]⟩,
    ⟨0x0B99, "TAMIL LETTER ", ["NGA|CA"]⟩,
    ⟨0x0B9C, "TAMIL LETTER ", ["JA"]⟩,
    ⟨0x0B9E, "TAMIL LETTER ", ["NYA|TTA"]⟩,
    ⟨0x0BA3, "TAMIL LETTER ", ["NNA|TA"]⟩,
    ⟨0x0BA8, "TAMIL LETTER ", ["NA|NNNA|PA"]⟩,
    ⟨0x0BAE, "TAMIL LETTER ",
      ["MA|YA|RA|RRA|LA|LLA|LLLA|VA|SHA|SSA|SA|HA"]⟩,
    ⟨0x0BBE, "TAMIL VOWEL SIGN ", ["AA|I|II|U|UU"]⟩,
    ⟨0x0BC6, "TAMIL VOWEL SIGN ", ["E|EE|AI"]⟩,
    ⟨0x0BCA, "TAMIL ",
      ["VOWEL SIGN O|VOWEL SIGN OO|VOWEL SIGN AU",
       "SIGN VIRAMA"]⟩,
    ⟨0x0BD0, "TAMIL ", ["OM"]⟩,
    ⟨0x0BD7, "TAMIL AU LENGTH ", ["MARK"]⟩,
    ⟨0x0BE6, "TAMIL DIGIT ",
      ["ZERO|ONE|TWO|THREE|FOUR|FIVE|SIX|SEVEN|EIGHT|NINE"]⟩,
    ⟨0x0BF0, "TAMIL ",
      ["NUMBER TEN|NUMBER ONE HUNDRED|NUMBER ONE THOUSAND",
       "DAY SIGN|MONTH SIGN|YEAR SIGN|DEBIT SIGN",
       "CREDIT SIGN|AS ABOVE SIGN|RUPEE SIGN|NUMBER SIGN"]⟩,
    ⟨0x0C00, "TELUGU SIGN ",
      ["COMBINING CANDRABINDU ABOVE|CANDRABINDU|ANUSVARA",
       "VISARGA|COMBINING ANUSVARA ABOVE"]⟩,
    ⟨0x0C05, "TELUGU LETTER ",
      ["A|AA|I|II|U|UU|VOCALIC R|VOCALIC L"]⟩,
    ⟨0x0C0E, "TELUGU LETTER ", ["E|EE|AI"]⟩,
    ⟨0x0C12, "TELUGU LETTER ",
      ["O|OO|AU|KA|KHA|GA|GHA|NGA|CA|CHA|JA|JHA|NYA|TTA",
       "TTHA|DDA|DDHA|NNA|TA|THA|DA|DHA|NA"]⟩,
    ⟨0x0C2A, "TELUGU LETTER ",
      ["PA|PHA|BA|BHA|MA|YA|RA|RRA|LA|LLA|LLLA|VA|SHA|SSA",
       "SA|HA"]⟩,
    ⟨0x0C3C, "TELUGU SIGN ", ["NUKTA|AVAGRAHA"]⟩,
    ⟨0x0C3E, "TELUGU VOWEL SIGN ",
      ["AA|I|II|U|UU|VOCALIC R|VOCALIC RR"]⟩,
    ⟨0x0C46, "TELUGU VOWEL SIGN ", ["E|EE|AI"]⟩,
    ⟨0x0C4A, "TELUGU ",
      ["VOWEL SIGN O|VOWEL SIGN OO|VOWEL SIGN AU",
       "SIGN VIRAMA"]⟩,
    ⟨0x0C55, "TELUGU ", ["LENGTH MARK|AI LENGTH MARK"]⟩,
    ⟨0x0C58, "TELUGU LETTER ", ["TSA|DZA|RRRA"]⟩,
    ⟨0x0C5D, "TELUGU LETTER NAKAARA ", ["POLLU"]⟩,
    ⟨0x0C60, "TELUGU LETTER VOCALIC ", ["RR|LL"]⟩,
    ⟨0x0C62, "TELUGU VOWEL SIGN VOCALIC ", ["L|LL"]⟩,
    ⟨0x0C66, "TELUGU DIGIT ",
      ["ZERO|ONE|TWO|THREE|FOUR|FIVE|SIX|SEVEN|EIGHT|NINE"]⟩,
    ⟨0x0C77, "TELUGU SIGN ", ["SIDDHAM"]⟩,
    ⟨0x0C78, "TELUGU FRACTION DIGIT ",
      ["ZERO FOR ODD POWERS OF FOUR",
       "ONE FOR ODD POWERS OF FOUR",
       "TWO FOR ODD POWERS OF FOUR",
       "THREE FOR ODD POWERS OF FOUR",
       "ONE FOR EVEN POWERS OF FOUR",
       "TWO FOR EVEN POWERS OF FOUR",
       "THREE FOR EVEN POWERS OF FOUR"]⟩,
    ⟨0x0C7F, "TELUGU SIGN ", ["TUUMU"]⟩,
    ⟨0x0C80, "KANNADA SIGN ",
      ["SPACING CANDRABINDU|CANDRABINDU|ANUSVARA|VISARGA",
       "SIDDHAM"]⟩,
    ⟨0x0C85, "KANNADA LETTER ",
      ["A|AA|I|II|U|UU|VOCALIC R|VOCALIC L"]⟩,
    ⟨0x0C8E, "KANNADA LETTER ", ["E|EE|AI"]⟩,
    ⟨0x0C92, "KANNADA LETTER ",
      ["O|OO|AU|KA|KHA|GA|GHA|NGA|CA|CHA|JA|JHA|NYA|TTA",
       "TTHA|DDA|DDHA|NNA|TA|THA|DA|DHA|NA"]⟩,
    ⟨0x0CAA, "KANNADA LETTER ",
      ["PA|PHA|BA|BHA|MA|YA|RA|RRA|LA|LLA"]⟩,
    ⟨0x0CB5, "KANNADA LETTER ", ["VA|SHA|SSA|SA|HA"]⟩,
    ⟨0x0CBC, "KANNADA SIGN ", ["NUKTA|AVAGRAHA"]⟩,
    ⟨0x0CBE, "KANNADA VOWEL SIGN ",
      ["AA|I|II|U|UU|VOCALIC R|VOCALIC RR"]⟩,
    ⟨0x0CC6, "KANNADA VOWEL SIGN ", ["E|EE|AI"]⟩,
    ⟨0x0CCA, "KANNADA ",
      ["VOWEL SIGN O|VOWEL SIGN OO|VOWEL SIGN AU",
       "SIGN VIRAMA"]⟩,
    ⟨0x0CD5, "KANNADA ", ["LENGTH MARK|AI LENGTH MARK"]⟩,
    ⟨0x0CDD, "KANNADA LETTER ", ["NAKAARA POLLU|FA"]⟩,
    ⟨0x0CE0, "KANNADA LETTER VOCALIC ", ["RR|LL"]⟩,
    ⟨0x0CE2, "KANNADA VOWEL SIGN VOCALIC ", ["L|LL"]⟩,
    ⟨0x0CE6, "KANNADA DIGIT ",
      ["ZERO|ONE|TWO|THREE|FOUR|FIVE|SIX|SEVEN|EIGHT|NINE"]⟩,
    ⟨0x0CF1, "KANNADA SIGN ", ["JIHVAMULIYA|UPADHMANIYA"]⟩,
    ⟨0x0D00, "MALAYALAM SIGN ",
      ["COMBINING ANUSVARA ABOVE|CANDRABINDU|ANUSVARA",
       "VISARGA"]⟩,
    ⟨0x0D04, "MALAYALAM LETTER ",
      ["VEDIC ANUSVARA|A|AA|I|II|U|UU|VOCALIC R|VOCALIC L"]⟩,
    ⟨0x0D0E, "MALAYALAM LETTER ", ["E|EE|AI"]⟩,
    ⟨0x0D12, "MALAYALAM LETTER ",
      ["O|OO|AU|KA|KHA|GA|GHA|NGA|CA|CHA|JA|JHA|NYA|TTA",
       "TTHA|DDA|DDHA|NNA|TA|THA|DA|DHA|NA|NNNA|PA|PHA|BA",
       "BHA|MA|YA|RA|RRA|LA|LLA|LLLA|VA|SHA|SSA|SA|HA|TTTA"]⟩,
    ⟨0x0D3B, "MALAYALAM SIGN ",
      ["VERTICAL BAR VIRAMA|CIRCULAR VIRAMA|AVAGRAHA"]⟩,
    ⟨0x0D3E, "MALAYALAM VOWEL SIGN ",
      ["AA|I|II|U|UU|VOCALIC R|VOCALIC RR"]⟩,
    ⟨0x0D46, "MALAYALAM VOWEL SIGN ", ["E|EE|AI"]⟩,
    ⟨0x0D4A, "MALAYALAM ",
      ["VOWEL SIGN O|VOWEL SIGN OO|VOWEL SIGN AU",
       "SIGN VIRAMA|LETTER DOT REPH|SIGN PARA"]⟩,
    ⟨0x0D54, "MALAYALAM ",
      ["LETTER CHILLU M|LETTER CHILLU Y|LETTER CHILLU LLL",
       "AU LENGTH MARK",
       "FRACTION ONE ONE-HUNDRED-AND-SIXTIETH",
       "FRACTION ONE FORTIETH|FRACTION THREE EIGHTIETHS",
       "FRACTION ONE TWENTIETH|FRACTION ONE TENTH",
       "FRACTION THREE TWENTIETHS|FRACTION ONE FIFTH",
       "LETTER ARCHAIC II|LETTER VOCALIC RR",
       "LETTER VOCALIC LL|VOWEL SIGN VOCALIC L",
       "VOWEL SIGN VOCALIC LL"]⟩,
    ⟨0x0D66, "MALAYALAM DIGIT ",
      ["ZERO|ONE|TWO|THREE|FOUR|FIVE|SIX|SEVEN|EIGHT|NINE"]⟩,
    ⟨0x0D70, "MALAYALAM ",
      ["NUMBER TEN|NUMBER ONE HUNDRED|NUMBER ONE THOUSAND",
       "FRACTION ONE QUARTER|FRACTION ONE HALF",
       "FRACTION THREE QUARTERS|FRACTION ONE SIXTEENTH",
       "FRACTION ONE EIGHTH|FRACTION THREE SIXTEENTHS",
       "DATE MARK"]⟩,
    ⟨0x0D7A, "MALAYALAM LETTER CHILLU ",
      ["NN|N|RR|L|LL|K"]⟩,
    ⟨0x0D81, "SINHALA SIGN ",
      ["CANDRABINDU|ANUSVARAYA|VISARGAYA"]⟩,
    ⟨0x0D85, "SINHALA LETTER ",
      ["AYANNA|AAYANNA|AEYANNA|AEEYANNA|IYANNA|IIYANNA",
       "UYANNA|UUYANNA|IRUYANNA|IRUUYANNA|ILUYANNA",
       "ILUUYANNA|EYANNA|EEYANNA|AIYANNA|OYANNA|OOYANNA",
       "AUYANNA"]⟩,
    ⟨0x0D9A, "SINHALA LETTER ",
      ["ALPAPRAANA KAYANNA|MAHAAPRAANA KAYANNA",
       "ALPAPRAANA GAYANNA|MAHAAPRAANA GAYANNA",
       "KANTAJA NAASIKYAYA|SANYAKA GAYANNA",
       "ALPAPRAANA CAYANNA|MAHAAPRAANA CAYANNA",
       "ALPAPRAANA JAYANNA|MAHAAPRAANA JAYANNA",
       "TAALUJA NAASIKYAYA|TAALUJA SANYOOGA NAAKSIKYAYA",
       "SANYAKA JAYANNA|ALPAPRAANA TTAYANNA",
       "MAHAAPRAANA TTAYANNA|ALPAPRAANA DDAYANNA",
       "MAHAAPRAANA DDAYANNA|MUURDHAJA NAYANNA",
       "SANYAKA DDAYANNA|ALPAPRAANA TAYANNA",
       "MAHAAPRAANA TAYANNA|ALPAPRAANA DAYANNA",
       "MAHAAPRAANA DAYANNA|DANTAJA NAYANNA"]⟩,
    ⟨0x0DB3, "SINHALA LETTER ",
      ["SANYAKA DAYANNA|ALPAPRAANA PAYANNA",
       "MAHAAPRAANA PAYANNA|ALPAPRAANA BAYANNA",
       "MAHAAPRAANA BAYANNA|MAYANNA|AMBA BAYANNA|YAYANNA",
       "RAYANNA"]⟩,
    ⟨0x0DBD, "SINHALA LETTER DANTAJA ", ["LAYANNA"]⟩,
    ⟨0x0DC0, "SINHALA LETTER ",
      ["VAYANNA|TAALUJA SAYANNA|MUURDHAJA SAYANNA",
       "DANTAJA SAYANNA|HAYANNA|MUURDHAJA LAYANNA|FAYANNA"]⟩,
    ⟨0x0DCA, "SINHALA SIGN AL-", ["LAKUNA"]⟩,
    ⟨0x0DCF, "SINHALA VOWEL SIGN ",
      ["AELA-PILLA|KETTI AEDA-PILLA|DIGA AEDA-PILLA",
       "KETTI IS-PILLA|DIGA IS-PILLA|KETTI PAA-PILLA"]⟩,
    ⟨0x0DD6, "SINHALA VOWEL SIGN DIGA PAA-", ["PILLA"]⟩,
    ⟨0x0DD8, "SINHALA VOWEL SIGN ",
      ["GAETTA-PILLA|KOMBUVA|DIGA KOMBUVA|KOMBU DEKA",
       "KOMBUVA HAA AELA-PILLA|KOMBUVA HAA DIGA AELA-PILLA",
       "KOMBUVA HAA GAYANUKITTA|GAYANUKITTA"]⟩,
    ⟨0x0DE6, "SINHALA LITH DIGIT ",
      ["ZERO|ONE|TWO|THREE|FOUR|FIVE|SIX|SEVEN|EIGHT|NINE"]⟩,
    ⟨0x0DF2, "SINHALA ",
      ["VOWEL SIGN DIGA GAETTA-PILLA",
       "VOWEL SIGN DIGA GAYANUKITTA|PUNCTUATION KUNDDALIYA"]⟩]

end Text

end Replay
