import Replay.Text.CharacterName.Run

/-
  This file defines the names of the scripts of Southeast
  Asia and Tibet, after Unicode 14.

  Key definitions include:
    * `southeastAsianNames`
-/

------------------------------------------------------------
-- Tables
------------------------------------------------------------

namespace Replay

namespace Text

/- Names of letters of Southeast Asia and Tibet. -/
def southeastAsianNames : List NameRun :=
  [
    ⟨0x0E01, "THAI CHARACTER ",
      ["KO KAI|KHO KHAI|KHO KHUAT|KHO KHWAI|KHO KHON",
       "KHO RAKHANG|NGO NGU|CHO CHAN|CHO CHING|CHO CHANG",
       "SO SO|CHO CHOE|YO YING|DO CHADA|TO PATAK|THO THAN",
       "THO NANGMONTHO|THO PHUTHAO|NO NEN|DO DEK|TO TAO",
       "THO THUNG|THO THAHAN|THO THONG|NO NU|BO BAIMAI",
       "PO PLA|PHO PHUNG|FO FA|PHO PHAN|FO FAN|PHO SAMPHAO",
       "MO MA|YO YAK|RO RUA|RU|LO LING|LU|WO WAEN|SO SALA",
       "SO RUSI|SO SUA|HO HIP|LO CHULA|O ANG|HO NOKHUK",
       "PAIYANNOI|SARA A|MAI HAN-AKAT|SARA AA|SARA AM",
       "SARA I|SARA II|SARA UE|SARA UEE|SARA U|SARA UU",
       "PHINTHU"]⟩,
    ⟨0x0E3F, "THAI CURRENCY SYMBOL ", ["BAHT"]⟩,
    ⟨0x0E40, "THAI CHARACTER ",
      ["SARA E|SARA AE|SARA O|SARA AI MAIMUAN",
       "SARA AI MAIMALAI|LAKKHANGYAO|MAIYAMOK|MAITAIKHU",
       "MAI EK|MAI THO|MAI TRI|MAI CHATTAWA|THANTHAKHAT",
       "NIKHAHIT|YAMAKKAN|FONGMAN"]⟩,
    ⟨0x0E50, "THAI DIGIT ",
      ["ZERO|ONE|TWO|THREE|FOUR|FIVE|SIX|SEVEN|EIGHT|NINE"]⟩,
    ⟨0x0E5A, "THAI CHARACTER ", ["ANGKHANKHU|KHOMUT"]⟩,
    ⟨0x0E81, "LAO LETTER ", ["KO|KHO SUNG"]⟩,
    ⟨0x0E84, "LAO LETTER KHO ", ["TAM"]⟩,
    ⟨0x0E86, "LAO LETTER ",
      ["PALI GHA|NGO|CO|PALI CHA|SO TAM"]⟩,
    ⟨0x0E8C, "LAO LETTER ",
      ["PALI JHA|NYO|PALI NYA|PALI TTA|PALI TTHA|PALI DDA",
       "PALI DDHA|PALI NNA|DO|TO|THO SUNG|THO TAM|PALI DHA",
       "NO|BO|PO|PHO SUNG|FO TAM|PHO TAM|FO SUNG|PALI BHA",
       "MO|YO|LO LING"]⟩,
    ⟨0x0EA5, "LAO LETTER LO ", ["LOOT"]⟩,
    ⟨0x0EA7, "LAO LETTER ",
      ["WO|SANSKRIT SHA|SANSKRIT SSA|SO SUNG|HO SUNG",
       "PALI LLA|O|HO TAM"]⟩,
    ⟨0x0EAF, "LAO ", ["ELLIPSIS"]⟩,
    ⟨0x0EB0, "LAO VOWEL SIGN ",
      ["A|MAI KAN|AA|AM|I|II|Y|YY|U|UU"]⟩,
    ⟨0x0EBA, "LAO ",
      ["SIGN PALI VIRAMA|VOWEL SIGN MAI KON",
       "SEMIVOWEL SIGN LO|SEMIVOWEL SIGN NYO"]⟩,
    ⟨0x0EC0, "LAO VOWEL SIGN ", ["E|EI|O|AY|AI"]⟩,
    ⟨0x0EC6, "LAO KO ", ["LA"]⟩,
    ⟨0x0EC8, "LAO ",
      ["TONE MAI EK|TONE MAI THO|TONE MAI TI",
       "TONE MAI CATAWA|CANCELLATION MARK|NIGGAHITA"]⟩,
    ⟨0x0ED0, "LAO DIGIT ",
      ["ZERO|ONE|TWO|THREE|FOUR|FIVE|SIX|SEVEN|EIGHT|NINE"]⟩,
    ⟨0x0EDC, "LAO ",
      ["HO NO|HO MO|LETTER KHMU GO|LETTER KHMU NYO"]⟩,
    ⟨0x0F00, "TIBETAN SYLLABLE ", ["OM"]⟩,
    ⟨0x0F01, "TIBETAN MARK ",
      ["GTER YIG MGO TRUNCATED A",
       "GTER YIG MGO -UM RNAM BCAD MA",
       "GTER YIG MGO -UM GTER TSHEG MA",
       "INITIAL YIG MGO MDUN MA|CLOSING YIG MGO SGAB MA",
       "CARET YIG MGO PHUR SHAD MA|YIG MGO TSHEG SHAD MA",
       "SBRUL SHAD|BSKUR YIG MGO|BKA- SHOG YIG MGO",
       "INTERSYLLABIC TSHEG|DELIMITER TSHEG BSTAR|SHAD",
       "NYIS SHAD|TSHEG SHAD|NYIS TSHEG SHAD",
       "RIN CHEN SPUNGS SHAD|RGYA GRAM SHAD",
       "CARET -DZUD RTAGS ME LONG CAN|GTER TSHEG"]⟩,
    ⟨0x0F15, "TIBETAN LOGOTYPE SIGN ",
      ["CHAD RTAGS|LHAG RTAGS"]⟩,
    ⟨0x0F17, "TIBETAN ASTROLOGICAL SIGN ",
      ["SGRA GCAN -CHAR RTAGS|-KHYUD PA|SDONG TSHUGS"]⟩,
    ⟨0x0F1A, "TIBETAN SIGN RDEL ",
      ["DKAR GCIG|DKAR GNYIS|DKAR GSUM|NAG GCIG|NAG GNYIS",
       "DKAR RDEL NAG"]⟩,
    ⟨0x0F20, "TIBETAN DIGIT ",
      ["ZERO|ONE|TWO|THREE|FOUR|FIVE|SIX|SEVEN|EIGHT|NINE"]⟩,
    ⟨0x0F2A, "TIBETAN DIGIT HALF ",
      ["ONE|TWO|THREE|FOUR|FIVE|SIX|SEVEN|EIGHT|NINE|ZERO"]⟩,
    ⟨0x0F34, "TIBETAN MARK ",
      ["BSDUS RTAGS|NGAS BZUNG NYI ZLA",
       "CARET -DZUD RTAGS BZHI MIG CAN",
       "NGAS BZUNG SGOR RTAGS|CHE MGO|TSA -PHRU",
       "GUG RTAGS GYON|GUG RTAGS GYAS|ANG KHANG GYON",
       "ANG KHANG GYAS"]⟩,
    ⟨0x0F3E, "TIBETAN SIGN ", ["YAR TSHES|MAR TSHES"]⟩,
    ⟨0x0F40, "TIBETAN LETTER ",
      ["KA|KHA|GA|GHA|NGA|CA|CHA|JA"]⟩,
    ⟨0x0F49, "TIBETAN LETTER ",
      ["NYA|TTA|TTHA|DDA|DDHA|NNA|TA|THA|DA|DHA|NA|PA|PHA",
       "BA|BHA|MA|TSA|TSHA|DZA|DZHA|WA|ZHA|ZA|-A|YA|RA|LA",
       "SHA|SSA|SA|HA|A|KSSA|FIXED-FORM RA|KKA|RRA"]⟩,
    ⟨0x0F71, "TIBETAN VOWEL SIGN ",
      ["AA|I|II|U|UU|VOCALIC R|VOCALIC RR|VOCALIC L",
       "VOCALIC LL|E|EE|O|OO"]⟩,
    ⟨0x0F7E, "TIBETAN ",
      ["SIGN RJES SU NGA RO|SIGN RNAM BCAD",
       "VOWEL SIGN REVERSED I|VOWEL SIGN REVERSED II",
       "SIGN NYI ZLA NAA DA|SIGN SNA LDAN|MARK HALANTA",
       "MARK PALUTA|SIGN LCI RTAGS|SIGN YANG RTAGS",
       "SIGN LCE TSA CAN|SIGN MCHU CAN|SIGN GRU CAN RGYINGS",
       "SIGN GRU MED RGYINGS|SIGN INVERTED MCHU CAN",
       "SUBJOINED SIGN LCE TSA CAN|SUBJOINED SIGN MCHU CAN",
       "SUBJOINED SIGN INVERTED MCHU CAN"]⟩,
    ⟨0x0F90, "TIBETAN SUBJOINED LETTER ",
      ["KA|KHA|GA|GHA|NGA|CA|CHA|JA"]⟩,
    ⟨0x0F99, "TIBETAN SUBJOINED LETTER ",
      ["NYA|TTA|TTHA|DDA|DDHA|NNA|TA|THA|DA|DHA|NA|PA|PHA",
       "BA|BHA|MA|TSA|TSHA|DZA|DZHA|WA|ZHA|ZA|-A|YA|RA|LA",
       "SHA|SSA|SA|HA|A|KSSA|FIXED-FORM WA|FIXED-FORM YA",
       "FIXED-FORM RA"]⟩,
    ⟨0x0FBE, "TIBETAN KU RU ", ["KHA|KHA BZHI MIG CAN"]⟩,
    ⟨0x0FC0, "TIBETAN CANTILLATION SIGN ",
      ["HEAVY BEAT|LIGHT BEAT|CANG TE-U|SBUB -CHAL"]⟩,
    ⟨0x0FC4, "TIBETAN SYMBOL ",
      ["DRIL BU|RDO RJE|PADMA GDAN|RDO RJE RGYA GRAM",
       "PHUR PA|NOR BU|NOR BU NYIS -KHYIL",
       "NOR BU GSUM -KHYIL|NOR BU BZHI -KHYIL"]⟩,
    ⟨0x0FCE, "TIBETAN SIGN RDEL NAG ", ["RDEL DKAR|GSUM"]⟩,
    ⟨0x0FD0, "TIBETAN MARK ",
      ["BSKA- SHOG GI MGO RGYAN|MNYAM YIG GI MGO RGYAN",
       "NYIS TSHEG|INITIAL BRDA RNYING YIG MGO MDUN MA",
       "CLOSING BRDA RNYING YIG MGO SGAB MA"]⟩,
    ⟨0x0FD5, "",
      ["RIGHT-FACING SVASTI SIGN|LEFT-FACING SVASTI SIGN",
       "RIGHT-FACING SVASTI SIGN WITH DOTS",
       "LEFT-FACING SVASTI SIGN WITH DOTS",
       "TIBETAN MARK LEADING MCHAN RTAGS",
       "TIBETAN MARK TRAILING MCHAN RTAGS"]⟩,
    ⟨0x1000, "MYANMAR LETTER ",
      ["KA|KHA|GA|GHA|NGA|CA|CHA|JA|JHA|NYA|NNYA|TTA|TTHA",
       "DDA|DDHA|NNA|TA|THA|DA|DHA|NA|PA|PHA|BA|BHA|MA|YA",
       "RA|LA|WA|SA|HA|LLA|A|SHAN A|I|II|U|UU|E|MON E|O|AU"]⟩,
    ⟨0x102B, "MYANMAR VOWEL SIGN ",
      ["TALL AA|AA|I|II|U|UU|E|AI|MON II|MON O|E ABOVE"]⟩,
    ⟨0x1036, "MYANMAR SIGN ",
      ["ANUSVARA|DOT BELOW|VISARGA|VIRAMA|ASAT"]⟩,
    ⟨0x103B, "MYANMAR CONSONANT SIGN MEDIAL ",
      ["YA|RA|WA|HA"]⟩,
    ⟨0x103F, "MYANMAR ",
      ["LETTER GREAT SA|DIGIT ZERO|DIGIT ONE|DIGIT TWO",
       "DIGIT THREE|DIGIT FOUR|DIGIT FIVE|DIGIT SIX",
       "DIGIT SEVEN|DIGIT EIGHT|DIGIT NINE",
       "SIGN LITTLE SECTION|SIGN SECTION|SYMBOL LOCATIVE",
       "SYMBOL COMPLETED|SYMBOL AFOREMENTIONED",
       "SYMBOL GENITIVE|LETTER SHA|LETTER SSA"]⟩,
    ⟨0x1052, "MYANMAR LETTER VOCALIC ", ["R|RR|L|LL"]⟩,
    ⟨0x1056, "MYANMAR VOWEL SIGN VOCALIC ", ["R|RR|L|LL"]⟩,
    ⟨0x105A, "MYANMAR LETTER MON ", ["NGA|JHA|BBA|BBE"]⟩,
    ⟨0x105E, "MYANMAR CONSONANT SIGN MON MEDIAL ",
      ["NA|MA|LA"]⟩,
    ⟨0x1061, "MYANMAR ",
      ["LETTER SGAW KAREN SHA|VOWEL SIGN SGAW KAREN EU",
       "TONE MARK SGAW KAREN HATHI",
       "TONE MARK SGAW KAREN KE PHO",
       "LETTER WESTERN PWO KAREN THA",
       "LETTER WESTERN PWO KAREN PWA",
       "VOWEL SIGN WESTERN PWO KAREN EU",
       "VOWEL SIGN WESTERN PWO KAREN UE"]⟩,
    ⟨0x1069, "MYANMAR SIGN WESTERN PWO KAREN TONE-",
      ["1|2|3|4|5"]⟩,
    ⟨0x106E, "MYANMAR LETTER EASTERN PWO KAREN ",
      ["NNA|YWA|GHWA"]⟩,
    ⟨0x1071, "MYANMAR VOWEL SIGN ",
      ["GEBA KAREN I|KAYAH OE|KAYAH U|KAYAH EE"]⟩,
    ⟨0x1075, "MYANMAR LETTER SHAN ",
      ["KA|KHA|GA|CA|ZA|NYA|DA|NA|PHA|FA|BA|THA|HA"]⟩,
    ⟨0x1082, "MYANMAR CONSONANT SIGN SHAN MEDIAL ", ["WA"]⟩,
    ⟨0x1083, "MYANMAR VOWEL SIGN SHAN ",
      ["AA|E|E ABOVE|FINAL Y"]⟩,
    ⟨0x1087, "MYANMAR SIGN SHAN ",
      ["TONE-2|TONE-3|TONE-5|TONE-6|COUNCIL TONE-2",
       "COUNCIL TONE-3|COUNCIL EMPHATIC TONE"]⟩,
    ⟨0x108E, "MYANMAR ",
      ["LETTER RUMAI PALAUNG FA|SIGN RUMAI PALAUNG TONE-5"]⟩,
    ⟨0x1090, "MYANMAR SHAN DIGIT ",
      ["ZERO|ONE|TWO|THREE|FOUR|FIVE|SIX|SEVEN|EIGHT|NINE"]⟩,
    ⟨0x109A, "MYANMAR ",
      ["SIGN KHAMTI TONE-1|SIGN KHAMTI TONE-3",
       "VOWEL SIGN AITON A|VOWEL SIGN AITON AI",
       "SYMBOL SHAN ONE|SYMBOL SHAN EXCLAMATION"]⟩]

end Text

end Replay
