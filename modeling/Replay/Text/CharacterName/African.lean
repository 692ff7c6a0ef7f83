import Replay.Text.CharacterName.Run

/-
  This file defines the names of Georgian, Hangul letters,
  and the scripts of Ethiopia, the Cherokee and Canada,
  after Unicode 14.

  Key definitions include:
    * `africanNames`
-/

------------------------------------------------------------
-- Tables
------------------------------------------------------------

namespace Replay

namespace Text

/- Names of letters of Georgia, Ethiopia and others. -/
def africanNames : List NameRun :=
  [
    ⟨0x10A0, "GEORGIAN CAPITAL LETTER ",
      ["AN|BAN|GAN|DON|EN|VIN|ZEN|TAN|IN|KAN|LAS|MAN|NAR|ON",
       "PAR|ZHAR|RAE|SAN|TAR|UN|PHAR|KHAR|GHAN|QAR|SHIN",
       "CHIN|CAN|JIL|CIL|CHAR|XAN|JHAN|HAE|HE|HIE|WE|HAR",
       "HOE"]⟩,
    ⟨0x10C7, "GEORGIAN CAPITAL LETTER ", ["YN"]⟩,
    ⟨0x10CD, "GEORGIAN CAPITAL LETTER ", ["AEN"]⟩,
    ⟨0x10D0, "GEORGIAN LETTER ",
      ["AN|BAN|GAN|DON|EN|VIN|ZEN|TAN|IN|KAN|LAS|MAN|NAR|ON",
       "PAR|ZHAR|RAE|SAN|TAR|UN|PHAR|KHAR|GHAN|QAR|SHIN",
       "CHIN|CAN|JIL|CIL|CHAR|XAN|JHAN|HAE|HE|HIE|WE|HAR",
       "HOE|FI|YN|ELIFI|TURNED GAN|AIN"]⟩,
    ⟨0x10FB, "",
      ["GEORGIAN PARAGRAPH SEPARATOR",
       "MODIFIER LETTER GEORGIAN NAR"]⟩,
    ⟨0x10FD, "GEORGIAN LETTER ",
      ["AEN|HARD SIGN|LABIAL SIGN"]⟩,
    ⟨0x1100, "HANGUL CHOSEONG ",
      ["KIYEOK|SSANGKIYEOK|NIEUN|TIKEUT|SSANGTIKEUT|RIEUL",
       "MIEUM|PIEUP|SSANGPIEUP|SIOS|SSANGSIOS|IEUNG|CIEUC",
       "SSANGCIEUC|CHIEUCH|KHIEUKH|THIEUTH|PHIEUPH|HIEUH",
       "NIEUN-KIYEOK|SSANGNIEUN|NIEUN-TIKEUT|NIEUN-PIEUP",
       "TIKEUT-KIYEOK|RIEUL-NIEUN|SSANGRIEUL|RIEUL-HIEUH",
       "KAPYEOUNRIEUL|MIEUM-PIEUP|KAPYEOUNMIEUM",
       "PIEUP-KIYEOK|PIEUP-NIEUN|PIEUP-TIKEUT|PIEUP-SIOS",
       "PIEUP-SIOS-KIYEOK|PIEUP-SIOS-TIKEUT",
       "PIEUP-SIOS-PIEUP|PIEUP-SSANGSIOS|PIEUP-SIOS-CIEUC",
       "PIEUP-CIEUC|PIEUP-CHIEUCH|PIEUP-THIEUTH",
       "PIEUP-PHIEUPH|KAPYEOUNPIEUP|KAPYEOUNSSANGPIEUP",
       "SIOS-KIYEOK|SIOS-NIEUN|SIOS-TIKEUT|SIOS-RIEUL",
       "SIOS-MIEUM|SIOS-PIEUP|SIOS-PIEUP-KIYEOK",
       "SIOS-SSANGSIOS|SIOS-IEUNG|SIOS-CIEUC|SIOS-CHIEUCH",
       "SIOS-KHIEUKH|SIOS-THIEUTH|SIOS-PHIEUPH|SIOS-HIEUH",
       "CHITUEUMSIOS|CHITUEUMSSANGSIOS|CEONGCHIEUMSIOS",
       "CEONGCHIEUMSSANGSIOS|PANSIOS|IEUNG-KIYEOK",
       "IEUNG-TIKEUT|IEUNG-MIEUM|IEUNG-PIEUP|IEUNG-SIOS",
       "IEUNG-PANSIOS|SSANGIEUNG|IEUNG-CIEUC|IEUNG-CHIEUCH",
       "IEUNG-THIEUTH|IEUNG-PHIEUPH|YESIEUNG|CIEUC-IEUNG",
       "CHITUEUMCIEUC|CHITUEUMSSANGCIEUC|CEONGCHIEUMCIEUC",
       "CEONGCHIEUMSSANGCIEUC|CHIEUCH-KHIEUKH|CHIEUCH-HIEUH",
       "CHITUEUMCHIEUCH|CEONGCHIEUMCHIEUCH|PHIEUPH-PIEUP",
       "KAPYEOUNPHIEUPH|SSANGHIEUH|YEORINHIEUH",
       "KIYEOK-TIKEUT|NIEUN-SIOS|NIEUN-CIEUC|NIEUN-HIEUH",
       "TIKEUT-RIEUL|FILLER"]⟩,
    ⟨0x1160, "HANGUL JUNGSEONG ",
      ["FILLER|A|AE|YA|YAE|EO|E|YEO|YE|O|WA|WAE|OE|YO|U|WEO",
       "WE|WI|YU|EU|YI|I|A-O|A-U|YA-O|YA-YO|EO-O|EO-U|EO-EU",
       "YEO-O|YEO-U|O-EO|O-E|O-YE|O-O|O-U|YO-YA|YO-YAE",
       "YO-YEO|YO-O|YO-I|U-A|U-AE|U-EO-EU|U-YE|U-U|YU-A",
       "YU-EO|YU-E|YU-YEO|YU-YE|YU-U|YU-I|EU-U|EU-EU|YI-U",
       "I-A|I-YA|I-O|I-U|I-EU|I-ARAEA|ARAEA|ARAEA-EO",
       "ARAEA-U|ARAEA-I|SSANGARAEA|A-EU|YA-U|YEO-YA|O-YA",
       "O-YAE"]⟩,
    ⟨0x11A8, "HANGUL JONGSEONG ",
      ["KIYEOK|SSANGKIYEOK|KIYEOK-SIOS|NIEUN|NIEUN-CIEUC",
       "NIEUN-HIEUH|TIKEUT|RIEUL|RIEUL-KIYEOK|RIEUL-MIEUM",
       "RIEUL-PIEUP|RIEUL-SIOS|RIEUL-THIEUTH|RIEUL-PHIEUPH",
       "RIEUL-HIEUH|MIEUM|PIEUP|PIEUP-SIOS|SIOS|SSANGSIOS",
       "IEUNG|CIEUC|CHIEUCH|KHIEUKH|THIEUTH|PHIEUPH|HIEUH",
       "KIYEOK-RIEUL|KIYEOK-SIOS-KIYEOK|NIEUN-KIYEOK",
       "NIEUN-TIKEUT|NIEUN-SIOS|NIEUN-PANSIOS|NIEUN-THIEUTH",
       "TIKEUT-KIYEOK|TIKEUT-RIEUL|RIEUL-KIYEOK-SIOS",
       "RIEUL-NIEUN|RIEUL-TIKEUT|RIEUL-TIKEUT-HIEUH",
       "SSANGRIEUL|RIEUL-MIEUM-KIYEOK|RIEUL-MIEUM-SIOS",
       "RIEUL-PIEUP-SIOS|RIEUL-PIEUP-HIEUH",
       "RIEUL-KAPYEOUNPIEUP|RIEUL-SSANGSIOS|RIEUL-PANSIOS",
       "RIEUL-KHIEUKH|RIEUL-YEORINHIEUH|MIEUM-KIYEOK",
       "MIEUM-RIEUL|MIEUM-PIEUP|MIEUM-SIOS|MIEUM-SSANGSIOS",
       "MIEUM-PANSIOS|MIEUM-CHIEUCH|MIEUM-HIEUH",
       "KAPYEOUNMIEUM|PIEUP-RIEUL|PIEUP-PHIEUPH|PIEUP-HIEUH",
       "KAPYEOUNPIEUP|SIOS-KIYEOK|SIOS-TIKEUT|SIOS-RIEUL",
       "SIOS-PIEUP|PANSIOS|IEUNG-KIYEOK|IEUNG-SSANGKIYEOK",
       "SSANGIEUNG|IEUNG-KHIEUKH|YESIEUNG|YESIEUNG-SIOS",
       "YESIEUNG-PANSIOS|PHIEUPH-PIEUP|KAPYEOUNPHIEUPH",
       "HIEUH-NIEUN|HIEUH-RIEUL|HIEUH-MIEUM|HIEUH-PIEUP",
       "YEORINHIEUH|KIYEOK-NIEUN|KIYEOK-PIEUP",
       "KIYEOK-CHIEUCH|KIYEOK-KHIEUKH|KIYEOK-HIEUH",
       "SSANGNIEUN"]⟩,
    ⟨0x1200, "ETHIOPIC SYLLABLE ",
      ["HA|HU|HI|HAA|HEE|HE|HO|HOA|LA|LU|LI|LAA|LEE|LE|LO",
       "LWA|HHA|HHU|HHI|HHAA|HHEE|HHE|HHO|HHWA|MA|MU|MI|MAA",
       "MEE|ME|MO|MWA|SZA|SZU|SZI|SZAA|SZEE|SZE|SZO|SZWA|RA",
       "RU|RI|RAA|REE|RE|RO|RWA|SA|SU|SI|SAA|SEE|SE|SO|SWA",
       "SHA|SHU|SHI|SHAA|SHEE|SHE|SHO|SHWA|QA|QU|QI|QAA|QEE",
       "QE|QO|QOA|QWA"]⟩,
    ⟨0x124A, "ETHIOPIC SYLLABLE ", ["QWI|QWAA|QWEE|QWE"]⟩,
    ⟨0x1250, "ETHIOPIC SYLLABLE ",
      ["QHA|QHU|QHI|QHAA|QHEE|QHE|QHO"]⟩,
    ⟨0x1258, "ETHIOPIC SYLLABLE ", ["QHWA"]⟩,
    ⟨0x125A, "ETHIOPIC SYLLABLE ",
      ["QHWI|QHWAA|QHWEE|QHWE"]⟩,
    ⟨0x1260, "ETHIOPIC SYLLABLE ",
      ["BA|BU|BI|BAA|BEE|BE|BO|BWA|VA|VU|VI|VAA|VEE|VE|VO",
       "VWA|TA|TU|TI|TAA|TEE|TE|TO|TWA|CA|CU|CI|CAA|CEE|CE",
       "CO|CWA|XA|XU|XI|XAA|XEE|XE|XO|XOA|XWA"]⟩,
    ⟨0x128A, "ETHIOPIC SYLLABLE ", ["XWI|XWAA|XWEE|XWE"]⟩,
    ⟨0x1290, "ETHIOPIC SYLLABLE ",
      ["NA|NU|NI|NAA|NEE|NE|NO|NWA|NYA|NYU|NYI|NYAA|NYEE",
       "NYE|NYO|NYWA|GLOTTAL A|GLOTTAL U|GLOTTAL I",
       "GLOTTAL AA|GLOTTAL EE|GLOTTAL E|GLOTTAL O",
       "GLOTTAL WA|KA|KU|KI|KAA|KEE|KE|KO|KOA|KWA"]⟩,
    ⟨0x12B2, "ETHIOPIC SYLLABLE ", ["KWI|KWAA|KWEE|KWE"]⟩,
    ⟨0x12B8, "ETHIOPIC SYLLABLE ",
      ["KXA|KXU|KXI|KXAA|KXEE|KXE|KXO"]⟩,
    ⟨0x12C0, "ETHIOPIC SYLLABLE ", ["KXWA"]⟩,
    ⟨0x12C2, "ETHIOPIC SYLLABLE ",
      ["KXWI|KXWAA|KXWEE|KXWE"]⟩,
    ⟨0x12C8, "ETHIOPIC SYLLABLE ",
      ["WA|WU|WI|WAA|WEE|WE|WO|WOA"]⟩,
    ⟨0x12D0, "ETHIOPIC SYLLABLE PHARYNGEAL ",
      ["A|U|I|AA|EE|E|O"]⟩,
    ⟨0x12D8, "ETHIOPIC SYLLABLE ",
      ["ZA|ZU|ZI|ZAA|ZEE|ZE|ZO|ZWA|ZHA|ZHU|ZHI|ZHAA|ZHEE",
       "ZHE|ZHO|ZHWA|YA|YU|YI|YAA|YEE|YE|YO|YOA|DA|DU|DI",
       "DAA|DEE|DE|DO|DWA|DDA|DDU|DDI|DDAA|DDEE|DDE|DDO",
       "DDWA|JA|JU|JI|JAA|JEE|JE|JO|JWA|GA|GU|GI|GAA|GEE|GE",
       "GO|GOA|GWA"]⟩,
    ⟨0x1312, "ETHIOPIC SYLLABLE ", ["GWI|GWAA|GWEE|GWE"]⟩,
    ⟨0x1318, "ETHIOPIC SYLLABLE ",
      ["GGA|GGU|GGI|GGAA|GGEE|GGE|GGO|GGWAA|THA|THU|THI",
       "THAA|THEE|THE|THO|THWA|CHA|CHU|CHI|CHAA|CHEE|CHE",
       "CHO|CHWA|PHA|PHU|PHI|PHAA|PHEE|PHE|PHO|PHWA|TSA|TSU",
       "TSI|TSAA|TSEE|TSE|TSO|TSWA|TZA|TZU|TZI|TZAA|TZEE",
       "TZE|TZO|TZOA|FA|FU|FI|FAA|FEE|FE|FO|FWA|PA|PU|PI",
       "PAA|PEE|PE|PO|PWA|RYA|MYA|FYA"]⟩,
    ⟨0x135D, "ETHIOPIC ",
      ["COMBINING GEMINATION AND VOWEL LENGTH MARK",
       "COMBINING VOWEL LENGTH MARK",
       "COMBINING GEMINATION MARK|SECTION MARK|WORDSPACE",
       "FULL STOP|COMMA|SEMICOLON|COLON|PREFACE COLON",
       "QUESTION MARK|PARAGRAPH SEPARATOR"]⟩,
    ⟨0x1369, "ETHIOPIC DIGIT ",
      ["ONE|TWO|THREE|FOUR|FIVE|SIX|SEVEN|EIGHT|NINE"]⟩,
    ⟨0x1372, "ETHIOPIC NUMBER ",
      ["TEN|TWENTY|THIRTY|FORTY|FIFTY|SIXTY|SEVENTY|EIGHTY",
       "NINETY|HUNDRED|TEN THOUSAND"]⟩,
    ⟨0x1380, "ETHIOPIC SYLLABLE ",
      ["SEBATBEIT MWA|MWI|MWEE|MWE|SEBATBEIT BWA|BWI|BWEE",
       "BWE|SEBATBEIT FWA|FWI|FWEE|FWE|SEBATBEIT PWA|PWI",
       "PWEE|PWE"]⟩,
    ⟨0x1390, "ETHIOPIC TONAL MARK ",
      ["YIZET|DERET|RIKRIK|SHORT RIKRIK|DIFAT|KENAT|CHIRET",
       "HIDET|DERET-HIDET|KURT"]⟩,
    ⟨0x13A0, "CHEROKEE LETTER ",
      ["A|E|I|O|U|V|GA|KA|GE|GI|GO|GU|GV|HA|HE|HI|HO|HU|HV",
       "LA|LE|LI|LO|LU|LV|MA|ME|MI|MO|MU|NA|HNA|NAH|NE|NI",
       "NO|NU|NV|QUA|QUE|QUI|QUO|QUU|QUV|SA|S|SE|SI|SO|SU",
       "SV|DA|TA|DE|TE|DI|TI|DO|DU|DV|DLA|TLA|TLE|TLI|TLO",
       "TLU|TLV|TSA|TSE|TSI|TSO|TSU|TSV|WA|WE|WI|WO|WU|WV",
       "YA|YE|YI|YO|YU|YV|MV"]⟩,
    ⟨0x13F8, "CHEROKEE SMALL LETTER ",
      ["YE|YI|YO|YU|YV|MV"]⟩,
    ⟨0x1400, "CANADIAN SYLLABICS ",
      ["HYPHEN|E|AAI|I|II|O|OO|Y-CREE OO|CARRIER EE",
       "CARRIER I|A|AA|WE|WEST-CREE WE|WI|WEST-CREE WI|WII",
       "WEST-CREE WII|WO|WEST-CREE WO|WOO|WEST-CREE WOO",
       "NASKAPI WOO|WA|WEST-CREE WA|WAA|WEST-CREE WAA",
       "NASKAPI WAA|AI|Y-CREE W|GLOTTAL STOP|FINAL ACUTE",
       "FINAL GRAVE|FINAL BOTTOM HALF RING",
       "FINAL TOP HALF RING|FINAL RIGHT HALF RING",
       "FINAL RING|FINAL DOUBLE ACUTE",
       "FINAL DOUBLE SHORT VERTICAL STROKES",
       "FINAL MIDDLE DOT|FINAL SHORT HORIZONTAL STROKE",
       "FINAL PLUS|FINAL DOWN TACK|EN|IN|ON|AN|PE|PAAI|PI",
       "PII|PO|POO|Y-CREE POO|CARRIER HEE|CARRIER HI|PA|PAA",
       "PWE|WEST-CREE PWE|PWI|WEST-CREE PWI|PWII",
       "WEST-CREE PWII|PWO|WEST-CREE PWO|PWOO",
       "WEST-CREE PWOO|PWA|WEST-CREE PWA|PWAA",
       "WEST-CREE PWAA|Y-CREE PWAA|P|WEST-CREE P|CARRIER H",
       "TE|TAAI|TI|TII|TO|TOO|Y-CREE TOO|CARRIER DEE",
       "CARRIER DI|TA|TAA|TWE|WEST-CREE TWE|TWI",
       "WEST-CREE TWI|TWII|WEST-CREE TWII|TWO|WEST-CREE TWO",
       "TWOO|WEST-CREE TWOO|TWA|WEST-CREE TWA|TWAA",
       "WEST-CREE TWAA|NASKAPI TWAA|T|TTE|TTI|TTO|TTA|KE",
       "KAAI|KI|KII|KO|KOO|Y-CREE KOO|KA|KAA|KWE",
       "WEST-CREE KWE|KWI|WEST-CREE KWI|KWII|WEST-CREE KWII",
       "KWO|WEST-CREE KWO|KWOO|WEST-CREE KWOO|KWA",
       "WEST-CREE KWA|KWAA|WEST-CREE KWAA|NASKAPI KWAA|K|KW",
       "SOUTH-SLAVEY KEH|SOUTH-SLAVEY KIH|SOUTH-SLAVEY KOH",
       "SOUTH-SLAVEY KAH|CE|CAAI|CI|CII|CO|COO|Y-CREE COO",
       "CA|CAA|CWE|WEST-CREE CWE|CWI|WEST-CREE CWI|CWII",
       "WEST-CREE CWII|CWO|WEST-CREE CWO|CWOO",
       "WEST-CREE CWOO|CWA|WEST-CREE CWA|CWAA",
       "WEST-CREE CWAA|NASKAPI CWAA|C|SAYISI TH|ME|MAAI|MI",
       "MII|MO|MOO|Y-CREE MOO|MA|MAA|MWE|WEST-CREE MWE|MWI",
       "WEST-CREE MWI|MWII|WEST-CREE MWII|MWO|WEST-CREE MWO",
       "MWOO|WEST-CREE MWOO|MWA|WEST-CREE MWA|MWAA",
       "WEST-CREE MWAA|NASKAPI MWAA|M|WEST-CREE M|MH",
       "ATHAPASCAN M|SAYISI M|NE|NAAI|NI|NII|NO|NOO",
       "Y-CREE NOO|NA|NAA|NWE|WEST-CREE NWE|NWA",
       "WEST-CREE NWA|NWAA|WEST-CREE NWAA|NASKAPI NWAA|N",
       "CARRIER NG|NH|LE|LAAI|LI|LII|LO|LOO|Y-CREE LOO|LA",
       "LAA|LWE|WEST-CREE LWE|LWI|WEST-CREE LWI|LWII",
       "WEST-CREE LWII|LWO|WEST-CREE LWO|LWOO",
       "WEST-CREE LWOO|LWA|WEST-CREE LWA|LWAA",
       "WEST-CREE LWAA|L|WEST-CREE L|MEDIAL L|SE|SAAI|SI",
       "SII|SO|SOO|Y-CREE SOO|SA|SAA|SWE|WEST-CREE SWE|SWI",
       "WEST-CREE SWI|SWII|WEST-CREE SWII|SWO|WEST-CREE SWO",
       "SWOO|WEST-CREE SWOO|SWA|WEST-CREE SWA|SWAA",
       "WEST-CREE SWAA|NASKAPI SWAA|S|ATHAPASCAN S|SW",
       "BLACKFOOT S|MOOSE-CREE SK|NASKAPI SKW|NASKAPI S-W",
       "NASKAPI SPWA|NASKAPI STWA|NASKAPI SKWA|NASKAPI SCWA",
       "SHE|SHI|SHII|SHO|SHOO|SHA|SHAA|SHWE|WEST-CREE SHWE",
       "SHWI|WEST-CREE SHWI|SHWII|WEST-CREE SHWII|SHWO",
       "WEST-CREE SHWO|SHWOO|WEST-CREE SHWOO|SHWA",
       "WEST-CREE SHWA|SHWAA|WEST-CREE SHWAA|SH|YE|YAAI|YI",
       "YII|YO"]⟩,
    ⟨0x152B, "CANADIAN SYLLABICS ",
      ["YOO|Y-CREE YOO|YA|YAA|YWE|WEST-CREE YWE|YWI",
       "WEST-CREE YWI|YWII|WEST-CREE YWII|YWO|WEST-CREE YWO",
       "YWOO|WEST-CREE YWOO|YWA|WEST-CREE YWA|YWAA",
       "WEST-CREE YWAA|NASKAPI YWAA|Y|BIBLE-CREE Y",
       "WEST-CREE Y|SAYISI YI|RE|R-CREE RE|WEST-CREE LE",
       "RAAI|RI|RII|RO|ROO|WEST-CREE LO|RA|RAA|WEST-CREE LA",
       "RWAA|WEST-CREE RWAA|R|WEST-CREE R|MEDIAL R|FE|FAAI",
       "FI|FII|FO|FOO|FA|FAA|FWAA|WEST-CREE FWAA|F|THE",
       "N-CREE THE|THI|N-CREE THI|THII|N-CREE THII|THO|THOO",
       "THA|THAA|THWAA|WEST-CREE THWAA|TH|TTHE|TTHI|TTHO",
       "TTHA|TTH|TYE|TYI|TYO|TYA|NUNAVIK HE|NUNAVIK HI",
       "NUNAVIK HII|NUNAVIK HO|NUNAVIK HOO|NUNAVIK HA",
       "NUNAVIK HAA|NUNAVIK H|NUNAVUT H|HK|QAAI|QI|QII|QO",
       "QOO|QA|QAA|Q|TLHE|TLHI|TLHO|TLHA|WEST-CREE RE",
       "WEST-CREE RI|WEST-CREE RO|WEST-CREE RA|NGAAI|NGI",
       "NGII|NGO|NGOO|NGA|NGAA|NG|NNG|SAYISI SHE|SAYISI SHI",
       "SAYISI SHO|SAYISI SHA|WOODS-CREE THE|WOODS-CREE THI",
       "WOODS-CREE THO|WOODS-CREE THA|WOODS-CREE TH|LHI",
       "LHII|LHO|LHOO|LHA|LHAA|LH|TH-CREE THE|TH-CREE THI",
       "TH-CREE THII|TH-CREE THO|TH-CREE THOO|TH-CREE THA",
       "TH-CREE THAA|TH-CREE TH|AIVILIK B"]⟩,
    ⟨0x15B0, "CANADIAN SYLLABICS BLACKFOOT ",
      ["E|I|O|A|WE|WI|WO|WA|NE|NI|NO|NA|KE|KI|KO|KA"]⟩,
    ⟨0x15C0, "CANADIAN SYLLABICS SAYISI ", ["HE|HI|HO|HA"]⟩,
    ⟨0x15C4, "CANADIAN SYLLABICS CARRIER ",
      ["GHU|GHO|GHE|GHEE|GHI|GHA|RU|RO|RE|REE|RI|RA|WU|WO",
       "WE|WEE|WI|WA|HWU|HWO|HWE|HWEE|HWI|HWA|THU|THO|THE",
       "THEE|THI|THA|TTU|TTO|TTE|TTEE|TTI|TTA|PU|PO|PE|PEE",
       "PI|PA|P|GU|GO|GE|GEE|GI|GA|KHU|KHO|KHE|KHEE|KHI|KHA",
       "KKU|KKO|KKE|KKEE|KKI|KKA|KK|NU|NO|NE|NEE|NI|NA|MU",
       "MO|ME|MEE|MI|MA|YU|YO|YE|YEE|YI|YA|JU"]⟩,
    ⟨0x1615, "CANADIAN SYLLABICS ",
      ["SAYISI JU|CARRIER JO|CARRIER JE|CARRIER JEE",
       "CARRIER JI|SAYISI JI"]⟩,
    ⟨0x161B, "CANADIAN SYLLABICS CARRIER ",
      ["JA|JJU|JJO|JJE|JJEE|JJI|JJA|LU|LO|LE|LEE|LI|LA|DLU",
       "DLO|DLE|DLEE|DLI|DLA|LHU|LHO|LHE|LHEE|LHI|LHA|TLHU",
       "TLHO|TLHE|TLHEE|TLHI|TLHA|TLU|TLO|TLE|TLEE|TLI|TLA",
       "ZU|ZO|ZE|ZEE|ZI|ZA|Z|INITIAL Z|DZU|DZO|DZE|DZEE|DZI",
       "DZA|SU|SO|SE|SEE|SI|SA|SHU|SHO|SHE|SHEE|SHI|SHA|SH",
       "TSU|TSO|TSE|TSEE|TSI|TSA|CHU|CHO|CHE|CHEE|CHI|CHA",
       "TTSU|TTSO|TTSE|TTSEE|TTSI|TTSA"]⟩,
    ⟨0x166D, "CANADIAN SYLLABICS ",
      ["CHI SIGN|FULL STOP|QAI|NGAI|NNGI|NNGII|NNGO|NNGOO",
       "NNGA|NNGAA|WOODS-CREE THWEE|WOODS-CREE THWI",
       "WOODS-CREE THWII|WOODS-CREE THWO|WOODS-CREE THWOO",
       "WOODS-CREE THWA|WOODS-CREE THWAA",
       "WOODS-CREE FINAL TH|BLACKFOOT W"]⟩]

end Text

end Replay
