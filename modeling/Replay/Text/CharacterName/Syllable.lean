import Replay.Text.CharacterName.Run

/-
  This file defines the names of the syllables of the Yi and
  the Vai, after Unicode 14.

  Key definitions include:
    * `syllableNames`
-/

------------------------------------------------------------
-- Tables
------------------------------------------------------------

namespace Replay

namespace Text

/- Names of syllables of the Yi and the Vai. -/
def syllableNames : List NameRun :=
  [
    ⟨0x4DC0, "HEXAGRAM FOR ",
      ["THE CREATIVE HEAVEN|THE RECEPTIVE EARTH",
       "DIFFICULTY AT THE BEGINNING|YOUTHFUL FOLLY|WAITING",
       "CONFLICT|THE ARMY|HOLDING TOGETHER|SMALL TAMING",
       "TREADING|PEACE|STANDSTILL|FELLOWSHIP",
       "GREAT POSSESSION|MODESTY|ENTHUSIASM|FOLLOWING",
       "WORK ON THE DECAYED|APPROACH|CONTEMPLATION",
       "BITING THROUGH|GRACE|SPLITTING APART|RETURN",
       "INNOCENCE|GREAT TAMING|MOUTH CORNERS",
       "GREAT PREPONDERANCE|THE ABYSMAL WATER",
       "THE CLINGING FIRE|INFLUENCE|DURATION|RETREAT",
       "GREAT POWER|PROGRESS|DARKENING OF THE LIGHT",
       "THE FAMILY|OPPOSITION|OBSTRUCTION|DELIVERANCE",
       "DECREASE|INCREASE|BREAKTHROUGH|COMING TO MEET",
       "GATHERING TOGETHER|PUSHING UPWARD|OPPRESSION",
       "THE WELL|REVOLUTION|THE CAULDRON",
       "THE AROUSING THUNDER|THE KEEPING STILL MOUNTAIN",
       "DEVELOPMENT|THE MARRYING MAIDEN|ABUNDANCE",
       "THE WANDERER|THE GENTLE WIND|THE JOYOUS LAKE",
       "DISPERSION|LIMITATION|INNER TRUTH",
       "SMALL PREPONDERANCE|AFTER COMPLETION",
       "BEFORE COMPLETION"]⟩,
    ⟨0xA000, "YI SYLLABLE ",
      ["IT|IX|I|IP|IET|IEX|IE|IEP|AT|AX|A|AP|UOX|UO|UOP|OT",
       "OX|O|OP|EX|E|WU|BIT|BIX|BI|BIP|BIET|BIEX|BIE|BIEP",
       "BAT|BAX|BA|BAP|BUOX|BUO|BUOP|BOT|BOX|BO|BOP|BEX|BE",
       "BEP|BUT|BUX|BU|BUP|BURX|BUR|BYT|BYX|BY|BYP|BYRX|BYR",
       "PIT|PIX|PI|PIP|PIEX|PIE|PIEP|PAT|PAX|PA|PAP|PUOX",
       "PUO|PUOP|POT|POX|PO|POP|PUT|PUX|PU|PUP|PURX|PUR|PYT",
       "PYX|PY|PYP|PYRX|PYR|BBIT|BBIX|BBI|BBIP|BBIET|BBIEX",
       "BBIE|BBIEP|BBAT|BBAX|BBA|BBAP|BBUOX|BBUO|BBUOP|BBOT",
       "BBOX|BBO|BBOP|BBEX|BBE|BBEP|BBUT|BBUX|BBU|BBUP",
       "BBURX|BBUR|BBYT|BBYX|BBY|BBYP|NBIT|NBIX|NBI|NBIP",
       "NBIEX|NBIE|NBIEP|NBAT|NBAX|NBA|NBAP|NBOT|NBOX|NBO",
       "NBOP|NBUT|NBUX|NBU|NBUP|NBURX|NBUR|NBYT|NBYX|NBY",
       "NBYP|NBYRX|NBYR|HMIT|HMIX|HMI|HMIP|HMIEX|HMIE|HMIEP",
       "HMAT|HMAX|HMA|HMAP|HMUOX|HMUO|HMUOP|HMOT|HMOX|HMO",
       "HMOP|HMUT|HMUX|HMU|HMUP|HMURX|HMUR|HMYX|HMY|HMYP",
       "HMYRX|HMYR|MIT|MIX|MI|MIP|MIEX|MIE|MIEP|MAT|MAX|MA",
       "MAP|MUOT|MUOX|MUO|MUOP|MOT|MOX|MO|MOP|MEX|ME|MUT",
       "MUX|MU|MUP|MURX|MUR|MYT|MYX|MY|MYP|FIT|FIX|FI|FIP",
       "FAT|FAX|FA|FAP|FOX|FO|FOP|FUT|FUX|FU|FUP|FURX|FUR",
       "FYT|FYX|FY|FYP|VIT|VIX|VI|VIP|VIET|VIEX|VIE|VIEP",
       "VAT|VAX|VA|VAP|VOT|VOX|VO|VOP|VEX|VEP|VUT|VUX|VU",
       "VUP|VURX|VUR|VYT|VYX|VY|VYP|VYRX|VYR|DIT|DIX|DI|DIP",
       "DIEX|DIE|DIEP|DAT|DAX|DA|DAP|DUOX|DUO|DOT|DOX|DO",
       "DOP|DEX|DE|DEP|DUT|DUX|DU|DUP|DURX|DUR|TIT|TIX|TI",
       "TIP|TIEX|TIE|TIEP|TAT|TAX|TA|TAP|TUOT|TUOX|TUO|TUOP",
       "TOT|TOX"]⟩,
    ⟨0xA12B, "YI SYLLABLE ",
      ["TO|TOP|TEX|TE|TEP|TUT|TUX|TU|TUP|TURX|TUR|DDIT|DDIX",
       "DDI|DDIP|DDIEX|DDIE|DDIEP|DDAT|DDAX|DDA|DDAP|DDUOX",
       "DDUO|DDUOP|DDOT|DDOX|DDO|DDOP|DDEX|DDE|DDEP|DDUT",
       "DDUX|DDU|DDUP|DDURX|DDUR|NDIT|NDIX|NDI|NDIP|NDIEX",
       "NDIE|NDAT|NDAX|NDA|NDAP|NDOT|NDOX|NDO|NDOP|NDEX|NDE",
       "NDEP|NDUT|NDUX|NDU|NDUP|NDURX|NDUR|HNIT|HNIX|HNI",
       "HNIP|HNIET|HNIEX|HNIE|HNIEP|HNAT|HNAX|HNA|HNAP",
       "HNUOX|HNUO|HNOT|HNOX|HNOP|HNEX|HNE|HNEP|HNUT|NIT",
       "NIX|NI|NIP|NIEX|NIE|NIEP|NAX|NA|NAP|NUOX|NUO|NUOP",
       "NOT|NOX|NO|NOP|NEX|NE|NEP|NUT|NUX|NU|NUP|NURX|NUR",
       "HLIT|HLIX|HLI|HLIP|HLIEX|HLIE|HLIEP|HLAT|HLAX|HLA",
       "HLAP|HLUOX|HLUO|HLUOP|HLOX|HLO|HLOP|HLEX|HLE|HLEP",
       "HLUT|HLUX|HLU|HLUP|HLURX|HLUR|HLYT|HLYX|HLY|HLYP",
       "HLYRX|HLYR|LIT|LIX|LI|LIP|LIET|LIEX|LIE|LIEP|LAT",
       "LAX|LA|LAP|LUOT|LUOX|LUO|LUOP|LOT|LOX|LO|LOP|LEX|LE",
       "LEP|LUT|LUX|LU|LUP|LURX|LUR|LYT|LYX|LY|LYP|LYRX|LYR",
       "GIT|GIX|GI|GIP|GIET|GIEX|GIE|GIEP|GAT|GAX|GA|GAP",
       "GUOT|GUOX|GUO|GUOP|GOT|GOX|GO|GOP|GET|GEX|GE|GEP",
       "GUT|GUX|GU|GUP|GURX|GUR|KIT|KIX|KI|KIP|KIEX|KIE",
       "KIEP|KAT|KAX|KA|KAP|KUOX|KUO|KUOP|KOT|KOX|KO|KOP",
       "KET|KEX|KE|KEP|KUT|KUX|KU|KUP|KURX|KUR|GGIT|GGIX",
       "GGI|GGIEX|GGIE|GGIEP|GGAT|GGAX|GGA|GGAP|GGUOT|GGUOX",
       "GGUO|GGUOP|GGOT|GGOX|GGO|GGOP|GGET|GGEX|GGE|GGEP",
       "GGUT|GGUX|GGU|GGUP|GGURX|GGUR|MGIEX|MGIE|MGAT|MGAX",
       "MGA|MGAP|MGUOX|MGUO|MGUOP|MGOT|MGOX|MGO|MGOP|MGEX",
       "MGE|MGEP|MGUT|MGUX|MGU|MGUP|MGURX|MGUR|HXIT|HXIX",
       "HXI|HXIP|HXIET|HXIEX|HXIE|HXIEP|HXAT|HXAX|HXA|HXAP",
       "HXUOT|HXUOX|HXUO|HXUOP"]⟩,
    ⟨0xA256, "YI SYLLABLE ",
      ["HXOT|HXOX|HXO|HXOP|HXEX|HXE|HXEP|NGIEX|NGIE|NGIEP",
       "NGAT|NGAX|NGA|NGAP|NGUOT|NGUOX|NGUO|NGOT|NGOX|NGO",
       "NGOP|NGEX|NGE|NGEP|HIT|HIEX|HIE|HAT|HAX|HA|HAP|HUOT",
       "HUOX|HUO|HUOP|HOT|HOX|HO|HOP|HEX|HE|HEP|WAT|WAX|WA",
       "WAP|WUOX|WUO|WUOP|WOX|WO|WOP|WEX|WE|WEP|ZIT|ZIX|ZI",
       "ZIP|ZIEX|ZIE|ZIEP|ZAT|ZAX|ZA|ZAP|ZUOX|ZUO|ZUOP|ZOT",
       "ZOX|ZO|ZOP|ZEX|ZE|ZEP|ZUT|ZUX|ZU|ZUP|ZURX|ZUR|ZYT",
       "ZYX|ZY|ZYP|ZYRX|ZYR|CIT|CIX|CI|CIP|CIET|CIEX|CIE",
       "CIEP|CAT|CAX|CA|CAP|CUOX|CUO|CUOP|COT|COX|CO|COP",
       "CEX|CE|CEP|CUT|CUX|CU|CUP|CURX|CUR|CYT|CYX|CY|CYP",
       "CYRX|CYR|ZZIT|ZZIX|ZZI|ZZIP|ZZIET|ZZIEX|ZZIE|ZZIEP",
       "ZZAT|ZZAX|ZZA|ZZAP|ZZOX|ZZO|ZZOP|ZZEX|ZZE|ZZEP|ZZUX",
       "ZZU|ZZUP|ZZURX|ZZUR|ZZYT|ZZYX|ZZY|ZZYP|ZZYRX|ZZYR",
       "NZIT|NZIX|NZI|NZIP|NZIEX|NZIE|NZIEP|NZAT|NZAX|NZA",
       "NZAP|NZUOX|NZUO|NZOX|NZOP|NZEX|NZE|NZUX|NZU|NZUP",
       "NZURX|NZUR|NZYT|NZYX|NZY|NZYP|NZYRX|NZYR|SIT|SIX|SI",
       "SIP|SIEX|SIE|SIEP|SAT|SAX|SA|SAP|SUOX|SUO|SUOP|SOT",
       "SOX|SO|SOP|SEX|SE|SEP|SUT|SUX|SU|SUP|SURX|SUR|SYT",
       "SYX|SY|SYP|SYRX|SYR|SSIT|SSIX|SSI|SSIP|SSIEX|SSIE",
       "SSIEP|SSAT|SSAX|SSA|SSAP|SSOT|SSOX|SSO|SSOP|SSEX",
       "SSE|SSEP|SSUT|SSUX|SSU|SSUP|SSYT|SSYX|SSY|SSYP",
       "SSYRX|SSYR|ZHAT|ZHAX|ZHA|ZHAP|ZHUOX|ZHUO|ZHUOP|ZHOT",
       "ZHOX|ZHO|ZHOP|ZHET|ZHEX|ZHE|ZHEP|ZHUT|ZHUX|ZHU|ZHUP",
       "ZHURX|ZHUR|ZHYT|ZHYX|ZHY|ZHYP|ZHYRX|ZHYR|CHAT|CHAX",
       "CHA|CHAP|CHUOT|CHUOX|CHUO|CHUOP|CHOT|CHOX|CHO|CHOP",
       "CHET|CHEX|CHE|CHEP|CHUX|CHU|CHUP|CHURX|CHUR|CHYT",
       "CHYX|CHY|CHYP|CHYRX|CHYR|RRAX|RRA|RRUOX|RRUO|RROT"]⟩,
    ⟨0xA381, "YI SYLLABLE ",
      ["RROX|RRO|RROP|RRET|RREX|RRE|RREP|RRUT|RRUX|RRU|RRUP",
       "RRURX|RRUR|RRYT|RRYX|RRY|RRYP|RRYRX|RRYR|NRAT|NRAX",
       "NRA|NRAP|NROX|NRO|NROP|NRET|NREX|NRE|NREP|NRUT|NRUX",
       "NRU|NRUP|NRURX|NRUR|NRYT|NRYX|NRY|NRYP|NRYRX|NRYR",
       "SHAT|SHAX|SHA|SHAP|SHUOX|SHUO|SHUOP|SHOT|SHOX|SHO",
       "SHOP|SHET|SHEX|SHE|SHEP|SHUT|SHUX|SHU|SHUP|SHURX",
       "SHUR|SHYT|SHYX|SHY|SHYP|SHYRX|SHYR|RAT|RAX|RA|RAP",
       "RUOX|RUO|RUOP|ROT|ROX|RO|ROP|REX|RE|REP|RUT|RUX|RU",
       "RUP|RURX|RUR|RYT|RYX|RY|RYP|RYRX|RYR|JIT|JIX|JI|JIP",
       "JIET|JIEX|JIE|JIEP|JUOT|JUOX|JUO|JUOP|JOT|JOX|JO",
       "JOP|JUT|JUX|JU|JUP|JURX|JUR|JYT|JYX|JY|JYP|JYRX|JYR",
       "QIT|QIX|QI|QIP|QIET|QIEX|QIE|QIEP|QUOT|QUOX|QUO",
       "QUOP|QOT|QOX|QO|QOP|QUT|QUX|QU|QUP|QURX|QUR|QYT|QYX",
       "QY|QYP|QYRX|QYR|JJIT|JJIX|JJI|JJIP|JJIET|JJIEX|JJIE",
       "JJIEP|JJUOX|JJUO|JJUOP|JJOT|JJOX|JJO|JJOP|JJUT|JJUX",
       "JJU|JJUP|JJURX|JJUR|JJYT|JJYX|JJY|JJYP|NJIT|NJIX",
       "NJI|NJIP|NJIET|NJIEX|NJIE|NJIEP|NJUOX|NJUO|NJOT",
       "NJOX|NJO|NJOP|NJUX|NJU|NJUP|NJURX|NJUR|NJYT|NJYX",
       "NJY|NJYP|NJYRX|NJYR|NYIT|NYIX|NYI|NYIP|NYIET|NYIEX",
       "NYIE|NYIEP|NYUOX|NYUO|NYUOP|NYOT|NYOX|NYO|NYOP|NYUT",
       "NYUX|NYU|NYUP|XIT|XIX|XI|XIP|XIET|XIEX|XIE|XIEP",
       "XUOX|XUO|XOT|XOX|XO|XOP|XYT|XYX|XY|XYP|XYRX|XYR|YIT",
       "YIX|YI|YIP|YIET|YIEX|YIE|YIEP|YUOT|YUOX|YUO|YUOP",
       "YOT|YOX|YO|YOP|YUT|YUX|YU|YUP|YURX|YUR|YYT|YYX|YY",
       "YYP|YYRX|YYR"]⟩,
    ⟨0xA490, "YI RADICAL ",
      ["QOT|LI|KIT|NYIP|CYP|SSI|GGOP|GEP|MI|HXIT|LYR|BBUT",
       "MOP|YO|PUT|HXUO|TAT|GA|ZUP|CYT|DDUR|BUR|GGUO|NYOP",
       "TU|OP|JJUT|ZOT|PYT|HMO|YIT|VUR|SHY|VEP|ZA|JO|NZUP",
       "JJY|GOT|JJIE|WO|DU|SHUR|LIE|CY|CUOP|CIP|HXOP|SHAT",
       "ZUR|SHOP|CHE|ZZIET|NBIE|KE"]⟩,
    ⟨0xA4D0, "LISU LETTER ",
      ["BA|PA|PHA|DA|TA|THA|GA|KA|KHA|JA|CA|CHA|DZA|TSA",
       "TSHA|MA|NA|LA|SA|ZHA|ZA|NGA|HA|XA|HHA|FA|WA|SHA|YA",
       "GHA|A|AE|E|EU|I|O|U|UE|UH|OE|TONE MYA TI|TONE NA PO",
       "TONE MYA CYA|TONE MYA BO|TONE MYA NA|TONE MYA JEU"]⟩,
    ⟨0xA4FE, "LISU PUNCTUATION ", ["COMMA|FULL STOP"]⟩,
    ⟨0xA500, "VAI SYLLABLE ",
      ["EE|EEN|HEE|WEE|WEEN|PEE|BHEE|BEE|MBEE|KPEE|MGBEE",
       "GBEE|FEE|VEE|TEE|THEE|DHEE|DHHEE|LEE|REE|DEE|NDEE",
       "SEE|SHEE|ZEE|ZHEE|CEE|JEE|NJEE|YEE|KEE|NGGEE|GEE",
       "MEE|NEE|NYEE|I|IN|HI|HIN|WI|WIN|PI|BHI|BI|MBI|KPI",
       "MGBI|GBI|FI|VI|TI|THI|DHI|DHHI|LI|RI|DI|NDI|SI|SHI",
       "ZI|ZHI|CI|JI|NJI|YI|KI|NGGI|GI|MI|NI|NYI|A|AN|NGAN",
       "HA|HAN|WA|WAN|PA|BHA|BA|MBA|KPA|KPAN|MGBA|GBA|FA|VA",
       "TA|THA|DHA|DHHA|LA|RA|DA|NDA|SA|SHA|ZA|ZHA|CA|JA",
       "NJA|YA|KA|KAN|NGGA|GA|MA|NA|NYA|OO|OON|HOO|WOO|WOON",
       "POO|BHOO|BOO|MBOO|KPOO|MGBOO|GBOO|FOO|VOO|TOO|THOO",
       "DHOO|DHHOO|LOO|ROO|DOO|NDOO|SOO|SHOO|ZOO|ZHOO|COO",
       "JOO|NJOO|YOO|KOO|NGGOO|GOO|MOO|NOO|NYOO|U|UN|HU|HUN",
       "WU|WUN|PU|BHU|BU|MBU|KPU|MGBU|GBU|FU|VU|TU|THU|DHU",
       "DHHU|LU|RU|DU|NDU|SU|SHU|ZU|ZHU|CU|JU|NJU|YU|KU",
       "NGGU|GU|MU|NU|NYU|O|ON|NGON|HO|HON|WO|WON|PO|BHO|BO",
       "MBO|KPO|MGBO|GBO|GBON|FO|VO|TO|THO|DHO|DHHO|LO|RO",
       "DO|NDO|SO|SHO|ZO|ZHO|CO|JO|NJO|YO|KO|NGGO|GO|MO|NO",
       "NYO|E|EN|NGEN|HE|HEN|WE|WEN|PE|BHE|BE|MBE|KPE|KPEN",
       "MGBE|GBE|GBEN|FE|VE|TE|THE|DHE|DHHE|LE|RE|DE|NDE|SE",
       "SHE|ZE|ZHE|CE|JE|NJE|YE|KE|NGGE|NGGEN|GE|GEN|ME|NE",
       "NYE|NG|LENGTHENER"]⟩,
    ⟨0xA60D, "VAI ", ["COMMA|FULL STOP|QUESTION MARK"]⟩,
    ⟨0xA610, "VAI SYLLABLE NDOLE ", ["FA|KA|SOO"]⟩,
    ⟨0xA613, "VAI SYMBOL ",
      ["FEENG|KEENG|TING|NII|BANG|FAA|TAA|DANG|DOONG|KUNG",
       "TONG|DO-O|JONG"]⟩,
    ⟨0xA620, "VAI DIGIT ",
      ["ZERO|ONE|TWO|THREE|FOUR|FIVE|SIX|SEVEN|EIGHT|NINE"]⟩,
    ⟨0xA62A, "VAI SYLLABLE NDOLE ", ["MA|DO"]⟩]

end Text

end Replay
