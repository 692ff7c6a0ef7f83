import Replay.Text.CharacterName.Run

/-
  This file defines the names of historic kana, shorthand
  and chant notation, after Unicode 14.

  Key definitions include:
    * `shorthandNames`
-/

------------------------------------------------------------
-- Tables
------------------------------------------------------------

namespace Replay

namespace Text

/- Names of kana, shorthand and chant notation. -/
def shorthandNames : List NameRun :=
  [
    ⟨0x1B000, "",
      ["KATAKANA LETTER ARCHAIC E",
       "HIRAGANA LETTER ARCHAIC YE"]⟩,
    ⟨0x1B002, "HENTAIGANA LETTER ",
      ["A-1|A-2|A-3|A-WO|I-1|I-2|I-3|I-4|U-1|U-2|U-3|U-4",
       "U-5|E-2|E-3|E-4|E-5|E-6|O-1|O-2|O-3|KA-1|KA-2|KA-3",
       "KA-4|KA-5|KA-6|KA-7|KA-8|KA-9|KA-10|KA-11|KA-KE",
       "KI-1|KI-2|KI-3|KI-4|KI-5|KI-6|KI-7|KI-8|KU-1|KU-2",
       "KU-3|KU-4|KU-5|KU-6|KU-7|KE-1|KE-2|KE-3|KE-4|KE-5",
       "KE-6|KO-1|KO-2|KO-3|KO-KI|SA-1|SA-2|SA-3|SA-4|SA-5",
       "SA-6|SA-7|SA-8|SI-1|SI-2|SI-3|SI-4|SI-5|SI-6|SU-1",
       "SU-2|SU-3|SU-4|SU-5|SU-6|SU-7|SU-8|SE-1|SE-2|SE-3",
       "SE-4|SE-5|SO-1|SO-2|SO-3|SO-4|SO-5|SO-6|SO-7|TA-1",
       "TA-2|TA-3|TA-4|TI-1|TI-2|TI-3|TI-4|TI-5|TI-6|TI-7",
       "TU-1|TU-2|TU-3|TU-4|TU-TO|TE-1|TE-2|TE-3|TE-4|TE-5",
       "TE-6|TE-7|TE-8|TE-9|TO-1|TO-2|TO-3|TO-4|TO-5|TO-6",
       "TO-RA|NA-1|NA-2|NA-3|NA-4|NA-5|NA-6|NA-7|NA-8|NA-9",
       "NI-1|NI-2|NI-3|NI-4|NI-5|NI-6|NI-7|NI-TE|NU-1|NU-2",
       "NU-3|NE-1|NE-2|NE-3|NE-4|NE-5|NE-6|NE-KO|NO-1|NO-2",
       "NO-3|NO-4|NO-5|HA-1|HA-2|HA-3|HA-4|HA-5|HA-6|HA-7",
       "HA-8|HA-9|HA-10|HA-11|HI-1|HI-2|HI-3|HI-4|HI-5|HI-6",
       "HI-7|HU-1|HU-2|HU-3|HE-1|HE-2|HE-3|HE-4|HE-5|HE-6",
       "HE-7|HO-1|HO-2|HO-3|HO-4|HO-5|HO-6|HO-7|HO-8|MA-1",
       "MA-2|MA-3|MA-4|MA-5|MA-6|MA-7|MI-1|MI-2|MI-3|MI-4",
       "MI-5|MI-6|MI-7|MU-1|MU-2|MU-3|MU-4|ME-1|ME-2|ME-MA",
       "MO-1|MO-2|MO-3|MO-4|MO-5|MO-6|YA-1|YA-2|YA-3|YA-4",
       "YA-5|YA-YO|YU-1|YU-2|YU-3|YU-4|YO-1|YO-2|YO-3|YO-4",
       "YO-5|YO-6|RA-1|RA-2|RA-3|RA-4|RI-1|RI-2|RI-3|RI-4",
       "RI-5|RI-6|RI-7|RU-1|RU-2|RU-3|RU-4|RU-5|RU-6|RE-1",
       "RE-2|RE-3|RE-4|RO-1|RO-2|RO-3|RO-4|RO-5|RO-6|WA-1",
       "WA-2|WA-3|WA-4|WA-5|WI-1|WI-2|WI-3|WI-4|WI-5|WE-1",
       "WE-2|WE-3|WE-4|WO-1|WO-2|WO-3|WO-4|WO-5|WO-6|WO-7",
       "N-MU-MO-1|N-MU-MO-2"]⟩,
    ⟨0x1B11F, "HIRAGANA LETTER ARCHAIC ", ["WU"]⟩,
    ⟨0x1B120, "KATAKANA LETTER ARCHAIC ", ["YI|YE|WU"]⟩,
    ⟨0x1B150, "HIRAGANA LETTER SMALL ", ["WI|WE|WO"]⟩,
    ⟨0x1B164, "KATAKANA LETTER SMALL ", ["WI|WE|WO|N"]⟩,
    ⟨0x1BC00, "DUPLOYAN LETTER ",
      ["H|X|P|T|F|K|L|B|D|V|G|R|P N|D S|F N|K M|R S|TH",
       "SLOAN DH|DH|KK|SLOAN J|HL|LH|RH|M|N|J|S|M N|N M|J M",
       "S J|M WITH DOT|N WITH DOT|J WITH DOT",
       "J WITH DOTS INSIDE AND ABOVE|S WITH DOT",
       "S WITH DOT BELOW|M S|N S|J S|S S|M N S|N M S|J M S",
       "S J S|J S WITH DOT|J N|J N S|S T|S T R|S P|S P R",
       "T S|T R S|W|WH|W R|S N|S M|K R S|G R S|S K|S K R|A",
       "SLOAN OW|OA|O|AOU|I|E|IE|SHORT I|UI|EE|SLOAN EH",
       "ROMANIAN I|SLOAN EE|LONG I|YE|U|EU|XW|U N|LONG U",
       "ROMANIAN U|UH|SLOAN U|OOH|OW|OU|WA|WO|WI|WEI|WOW",
       "NASAL U|NASAL O|NASAL I|NASAL A|PERNIN AN|PERNIN AM",
       "SLOAN EN|SLOAN AN|SLOAN ON|VOCALIC M"]⟩,
    ⟨0x1BC70, "DUPLOYAN AFFIX ",
      ["LEFT HORIZONTAL SECANT|MID HORIZONTAL SECANT",
       "RIGHT HORIZONTAL SECANT|LOW VERTICAL SECANT",
       "MID VERTICAL SECANT|HIGH VERTICAL SECANT"]⟩,
    ⟨0x1BC76, "DUPLOYAN AFFIX ATTACHED ",
      ["SECANT|LEFT-TO-RIGHT SECANT|TANGENT|TAIL|E HOOK",
       "I HOOK|TANGENT HOOK"]⟩,
    ⟨0x1BC80, "DUPLOYAN AFFIX HIGH ",
      ["ACUTE|TIGHT ACUTE|GRAVE|LONG GRAVE|DOT|CIRCLE|LINE",
       "WAVE|VERTICAL"]⟩,
    ⟨0x1BC90, "DUPLOYAN AFFIX LOW ",
      ["ACUTE|TIGHT ACUTE|GRAVE|LONG GRAVE|DOT|CIRCLE|LINE",
       "WAVE|VERTICAL|ARROW"]⟩,
    ⟨0x1BC9C, "DUPLOYAN ",
      ["SIGN O WITH CROSS|THICK LETTER SELECTOR|DOUBLE MARK",
       "PUNCTUATION CHINOOK FULL STOP"]⟩,
    ⟨0x1BCA0, "SHORTHAND FORMAT ",
      ["LETTER OVERLAP|CONTINUING OVERLAP|DOWN STEP|UP STEP"]⟩,
    ⟨0x1CF00, "ZNAMENNY COMBINING MARK ",
      ["GORAZDO NIZKO S KRYZHEM ON LEFT",
       "NIZKO S KRYZHEM ON LEFT|TSATA ON LEFT",
       "GORAZDO NIZKO ON LEFT|NIZKO ON LEFT|SREDNE ON LEFT",
       "MALO POVYSHE ON LEFT|POVYSHE ON LEFT|VYSOKO ON LEFT",
       "MALO POVYSHE S KHOKHLOM ON LEFT",
       "POVYSHE S KHOKHLOM ON LEFT",
       "VYSOKO S KHOKHLOM ON LEFT",
       "GORAZDO NIZKO S KRYZHEM ON RIGHT",
       "NIZKO S KRYZHEM ON RIGHT|TSATA ON RIGHT",
       "GORAZDO NIZKO ON RIGHT|NIZKO ON RIGHT",
       "SREDNE ON RIGHT|MALO POVYSHE ON RIGHT",
       "POVYSHE ON RIGHT|VYSOKO ON RIGHT",
       "MALO POVYSHE S KHOKHLOM ON RIGHT",
       "POVYSHE S KHOKHLOM ON RIGHT",
       "VYSOKO S KHOKHLOM ON RIGHT|TSATA S KRYZHEM",
       "MALO POVYSHE S KRYZHEM|STRANNO MALO POVYSHE",
       "POVYSHE S KRYZHEM|POVYSHE STRANNO|VYSOKO S KRYZHEM",
       "MALO POVYSHE STRANNO|GORAZDO VYSOKO|ZELO|ON|RAVNO",
       "TIKHAYA|BORZAYA|UDARKA|PODVERTKA|LOMKA|KUPNAYA",
       "KACHKA|ZEVOK|SKOBA|RAZSEKA|KRYZH ON LEFT"]⟩,
    ⟨0x1CF30, "ZNAMENNY COMBINING ",
      ["TONAL RANGE MARK MRACHNO|TONAL RANGE MARK SVETLO",
       "TONAL RANGE MARK TRESVETLO|MARK ZADERZHKA",
       "MARK DEMESTVENNY ZADERZHKA|MARK OTSECHKA",
       "MARK PODCHASHIE",
       "MARK PODCHASHIE WITH VERTICAL STROKE|MARK CHASHKA",
       "MARK CHASHKA POLNAYA|MARK OBLACHKO",
       "MARK SOROCHYA NOZHKA|MARK TOCHKA|MARK DVOETOCHIE",
       "ATTACHING VERTICAL OMET|MARK CURVED OMET|MARK KRYZH",
       "LOWER TONAL RANGE INDICATOR"]⟩,
    ⟨0x1CF42, "ZNAMENNY PRIZNAK MODIFIER ",
      ["LEVEL-2|LEVEL-3|DIRECTION FLIP|KRYZH|ROG"]⟩,
    ⟨0x1CF50, "ZNAMENNY NEUME ",
      ["KRYUK|KRYUK TIKHY|PARAKLIT|DVA V CHELNU|KLYUCH",
       "ZANOZHEK|STOPITSA|STOPITSA S OCHKOM|PEREVODKA",
       "PEREVODKA NEPOSTOYANNAYA",
       "STOPITSA WITH SOROCHYA NOZHKA|CHELYUSTKA|PALKA",
       "ZAPYATAYA|GOLUBCHIK BORZY|GOLUBCHIK TIKHY",
       "GOLUBCHIK MRACHNY|GOLUBCHIK SVETLY",
       "GOLUBCHIK TRESVETLY|VRAKHIYA PROSTAYA",
       "VRAKHIYA MRACHNAYA|VRAKHIYA SVETLAYA",
       "VRAKHIYA TRESVETLAYA|VRAKHIYA KLYUCHEVAYA PROSTAYA",
       "VRAKHIYA KLYUCHEVAYA MRACHNAYA",
       "VRAKHIYA KLYUCHEVAYA SVETLAYA",
       "VRAKHIYA KLYUCHEVAYA TRESVETLAYA|DOUBLE ZAPYATAYA",
       "REVERSED CHELYUSTKA|DERBITSA|KHAMILO|CHASHKA",
       "PODCHASHIE|SKAMEYTSA MRACHNAYA|SKAMEYTSA SVETLAYA",
       "SKAMEYTSA TRESVETLAYA|SKAMEYTSA TIKHAYA",
       "DEMESTVENNY KLYUCH|SKAMEYTSA KLYUCHEVAYA SVETLAYA",
       "SKAMEYTSA KLYUCHENEPOSTOYANNAYA",
       "SKAMEYTSA KLYUCHEVAYA TIKHAYA",
       "SKAMEYTSA DVOECHELNAYA PROSTAYA",
       "SKAMEYTSA DVOECHELNAYA SVETLAYA",
       "SKAMEYTSA DVOECHELNAYA NEPOSTOYANNAYA",
       "SKAMEYTSA DVOECHELNAYA KLYUCHEVAYA|SLOZHITIE",
       "SLOZHITIE S ZAPYATOY|SLOZHITIE ZAKRYTOE",
       "SLOZHITIE S KRYZHEM|KRYZH|ROG|FITA|KOBYLA|ZMEYTSA",
       "STATYA|STATYA S ZAPYATOY|STATYA S KRYZHEM",
       "STATYA S ZAPYATOY I KRYZHEM",
       "STATYA S KRYZHEM I ZAPYATOY|STATYA ZAKRYTAYA",
       "STATYA ZAKRYTAYA S ZAPYATOY|STATYA S ROGOM",
       "STATYA S DVUMYA ZAPYATYMI",
       "STATYA S ZAPYATOY I PODCHASHIEM|POLKULIZMY",
       "STATYA NEPOSTOYANNAYA"]⟩,
    ⟨0x1CF92, "ZNAMENNY NEUME STRELA ",
      ["PROSTAYA|MRACHNOTIKHAYA|KRYZHEVAYA|POLUPOVODNAYA",
       "POVODNAYA|NEPOSTOYANNAYA|KLYUCHEPOVODNAYA",
       "KLYUCHENEPOSTOYANNAYA|TIKHAYA PUTNAYA|DVOECHELNAYA",
       "DVOECHELNOKRYZHEVAYA|DVOECHELNOPOVODNAYA",
       "DVOECHELNAYA KLYUCHEVAYA",
       "DVOECHELNOPOVODNAYA KLYUCHEVAYA",
       "GROMNAYA WITH SINGLE ZAPYATAYA",
       "GROMOPOVODNAYA WITH SINGLE ZAPYATAYA|GROMNAYA",
       "GROMOPOVODNAYA|GROMOPOVODNAYA WITH DOUBLE ZAPYATAYA",
       "GROMOKRYZHEVAYA|GROMOKRYZHEVAYA POVODNAYA"]⟩,
    ⟨0x1CFA7, "ZNAMENNY NEUME ",
      ["MECHIK|MECHIK POVODNY|MECHIK KLYUCHEVOY",
       "MECHIK KLYUCHEPOVODNY|MECHIK KLYUCHENEPOSTOYANNY",
       "STRELA TRYASOGLASNAYA|STRELA TRYASOPOVODNAYA",
       "STRELA TRYASOSTRELNAYA|OSOKA|OSOKA SVETLAYA",
       "OSOKA TRESVETLAYA|OSOKA KRYUKOVAYA SVETLAYA",
       "OSOKA KLYUCHEVAYA SVETLAYA",
       "OSOKA KLYUCHEVAYA NEPOSTOYANNAYA|STRELA KRYUKOVAYA"]⟩,
    ⟨0x1CFB6, "ZNAMENNY NEUME STRELA KRYUKOVAYA ",
      ["POVODNAYA|GROMNAYA WITH SINGLE ZAPYATAYA",
       "GROMOPOVODNAYA WITH SINGLE ZAPYATAYA|GROMNAYA",
       "GROMOPOVODNAYA|GROMOPOVODNAYA WITH DOUBLE ZAPYATAYA",
       "GROMOKRYZHEVAYA|GROMOKRYZHEVAYA POVODNAYA|TRYASKA"]⟩,
    ⟨0x1CFBF, "ZNAMENNY NEUME ",
      ["KUFISMA|OBLAKO|DUDA|NEMKA|PAUK"]⟩]

end Text

end Replay
