import Replay.Document
import Replay.Yaml.Refusal

/-
  This file defines dates and times as they are written in
  YAML texts.

  Key definitions include:
    * `Time`
    * `Moment`
    * `Moment.read?`
    * `Moment.fault?`
    * `Moment.toScalar`
-/

------------------------------------------------------------
-- Moments
------------------------------------------------------------

namespace Replay

namespace Yaml

open Number Text

/-
  A time of the day, with millionths of a second and, if it is
  told, the minutes that it is ahead of universal time.
-/
structure Time where
  hour : Nat
  minute : Nat
  second : Nat
  fraction : Nat
  offset : Option Int
  deriving DecidableEq, Repr

/- A date, perhaps with a time. -/
structure Moment where
  year : Nat
  month : Nat
  day : Nat
  time : Option Time
  deriving DecidableEq, Repr

------------------------------------------------------------
-- Reading
------------------------------------------------------------

/- A row of digits of some length, and what follows it. -/
def readDigits?
    (least most : Nat)
    (cs : List Char) : Option (Nat × List Char) :=
  let digits := cs.takeWhile Char.isDigit
  if least ≤ digits.length ∧ digits.length ≤ most then
    some (digitsValue digits, cs.drop digits.length)
  else
    none

/- What follows a certain character. -/
def readMark?
    (mark : Char) : List Char → Option (List Char)
  | [] => none
  | c :: cs => if c = mark then some cs else none

/- Millionths, and what follows them. -/
def readFraction : List Char → Nat × List Char
  | '.' :: cs =>
    let digits := cs.takeWhile Char.isDigit
    let six := (digits ++ List.replicate 6 '0').take 6
    (digitsValue six, cs.drop digits.length)
  | cs => (0, cs)

/- How far ahead the time is: nothing may follow. -/
def readOffset? (cs : List Char) : Option (Option Int) :=
  match cs.dropWhile fun c => c == ' ' || c == '\t' with
  | [] => if cs.isEmpty then some none else none
  | ['Z'] => some (some 0)
  | sign :: rest => do
    if sign ≠ '+' ∧ sign ≠ '-' then failure
    let (hours, rest) ← readDigits? 1 2 rest
    let minutes ←
      match rest with
      | [] => some 0
      | ':' :: rest => do
        let (minutes, rest) ← readDigits? 2 2 rest
        if rest.isEmpty then some minutes else none
      | _ => none
    return some (signedInt (sign = '-') (60 * hours + minutes))

/- A time, which nothing follows. -/
def readTime? (cs : List Char) : Option Time := do
  let (hour, cs) ← readDigits? 1 2 cs
  let (minute, cs) ← readDigits? 2 2 (← readMark? ':' cs)
  let (second, cs) ← readDigits? 2 2 (← readMark? ':' cs)
  let (fraction, cs) := readFraction cs
  return ⟨hour, minute, second, fraction, ← readOffset? cs⟩

/- The text without a line break at its end. -/
def dropFinalBreak (cs : List Char) : List Char :=
  if cs.getLast? = some '\n' then cs.dropLast else cs

/- A date, and a time after blanks or a letter. -/
def Moment.read? (cs : List Char) : Option Moment := do
  let (year, cs) ← readDigits? 4 4 (dropFinalBreak cs)
  let (month, cs) ← readDigits? 1 2 (← readMark? '-' cs)
  let (day, cs) ← readDigits? 1 2 (← readMark? '-' cs)
  match cs with
  | [] => return ⟨year, month, day, none⟩
  | c :: rest =>
    if c = 'T' ∨ c = 't' then
      return ⟨year, month, day, ← readTime? rest⟩
    else if c = ' ' ∨ c = '\t' then
      let rest := rest.dropWhile fun c => c == ' ' || c == '\t'
      return ⟨year, month, day, ← readTime? rest⟩
    else
      failure

------------------------------------------------------------
-- Checks
------------------------------------------------------------

/- Has a year a 29th of February? -/
def isLeapYear (year : Nat) : Bool :=
  year % 4 == 0 && (year % 100 != 0 || year % 400 == 0)

/- The number of days of a month. -/
def dayCount (year month : Nat) : Nat :=
  if month = 2 then if isLeapYear year then 29 else 28
  else if month = 4 ∨ month = 6 ∨ month = 9 ∨ month = 11 then 30
  else 31

/- A span of minutes, in days and the seconds left over. -/
def spanText (minutes : Int) : String :=
  let days := minutes.fdiv 1440
  let seconds := 60 * minutes.fmod 1440
  let parts :=
    (if days = 0 then [] else ["days=" ++ intText days]) ++
      if seconds = 0 then [] else ["seconds=" ++ intText seconds]
  "datetime.timedelta(" ++
    (if parts.isEmpty then "0"
      else String.intercalate ", " parts) ++
    ")"

/- What is wrong with how far ahead a time is. -/
def Time.offsetFault? (time : Time) : Option MomentFault :=
  match time.offset with
  | some minutes =>
    if -1440 < minutes ∧ minutes < 1440 then none
    else some (.offset (spanText minutes))
  | none => none

/- What is wrong with a time of the day. -/
def Time.fault? (time : Time) : Option MomentFault :=
  if 24 ≤ time.hour then some .hour
  else if 60 ≤ time.minute then some .minute
  else if 60 ≤ time.second then some .second
  else none

namespace Moment

/- What is wrong with a date. -/
def dateFault? (moment : Moment) : Option MomentFault :=
  if moment.year = 0 then some .year
  else if moment.month = 0 ∨ 12 < moment.month then some .month
  else if moment.day = 0 ∨
      dayCount moment.year moment.month < moment.day then
    some .day
  else
    none

/- The first thing that is wrong. -/
def fault? (moment : Moment) : Option MomentFault :=
  match moment.time with
  | none => moment.dateFault?
  | some time =>
    (time.offsetFault?.or moment.dateFault?).or time.fault?

end Moment

------------------------------------------------------------
-- Writing
------------------------------------------------------------

/- A number with zeros before it, up to a width. -/
def padded
    (width n : Nat) : String :=
  let digits := natText n
  String.ofList (List.replicate (width - digits.length) '0') ++
    digits

/- How far ahead a time is, as hours and minutes. -/
def offsetText (minutes : Int) : String :=
  let n := minutes.natAbs
  (if minutes < 0 then "-" else "+") ++ padded 2 (n / 60) ++ ":" ++
    padded 2 (n % 60)

namespace Time

/- The time as it is shown. -/
def shown (time : Time) : String :=
  String.intercalate ":"
      [padded 2 time.hour, padded 2 time.minute,
        padded 2 time.second] ++
    (if time.fraction = 0 then ""
      else "." ++ padded 6 time.fraction) ++
    match time.offset with
    | none => ""
    | some minutes => offsetText minutes

/- The arguments of the time; zeros at the end are left out. -/
def arguments (time : Time) : List String :=
  let last :=
    if time.fraction ≠ 0 then
      [natText time.second, natText time.fraction]
    else if time.second ≠ 0 then [natText time.second]
    else []
  let zone :=
    match time.offset with
    | none => []
    | some minutes =>
      if minutes = 0 then ["tzinfo=datetime.timezone.utc"]
      else ["tzinfo=datetime.timezone(" ++ spanText minutes ++ ")"]
  [natText time.hour, natText time.minute] ++ last ++ zone

end Time

namespace Moment

/- The date as it is shown. -/
def dateShown (moment : Moment) : String :=
  String.intercalate "-"
    [padded 4 moment.year, padded 2 moment.month,
      padded 2 moment.day]

/- The arguments of the date. -/
def dateArguments (moment : Moment) : List String :=
  [natText moment.year, natText moment.month, natText moment.day]

/- The moment as a value. -/
def toScalar (moment : Moment) : Scalar :=
  match moment.time with
  | none =>
    .moment moment.dateShown
      ("datetime.date(" ++
        String.intercalate ", " moment.dateArguments ++ ")")
  | some time =>
    .moment (moment.dateShown ++ " " ++ time.shown)
      ("datetime.datetime(" ++
        String.intercalate ", "
          (moment.dateArguments ++ time.arguments) ++ ")")

end Moment

end Yaml

end Replay
