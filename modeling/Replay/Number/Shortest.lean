import Replay.Number.Binary64

/-
  This file defines the shortest decimal that reads back as
  a given number, and its written form.

  Key definitions include:
    * `Decimal`
    * `Shortest.ofCode`
    * `Binary64.text`
-/

------------------------------------------------------------
-- Decimals
------------------------------------------------------------

namespace Replay

namespace Number

/- The number `digits · 10 ^ exponent`. -/
structure Decimal where
  digits : Nat
  exponent : Int
  deriving DecidableEq, Repr

namespace Decimal

/- The fraction a decimal stands for. -/
def value (d : Decimal) : Fraction :=
  Fraction.ofDecimal d.digits d.exponent

end Decimal

/- The decimal digits of a number, most significant first. -/
def digitChars (n : Nat) : List Char :=
  Nat.toDigits 10 n

/- A natural number in decimal. -/
def natText (n : Nat) : String :=
  String.ofList (digitChars n)

/- An integer in decimal, with a sign if it is negative. -/
def intText (n : Int) : String :=
  match n with
  | .ofNat n => natText n
  | .negSucc n => "-" ++ natText (n + 1)

------------------------------------------------------------
-- The Shortest Decimal
------------------------------------------------------------

namespace Shortest

/-
  The exponent of the leading digit of a positive value at a
  place.  No such value is below 10 ^ -400.
-/
def leadingExponent (x : Fraction) : Int :=
  let scaled := x.num * Nat.pow 10 400 / x.den
  ((digitChars scaled).length : Int) - 401

/- The two decimals next to a value on the grid of an exponent. -/
def neighbours
    (x : Fraction)
    (exponent : Int) : Decimal × Decimal :=
  let steps :=
    match exponent with
    | .ofNat n => x.num / (x.den * Nat.pow 10 n)
    | .negSucc n => x.num * Nat.pow 10 (n + 1) / x.den
  (⟨steps, exponent⟩, ⟨steps + 1, exponent⟩)

/- Does a decimal read back as the number at a place? -/
def readsBack
    (code : Nat)
    (d : Decimal) : Bool :=
  Binary64.nearestCode d.value == code

/-
  The neighbour that reads back.  Of two such neighbours the
  nearer one is taken, and the even one if both are as near.
-/
def onGrid?
    (code : Nat)
    (exponent : Int) : Option Decimal :=
  let x := Binary64.codeValue code
  let (below, above) := neighbours x exponent
  match readsBack code below, readsBack code above with
  | false, false => none
  | true, false => some below
  | false, true => some above
  | true, true =>
    let middle := Fraction.halfway below.value above.value
    if x.lt middle ∨ (x.le middle ∧ below.digits % 2 = 0) then
      some below
    else
      some above

/-
  The first of the grids, from coarse to fine, that holds a
  decimal that reads back.  The fuel counts the grids.
-/
def firstGrid
    (code : Nat) :
    Nat → Int → Option Decimal
  | 0, _ => none
  | fuel + 1, exponent =>
    match onGrid? code exponent with
    | some d => some d
    | none => firstGrid code fuel (exponent - 1)

/- The value at a place, with all of its digits. -/
def exact (code : Nat) : Decimal :=
  let x := Binary64.codeValue code
  let places := x.den.log2
  ⟨x.num * Nat.pow 5 places, -(places : Int)⟩

/- Drop the zeros at the end.  The fuel bounds their number. -/
def dropZeros : Nat → Decimal → Decimal
  | 0, d => d
  | fuel + 1, d =>
    if d.digits ≠ 0 ∧ d.digits % 10 = 0 then
      dropZeros fuel ⟨d.digits / 10, d.exponent + 1⟩
    else
      d

/-
  The shortest decimal of a positive place: the fewest digits
  that read back.  Seventeen digits always suffice.
-/
def ofCode (code : Nat) : Decimal :=
  let lead := leadingExponent (Binary64.codeValue code)
  let d := (firstGrid code 17 lead).getD (exact code)
  dropZeros (digitChars d.digits).length d

end Shortest

------------------------------------------------------------
-- Written Form
------------------------------------------------------------

namespace Decimal

/-
  Digits with a point, `.0` added to a whole number, while
  the exponent of the leading digit is from -4 to 15.
  Otherwise one digit before the point and an exponent with a
  sign and at least two digits.
-/
def chars (d : Decimal) : List Char :=
  let digits := digitChars d.digits
  let lead := d.exponent + digits.length - 1
  if -4 ≤ lead ∧ lead < 16 then
    if lead < 0 then
      '0' :: '.' ::
        (List.replicate (-lead - 1).toNat '0' ++ digits)
    else
      let whole := (lead + 1).toNat
      let padded :=
        digits ++ List.replicate (whole - digits.length) '0'
      let part := padded.drop whole
      padded.take whole ++
        '.' :: (if part.isEmpty then ['0'] else part)
  else
    let power := digitChars lead.natAbs
    let tail :=
      'e' :: (if lead < 0 then '-' else '+') ::
        ((if power.length < 2 then ['0'] else []) ++ power)
    match digits with
    | [] => tail
    | [first] => first :: tail
    | first :: rest => first :: '.' :: (rest ++ tail)

end Decimal

namespace Binary64

/- The digits of a place, `0.0` for zero. -/
def codeChars (code : Nat) : List Char :=
  if code = 0 then ['0', '.', '0']
  else (Shortest.ofCode code).chars

/- A number in its shortest written form. -/
def text : Binary64 → String
  | nan => "nan"
  | signed negative code =>
    let mark := if negative then "-" else ""
    if code.val < infinityCode then
      mark ++ String.ofList (codeChars code.val)
    else
      mark ++ "inf"

end Binary64

end Number

end Replay
