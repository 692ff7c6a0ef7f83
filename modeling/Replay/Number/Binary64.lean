/-
  This file defines the binary floating point numbers of 64
  bits and the rounding of exact fractions to them.

  Key definitions include:
    * `Fraction`
    * `Binary64`
    * `Binary64.codeValue`
    * `Binary64.nearestCode`
    * `Binary64.ofFraction`
    * `Binary64.ofInt?`
    * `Binary64.truncate?`

  The magnitude of a number is kept as its place in the list
  of all magnitudes in increasing order, zero first and
  infinity last.  Neighbours in that list are neighbours as
  numbers, and places with even numbers have even
  significands.
-/

------------------------------------------------------------
-- Fractions
------------------------------------------------------------

namespace Replay

namespace Number

/- A nonnegative fraction; its denominator is positive. -/
structure Fraction where
  num : Nat
  den : Nat
  deriving DecidableEq, Repr

namespace Fraction

/- The order of two fractions, by cross multiplication. -/
def le (a b : Fraction) : Bool :=
  a.num * b.den ≤ b.num * a.den

/- The order of two fractions, by cross multiplication. -/
def lt (a b : Fraction) : Bool :=
  a.num * b.den < b.num * a.den

/- The point halfway between two fractions. -/
def halfway (a b : Fraction) : Fraction :=
  ⟨a.num * b.den + b.num * a.den, 2 * a.den * b.den⟩

/- The greatest natural number below or at a fraction. -/
def floor (a : Fraction) : Nat :=
  a.num / a.den

/- The number `digits · 10 ^ exponent`. -/
def ofDecimal
    (digits : Nat)
    (exponent : Int) : Fraction :=
  match exponent with
  | .ofNat n => ⟨digits * Nat.pow 10 n, 1⟩
  | .negSucc n => ⟨digits, Nat.pow 10 (n + 1)⟩

end Fraction

------------------------------------------------------------
-- Numbers of 64 Bits
------------------------------------------------------------

/- The place of infinity: 2047 blocks of 2 ^ 52 come before it. -/
def infinityCode : Nat :=
  9218868437227405312

/-
  A number: no number at all, or a sign and the place of its
  magnitude.
-/
inductive Binary64 where
  | nan
  | signed (negative : Bool) (code : Fin (infinityCode + 1))
  deriving DecidableEq, Repr

namespace Binary64

/-
  The value at a place.  The first block holds the multiples
  of 2 ^ -1074 below 2 ^ -1022, and each further block those
  of a spacing twice as wide.  At the place of infinity it is
  2 ^ 1024, the value that would come next.
-/
def codeValue (code : Nat) : Fraction :=
  let block := code / Nat.pow 2 52
  let offset := code % Nat.pow 2 52
  if block = 0 then
    ⟨offset, Nat.pow 2 1074⟩
  else if block ≤ 1075 then
    ⟨Nat.pow 2 52 + offset, Nat.pow 2 (1075 - block)⟩
  else
    ⟨(Nat.pow 2 52 + offset) * Nat.pow 2 (block - 1075), 1⟩

/-
  The last place of the window `[low, high]` whose value is
  at most `x`, if that of `low` is.  The fuel bounds the
  halvings.
-/
def lastAtMost
    (x : Fraction) :
    Nat → Nat → Nat → Nat
  | 0, low, _ => low
  | fuel + 1, low, high =>
    if low < high then
      let middle := (low + high + 1) / 2
      if (codeValue middle).le x then
        lastAtMost x fuel middle high
      else
        lastAtMost x fuel low (middle - 1)
    else
      low

/-
  The place nearest to a fraction; a tie goes to the even
  place.  What lies at or beyond the point halfway to
  2 ^ 1024 goes to infinity.
-/
def nearestCode (x : Fraction) : Nat :=
  let code := lastAtMost x 64 0 infinityCode
  if code < infinityCode then
    let middle :=
      Fraction.halfway (codeValue code) (codeValue (code + 1))
    if middle.lt x ∨ (middle.le x ∧ code % 2 = 1) then
      code + 1
    else
      code
  else
    code

/- The number at a place; places beyond infinity are infinity. -/
def ofCode
    (negative : Bool)
    (code : Nat) : Binary64 :=
  .signed negative
    ⟨min code infinityCode, by omega⟩

/- The number nearest to a signed fraction. -/
def ofFraction
    (negative : Bool)
    (x : Fraction) : Binary64 :=
  ofCode negative (nearestCode x)

/- Plus or minus infinity. -/
def infinity (negative : Bool) : Binary64 :=
  ofCode negative infinityCode

/- Zero. -/
def zero : Binary64 :=
  ofCode false 0

/- The number nearest to an integer, if it is finite. -/
def ofInt? (n : Int) : Option Binary64 :=
  let code := nearestCode ⟨n.natAbs, 1⟩
  if code < infinityCode then
    some (ofCode (n < 0) code)
  else
    none

------------------------------------------------------------
-- Questions about Numbers
------------------------------------------------------------

/- Neither infinite nor no number. -/
def isFinite : Binary64 → Bool
  | nan => false
  | signed _ code => code.val < infinityCode

/- Plus or minus zero. -/
def isZero : Binary64 → Bool
  | nan => false
  | signed _ code => code.val == 0

/- Less than zero: minus zero is not. -/
def isNegative : Binary64 → Bool
  | nan => false
  | signed negative code => negative && code.val != 0

/- A finite number without a fractional part. -/
def isIntegral : Binary64 → Bool
  | nan => false
  | signed _ code =>
    let x := codeValue code.val
    code.val < infinityCode && x.num % x.den == 0

/- The integer part of a finite number. -/
def truncate? : Binary64 → Option Int
  | nan => none
  | signed negative code =>
    if code.val < infinityCode then
      let n := (codeValue code.val).floor
      some (if negative then -(n : Int) else (n : Int))
    else
      none

end Binary64

end Number

end Replay
