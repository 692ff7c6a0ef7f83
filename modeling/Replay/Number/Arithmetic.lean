import Replay.Number.Binary64

/-
  This file defines sums and products of numbers of 64 bits:
  the exact ones, rounded once.

  Key definitions include:
    * `Binary64.negate`
    * `Binary64.add`
    * `Binary64.multiply`
-/

------------------------------------------------------------
-- Signs
------------------------------------------------------------

namespace Replay

namespace Number

namespace Binary64

/- The number with the other sign. -/
def negate : Binary64 → Binary64
  | nan => nan
  | signed negative code => signed (!negative) code

/- The number nearest to a fraction of an integer. -/
def ofRatio
    (num : Int)
    (den : Nat) : Binary64 :=
  ofFraction (num < 0) ⟨num.natAbs, den⟩

/- The numerator of a number with a sign. -/
def signedNum
    (negative : Bool)
    (x : Fraction) : Int :=
  if negative then -(x.num : Int) else x.num

------------------------------------------------------------
-- Operations
------------------------------------------------------------

/- The sum.  Opposite infinities have none. -/
def add : Binary64 → Binary64 → Binary64
  | nan, _ => nan
  | _, nan => nan
  | signed s a, signed t b =>
    if a.val = infinityCode then
      if b.val = infinityCode ∧ s ≠ t then nan else signed s a
    else if b.val = infinityCode then
      signed t b
    else
      let x := codeValue a.val
      let y := codeValue b.val
      let num := signedNum s x * y.den + signedNum t y * x.den
      if num = 0 then ofCode (s && t) 0
      else ofRatio num (x.den * y.den)

/- The product.  Infinity and zero have none. -/
def multiply : Binary64 → Binary64 → Binary64
  | nan, _ => nan
  | _, nan => nan
  | signed s a, signed t b =>
    if a.val = infinityCode ∨ b.val = infinityCode then
      if a.val = 0 ∨ b.val = 0 then nan
      else infinity (s != t)
    else
      let x := codeValue a.val
      let y := codeValue b.val
      ofFraction (s != t) ⟨x.num * y.num, x.den * y.den⟩

end Binary64

end Number

end Replay
