import Replay.Number.Reader
import Replay.Text.Quoted

/-
  This file defines why YAML texts are refused.

  Key definitions include:
    * `MomentFault`
    * `ValueFault`
    * `ValueFault.message`
    * `Refusal`

  A text whose form is wrong is malformed.  A text of the
  right form may still hold values that cannot be.
-/

------------------------------------------------------------
-- Refusals
------------------------------------------------------------

namespace Replay

namespace Yaml

open Number Text

/- Why there is no such date or time. -/
inductive MomentFault where
  | year
  | month
  | day
  | hour
  | minute
  | second
  | offset (shown : String)
  deriving DecidableEq, Repr

/- The wording of a fault of a date or a time. -/
def MomentFault.message : MomentFault → String
  | year => "year 0 is out of range"
  | month => "month must be in 1..12"
  | day => "day is out of range for month"
  | hour => "hour must be in 0..23"
  | minute => "minute must be in 0..59"
  | second => "second must be in 0..59"
  | offset shown =>
    "offset must be a timedelta strictly between " ++
      "-timedelta(hours=24) and timedelta(hours=24), not " ++
      shown ++ "."

/-
  Why there is no such value: an escape stands for no
  character, or a scalar has not the form of its tag.
-/
inductive ValueFault where
  | noCharacter
  | hugeCharacter
  | emptyNumber
  | integer (fault : IntegerFault)
  | number (text : Text)
  | hugeNumber
  | boolean (word : Text)
  | noMoment
  | moment (fault : MomentFault)
  deriving DecidableEq, Repr

/- The wording of a fault of a value. -/
def ValueFault.message : ValueFault → String
  | noCharacter => "chr() arg not in range(0x110000)"
  | hugeCharacter => "Python int too large to convert to C int"
  | emptyNumber => "string index out of range"
  | integer fault => fault.message
  | number text =>
    "could not convert string to float: " ++ quote text
  | hugeNumber => "int too large to convert to float"
  | boolean word => quote word
  | noMoment => "'NoneType' object has no attribute 'groupdict'"
  | moment fault => fault.message

/- Why a text is refused: its form, or one of its values. -/
inductive Refusal where
  | malformed
  | noValue (fault : ValueFault)
  deriving DecidableEq, Repr

end Yaml

end Replay
