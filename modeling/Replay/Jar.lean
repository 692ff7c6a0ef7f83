import Replay.Cookie
import Replay.Json.Reader

/-
  This file defines what can go wrong with jars of cookies,
  and their JSON form: the list of the records of cookies.

  Key definitions include:
    * `Jar.Fault`
    * `Jar.Refusal`
    * `Jar.readJson`
    * `Jar.writeJson`
-/

------------------------------------------------------------
-- Faults
------------------------------------------------------------

namespace Replay

namespace Jar

/- What is wrong with the form of a jar. -/
inductive Fault where
  | notJson (fault : Json.Fault)
  | notArray
  | entry (faults : List Replay.Fault)
  | line (line : Text)
  | expiry (line : Text)
  deriving DecidableEq, Repr

/- The wording of a fault. -/
def Fault.message : Fault → Text
  | notJson fault => "Invalid cookie JSON: " ++ fault.message
  | notArray => "Cookie JSON must be an array of cookie objects."
  | entry faults =>
    "Invalid cookie entry: " ++ describeFaults faults
  | line text => "Invalid cookie line: " ++ text
  | expiry text => "Invalid cookie expiry in line: " ++ text

/- The wording of a fault in a log, without details. -/
def Fault.outline : Fault → Text
  | entry _ => "Invalid cookie entry"
  | fault => fault.message

/-
  Why a jar is not read: its form, an integer with more
  digits than are converted, or a cookie that is none.
-/
inductive Refusal where
  | malformed (fault : Fault)
  | tooManyDigits (count : Nat)
  | rejected (rejection : Rejection)
  deriving DecidableEq, Repr

------------------------------------------------------------
-- JSON
------------------------------------------------------------

/- Read every record, up to the first fault. -/
def readRecords :
    List Document → Except Refusal (List Cookie)
  | [] => .ok []
  | d :: rest =>
    match Cookie.read d with
    | .ok cookie => (readRecords rest).map (cookie :: ·)
    | .error (.faults faults) => .error (.malformed (.entry faults))
    | .error rejection => .error (.rejected rejection)

/- The cookies of a JSON text. -/
def readJson (text : String) : Except Refusal (List Cookie) :=
  match Json.read text with
  | .error (.malformed fault) => .error (.malformed (.notJson fault))
  | .error (.tooManyDigits count) => .error (.tooManyDigits count)
  | .ok (.sequence items) => readRecords items
  | .ok _ => .error (.malformed .notArray)

/- The JSON text of cookies. -/
def writeJson (cookies : List Cookie) : String :=
  Json.write (.list (cookies.map fun c => .object c.record))

end Jar

end Replay
