import Replay.Jar
import Replay.Text.Blank

/-
  This file defines the Netscape form of jars: a line for
  each cookie, with fields between tabs.

  Key definitions include:
    * `Jar.readLine`
    * `Jar.readNetscape`
    * `Jar.WriteFault`
    * `Jar.writeNetscape`

  Blank lines and comments say nothing.  A line that starts
  with a certain mark is no comment but a cookie that is kept
  from scripts.  An expiry of zero marks a session cookie.
-/

------------------------------------------------------------
-- Reading
------------------------------------------------------------

namespace Replay

namespace Jar

open Number Text

/- The mark of a cookie that is kept from scripts. -/
def httpOnlyMark : Text :=
  "#HttpOnly_"

/- Does a line say nothing? -/
def isIdle (line : Text) : Bool :=
  (line.head? == some (.char '#') &&
      !httpOnlyMark.isPrefixOf line) ||
    line.all (CodePoint.isIn isBlank)

/- A number of seconds as an expiry; zero stands for none. -/
def expiryOf (seconds : Int) : Checked (Option Binary64) :=
  if seconds = 0 then .ok none
  else
    Checked.within "expires"
      (Cookie.readExpiry (.scalar (.integer seconds)))

/- The number of seconds that a field gives. -/
def readSeconds? (field : Text) : Option Int :=
  if field.isEmpty then some 0 else (readInteger field).toOption

/- The cookie of a line. -/
def readLine (line : Text) : Except Refusal Cookie :=
  match line.splitOn (.char '\t') with
  | first :: _ :: path :: secure :: expires :: name :: value :: _ =>
    match readSeconds? expires with
    | none => .error (.malformed (.expiry line))
    | some seconds =>
      match expiryOf seconds with
      | .error rejection => .error (.rejected rejection)
      | .ok expires =>
        let httpOnly := httpOnlyMark.isPrefixOf first
        .ok
          { name
            value
            domain :=
              if httpOnly then first.drop httpOnlyMark.length
              else first
            path := if path = [] then "/" else path
            expires
            httpOnly
            secure := secure == "TRUE"
            sameSite := none }
  | _ => .error (.malformed (.line line))

/- The cookies of lines, up to the first fault. -/
def readLines :
    List Text → Except Refusal (List Cookie)
  | [] => .ok []
  | line :: rest =>
    let line := dropTrailing (· == .char '\r') line
    if isIdle line then
      readLines rest
    else
      match readLine line with
      | .error refusal => .error refusal
      | .ok cookie => (readLines rest).map (cookie :: ·)

/- The cookies of a jar. -/
def readNetscape
    (text : Text) : Except Refusal (List Cookie) :=
  readLines (text.splitOn (.char '\n'))

------------------------------------------------------------
-- Writing
------------------------------------------------------------

/- Why an expiry cannot be written in whole seconds. -/
inductive WriteFault where
  | notANumber
  | infinite
  deriving DecidableEq, Repr

/- The wording of a fault. -/
def WriteFault.message : WriteFault → String
  | notANumber => "cannot convert float NaN to integer"
  | infinite => "cannot convert float infinity to integer"

/- An expiry in whole seconds. -/
def secondsText : Option Binary64 → Except WriteFault String
  | none => .ok "0"
  | some x =>
    match x.truncate? with
    | some n => .ok (intText n)
    | none => .error (if x = .nan then .notANumber else .infinite)

/- The word for a choice. -/
def choiceText (choice : Bool) : Text :=
  if choice then "TRUE" else "FALSE"

/- The line of a cookie. -/
def writeLine (c : Cookie) : Except WriteFault Text := do
  let seconds ← secondsText c.expires
  return List.intercalate [.char '\t']
    [if c.httpOnly then httpOnlyMark ++ c.domain else c.domain,
      choiceText (c.domain.head? == some (.char '.')),
      c.path,
      choiceText c.secure,
      seconds,
      c.name,
      c.value]

/- The lines of cookies, up to the first fault. -/
def writeLines :
    List Cookie → Except WriteFault (List Text)
  | [] => .ok []
  | c :: rest => do
    let line ← writeLine c
    return line :: (← writeLines rest)

/- The first line of every jar. -/
def heading : Text :=
  "# Netscape HTTP Cookie File"

/- The jar of cookies. -/
def writeNetscape
    (cookies : List Cookie) : Except WriteFault Text := do
  let lines ← writeLines cookies
  return List.intercalate [.char '\n'] (heading :: lines) ++
    [.char '\n']

end Jar

end Replay
