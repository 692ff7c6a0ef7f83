import Replay.Json.Writer
import Replay.Validation

/-
  This file defines cookies and the records that browsers
  give and take for them.

  Key definitions include:
    * `SameSite`
    * `Cookie`
    * `Cookie.read`
    * `Cookie.record`

  A cookie without a time of expiry lasts for a session.
  Records mark such a cookie with a negative number.
-/

------------------------------------------------------------
-- Cookies
------------------------------------------------------------

namespace Replay

open Number Checked

/- Whether requests from other sites carry a cookie. -/
inductive SameSite where
  | strict
  | lax
  | none
  deriving DecidableEq, Repr

/- The word for a choice. -/
def SameSite.text : SameSite → String
  | strict => "Strict"
  | lax => "Lax"
  | none => "None"

/- The choice of a word. -/
def SameSite.ofText? : String → Option SameSite
  | "Strict" => some strict
  | "Lax" => some lax
  | "None" => some none
  | _ => Option.none

/- One cookie.  Its expiry is counted in seconds. -/
structure Cookie where
  name : Text
  value : Text
  domain : Text
  path : Text
  expires : Option Binary64
  httpOnly : Bool
  secure : Bool
  sameSite : Option SameSite
  deriving DecidableEq, Repr

namespace Cookie

------------------------------------------------------------
-- Reading
------------------------------------------------------------

/- Is a value a number below zero? -/
def isBelowZero : Document → Bool
  | .scalar (.integer n) => n < 0
  | .scalar (.number x) => x.isNegative
  | _ => false

/- A time of expiry.  Numbers below zero stand for none. -/
def readExpiry (d : Document) : Checked (Option Binary64) :=
  if isBelowZero d then .ok none else optional asNumber d

/- A choice about other sites. -/
def readSameSite (d : Document) : Checked SameSite :=
  match d with
  | .scalar (.text word) =>
    match word.toString? with
    | some word =>
      match SameSite.ofText? word with
      | some choice => .ok choice
      | none => fail (.notOneOf ["Strict", "Lax", "None"])
    | none => fail .undecodableText
  | _ => fail (.notOneOf ["Strict", "Lax", "None"])

/- A field that goes by two names; the first one comes first. -/
def eitherField
    {α : Type}
    (entries : List (Scalar × Document))
    (first second : String)
    (default : α)
    (check : Document → Checked α) : Checked α :=
  match Document.find? entries first with
  | some value => within first (check value)
  | none => optionalField entries second default check

/- The record of a cookie; other fields mean nothing. -/
def read (d : Document) : Checked Cookie :=
  match d with
  | .mapping entries =>
    let name := required entries "name" asText
    let value := required entries "value" asText
    let domain := required entries "domain" asText
    let path :=
      optionalField entries "path" (Text.ofString "/") asText
    let expires := optionalField entries "expires" none readExpiry
    let httpOnly :=
      eitherField entries "httpOnly" "http_only" false asBoolean
    let secure := optionalField entries "secure" false asBoolean
    let sameSite :=
      eitherField entries "sameSite" "same_site" none
        (optional readSameSite)
    (both name (both value (both domain (both path (both expires
      (both httpOnly (both secure sameSite))))))).map
      fun (name, value, domain, path, expires, httpOnly, secure,
          sameSite) =>
        ⟨name, value, domain, path, expires, httpOnly, secure,
          sameSite⟩
  | _ => fail (.notModel "Cookie")

------------------------------------------------------------
-- Writing
------------------------------------------------------------

/- The record of a cookie, without fields that hold nothing. -/
def record (c : Cookie) : List (String × Json.Value) :=
  [("name", .text c.name), ("value", .text c.value),
    ("domain", .text c.domain), ("path", .text c.path)] ++
  (c.expires.map fun x => ("expires", Json.Value.number x)).toList ++
  [("httpOnly", .boolean c.httpOnly),
    ("secure", .boolean c.secure)] ++
  (c.sameSite.map fun s =>
    ("sameSite", Json.Value.text s.text)).toList

end Cookie

end Replay
