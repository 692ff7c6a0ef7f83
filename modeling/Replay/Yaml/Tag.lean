import Replay.Pattern

/-
  This file defines the tags of nodes, which tell what kind
  of value a node stands for.

  Key definitions include:
    * `Tag`
    * `Tag.ofText`
    * `Tag.ofPlain`

  A plain scalar without a tag has the tag of the first form
  that it has, and is a text if it has none.
-/

------------------------------------------------------------
-- Tags
------------------------------------------------------------

namespace Replay

namespace Yaml

open Text

/-
  A tag.  The key `<<` is for a merge, and the key `=` for the
  value of a whole mapping.
-/
inductive Tag where
  | null
  | boolean
  | integer
  | number
  | bytes
  | moment
  | text
  | sequence
  | mapping
  | members
  | orderedPairs
  | pairs
  | merge
  | whole
  | unknown
  deriving DecidableEq, Repr

namespace Tag

/- What the known tags begin with. -/
def stem : String :=
  "tag:yaml.org,2002:"

/- The tags by their names. -/
def names : List (String × Tag) :=
  [
    ("null", null), ("bool", boolean), ("int", integer),
    ("float", number), ("binary", bytes),
    ("timestamp", moment), ("str", text), ("seq", sequence),
    ("map", mapping), ("set", members),
    ("omap", orderedPairs), ("pairs", pairs),
    ("merge", merge), ("value", whole)]

/- The tag that a text names. -/
def ofText (s : String) : Tag :=
  match names.find? fun entry => stem ++ entry.1 == s with
  | some (_, tag) => tag
  | none => unknown

------------------------------------------------------------
-- Forms of Plain Scalars
------------------------------------------------------------

/- The form of truth values. -/
def booleanForm : String :=
  "^(?:yes|Yes|YES|no|No|NO|true|True|TRUE|false|False|FALSE" ++
    "|on|On|ON|off|Off|OFF)$"

/- The form of floating point numbers. -/
def numberForm : String :=
  "^(?:[-+]?(?:[0-9][0-9_]*)\\.[0-9_]*(?:[eE][-+][0-9]+)?" ++
    "|\\.[0-9][0-9_]*(?:[eE][-+][0-9]+)?" ++
    "|[-+]?[0-9][0-9_]*(?::[0-5]?[0-9])+\\.[0-9_]*" ++
    "|[-+]?\\.(?:inf|Inf|INF)|\\.(?:nan|NaN|NAN))$"

/- The form of integers. -/
def integerForm : String :=
  "^(?:[-+]?0b[0-1_]+|[-+]?0[0-7_]+|[-+]?(?:0|[1-9][0-9_]*)" ++
    "|[-+]?0x[0-9a-fA-F_]+" ++
    "|[-+]?[1-9][0-9_]*(?::[0-5]?[0-9])+)$"

/- The form of dates and times. -/
def momentForm : String :=
  "^(?:[0-9][0-9][0-9][0-9]-[0-9][0-9]-[0-9][0-9]" ++
    "|[0-9][0-9][0-9][0-9]-[0-9][0-9]?-[0-9][0-9]?" ++
    "(?:[Tt]|[ \\t]+)[0-9][0-9]?:[0-9][0-9]:[0-9][0-9]" ++
    "(?:\\.[0-9]*)?" ++
    "(?:[ \\t]*(?:Z|[-+][0-9][0-9]?(?::[0-9][0-9])?))?)$"

/-
  The expression of a form.  No form looks behind, so that
  nothing depends on the release of the engine.
-/
def ofForm
    (source : Text) : Except Pattern.Refusal Pattern.Compiled :=
  (Pattern.readExpression source).map fun expression =>
    ⟨source, expression⟩

/- The forms of plain scalars, in the order of their trial. -/
def forms : List (Tag × Except Pattern.Refusal Pattern.Compiled) :=
  [
    (boolean, ofForm booleanForm),
    (number, ofForm numberForm),
    (integer, ofForm integerForm),
    (merge, ofForm "^(?:<<)$"),
    (null, ofForm "^(?:~|null|Null|NULL)$"),
    (moment, ofForm momentForm),
    (whole, ofForm "^(?:=)$"),
    (unknown, ofForm "^(?:!|&|\\*)$")]

/- Does a text have a form? -/
def hasForm
    (s : Text) :
    Tag × Except Pattern.Refusal Pattern.Compiled → Bool
  | (_, .ok pattern) => pattern.occursIn s
  | (_, .error _) => false

/- The tag of a plain scalar without one; an empty one is null. -/
def ofPlain (s : Text) : Tag :=
  if s.isEmpty then null
  else
    match forms.find? (hasForm s) with
    | some (tag, _) => tag
    | none => text

end Tag

end Yaml

end Replay
