import Replay.Text.CodePoint

/-
  This file defines the tokens of YAML texts.

  Key definitions include:
    * `Bracket`
    * `Token`

  The blocks of a text, which its indentation makes, have
  tokens where they start and where they end.
-/

------------------------------------------------------------
-- Tokens
------------------------------------------------------------

namespace Replay

namespace Yaml

open Text

/- The two kinds of collections. -/
inductive Bracket where
  | sequence
  | mapping
  deriving DecidableEq, Repr

/-
  A token.  A directive tells a version, the stem that a
  handle of tags stands for, or something of no account.  A
  tag has a handle, unless it is written in full.
-/
inductive Token where
  | version (major : Nat)
  | handle (name stem : String)
  | remark
  | documentStart
  | documentEnd
  | blockStart (kind : Bracket)
  | blockEnd
  | flowStart (kind : Bracket)
  | flowEnd (kind : Bracket)
  | blockEntry
  | flowEntry
  | key
  | value
  | alias (name : String)
  | anchor (name : String)
  | tag (handle : Option String) (suffix : String)
  | scalar (text : Text) (plain : Bool)
  deriving DecidableEq, Repr

end Yaml

end Replay
