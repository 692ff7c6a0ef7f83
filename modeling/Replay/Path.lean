/-
  This file defines paths of files as they are written and
  joined.

  Key definitions include:
    * `Path`
    * `Path.ofText`
    * `Path.verbatim`
    * `Path.join`
    * `Path.parent`
    * `Path.text`
    * `Path.extension`

  A path is taken as it is written: `..` is a name like any
  other until the path is followed.
-/

------------------------------------------------------------
-- Paths
------------------------------------------------------------

namespace Replay

/-
  A path: the strokes it starts with, if it is absolute, and
  the names below.  The path without any name is the folder
  that one is in.
-/
structure Path where
  root : String
  names : List String
  deriving DecidableEq, Repr

namespace Path

/- The folder that one is in. -/
def here : Path :=
  ⟨"", []⟩

/- The strokes at the start: two are kept, more count as one. -/
def rootOf (cs : List Char) : String :=
  match (cs.takeWhile (· == '/')).length with
  | 0 => ""
  | 2 => "//"
  | _ => "/"

/- The pieces of a text between its strokes. -/
def pieces (s : String) : List String :=
  (s.toList.splitOn '/').map String.ofList

/- Empty names and single dots say nothing. -/
def meaningful (names : List String) : List String :=
  names.filter fun name => name != "" && name != "."

/- The path that a text writes. -/
def ofText (s : String) : Path :=
  ⟨rootOf s.toList, meaningful (pieces s)⟩

/-
  The path that a text writes, with every piece of it: an
  empty piece or a dot stays within a folder.
-/
def verbatim (s : String) : Path :=
  if rootOf s.toList = "" then ⟨"", pieces s⟩
  else ⟨rootOf s.toList, (pieces s).drop 1⟩

/- A path below another one, unless it is absolute. -/
def join (base p : Path) : Path :=
  if p.root = "" then ⟨base.root, base.names ++ p.names⟩ else p

/- A path with one more written part. -/
def child
    (base : Path)
    (part : String) : Path :=
  base.join (ofText part)

/- The path without its last name. -/
def parent (p : Path) : Path :=
  ⟨p.root, p.names.dropLast⟩

/- The text of a path. -/
def text (p : Path) : String :=
  if p.root = "" ∧ p.names = [] then "."
  else p.root ++ String.intercalate "/" p.names

------------------------------------------------------------
-- Extensions
------------------------------------------------------------

/- The last part of a written path. -/
def lastPart (cs : List Char) : List Char :=
  (cs.reverse.takeWhile (· != '/')).reverse

/-
  What follows the last dot of a written path, with the dot.
  Dots that a name starts with do not count.
-/
def extension (s : String) : List Char :=
  let name := (lastPart s.toList).dropWhile (· == '.')
  if name.contains '.' then
    '.' :: (name.reverse.takeWhile (· != '.')).reverse
  else
    []

end Path

end Replay
