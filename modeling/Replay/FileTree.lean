import Replay.Path
import Replay.Text.Newline
import Replay.Text.Utf8

/-
  This file defines trees of files and what can be done with
  them.

  Key definitions include:
    * `Content`
    * `Entry`
    * `Flaw`
    * `FileTree`
    * `FileTree.Fault`
    * `FileTree.locate`
    * `FileTree.read`
    * `FileTree.write`
    * `FileTree.hasEntry`
    * `FileTree.makeFolders`
    * `FileTree.listing`

  A tree maps places to entries.  Paths are followed from the
  top, name by name; absolute ones start at another top, of
  which nothing is known at first.  The disk that a tree is on
  may fail, place by place, where something is written.
-/

------------------------------------------------------------
-- Contents
------------------------------------------------------------

namespace Replay

open Text

/-
  What a file holds: a text, or bytes that are not the UTF-8
  of any text.
-/
inductive Content where
  | text (value : String)
  | raw (bytes : List UInt8)
  deriving DecidableEq, Repr

namespace Content

/- The bytes of a content. -/
def bytes : Content → List UInt8
  | text s => (Utf8.encode s).data.toList
  | raw bytes => bytes

/- The content that has the given bytes. -/
def ofBytes (bytes : List UInt8) : Content :=
  match Utf8.decode ⟨bytes.toArray⟩ with
  | .ok s => text s
  | .error _ => raw bytes

/- What the first bytes of a content are worth by themselves. -/
def beginning
    (content : Content)
    (count : Nat) : Content :=
  ofBytes (content.bytes.take count)

/- The text of a content, with line feeds for line ends. -/
def lines : Content → Except Utf8.Failure String
  | text s => .ok (String.ofList (unifyNewlines s.toList))
  | raw bytes =>
    (Utf8.decode ⟨bytes.toArray⟩).map fun s =>
      String.ofList (unifyNewlines s.toList)

end Content

------------------------------------------------------------
-- Trees
------------------------------------------------------------

/- What stands at a place. -/
inductive Entry where
  | file (content : Content)
  | pipe
  | folder
  deriving DecidableEq, Repr

/- A place: the names on the way to it. -/
abbrev Place :=
  List String

/-
  What a disk does where something is to be written: it does
  not let anything be opened or made there, or it is full once
  it has taken some bytes, be it only at the closing of a file.
-/
inductive Flaw where
  | closed
  | full (room : Nat)
  deriving DecidableEq, Repr

/- Entries at their places, and the flaws of the disk. -/
structure FileTree where
  entries : List (Place × Entry)
  flaws : List (Place × Flaw) := []
  deriving Repr

namespace FileTree

/- The tree that holds nothing. -/
def empty : FileTree :=
  { entries := [] }

/- The top of what absolute paths lead to. -/
def outside : Place :=
  ["/"]

/- The two tops are folders at all times. -/
def isTop (place : Place) : Bool :=
  place == [] || place == outside

/- The entry at a place. -/
def entryAt?
    (tree : FileTree)
    (place : Place) : Option Entry :=
  if isTop place then some .folder
  else tree.entries.lookup place

/- Let an entry stand at a place. -/
def put
    (tree : FileTree)
    (place : Place)
    (entry : Entry) : FileTree :=
  { tree with
    entries := (place, entry) ::
      tree.entries.filter fun (other, _) => other != place }

/- Clear a place. -/
def erase
    (tree : FileTree)
    (place : Place) : FileTree :=
  { tree with
    entries :=
      tree.entries.filter fun (other, _) => other != place }

/- Set up an entry, with folders on the way to it. -/
def install
    (tree : FileTree)
    (place : Place)
    (entry : Entry) : FileTree :=
  let onTheWay := (List.range (place.length - 1)).map fun count =>
    place.take (count + 1)
  (onTheWay.foldl
    (fun tree folder =>
      if (tree.entryAt? folder).isSome then tree
      else tree.put folder .folder)
    tree).put place entry

------------------------------------------------------------
-- Following Paths
------------------------------------------------------------

/- Why something cannot be done with a path. -/
inductive Fault where
  | missing
  | inputOutput (detail : Text)
  | noReader
  | denied
  | alreadyThere
  | notFolder
  | isFolder
  | noSpace
  | nameTooLong
  | embeddedNul
  deriving DecidableEq, Repr

/- The wording of a fault. -/
def Fault.message : Fault → Text
  | missing => "[Errno 2] No such file or directory"
  | inputOutput detail => "[Errno 5] " ++ detail
  | noReader => "[Errno 6] No such device or address"
  | denied => "[Errno 13] Permission denied"
  | alreadyThere => "[Errno 17] File exists"
  | notFolder => "[Errno 20] Not a directory"
  | isFolder => "[Errno 21] Is a directory"
  | noSpace => "[Errno 28] No space left on device"
  | nameTooLong => "[Errno 36] File name too long"
  | embeddedNul => "embedded null byte"

/- The most bytes that one name has. -/
def nameLimit : Nat := 255

/- The most bytes that a path has. -/
def pathLimit : Nat := 4095

/- The place of the folder around a place. -/
def above (place : Place) : Place :=
  if isTop place then outside else place.dropLast

/-
  Follow names from a place.  All but the last one must lead
  to folders; what stands at the end is left open.
-/
def follow
    (tree : FileTree)
    (here : Place) :
    List String → Except Fault Place
  | [] => .ok here
  | name :: rest =>
    match tree.entryAt? here with
    | none => .error .missing
    | some .folder =>
      if name = "" ∨ name = "." then tree.follow here rest
      else if name = ".." then tree.follow (above here) rest
      else if nameLimit < name.utf8ByteSize then
        .error .nameTooLong
      else
        tree.follow (here ++ [name]) rest
    | some _ => .error .notFolder

/- The place that a path leads to. -/
def locate
    (tree : FileTree)
    (path : Path) : Except Fault Place :=
  if path.names.any fun name => name.toList.contains '\x00' then
    .error .embeddedNul
  else if pathLimit < path.text.utf8ByteSize then
    .error .nameTooLong
  else
    tree.follow (if path.root = "" then [] else outside) path.names

/- What stands where a path leads to. -/
def find
    (tree : FileTree)
    (path : Path) : Except Fault (Place × Entry) := do
  let place ← tree.locate path
  match tree.entryAt? place with
  | some entry => return (place, entry)
  | none => throw .missing

------------------------------------------------------------
-- Files
------------------------------------------------------------

/-
  Does a path lead to anything?  It does not if the way to it
  is not there.
-/
def hasEntry
    (tree : FileTree)
    (path : Path) : Except Fault Bool :=
  match tree.find path with
  | .ok _ => .ok true
  | .error .missing => .ok false
  | .error .notFolder => .ok false
  | .error .embeddedNul => .ok false
  | .error fault => .error fault

/- What a file holds.  A pipe that is read holds nothing. -/
def read
    (tree : FileTree)
    (path : Path) : Except Fault Content := do
  match ← tree.find path with
  | (_, .file content) => return content
  | (_, .pipe) => return .text ""
  | (_, .folder) => throw .isFolder

/-
  Let a file hold something.  What it held is gone as soon as
  it is opened, so that a disk that gets full leaves only a
  beginning of what is written.
-/
def write
    (tree : FileTree)
    (path : Path)
    (content : Content) : Except Fault Unit × FileTree :=
  match tree.locate path with
  | .error fault => (.error fault, tree)
  | .ok place =>
    match tree.entryAt? place, tree.flaws.lookup place with
    | some .folder, _ => (.error .isFolder, tree)
    | _, some .closed => (.error .denied, tree)
    | some .pipe, _ => (.ok (), tree)
    | _, some (.full room) =>
      if content.bytes.length < room then
        (.ok (), tree.put place (.file content))
      else
        (.error .noSpace,
          tree.put place (.file (content.beginning room)))
    | _, none => (.ok (), tree.put place (.file content))

/- Remove what is no folder. -/
def remove
    (tree : FileTree)
    (path : Path) : Except Fault FileTree := do
  match ← tree.find path with
  | (_, .folder) => throw .isFolder
  | (place, _) => return tree.erase place

------------------------------------------------------------
-- Folders and Pipes
------------------------------------------------------------

/- Make something at a place where nothing stands yet. -/
def make
    (tree : FileTree)
    (path : Path)
    (entry : Entry) : Except Fault FileTree := do
  let place ← tree.locate path
  match tree.entryAt? place, tree.flaws.lookup place with
  | some _, _ => throw .alreadyThere
  | none, some .closed => throw .denied
  | none, some (.full _) => throw .noSpace
  | none, none => return tree.put place entry

/- Does a path lead to a folder? -/
def hasFolder
    (tree : FileTree)
    (path : Path) : Except Fault Bool :=
  match tree.find path with
  | .ok (_, .folder) => .ok true
  | .ok _ => .ok false
  | .error .missing => .ok false
  | .error .notFolder => .ok false
  | .error .embeddedNul => .ok false
  | .error fault => .error fault

/-
  A folder that is there already is as good as a new one.
  What else is wrong stays wrong.
-/
def tolerate
    (tree : FileTree)
    (path : Path)
    (fault : Fault) : Except Fault Unit :=
  match fault with
  | .missing => .error .missing
  | .embeddedNul => .error .embeddedNul
  | fault =>
    match tree.hasFolder path with
    | .ok true => .ok ()
    | .ok false => .error fault
    | .error other => .error other

/- Make a folder unless it is there. -/
def makeFolder
    (tree : FileTree)
    (path : Path) : Except Fault Unit × FileTree :=
  match tree.make path .folder with
  | .ok tree => (.ok (), tree)
  | .error fault => (tree.tolerate path fault, tree)

/-
  Make the folder that the first `count` names of a path lead
  to, and those it stands in where they are missing.  Folders
  that were made stay even if another one cannot be made.
-/
def makeFoldersUpTo
    (tree : FileTree)
    (path : Path) :
    Nat → Except Fault Unit × FileTree
  | 0 => tree.makeFolder ⟨path.root, []⟩
  | count + 1 =>
    let here : Path := ⟨path.root, path.names.take (count + 1)⟩
    match tree.makeFolder here with
    | (.error .missing, tree) =>
      match makeFoldersUpTo tree path count with
      | (.ok (), tree) => tree.makeFolder here
      | failed => failed
    | outcome => outcome

/- Make a folder and those it stands in, unless it is there. -/
def makeFolders
    (tree : FileTree)
    (path : Path) : Except Fault Unit × FileTree :=
  tree.makeFoldersUpTo path path.names.length

------------------------------------------------------------
-- Listings
------------------------------------------------------------

/- Is a place below another one? -/
def isBelow (inner outer : Place) : Bool :=
  outer.isPrefixOf inner && inner != outer

/-
  Everything within the tree by the order of the texts of the
  paths, without folders that hold something.
-/
def listing (tree : FileTree) : List (String × Entry) :=
  let within := tree.entries.filter fun (place, entry) =>
    place.head? != some "/" &&
      (entry != .folder ||
        !(tree.entries.any fun (other, _) => isBelow other place))
  let named := within.map fun (place, entry) =>
    (String.intercalate "/" place, entry)
  named.mergeSort fun a b => !(b.1 < a.1)

end FileTree

end Replay
