import Replay.CommandLine

/-
  This file defines the program: the command line on the
  files and the environment of the machine.

  Key definitions include:
    * `main`

  The files that a call may read are copied into a tree, and
  what the call changed in the tree is copied back.  The
  browser is one in which nothing happens.
-/

------------------------------------------------------------
-- Environment
------------------------------------------------------------

namespace Replay

namespace Machine

/- The variables that are settings. -/
def variableNames : List String :=
  ["NETERO_STATE", "NETERO_FIFO", "NETERO_LOG_LEVEL",
    "NETERO_ACTION_TIMEOUT_MS"]

/- The settings of the machine. -/
def readSettings : IO Settings := do
  let environment ← variableNames.filterMapM fun name => do
    return (← IO.getEnv name).map fun value => (name, value)
  return .ofEnvironment environment

------------------------------------------------------------
-- Files
------------------------------------------------------------

/- The place of a path, wherever it leads to. -/
def placeOf (path : Path) : Place :=
  let names := path.names.filter fun name =>
    name ≠ "" ∧ name ≠ "."
  if path.root = "" then names else FileTree.outside ++ names

/- The path of a place. -/
def pathOf (place : Place) : Path :=
  if place.take 1 = FileTree.outside then ⟨"/", place.drop 1⟩
  else ⟨"", place⟩

/- Copy a file into a tree, if it can be read. -/
def fetch
    (tree : FileTree)
    (path : Path) : IO FileTree := do
  try
    let data ← IO.FS.readBinFile path.text
    return tree.install (placeOf path)
      (.file (.ofBytes data.data.toList))
  catch _ =>
    return tree

/- The files of a state that tell which tab is active. -/
def activeFiles (state : Path) : List Path :=
  [state.child "active-browser.txt",
    state.child "active-tab.txt", Clock.file state]

/- The files of a tab. -/
def tabFiles
    (state : Path)
    (addr : Address) : List Path :=
  [Folder.url state addr, Folder.cookies state addr,
    Folder.cookieLines state addr]

/- Copy the files of a state into a tree. -/
def fetchState
    (tree : FileTree)
    (state : Path) : IO FileTree := do
  let tree ← (activeFiles state).foldlM fetch tree
  match (Folder.activeAddress state).run (.start tree .blank) with
  | .ok addr _ => (tabFiles state addr).foldlM fetch tree
  | .error _ _ => return tree

/- The configuration that arguments name, if they do. -/
def configPath? : CommandLine.Invocation → Option Path
  | .run config _ _ _ => some (.verbatim config)
  | .check config => some (.verbatim config)
  | _ => none

/- The files that a call may read. -/
def fetchFiles
    (settings : Settings)
    (arguments : List String) : IO FileTree := do
  let tree ←
    match settings.stateFolder none with
    | .ok state => fetchState .empty state
    | .error _ => pure .empty
  match CommandLine.Invocation.ofArguments arguments with
  | .error _ => return tree
  | .ok invocation =>
    match configPath? invocation with
    | some path => fetch tree path
    | none => return tree

/- Copy what changed in a tree back. -/
def storeFiles (before after : FileTree) : IO Unit :=
  after.entries.forM fun (place, entry) => do
    if before.entryAt? place ≠ some entry then
      match entry with
      | .folder => IO.FS.createDirAll (pathOf place).text
      | .file content =>
        let path := pathOf place
        IO.FS.createDirAll path.parent.text
        IO.FS.writeBinFile path.text ⟨content.bytes.toArray⟩
      | .pipe => pure ()

------------------------------------------------------------
-- Output
------------------------------------------------------------

/- The word for a level. -/
def levelWord : Level → String
  | .debug => "DEBUG"
  | .info => "INFO"
  | .warning => "WARNING"
  | .error => "ERROR"

/- The line of a notice. -/
def noticeLine (notice : Notice) : String :=
  levelWord notice.level ++ " " ++ notice.source ++ ": " ++
    notice.message.replaced

/- Print what a call logged. -/
def printLog
    (settings : Settings)
    (log : List Notice) : IO Unit :=
  (CommandLine.shown settings log).forM fun notice =>
    IO.eprintln (noticeLine notice)

/- Print a reply, and return its status. -/
def printReply (reply : CommandLine.Reply) : IO UInt32 := do
  IO.print reply.out.replaced
  IO.eprint (reply.complaint.getD "")
  return reply.status.toUInt32

/- Call the program with some arguments. -/
def call (arguments : List String) : IO UInt32 := do
  let settings ← readSettings
  let files ← fetchFiles settings arguments
  let start := World.start files .blank
  match (CommandLine.invoke settings arguments).run start with
  | .ok reply world =>
    storeFiles files world.files
    printLog settings world.log
    printReply reply
  | .error failure world =>
    storeFiles files world.files
    printLog settings world.log
    IO.eprintln failure.message.replaced
    return 1

end Machine

end Replay

/- The program. -/
def main (arguments : List String) : IO UInt32 :=
  Replay.Machine.call arguments
