import Replay.Call
import Replay.Page

/-
  This file defines what runs act on, and what acts on it.

  Key definitions include:
    * `Notice`
    * `Browser`
    * `World`
    * `Play`
    * `Play.record`
    * `Play.note`
    * `Play.readText`
    * `Play.writeText`
    * `Play.outcome`
    * `Play.andFinally`

  A failure keeps all that was done before it.
-/

------------------------------------------------------------
-- Notices
------------------------------------------------------------

namespace Replay

/- How much a notice matters. -/
inductive Level where
  | debug
  | info
  | warning
  | error
  deriving DecidableEq, Repr

/- A line of the log. -/
structure Notice where
  level : Level
  source : String
  message : Text
  deriving DecidableEq, Repr

------------------------------------------------------------
-- Browsers
------------------------------------------------------------

/- The calls to a browser that may break down. -/
inductive BrowserMethod where
  | launch
  | limitTime
  | addCookies
  | newPage
  | closePage
  | cookies
  | close
  | reload
  deriving DecidableEq, Repr

/- What happens during a pause. -/
structure Tick where
  sent : Option String
  dropsPages : Bool
  closes : Bool
  breakdown : Option Breakdown
  deriving DecidableEq, Repr

/- What happens when nothing else does. -/
def Tick.last : Tick :=
  ⟨none, false, true, none⟩

/-
  A browser: the page of a new tab, how many pages it starts
  with, its cookies, what happens during pauses, and the
  calls that break down.
-/
structure Browser where
  page : Page
  blankPages : Nat
  cookies : List Document
  ticks : List Tick
  breakdowns : List (BrowserMethod × Breakdown)

/- A browser in which nothing happens. -/
def Browser.blank : Browser :=
  ⟨.blank, 0, [], [], []⟩

------------------------------------------------------------
-- Worlds
------------------------------------------------------------

/- An open end of a pipe, or a file that is read from a place. -/
structure Handle where
  place : Place
  offset : Nat
  deriving DecidableEq, Repr

/-
  The files, the open ends of pipes and what stands in them,
  the browser with its open pages and the folder of its
  profile, the page of the tab, what was called, and what was
  logged.  The folder of a profile lies where no other path
  leads to.
-/
structure World where
  files : FileTree
  handles : List (Nat × Handle)
  pending : List (Place × List UInt8)
  browser : Browser
  pages : List String
  closed : Bool
  profile : Option FileTree
  page : Page
  trace : List Call
  log : List Notice

/- A world with some files and a page that is open. -/
def World.start
    (files : FileTree)
    (page : Page) : World :=
  { files
    handles := []
    pending := []
    browser := .blank
    pages := []
    closed := false
    profile := none
    page
    trace := []
    log := [] }

/- What acts on a world. -/
abbrev Play :=
  EStateM Failure World

namespace Play

/- Enter a call into the trace. -/
def record (call : Call) : Play Unit :=
  modify fun w => { w with trace := w.trace ++ [call] }

/- Enter a notice into the log. -/
def note
    (level : Level)
    (source : String)
    (message : Text) : Play Unit :=
  modify fun w =>
    { w with log := w.log ++ [⟨level, source, message⟩] }

/- Break down if there is a way to. -/
def breakDown : Option Breakdown → Play Unit
  | none => pure ()
  | some breakdown => throw breakdown.failure

/- What comes out of the files. -/
def ofFiles
    {α : Type} :
    Except FileTree.Fault α → Play α
  | .ok value => pure value
  | .error fault => throw (.files fault)

/- The text of a file. -/
def readText (path : Path) : Play String := do
  let content ← ofFiles ((← get).files.read path)
  match content.lines with
  | .ok s => return s
  | .error failure => throw (.undecodable failure)

/- Let a file hold something. -/
def write
    (path : Path)
    (content : Content) : Play Unit := do
  let (outcome, files) := (← get).files.write path content
  modify fun w => { w with files := files }
  ofFiles outcome

/-
  Let a file hold a text.  One that cannot be encoded is
  refused when the file is open, and so empty, already.
-/
def writeText
    (path : Path)
    (text : Text) : Play Unit :=
  match text.toString? with
  | some s => write path (.text s)
  | none => do
    write path (.text "")
    throw (.unencodable text)

/- Does a path lead to anything? -/
def hasEntry (path : Path) : Play Bool := do
  ofFiles ((← get).files.hasEntry path)

/- Make a folder and those it stands in, unless it is there. -/
def makeFolders (path : Path) : Play Unit := do
  let (outcome, files) := (← get).files.makeFolders path
  modify fun w => { w with files := files }
  ofFiles outcome

------------------------------------------------------------
-- Outcomes
------------------------------------------------------------

/- What came of an act, as a value. -/
def outcome
    {α : Type}
    (act : Play α) : Play (Except Failure α) :=
  tryCatch (Except.ok <$> act) fun failure =>
    return .error failure

/- The act that an outcome is of. -/
def ofOutcome
    {α : Type} :
    Except Failure α → Play α
  | .ok value => pure value
  | .error failure => throw failure

/-
  An act, and another one after it in any case.  If both
  fail, the later failure counts.
-/
def andFinally
    {α : Type}
    (act : Play α)
    (last : Play Unit) : Play α := do
  let outcome ← act.outcome
  last
  ofOutcome outcome

end Play

end Replay
