import Replay.CommandLine.Usage
import Replay.Text.Digit
import Replay.Text.Quoted

/-
  This file defines the reading of arguments.

  Key definitions include:
    * `Flag`
    * `Token`
    * `classify`
    * `Stop`
    * `Invocation`
    * `Invocation.ofArguments`

  A flag may be cut short, as long as no other one begins in
  the same way.  Its value follows it, or is joined to it
  with `=`.  After `--` nothing is a flag.
-/

------------------------------------------------------------
-- Flags
------------------------------------------------------------

namespace Replay

namespace CommandLine

open Text

/- A flag: how it is called, and whether it takes a value. -/
structure Flag where
  names : List String
  takesValue : Bool
  deriving DecidableEq, Repr

namespace Flag

/- The flag that asks for help. -/
def help : Flag := ⟨["-h", "--help"], false⟩

/- The flag of the configuration. -/
def config : Flag := ⟨["--config"], true⟩

/- The flag of the scenario. -/
def scenario : Flag := ⟨["--scenario"], true⟩

/- The flag of the theme. -/
def theme : Flag := ⟨["--theme"], true⟩

/- The flag that shows the window. -/
def headed : Flag := ⟨["--headed"], false⟩

/- The flags of the program and of its verbs. -/
def all : Option Verb → List Flag
  | none => [help]
  | some .run => [help, config, scenario, theme, headed]
  | some .watch => [help, theme]
  | some .check => [help, config]
  | some .reload => [help]

/- All names of a flag. -/
def title (flag : Flag) : String :=
  String.intercalate "/" flag.names

/- Flags, each by each of its names. -/
def named (flags : List Flag) : List (String × Flag) :=
  flags.flatMap fun flag =>
    flag.names.map fun name => (name, flag)

end Flag

------------------------------------------------------------
-- Tokens
------------------------------------------------------------

/-
  What one argument is.  A text may be joined to a flag: after
  a sign `=`, or directly to a name of one letter.
-/
inductive Token where
  | value (text : String)
  | dashes
  | flag (flag : Flag) (name : String) (joined : Option String)
  | unknown (text : String)
  deriving DecidableEq, Repr

/- Is a text the text of a number below zero? -/
def isNegativeNumber (s : List Char) : Bool :=
  match s with
  | '-' :: rest =>
    let rest := if rest.getLast? = some '\n' then rest.dropLast
      else rest
    let tail := rest.dropWhile isDigit
    match tail with
    | [] => !rest.isEmpty
    | '.' :: digits => !digits.isEmpty && digits.all isDigit
    | _ => false
  | _ => false

/- The text before the first `=`, and the text after it. -/
def splitJoined? (s : List Char) : Option (String × String) :=
  if s.contains '=' then
    some (String.ofList (s.takeWhile (· != '=')),
      String.ofList ((s.dropWhile (· != '=')).drop 1))
  else
    none

/- The flags that an argument may be short for. -/
def candidates
    (flags : List (String × Flag))
    (s : List Char) : List Token :=
  if s.take 2 = ['-', '-'] then
    let (start, joined) :=
      match splitJoined? s with
      | some (start, joined) => (start.toList, some joined)
      | none => (s, none)
    flags.filterMap fun (name, flag) =>
      if start.isPrefixOf name.toList then
        some (.flag flag name joined)
      else
        none
  else
    flags.filterMap fun (name, flag) =>
      if name.toList = s.take 2 then
        some (.flag flag name (some (String.ofList (s.drop 2))))
      else if s.isPrefixOf name.toList then
        some (.flag flag name none)
      else
        none

/- The name of a flag that an argument is. -/
def Token.name : Token → String
  | flag _ name _ => name
  | _ => ""

/- The flag that an argument gives in full. -/
def exactly?
    (flags : List (String × Flag))
    (text : String) : Option Token :=
  match flags.lookup text with
  | some flag => some (.flag flag text none)
  | none => do
    let (name, joined) ← splitJoined? text.toList
    let flag ← flags.lookup name
    return .flag flag name (some joined)

/- What an argument is, or a complaint if it may be several. -/
def classify
    (flags : List (String × Flag))
    (text : String) : Except String Token :=
  let s := text.toList
  if s.head? != some '-' || s.length = 1 then
    .ok (.value text)
  else
    match exactly? flags text with
    | some token => .ok token
    | none =>
      match candidates flags s with
      | [token] => .ok token
      | first :: second :: rest =>
        .error ("ambiguous option: " ++ text ++ " could match " ++
          String.intercalate ", "
            ((first :: second :: rest).map Token.name))
      | [] =>
        if isNegativeNumber s || s.contains ' ' then
          .ok (.value text)
        else
          .ok (.unknown text)

/- What the arguments are, up to the first complaint. -/
def classifyAll
    (flags : List (String × Flag)) :
    List String → Except String (List Token)
  | [] => .ok []
  | text :: rest =>
    if text = "--" then .ok (.dashes :: rest.map .value)
    else do
      let token ← classify flags text
      return token :: (← classifyAll flags rest)

------------------------------------------------------------
-- Scanning
------------------------------------------------------------

/- Why the reading of arguments ends before their end. -/
inductive Stop where
  | help (verb : Option Verb)
  | misuse (verb : Option Verb) (message : String)
  deriving DecidableEq, Repr

/- Values of flags, the last ones first, and what is left. -/
structure Found where
  values : List (Flag × String)
  extras : List String
  deriving DecidableEq, Repr

/- A complaint about a flag. -/
def complain
    (verb : Option Verb)
    (flag : Flag)
    (message : String) : Stop :=
  .misuse verb ("argument " ++ flag.title ++ ": " ++ message)

/- A complaint about a value that a flag does not take. -/
def ignored
    (verb : Option Verb)
    (flag : Flag)
    (joined : String) : Stop :=
  complain verb flag
    ("ignored explicit argument " ++ quote joined)

/-
  The letters that are joined to a flag of one letter, itself
  without a value: each is one more such flag.
-/
def refuseLetters
    (verb : Option Verb)
    (flag : Flag) : List Char → Except Stop Unit
  | ['h'] => .ok ()
  | 'h' :: rest => refuseLetters verb flag rest
  | letters =>
    .error (ignored verb flag (String.ofList letters))

/-
  What is joined to a flag without a value: to its long name
  nothing, to a name of one letter more such letters.
-/
def refuseJoined
    (verb : Option Verb)
    (flag : Flag)
    (name : String) : Option String → Except Stop Unit
  | none => .ok ()
  | some text =>
    if name.toList.length = 2 then
      refuseLetters verb flag text.toList
    else
      .error (ignored verb flag text)

/- A flag without a value that is found; help ends all. -/
def enter
    (verb : Option Verb)
    (flag : Flag)
    (found : Found) : Except Stop Found :=
  if flag = .help then .error (.help verb)
  else .ok { found with values := (flag, "") :: found.values }

/- Scan the arguments of a verb. -/
def scan
    (verb : Option Verb)
    (found : Found) :
    List Token → Except Stop Found
  | [] => .ok found
  | .value text :: rest =>
    scan verb { found with extras := found.extras ++ [text] } rest
  | .unknown text :: rest =>
    scan verb { found with extras := found.extras ++ [text] } rest
  | .dashes :: rest =>
    scan verb { found with extras := found.extras ++ ["--"] } rest
  | .flag flag name joined :: rest =>
    if flag.takesValue then
      match joined, rest with
      | none, .value text :: rest =>
        scan verb
          { found with values := (flag, text) :: found.values }
          rest
      | none, _ =>
        .error (complain verb flag "expected one argument")
      | some text, rest =>
        scan verb
          { found with values := (flag, text) :: found.values }
          rest
    else do
      refuseJoined verb flag name joined
      scan verb (← enter verb flag found) rest

/- Scan the texts of arguments of a verb. -/
def scanTexts
    (verb : Option Verb)
    (texts : List String) : Except Stop Found :=
  match classifyAll (Flag.named (Flag.all verb)) texts with
  | .error message => .error (.misuse verb message)
  | .ok tokens => scan verb ⟨[], []⟩ tokens

------------------------------------------------------------
-- Invocations
------------------------------------------------------------

/- What is asked for. -/
inductive Invocation where
  | nothing
  | run (config scenario : String) (theme : Option String)
      (headed : Bool)
  | watch (theme : Option String)
  | check (config : String)
  | reload
  deriving DecidableEq, Repr

/- A complaint about flags that are missing. -/
def lacking
    (verb : Verb)
    (found : Found)
    (flags : List Flag) : Stop :=
  let missing := flags.filter fun flag =>
    (found.values.lookup flag).isNone
  .misuse (some verb)
    ("the following arguments are required: " ++
      String.intercalate ", " (missing.map Flag.title))

/- What a verb asks for with what was found. -/
def Invocation.ofFound
    (verb : Verb)
    (found : Found) : Except Stop Invocation :=
  let theme := found.values.lookup .theme
  match verb with
  | .run =>
    match found.values.lookup .config,
        found.values.lookup .scenario with
    | some config, some scenario =>
      .ok (.run config scenario theme
        (found.values.lookup .headed).isSome)
    | _, _ => .error (lacking .run found [.config, .scenario])
  | .watch => .ok (.watch theme)
  | .check =>
    match found.values.lookup .config with
    | some config => .ok (.check config)
    | none => .error (lacking .check found [.config])
  | .reload => .ok .reload

/- A complaint about arguments that nobody took. -/
def unrecognized (extras : List String) : Stop :=
  .misuse none
    ("unrecognized arguments: " ++ String.intercalate " " extras)

/- What a word and the arguments after it ask for. -/
def Invocation.ofWord
    (extras : List String)
    (word : String)
    (rest : List String) : Except Stop Invocation :=
  match Verb.ofWord? word with
  | none =>
    .error (.misuse none
      ("argument command: invalid choice: " ++ quote word ++
        " (choose from " ++
        String.intercalate ", "
          (Verb.all.map fun verb => quote verb.word) ++ ")"))
  | some verb => do
    let found ← scanTexts (some verb) rest
    let invocation ← Invocation.ofFound verb found
    match extras ++ found.extras with
    | [] => return invocation
    | extras => throw (unrecognized extras)

/- What is asked for, after arguments that nobody took. -/
def Invocation.search
    (extras : List String) :
    List String → Except Stop Invocation
  | [] =>
    if extras.isEmpty then .ok .nothing
    else .error (unrecognized extras)
  | ["--"] => .error (unrecognized (extras ++ ["--"]))
  | text :: rest =>
    if text = "--" then
      Invocation.ofWord extras text rest
    else
      match classify (Flag.named (Flag.all none)) text with
      | .error message => .error (.misuse none message)
      | .ok (.flag flag name joined) => do
        refuseJoined none flag name joined
        throw (.help none)
      | .ok (.unknown text) =>
        Invocation.search (extras ++ [text]) rest
      | .ok _ => Invocation.ofWord extras text rest

/- What arguments ask for. -/
def Invocation.ofArguments
    (arguments : List String) : Except Stop Invocation :=
  Invocation.search [] arguments

end CommandLine

end Replay
