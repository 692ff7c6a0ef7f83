/-
  This file defines what the command line tells about itself.

  Key definitions include:
    * `Verb`
    * `Verb.usage`
    * `Verb.help`
-/

------------------------------------------------------------
-- Verbs
------------------------------------------------------------

namespace Replay

/- What the command line can do. -/
inductive Verb where
  | run
  | watch
  | check
  | reload
  deriving DecidableEq, Repr

namespace Verb

/- All verbs. -/
def all : List Verb :=
  [run, watch, check, reload]

/- The word for a verb. -/
def word : Verb → String
  | run => "run"
  | watch => "open"
  | check => "check"
  | reload => "reload"

/- The verb of a word. -/
def ofWord? (s : String) : Option Verb :=
  all.find? fun verb => verb.word == s

/- How the program is called, alone or with a verb. -/
def program : Option Verb → String
  | none => "netero"
  | some verb => "netero " ++ verb.word

------------------------------------------------------------
-- Usage
------------------------------------------------------------

/- The words to choose from. -/
def choices : String :=
  "\x7brun,open,check,reload\x7d"

/- The arguments that there are. -/
def usage : Option Verb → String
  | none => "usage: netero [-h] " ++ choices ++ " ...\n"
  | some run =>
    "usage: netero run [-h] --config CONFIG --scenario " ++
      "SCENARIO [--theme THEME]\n" ++
      "                  [--headed]\n"
  | some watch => "usage: netero open [-h] [--theme THEME]\n"
  | some check => "usage: netero check [-h] --config CONFIG\n"
  | some reload => "usage: netero reload [-h]\n"

------------------------------------------------------------
-- Help
------------------------------------------------------------

/- What the arguments mean. -/
def explanation : Option Verb → String
  | none =>
    "Replay scripted browser scenarios\n\n" ++
      "positional arguments:\n" ++
      "  " ++ choices ++ "\n" ++
      "                        Available commands\n" ++
      "    run                 Replay a scenario against the " ++
      "active tab\n" ++
      "    open                Open the active tab in a " ++
      "visible browser\n" ++
      "    check               Validate a scenario " ++
      "configuration\n" ++
      "    reload              Ask an open browser to reload " ++
      "all pages\n\n" ++
      "options:\n" ++
      "  -h, --help            show this help message and " ++
      "exit\n"
  | some run =>
    "options:\n" ++
      "  -h, --help           show this help message and exit\n" ++
      "  --config CONFIG      Scenario configuration (json or " ++
      "yaml)\n" ++
      "  --scenario SCENARIO  Name of the scenario to run\n" ++
      "  --theme THEME        Color scheme: light or dark\n" ++
      "  --headed             Show the browser window\n"
  | some watch =>
    "options:\n" ++
      "  -h, --help     show this help message and exit\n" ++
      "  --theme THEME  Color scheme: light or dark\n"
  | some check =>
    "options:\n" ++
      "  -h, --help       show this help message and exit\n" ++
      "  --config CONFIG  Scenario configuration (json or " ++
      "yaml)\n"
  | some reload =>
    "options:\n" ++
      "  -h, --help  show this help message and exit\n"

/- The whole help. -/
def help (verb : Option Verb) : String :=
  usage verb ++ "\n" ++ explanation verb

end Verb

end Replay
