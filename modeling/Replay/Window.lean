import Replay.World

/-
  This file defines the calls to a browser.

  Key definitions include:
    * `Window.preferences`
    * `Window.onProfile`
    * `Window.launch`
    * `Window.restoreCookies`
    * `Window.newTab`
    * `Window.exportCookies`
    * `Window.close`
    * `Window.reload`
-/

------------------------------------------------------------
-- Preferences
------------------------------------------------------------

namespace Replay

namespace Window

open Number Text

/- What a browser is told about the theme of its windows. -/
def preferences (theme : Option String) : Json.Value :=
  let dark := theme == some "dark"
  .object
    [("browser", .object
      [("theme", .object
        [("color_scheme2", .integer (if dark then 2 else 1))])]),
    ("devtools", .object
      [("synced_preferences_sync_disabled", .object
        [("ui-theme", .text
          (if dark then "\"dark\"" else "\"light\""))])])]

/- The text of the preferences. -/
def preferencesText (theme : Option String) : String :=
  Json.write (preferences theme)

/- Keep the preferences in the folder of a profile. -/
def writePreferences
    (profile : Path)
    (theme : Option String) : Play Path := do
  let file := (profile.child "Default").child "Preferences"
  Play.makeFolders file.parent
  Play.writeText file (preferencesText theme)
  return file

------------------------------------------------------------
-- Profiles
------------------------------------------------------------

/- Make the folder of a new profile. -/
def makeProfile : Play Unit :=
  modify fun w => { w with profile := some .empty }

/-
  Let the files and the folder of the profile change places:
  what is then done with files is done in the profile.
-/
def swapProfile : Play Unit :=
  modify fun w =>
    { w with
      files := w.profile.getD .empty
      profile := some w.files }

/- Keep the preferences in the folder of the profile. -/
def furnishProfile (theme : Option String) : Play Unit := do
  swapProfile
  Play.andFinally
    (do
      let _ ← writePreferences .here theme
      return)
    swapProfile

/- Remove the folder of the profile with all that it holds. -/
def removeProfile : Play Unit :=
  modify fun w => { w with profile := none }

/- Act on a new profile, which is removed in any case. -/
def onProfile
    {α : Type}
    (act : Play α) : Play α := do
  makeProfile
  act.andFinally removeProfile

------------------------------------------------------------
-- Starting and Ending
------------------------------------------------------------

/- Who tells of browsers that start. -/
def launchLog : String :=
  "netero.browser.launcher"

/- Make a call that may break down. -/
def call
    (method : BrowserMethod)
    (entry : Call) : Play Unit := do
  Play.record entry
  Play.breakDown ((← get).browser.breakdowns.lookup method)

/- The name of a theme; an empty one counts as none. -/
def themeName : Option String → String
  | none => "default"
  | some theme => if theme = "" then "default" else theme

/- The pages that a browser starts with. -/
def blankPages (count : Nat) : List String :=
  (List.range count).map fun n => "blank" ++ natText n

/- What is told of a browser that starts. -/
def launchMessage (options : LaunchOptions) : String :=
  "Launching " ++
    (if options.headless then "headless" else "headed") ++
    " Chromium (theme=" ++ themeName options.theme ++
    ") in <profile>"

/- Limit the time for an action, if there is a limit. -/
def limitTime : Option Binary64 → Play Unit
  | none => pure ()
  | some limit => call .limitTime (.limitTime limit)

/- Start a browser on the profile. -/
def launch
    (options : LaunchOptions)
    (timeout : Option Binary64) : Play Unit := do
  furnishProfile options.theme
  Play.note .info launchLog (launchMessage options)
  call .launch (.launch options (preferencesText options.theme))
  modify fun w =>
    { w with
      pages := blankPages w.browser.blankPages
      closed := false }
  limitTime timeout

/- Close the browser. -/
def close : Play Unit :=
  call .close .close

------------------------------------------------------------
-- Cookies
------------------------------------------------------------

/- Give the browser its cookies, if there are any. -/
def restoreCookies : Option (List Cookie) → Play Unit
  | none => pure ()
  | some [] => pure ()
  | some cookies => do
    Play.note .info launchLog
      ("Restoring " ++ natText cookies.length ++ " cookies")
    call .addCookies (.addCookies cookies)

/- Check the records of cookies, up to the first fault. -/
def checkCookies : List Document → Play (List Cookie)
  | [] => return []
  | d :: rest =>
    match Cookie.read d with
    | .ok cookie => do return cookie :: (← checkCookies rest)
    | .error rejection => throw (.rejected rejection)

/- The cookies that the browser has. -/
def exportCookies : Play (List Cookie) := do
  call .cookies .listCookies
  checkCookies (← get).browser.cookies

------------------------------------------------------------
-- Pages
------------------------------------------------------------

/- The label of the tab that is acted on. -/
def tab : String :=
  "tab"

/- Open a tab. -/
def newTab : Play Unit := do
  call .newPage .newPage
  modify fun w =>
    { w with
      pages := w.pages ++ [tab]
      page := w.browser.page }

/- Close pages, each by its label. -/
def closePages : List String → Play Unit
  | [] => pure ()
  | label :: rest => do
    call .closePage (.closePage label)
    modify fun w =>
      { w with pages := w.pages.filter (· != label) }
    closePages rest

/- Reload pages, each by its label. -/
def reload : List String → Play Unit
  | [] => pure ()
  | label :: rest => do
    call .reload (.reload label)
    reload rest

end Window

end Replay
