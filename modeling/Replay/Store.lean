import Replay.Text.Blank
import Replay.World

/-
  This file defines stores: what is kept of the browsers and
  their tabs between runs.

  Key definitions include:
    * `Address.shown`
    * `Store`
    * `Store.activeAddress`
    * `Store.readCookies`
    * `Store.readUrl`
    * `Store.writeCookies`
    * `Store.writeUrl`

  A folder keeps the cookies of a browser in one file, and
  the address of each tab in a file of its own.
-/

------------------------------------------------------------
-- Files of a Folder
------------------------------------------------------------

namespace Replay

open Text

/- The address of a tab as it is shown in a log. -/
def Address.shown (addr : Address) : String :=
  "TabAddress(browser=" ++ quote addr.browser ++ ", tab=" ++
    quote addr.tab ++ ")"

namespace Folder

/- The folder of a browser. -/
def browser
    (state : Path)
    (addr : Address) : Path :=
  (state.child "browser").child addr.browser

/- The file with the address of a tab. -/
def url
    (state : Path)
    (addr : Address) : Path :=
  (((browser state addr).child "tab").child addr.tab).child
    "url.txt"

/- The file with the cookies of a browser as JSON. -/
def cookies
    (state : Path)
    (addr : Address) : Path :=
  (browser state addr).child "cookie.json"

/- The file with the cookies of a browser as lines. -/
def cookieLines
    (state : Path)
    (addr : Address) : Path :=
  (browser state addr).child "cookie.txt"

------------------------------------------------------------
-- Reading a Folder
------------------------------------------------------------

/- The tab that is acted on next. -/
def activeAddress (state : Path) : Play Address := do
  let browser ← Play.readText (state.child "active-browser.txt")
  let tab ← Play.readText (state.child "active-tab.txt")
  return ⟨trim browser, trim tab⟩

/- What a jar holds. -/
def ofJar
    (outcome : Except Jar.Refusal (List Cookie)) :
    Play (List Cookie) :=
  match outcome with
  | .ok cookies => pure cookies
  | .error refusal => throw (.ofJar refusal)

/- The cookies of a browser, or none if none were saved. -/
def readCookies
    (state : Path)
    (addr : Address) : Play (Option (List Cookie)) := do
  if ← Play.hasEntry (cookies state addr) then
    let text ← Play.readText (cookies state addr)
    some <$> ofJar (Jar.readJson text)
  else if ← Play.hasEntry (cookieLines state addr) then
    let text ← Play.readText (cookieLines state addr)
    some <$> ofJar (Jar.readNetscape text)
  else
    Play.note .debug "netero.session.store"
      ("No saved cookies for " ++ addr.shown)
    return none

/- The address of a tab, or none if it was never anywhere. -/
def readUrl
    (state : Path)
    (addr : Address) : Play (Option Text) := do
  if ← Play.hasEntry (url state addr) then
    let text := trim (← Play.readText (url state addr))
    return if text = "" then none else some text
  else
    return none

------------------------------------------------------------
-- Writing a Folder
------------------------------------------------------------

/- Keep the cookies of a browser. -/
def writeCookies
    (state : Path)
    (addr : Address)
    (kept : List Cookie) : Play Unit := do
  let file := cookies state addr
  Play.makeFolders file.parent
  Play.writeText file (Jar.writeJson kept)

/- Keep the address of a tab. -/
def writeUrl
    (state : Path)
    (addr : Address)
    (text : Text) : Play Unit := do
  let file := url state addr
  Play.makeFolders file.parent
  Play.writeText file text

end Folder

------------------------------------------------------------
-- Stores
------------------------------------------------------------

/-
  Where the state of tabs is kept: in a folder, or elsewhere,
  where each use is a call and what is read is given.
-/
inductive Store where
  | folder (state : Path)
  | remote (addr : Address) (url : Option Text)
      (cookies : Option (List Cookie))

namespace Store

/- The tab that is acted on next. -/
def activeAddress : Store → Play Address
  | folder state => Folder.activeAddress state
  | remote addr _ _ => do
    Play.record .activeAddress
    return addr

/- The cookies of a browser. -/
def readCookies
    (addr : Address) :
    Store → Play (Option (List Cookie))
  | folder state => Folder.readCookies state addr
  | remote _ _ cookies => do
    Play.record (.readCookies addr)
    return cookies

/- The address of a tab. -/
def readUrl
    (addr : Address) :
    Store → Play (Option Text)
  | folder state => Folder.readUrl state addr
  | remote _ url _ => do
    Play.record (.readUrl addr)
    return url

/- Keep the cookies of a browser. -/
def writeCookies
    (addr : Address)
    (kept : List Cookie) :
    Store → Play Unit
  | folder state => Folder.writeCookies state addr kept
  | remote _ _ _ => Play.record (.writeCookies addr kept)

/- Keep the address of a tab. -/
def writeUrl
    (addr : Address)
    (text : Text) :
    Store → Play Unit
  | folder state => Folder.writeUrl state addr text
  | remote _ _ _ => Play.record (.writeUrl addr text)

end Store

end Replay
