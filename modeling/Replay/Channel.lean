import Replay.Text.Blank
import Replay.World

/-
  This file defines the channel on which an open browser is
  asked to reload its pages.

  Key definitions include:
    * `Channel`
    * `Channel.attach`
    * `Channel.detach`
    * `Channel.poll`
    * `Channel.broadcast`
    * `Listener`

  What is sent through a pipe is one row of bytes.  It stays
  there until it is read or until no end is open any more.  A
  file in place of a pipe is written over from its start.
-/

------------------------------------------------------------
-- Messages
------------------------------------------------------------

namespace Replay

open Text

/- The request to reload all pages. -/
def reloadAll : String :=
  "reload_all"

/- Does a text stand somewhere in another one? -/
def occursWithin (s : List Char) : List Char → Bool
  | [] => s.isEmpty
  | c :: rest => s.isPrefixOf (c :: rest) || occursWithin s rest

/- Does a message ask to reload all pages? -/
def asksForReload (message : String) : Bool :=
  occursWithin reloadAll.toList message.toList

/- The most bytes that are read at once. -/
def chunkLimit : Nat := 4096

------------------------------------------------------------
-- Pipes
------------------------------------------------------------

namespace World

/- What stands in a pipe. -/
def pendingAt
    (w : World)
    (place : Place) : List UInt8 :=
  (w.pending.lookup place).getD []

/- Let bytes stand in a pipe. -/
def setPending
    (w : World)
    (place : Place)
    (bytes : List UInt8) : World :=
  { w with
    pending := (place, bytes) ::
      w.pending.filter fun (other, _) => other != place }

/- Is an end open at a place? -/
def hasReader
    (w : World)
    (place : Place) : Bool :=
  w.handles.any fun (_, handle) => handle.place == place

/- A number that no open end has. -/
def freshHandle (w : World) : Nat :=
  (w.handles.map (·.1)).foldl Nat.max 0 + 1

/- Move an end to an offset. -/
def moveHandle
    (w : World)
    (id offset : Nat) : World :=
  { w with
    handles := w.handles.map fun (other, handle) =>
      if other = id then (other, { handle with offset })
      else (other, handle) }

/- Close an end; what nobody can read any more is lost. -/
def closeHandle
    (w : World)
    (id : Nat) : World :=
  let left := w.handles.filter fun (other, _) => other != id
  { w with
    handles := left
    pending := w.pending.filter fun (place, _) =>
      left.any fun (_, handle) => handle.place == place }

end World

------------------------------------------------------------
-- Channels
------------------------------------------------------------

/- A channel at a path, with its end if that is open. -/
structure Channel where
  path : Path
  handle : Option Nat
  deriving DecidableEq, Repr

namespace Channel

/- Make the pipe unless something is there. -/
def ensure (channel : Channel) : Play Unit := do
  if ← Play.hasEntry channel.path then
    pure ()
  else
    Play.makeFolders channel.path.parent
    let files ← Play.ofFiles ((← get).files.make channel.path .pipe)
    modify fun w => { w with files := files }

/- Find what can be opened at the path. -/
def target (channel : Channel) : Play (Place × Entry) := do
  match ← Play.ofFiles ((← get).files.find channel.path) with
  | (_, .folder) => throw (.files .isFolder)
  | found => return found

/- Open an end.  One that was open before is not closed. -/
def attach (channel : Channel) : Play Channel := do
  channel.ensure
  let (place, _) ← channel.target
  let id := (← get).freshHandle
  modify fun w => { w with handles := w.handles ++ [(id, ⟨place, 0⟩)] }
  return { channel with handle := some id }

/- Close the end, if it is open. -/
def detach (channel : Channel) : Play Channel := do
  match channel.handle with
  | none => return channel
  | some id =>
    modify fun w => w.closeHandle id
    return { channel with handle := none }

/- The message in some bytes. -/
def decode (bytes : List UInt8) : Play String :=
  match Utf8.decode ⟨bytes.toArray⟩ with
  | .ok s => pure (trim s)
  | .error failure => throw (.undecodable failure)

/-
  What was sent, or nothing.  A file always has something to
  read, if only its end.
-/
def receive
    (id : Nat)
    (handle : Handle) : Play (Option String) := do
  let w ← get
  match w.files.entryAt? handle.place with
  | some (.file content) =>
    let bytes := (content.bytes.drop handle.offset).take chunkLimit
    set (w.moveHandle id (handle.offset + bytes.length))
    some <$> decode bytes
  | _ =>
    let bytes := w.pendingAt handle.place
    if bytes.isEmpty then
      return none
    else
      set (w.setPending handle.place (bytes.drop chunkLimit))
      some <$> decode (bytes.take chunkLimit)

/- What was sent to an open channel. -/
def poll (channel : Channel) : Play (Option String) := do
  let handles := (← get).handles
  match channel.handle.bind fun id =>
      (handles.lookup id).map fun handle => (id, handle) with
  | some (id, handle) => receive id handle
  | none =>
    throw (.runtime
      "ReloadChannel.poll() called outside 'with channel:'")

/- Write over the start of a row of bytes. -/
def overwrite (start whole : List UInt8) : List UInt8 :=
  start ++ whole.drop start.length

/- Send a message; is anyone there to read it? -/
def broadcast
    (channel : Channel)
    (message : String) : Play Bool := do
  channel.ensure
  let sent := (Utf8.encode message).data.toList
  let (place, entry) ← channel.target
  match entry with
  | .file content =>
    modify fun w =>
      { w with
        files := w.files.put place
          (.file (.ofBytes (overwrite sent content.bytes))) }
    return true
  | _ =>
    let w ← get
    if w.hasReader place then
      set (w.setPending place (w.pendingAt place ++ sent))
      return true
    else
      Play.note .warning "netero.browser.reload"
        ("No browser listening on " ++ channel.path.text)
      return false

end Channel

------------------------------------------------------------
-- Listeners
------------------------------------------------------------

/-
  Who listens for requests: an end of a channel, or one to
  whom the given messages come, each at its own time.
-/
inductive Listener where
  | channel (channel : Channel)
  | scripted (messages : List (Option String))

namespace Listener

/- Begin to listen. -/
def attach : Listener → Play Listener
  | channel c => channel <$> c.attach
  | scripted messages => do
    Play.record .openChannel
    return scripted messages

/- Stop to listen. -/
def detach : Listener → Play Unit
  | channel c => discard c.detach
  | scripted _ => Play.record .closeChannel

/- What was sent, and the listener after it. -/
def poll : Listener → Play (Option String × Listener)
  | channel c => do return (← c.poll, channel c)
  | scripted [] => return (none, scripted [])
  | scripted (message :: rest) => return (message, scripted rest)

end Listener

end Replay
