import Replay.Channel
import Replay.Proofs.FileTree
import Replay.Proofs.Play
import Replay.Proofs.Text.Pieces
import Replay.Proofs.Text.Utf8

/-
  This file proves what the acts on a channel make of a world
  in which no file stands where its path leads to: they open
  or reach a pipe, or fail for the files.

  Key definitions include:
    * `requestBytes`
    * `FileTree.Grown`
    * `World.Prepared`
    * `World.withEnd`
    * `World.chunkAt`
    * `World.drained`
    * `Channel.reading`

  Main results:
    * `asksForReload_iff`
    * `asksForReload_trim`
    * `World.pendingAt_closeHandle`
    * `Channel.attach_meets`
    * `Channel.broadcast_run_of_hasReader`
    * `Channel.broadcast_meets_of_not_hasReader`
    * `Channel.reading_ok_iff`
    * `Channel.reading_asks_iff`
    * `Channel.poll_run`
-/

------------------------------------------------------------
-- Messages
------------------------------------------------------------

namespace Replay

open FileTree Play Text

/- The search for a part finds it wherever it stands. -/
theorem occursWithin_iff
    (part row : List Char) :
    occursWithin part row = true ↔ part <:+: row := by
  induction row with
  | nil =>
      rw [occursWithin, List.isEmpty_iff, List.infix_nil]
  | cons c rest ih =>
      rw [occursWithin, Bool.or_eq_true, List.isPrefixOf_iff_prefix,
        ih, List.infix_cons_iff]

/- What a message asks for does not hang on blanks around it. -/
theorem asksForReload_trim (message : String) :
    asksForReload (trim message) = asksForReload message := by
  have hSolid :
      (reloadAll.toList.all fun c => !isBlank c) = true := rfl
  rw [Bool.eq_iff_iff, asksForReload, asksForReload,
    occursWithin_iff, occursWithin_iff, trim, String.toList_ofList]
  apply isInfix_trimBy_iff
  simpa using hSolid

/- The bytes of the request to reload all pages. -/
def requestBytes : List UInt8 :=
  Utf8.bytesOf reloadAll

/- Messages ask for a reload by their bytes. -/
theorem asksForReload_iff (message : String) :
    asksForReload message = true ↔
      requestBytes <:+: Utf8.bytesOf message := by
  rw [asksForReload, occursWithin_iff, requestBytes,
    Utf8.isInfix_bytesOf_iff (by decide)]

------------------------------------------------------------
-- Ends of Pipes
------------------------------------------------------------

namespace World

variable {w : World}
variable {place : Place}

@[simp] theorem pendingAt_setPending
    (w : World)
    (place : Place)
    (bytes : List UInt8) :
    (w.setPending place bytes).pendingAt place = bytes := by
  simp [pendingAt, setPending]

/- A pipe has a reader if an open end of it is known. -/
theorem hasReader_iff :
    w.hasReader place = true ↔
      ∃ id handle,
        (id, handle) ∈ w.handles ∧ handle.place = place := by
  simp [hasReader]

/- An end that is looked up is open. -/
theorem hasReader_of_lookup
    {id : Nat}
    {handle : Handle}
    (hHandle : w.handles.lookup id = some handle) :
    w.hasReader handle.place = true := by
  rcases List.lookup_eq_some_iff.mp hHandle with
    ⟨front, back, hHandles, _⟩
  refine hasReader_iff.mpr ⟨id, handle, ?_, rfl⟩
  rw [hHandles]
  simp

theorem le_foldl_max
    {n start : Nat}
    {numbers : List Nat}
    (hNumber : n ≤ start ∨ n ∈ numbers) :
    n ≤ numbers.foldl Nat.max start := by
  induction numbers generalizing start with
  | nil =>
      simpa using hNumber
  | cons first rest ih =>
      apply ih
      rcases hNumber with hStart | hMember
      · exact Or.inl (Nat.le_trans hStart (Nat.le_max_left _ _))
      · rcases List.mem_cons.mp hMember with rfl | hLater
        · exact Or.inl (Nat.le_max_right _ _)
        · exact Or.inr hLater

/- No open end has the number of the next one. -/
theorem lookup_freshHandle (w : World) :
    w.handles.lookup w.freshHandle = none := by
  rw [List.lookup_eq_none_iff]
  intro entry hEntry
  have hLe : entry.1 ≤ (w.handles.map (·.1)).foldl Nat.max 0 :=
    le_foldl_max (Or.inr (List.mem_map_of_mem hEntry))
  have hNe : w.freshHandle ≠ entry.1 := by
    unfold freshHandle
    omega
  exact bne_iff_ne.mpr hNe

/- Entries that are kept by their keys are still found. -/
theorem lookup_filter_key
    {α β : Type}
    [BEq α]
    [LawfulBEq α]
    (keep : α → Bool)
    (key : α)
    (entries : List (α × β)) :
    (entries.filter fun (other, _) => keep other).lookup key =
      if keep key then entries.lookup key else none := by
  induction entries with
  | nil =>
      simp
  | cons entry rest ih =>
      rcases entry with ⟨other, kept⟩
      by_cases hKey : key = other
      · subst hKey
        cases hKeep : keep key <;> simp [hKeep, ih]
      · have hOther : (key == other) = false :=
          beq_false_of_ne hKey
        cases hKeep : keep other <;>
          simp [hKeep, List.lookup_cons, hOther, ih]

/- What stands in a pipe stays as long as an end is open. -/
theorem pendingAt_closeHandle
    (w : World)
    (id : Nat)
    (place : Place) :
    (w.closeHandle id).pendingAt place =
      if (w.closeHandle id).hasReader place then
        w.pendingAt place
      else [] := by
  have hLookup :
      (w.closeHandle id).pending.lookup place =
        if (w.closeHandle id).hasReader place then
          w.pending.lookup place
        else none :=
    lookup_filter_key
      (fun place => (w.closeHandle id).hasReader place) place
      w.pending
  unfold pendingAt
  rw [hLookup]
  split <;> rfl

end World

------------------------------------------------------------
-- Making Sure of a Pipe
------------------------------------------------------------

/- What stood somewhere stands there, and no file is new. -/
def FileTree.Grown (before after : FileTree) : Prop :=
  (∀ place entry,
    before.entryAt? place = some entry →
      after.entryAt? place = some entry) ∧
  ∀ place, after.held? place = before.held? place

namespace FileTree.Grown

variable {before after : FileTree}

instance : IsPreorder FileTree Grown where
  refl _ := ⟨fun _ _ hEntry => hEntry, fun _ => rfl⟩
  trans _ _ _ hFirst hSecond :=
    ⟨fun place entry hEntry =>
        hSecond.1 place entry (hFirst.1 place entry hEntry),
      fun place => (hSecond.2 place).trans (hFirst.2 place)⟩

theorem keepsFolders
    (hGrown : Grown before after) :
    KeepsFolders before after :=
  fun place => hGrown.1 place .folder

/- What stood at a path still stands there. -/
theorem standing?_eq_some
    (hGrown : Grown before after)
    {path : Path}
    {entry : Entry}
    (hStanding : before.standing? path = some entry) :
    after.standing? path = some entry := by
  rcases standing?_eq_some_iff.mp hStanding with
    ⟨place, hLocate, hEntry⟩
  exact standing?_eq_some_iff.mpr
    ⟨place, locate_of_keepsFolders hGrown.keepsFolders hLocate,
      hGrown.1 place entry hEntry⟩

/- More folders are no more than that. -/
theorem of_furnished
    (hFurnished : Furnished before after) :
    Grown before after :=
  ⟨fun _ _ hEntry => hFurnished.entryAt?_eq_some hEntry,
    hFurnished.held?_eq⟩

/- Nor is a pipe where nothing stood. -/
theorem of_make
    {path : Path}
    (hMake : before.make path .pipe = .ok after) :
    Grown before after ∧ after.standing? path = some .pipe := by
  rcases FileTree.of_make hMake with
    ⟨place, hLocate, hEntry, hTop, rfl⟩
  have hSelf :
      (before.put place .pipe).entryAt? place =
        some .pipe :=
    entryAt?_put_self before hTop .pipe
  have hGrown : Grown before (before.put place .pipe) := by
    constructor
    · intro other entry hOther
      rw [entryAt?_put_of_ne before ?_ .pipe]
      · exact hOther
      · rintro rfl
        rw [hEntry] at hOther
        cases hOther
    · intro other
      by_cases hPlace : other = place
      · subst hPlace
        simp [held?, hSelf, hEntry]
      · simp [held?, entryAt?_put_of_ne before hPlace]
  refine ⟨hGrown, standing?_eq_some_iff.mpr
    ⟨place, ?_, hSelf⟩⟩
  exact locate_of_keepsFolders hGrown.keepsFolders hLocate

end FileTree.Grown

/- Where something stands, its entry is found at the goal. -/
theorem FileTree.find_of_standing?
    {tree : FileTree}
    {path : Path}
    {entry : Entry}
    (hStanding : tree.standing? path = some entry) :
    tree.find path = .ok (goal path, entry) ∧
      tree.entryAt? (goal path) = some entry := by
  rcases standing?_eq_some_iff.mp hStanding with
    ⟨place, hLocate, hEntry⟩
  have hPlace := goal_of_locate hLocate
  subst hPlace
  refine ⟨?_, hEntry⟩
  simp [find, hLocate, hEntry, bind, Except.bind, pure,
    Except.pure]

/- What is said to be there is an entry that stands there. -/
theorem FileTree.exists_standing?_of_hasEntry
    {tree : FileTree}
    {path : Path}
    (hFound : tree.hasEntry path = .ok true) :
    ∃ entry, tree.standing? path = some entry := by
  unfold standing?
  cases hFind : tree.find path with
  | ok found =>
      exact ⟨found.2, rfl⟩
  | error fault =>
      cases fault <;> simp [hasEntry, hFind] at hFound

/- Nothing differs but the log, and by grown files. -/
def World.Prepared (w u : World) : Prop :=
  Grown w.files u.files ∧
    u = { w with files := u.files, log := u.log }

instance : IsPreorder World World.Prepared where
  refl w := ⟨refl_of Grown w.files, rfl⟩
  trans _ _ _ hFirst hSecond := by
    refine ⟨trans_of Grown hFirst.1 hSecond.1, ?_⟩
    rw [hSecond.2, hFirst.2]

namespace World.Prepared

variable {w u : World}

theorem handles
    (hPrepared : w.Prepared u) :
    u.handles = w.handles := by
  rw [hPrepared.2]

theorem hasReader
    (hPrepared : w.Prepared u)
    (place : Place) :
    u.hasReader place = w.hasReader place := by
  rw [World.hasReader, World.hasReader, hPrepared.handles]

theorem pendingAt
    (hPrepared : w.Prepared u)
    (place : Place) :
    u.pendingAt place = w.pendingAt place := by
  rw [World.pendingAt, World.pendingAt, hPrepared.2]

end World.Prepared

namespace Channel

variable {channel : Channel}

/- Where something stands, nothing is made. -/
theorem ensure_run_of_standing
    {w : World}
    {entry : Entry}
    (hStanding : w.files.standing? channel.path = some entry) :
    channel.ensure.run w = .ok () w := by
  unfold ensure
  rw [EStateM.run_bind, run_hasEntry,
    hasEntry_of_standing? hStanding]
  rfl

/- Making sure of a pipe makes sure of something. -/
theorem ensure_meets
    (channel : Channel)
    (w : World) :
    (∃ u entry,
      channel.ensure.run w = .ok () u ∧ w.Prepared u ∧
        u.files.standing? channel.path = some entry) ∨
    ∃ u fault,
      channel.ensure.run w = .error (.files fault) u ∧
        w.Prepared u := by
  have hTree (files : FileTree)
      (hGrown : Grown w.files files) :
      w.Prepared { w with files := files } :=
    ⟨hGrown, rfl⟩
  unfold ensure
  rw [EStateM.run_bind, run_hasEntry]
  cases hFound : w.files.hasEntry channel.path with
  | error fault =>
      exact Or.inr ⟨w, fault, rfl, refl_of World.Prepared w⟩
  | ok found =>
      cases found with
      | true =>
          rcases exists_standing?_of_hasEntry hFound with
            ⟨entry, hStanding⟩
          exact Or.inl
            ⟨w, entry, rfl, refl_of World.Prepared w, hStanding⟩
      | false =>
          have hFolders :
              Grown w.files
                (w.files.makeFolders channel.path.parent).2 :=
            .of_furnished (furnished_makeFolders _ _)
          simp only [Bool.false_eq_true, if_false,
            EStateM.run_bind, run_makeFolders]
          rcases hMade : w.files.makeFolders channel.path.parent with
            ⟨fault | _, files⟩
          · rw [hMade] at hFolders
            exact Or.inr ⟨_, fault, rfl, hTree files hFolders⟩
          · rw [hMade] at hFolders
            cases hMake : files.make channel.path .pipe with
            | error fault =>
                refine Or.inr ⟨_, fault, ?_, hTree files hFolders⟩
                simp [hMake]
            | ok after =>
                rcases Grown.of_make hMake with ⟨hPipe, hStanding⟩
                refine Or.inl ⟨_, .pipe, ?_,
                  hTree after (trans_of Grown hFolders hPipe),
                  hStanding⟩
                simp [hMake]

/- A pipe is written to where it stands. -/
theorem target_run_of_standing
    {w : World}
    (hPipe : w.files.standing? channel.path = some .pipe) :
    channel.target.run w = .ok (goal channel.path, .pipe) w := by
  have hFind := (find_of_standing? hPipe).1
  simp [target, hFind]

/- Where no file stands, a pipe is opened or nothing is. -/
theorem target_meets
    {w : World}
    (hNone : w.files.held? (goal channel.path) = none)
    {entry : Entry}
    (hStanding : w.files.standing? channel.path = some entry) :
    entry = .pipe ∨
      channel.target.run w = .error (.files .isFolder) w := by
  rcases find_of_standing? hStanding with ⟨hFind, hEntry⟩
  cases entry with
  | file content =>
      simp [held?, hEntry] at hNone
  | pipe =>
      exact Or.inl rfl
  | folder =>
      exact Or.inr (by simp [target, hFind])

/-
  Making sure of a pipe and finding it, with what follows: a
  pipe is reached, or nothing but a failure of the files.
-/
theorem reach_meets
    (channel : Channel)
    {w : World}
    (hNone : w.files.held? (goal channel.path) = none) :
    (∃ u,
      w.Prepared u ∧
        u.files.standing? channel.path = some .pipe ∧
        ∀ {α : Type} (next : Place × Entry → Play α),
          (do channel.ensure; channel.target >>= next).run w =
            (next (goal channel.path, .pipe)).run u) ∨
    ∃ u fault,
      w.Prepared u ∧
        ∀ {α : Type} (next : Place × Entry → Play α),
          (do channel.ensure; channel.target >>= next).run w =
            .error (.files fault) u := by
  rcases ensure_meets channel w with
    ⟨u, entry, hRun, hPrepared, hStanding⟩ |
      ⟨u, fault, hRun, hPrepared⟩
  · have hStill : u.files.held? (goal channel.path) = none := by
      rw [hPrepared.1.2, hNone]
    rcases target_meets hStill hStanding with rfl | hFolder
    · refine Or.inl ⟨u, hPrepared, hStanding, ?_⟩
      intro α next
      rw [EStateM.run_bind, hRun]
      simp [target_run_of_standing hStanding]
    · refine Or.inr ⟨u, .isFolder, hPrepared, ?_⟩
      intro α next
      rw [EStateM.run_bind, hRun]
      simp [hFolder]
  · refine Or.inr ⟨u, fault, hPrepared, ?_⟩
    intro α next
    rw [EStateM.run_bind, hRun]

/- A pipe that stands is reached in the world as it is. -/
theorem reach_run_of_standing
    {α : Type}
    {w : World}
    (hPipe : w.files.standing? channel.path = some .pipe)
    (next : Place × Entry → Play α) :
    (do channel.ensure; channel.target >>= next).run w =
      (next (goal channel.path, .pipe)).run w := by
  rw [EStateM.run_bind, ensure_run_of_standing hPipe]
  simp [target_run_of_standing hPipe]

end Channel

------------------------------------------------------------
-- Opening and Sending
------------------------------------------------------------

/- A world with one more open end, at the goal of a path. -/
def World.withEnd
    (w : World)
    (path : Path) : World :=
  { w with
    handles := w.handles ++ [(w.freshHandle, ⟨goal path, 0⟩)] }

namespace Channel

variable {channel : Channel}

/- A pipe that stands is opened with a new number. -/
theorem attach_run_of_standing
    {w : World}
    (hPipe : w.files.standing? channel.path = some .pipe) :
    channel.attach.run w =
      .ok { channel with handle := some w.freshHandle }
        (w.withEnd channel.path) :=
  reach_run_of_standing hPipe _

/- An end is opened, or there is no pipe to open. -/
theorem attach_meets
    (channel : Channel)
    {w : World}
    (hNone : w.files.held? (goal channel.path) = none) :
    (∃ u,
      w.Prepared u ∧
        u.files.standing? channel.path = some .pipe ∧
        channel.attach.run w =
          .ok { channel with handle := some u.freshHandle }
            (u.withEnd channel.path)) ∨
    ∃ u fault,
      w.Prepared u ∧
        channel.attach.run w = .error (.files fault) u := by
  rcases reach_meets channel hNone with
    ⟨u, hPrepared, hPipe, hRun⟩ | ⟨u, fault, hPrepared, hRun⟩
  · exact Or.inl ⟨u, hPrepared, hPipe, hRun _⟩
  · exact Or.inr ⟨u, fault, hPrepared, hRun _⟩

/- What is sent stands in the pipe while an end is open. -/
theorem broadcast_run_of_hasReader
    {w : World}
    (hPipe : w.files.standing? channel.path = some .pipe)
    (hReader : w.hasReader (goal channel.path) = true)
    (message : String) :
    (channel.broadcast message).run w =
      .ok true (w.setPending (goal channel.path)
        (w.pendingAt (goal channel.path) ++
          Utf8.bytesOf message)) := by
  refine (reach_run_of_standing hPipe _).trans ?_
  simp [hReader, Utf8.bytesOf]

/- It is lost if none is. -/
theorem broadcast_meets_of_not_hasReader
    {w : World}
    (hNone : w.files.held? (goal channel.path) = none)
    (hReader : w.hasReader (goal channel.path) = false)
    (message : String) :
    (∃ u,
      w.Prepared u ∧
        (channel.broadcast message).run w = .ok false u) ∨
    ∃ u fault,
      w.Prepared u ∧
        (channel.broadcast message).run w =
          .error (.files fault) u := by
  rcases reach_meets channel hNone with
    ⟨u, hPrepared, hPipe, hRun⟩ | ⟨u, fault, hPrepared, hRun⟩
  · have hStill : u.hasReader (goal channel.path) = false := by
      rw [hPrepared.hasReader, hReader]
    let warning : Notice :=
      ⟨.warning, "netero.browser.reload",
        "No browser listening on " ++ channel.path.text⟩
    refine Or.inl ⟨{ u with log := u.log ++ [warning] }, ?_, ?_⟩
    · exact ⟨hPrepared.1, by rw [hPrepared.2]⟩
    · refine (hRun _).trans ?_
      simp [hStill, warning]
  · exact Or.inr ⟨u, fault, hPrepared, hRun _⟩

end Channel

------------------------------------------------------------
-- Reading
------------------------------------------------------------

/- What is read from a pipe at once. -/
def World.chunkAt
    (w : World)
    (place : Place) : List UInt8 :=
  (w.pendingAt place).take chunkLimit

/- A world in which that was read. -/
def World.drained
    (w : World)
    (place : Place) : World :=
  if w.pendingAt place = [] then w
  else w.setPending place ((w.pendingAt place).drop chunkLimit)

namespace World

variable {w : World}
variable {place : Place}

/- A read takes no more bytes than a chunk holds. -/
theorem pendingAt_drained
    (w : World)
    (place : Place) :
    (w.drained place).pendingAt place =
      (w.pendingAt place).drop chunkLimit := by
  unfold drained
  split
  · rename_i hNothing
    rw [hNothing, List.drop_nil]
  · exact pendingAt_setPending w place _

@[simp] theorem handles_drained :
    (w.drained place).handles = w.handles := by
  unfold drained
  split <;> rfl

end World

namespace Channel

variable {channel : Channel}

/- What a chunk of bytes is taken for; no bytes are nothing. -/
def reading
    (chunk : List UInt8) : Except Failure (Option String) :=
  if chunk = [] then .ok none
  else
    match Utf8.decode ⟨chunk.toArray⟩ with
    | .ok s => .ok (some (trim s))
    | .error failure => .error (.undecodable failure)

/- The bytes of a text are read as the trimmed text. -/
theorem reading_bytesOf
    {s : String}
    (hSome : s ≠ "") :
    reading (Utf8.bytesOf s) = .ok (some (trim s)) := by
  have hBytes : Utf8.bytesOf s ≠ [] := by
    intro hNil
    exact hSome (Utf8.bytesOf_injective hNil)
  rw [reading, if_neg hBytes, Utf8.decode_bytesOf]

/- A chunk is read if it is a text, and only then. -/
theorem reading_ok_iff (chunk : List UInt8) :
    (∃ message, reading chunk = .ok message) ↔
      Utf8.IsText chunk := by
  by_cases hChunk : chunk = []
  · subst hChunk
    exact ⟨fun _ => Utf8.isText_nil, fun _ => ⟨none, rfl⟩⟩
  · rw [reading, if_neg hChunk]
    constructor
    · rintro ⟨message, hRead⟩
      apply Classical.byContradiction
      intro hText
      rcases Utf8.exists_error_of_not_isText hText with
        ⟨failure, hDecode⟩
      rw [hDecode] at hRead
      cases hRead
    · rintro ⟨s, rfl⟩
      exact ⟨some (trim s), by rw [Utf8.decode_bytesOf]⟩

/- It is undecodable otherwise. -/
theorem reading_fails_iff (chunk : List UInt8) :
    (∃ failure,
      reading chunk = .error (.undecodable failure)) ↔
      ¬Utf8.IsText chunk := by
  rw [← reading_ok_iff]
  unfold reading
  split
  · simp
  · cases Utf8.decode ⟨chunk.toArray⟩ <;> simp

/- A chunk is heard as a request if it holds one. -/
theorem reading_asks_iff
    {chunk : List UInt8}
    (hText : Utf8.IsText chunk) :
    (∃ message,
      reading chunk = .ok (some message) ∧
        asksForReload message = true) ↔
      requestBytes <:+: chunk := by
  rcases hText with ⟨s, rfl⟩
  rw [← asksForReload_iff]
  by_cases hSome : s = ""
  · subst hSome
    constructor
    · rintro ⟨message, hRead, _⟩
      cases hRead
    · intro hAsks
      cases hAsks
  · rw [reading_bytesOf hSome, ← asksForReload_trim]
    constructor
    · rintro ⟨message, hRead, hAsks⟩
      cases hRead
      exact hAsks
    · intro hAsks
      exact ⟨trim s, rfl, hAsks⟩

/- What is read at a pipe is the first chunk of its bytes. -/
theorem receive_run
    {w : World}
    (id : Nat)
    {handle : Handle}
    (hNone : w.files.held? handle.place = none) :
    (receive id handle).run w =
      match reading (w.chunkAt handle.place) with
      | .ok message => .ok message (w.drained handle.place)
      | .error failure => .error failure (w.drained handle.place) := by
  unfold receive World.chunkAt World.drained reading
  rw [EStateM.run_bind]
  simp only [EStateM.run_get]
  split
  · rename_i content hFile
    simp [held?, hFile] at hNone
  · cases hPending : w.pendingAt handle.place with
    | nil =>
        simp
    | cons byte rest =>
        have hChunk : (byte :: rest).take chunkLimit ≠ [] := by
          simp [chunkLimit]
        rw [if_neg hChunk]
        unfold decode
        cases Utf8.decode
          ⟨((byte :: rest).take chunkLimit).toArray⟩ <;> simp

/- A poll reads a chunk from the pipe of the open end. -/
theorem poll_run
    {w : World}
    {id : Nat}
    {handle : Handle}
    (hInside : channel.handle = some id)
    (hEnd : w.handles.lookup id = some handle)
    (hNone : w.files.held? handle.place = none) :
    channel.poll.run w =
      match reading (w.chunkAt handle.place) with
      | .ok message => .ok message (w.drained handle.place)
      | .error failure => .error failure (w.drained handle.place) := by
  rw [← receive_run id hNone]
  simp [poll, hInside, hEnd]

/- Without an open end a poll is a failure of its own kind. -/
theorem poll_run_of_outside
    (hOutside : channel.handle = none)
    (w : World) :
    channel.poll.run w =
      .error (.runtime
        "ReloadChannel.poll() called outside 'with channel:'")
        w := by
  simp [poll, hOutside]

end Channel
end Replay
