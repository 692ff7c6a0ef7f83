import Replay.Proofs.Cookie
import Replay.Proofs.FileTree
import Replay.Proofs.Performance
import Replay.Store

/-
  This file proves what reading and writing a store does to
  the files.

  Key definitions include:
    * `keepText`
    * `written`
    * `FileTree.TornText`

  Main results:
    * `Folder.readCookies_staysIn`
    * `Folder.run_readCookies`
    * `keepText_ok`
    * `left_keepText`
    * `torn_of_keepText`
-/

------------------------------------------------------------
-- Reading
------------------------------------------------------------

namespace Replay

open Play

section Reading

variable {mayCall : Call → Prop}
variable {R : World → World → Prop}
variable [IsPreorder World R]

theorem hasEntry_staysIn
    (path : Path) :
    (hasEntry path).StaysIn R := by
  refine StaysIn.get.bind fun w => ?_
  cases w.files.hasEntry path with
  | ok found =>
      exact StaysIn.pure found
  | error fault =>
      exact StaysIn.throw _

namespace Folder

theorem activeAddress_staysIn
    (state : Path) :
    (activeAddress state).StaysIn R :=
  (readText_staysIn _).bind fun _ =>
    (readText_staysIn _).bind fun _ => StaysIn.pure _

/- What comes of a jar is passed on, and nothing else. -/
theorem ofJar_staysIn
    (outcome : Except Jar.Refusal (List Cookie)) :
    (ofJar outcome).StaysIn R := by
  cases outcome with
  | ok cookies =>
      exact StaysIn.pure cookies
  | error refusal =>
      exact StaysIn.throw _

/- To read cookies enters a notice at most. -/
theorem readCookies_staysIn
    (frame : Frame mayCall R)
    (folder : Path)
    (addr : Address) :
    (readCookies folder addr).StaysIn R := by
  refine (hasEntry_staysIn _).bind fun found => ?_
  split
  · exact (readText_staysIn _).bind fun _ =>
      (ofJar_staysIn _).map _
  · refine (hasEntry_staysIn _).bind fun foundLines => ?_
    split
    · exact (readText_staysIn _).bind fun _ =>
        (ofJar_staysIn _).map _
    · exact (frame.note_staysIn _ _ _).bind fun _ =>
        StaysIn.pure _

theorem readUrl_staysIn
    (folder : Path)
    (addr : Address) :
    (readUrl folder addr).StaysIn R := by
  refine (hasEntry_staysIn _).bind fun found => ?_
  split
  · exact (readText_staysIn _).bind fun _ =>
      StaysIn.pure _
  · exact StaysIn.pure none

end Folder

namespace Store

theorem activeAddress_staysIn
    (frame : Frame mayCall R)
    (hActive : mayCall .activeAddress)
    (store : Store) :
    store.activeAddress.StaysIn R := by
  cases store with
  | folder folder =>
      exact Folder.activeAddress_staysIn folder
  | remote addr url cookies =>
      exact (frame.record_staysIn _ hActive).bind fun _ =>
        StaysIn.pure addr

/- To read cookies enters a notice at most. -/
theorem readCookies_staysIn
    (frame : Frame mayCall R)
    (hRead : ∀ addr, mayCall (.readCookies addr))
    (store : Store)
    (addr : Address) :
    (store.readCookies addr).StaysIn R := by
  cases store with
  | folder folder =>
      exact Folder.readCookies_staysIn frame folder addr
  | remote _ url cookies =>
      exact (frame.record_staysIn _ (hRead addr)).bind
        fun _ => StaysIn.pure cookies

theorem readUrl_staysIn
    (frame : Frame mayCall R)
    (hRead : ∀ addr, mayCall (.readUrl addr))
    (store : Store)
    (addr : Address) :
    (store.readUrl addr).StaysIn R := by
  cases store with
  | folder folder =>
      exact Folder.readUrl_staysIn folder addr
  | remote _ url cookies =>
      exact (frame.record_staysIn _ (hRead addr)).bind
        fun _ => StaysIn.pure url

end Store

end Reading

/- What was written as JSON is read as it was written. -/
theorem lines_write (value : Json.Value) :
    Content.lines (.text (Json.write value)) =
      .ok (Json.write value) := by
  have hPlain :
      ∀ c ∈ (Json.write value).toList, Json.IsPlain c := by
    intro c hMember
    rw [Json.write, String.toList_ofList] at hMember
    exact Json.isPlain_writeValue 0 value c hMember
  exact Content.lines_text (Json.not_mem_of_isPlain hPlain)

namespace Folder

/- Cookies that were kept are read, and nothing changes. -/
theorem run_readCookies
    {state : Path}
    {addr : Address}
    {kept : List Cookie}
    (hUnpaired : ∀ c ∈ kept, c.IsUnpaired)
    (hLasting : ∀ c ∈ kept, c.IsLasting)
    {w : World}
    (hStanding :
      w.files.standing? (cookies state addr) =
        some (.file (.text (Jar.writeJson kept)))) :
    (readCookies state addr).run w = .ok (some kept) w := by
  have hText :
      (readText (cookies state addr)).run w =
        .ok (Jar.writeJson kept) w := by
    rw [run_readText,
      FileTree.read_of_standing?_file hStanding]
    dsimp only
    rw [Jar.writeJson, lines_write]
  unfold readCookies
  rw [EStateM.run_bind, run_hasEntry,
    FileTree.hasEntry_of_standing? hStanding]
  dsimp only
  rw [if_pos rfl, EStateM.run_bind, hText]
  dsimp only
  rw [Jar.readJson_writeJson hUnpaired hLasting]
  rfl

/- A pipe in the place of the cookies is not read as any. -/
theorem run_readCookies_pipe
    {state : Path}
    {addr : Address}
    {w : World}
    (hStanding :
      w.files.standing? (cookies state addr) = some .pipe) :
    ∃ failure,
      (readCookies state addr).run w = .error failure w := by
  have hText :
      (readText (cookies state addr)).run w = .ok "" w := by
    rw [run_readText,
      FileTree.read_of_standing?_pipe hStanding]
    rfl
  unfold readCookies
  rw [EStateM.run_bind, run_hasEntry,
    FileTree.hasEntry_of_standing? hStanding]
  dsimp only
  rw [if_pos rfl, EStateM.run_bind, hText]
  exact ⟨_, rfl⟩

end Folder

------------------------------------------------------------
-- Writing
------------------------------------------------------------

/- Let a file hold a text, with the folders around it. -/
def keepText
    (file : Path)
    (text : Text) : Play Unit := do
  makeFolders file.parent
  writeText file text

/- Both files of a session are kept in this one way. -/
theorem Folder.writeUrl_eq
    (state : Path)
    (addr : Address)
    (text : Text) :
    Folder.writeUrl state addr text =
      keepText (Folder.url state addr) text := rfl

/- Cookies are kept as the text of a jar. -/
theorem Folder.writeCookies_eq
    (state : Path)
    (addr : Address)
    (kept : List Cookie) :
    Folder.writeCookies state addr kept =
      keepText (Folder.cookies state addr)
        (Jar.writeJson kept) := rfl

/- What is written of a text: nothing, if it is no string. -/
def written (text : Text) : String :=
  text.toString?.getD ""

/- A text without halves is written as it is. -/
@[simp]
theorem written_ofString (s : String) :
    written s = s := by
  rw [written, Text.toString?_ofString, Option.getD_some]

/- The write comes first; a text that is no string fails then. -/
theorem run_writeText
    (file : Path)
    (text : Text)
    (w : World) :
    (writeText file text).run w =
      match w.files.write file (.text (written text)) with
      | (.error fault, files) =>
        .error (.files fault) { w with files := files }
      | (.ok (), files) =>
        if text.toString?.isSome then
          .ok () { w with files := files }
        else
          .error (.unencodable text) { w with files := files } := by
  unfold writeText written
  cases text.toString? with
  | some s =>
      rw [run_write, Option.getD_some, Option.isSome_some]
      rcases w.files.write file (.text s) with ⟨_ | _, files⟩ <;>
        rfl
  | none =>
      rw [EStateM.run_bind, run_write, Option.getD_none,
        Option.isSome_none]
      rcases w.files.write file (.text "") with
        ⟨_ | _, files⟩ <;> rfl

/- A text is kept by making folders, then writing one file. -/
theorem keepText_ok
    {file : Path}
    {text : Text}
    {w w' : World}
    (hKeep : (keepText file text).run w = .ok () w') :
    ∃ furnished,
      FileTree.FurnishedAlong file.parent w.files furnished ∧
        text = written text ∧
        furnished.write file (.text (written text)) =
          (.ok (), w'.files) ∧
        w' = { w with files := w'.files } := by
  have hMade := w.files.furnishedAlong_makeFolders file.parent
  unfold keepText at hKeep
  rw [EStateM.run_bind, run_makeFolders] at hKeep
  rcases hFolders : w.files.makeFolders file.parent with
    ⟨_ | _, made⟩
  · simp [hFolders] at hKeep
  · rw [hFolders] at hKeep hMade
    simp only [run_writeText] at hKeep
    rcases hWrite : made.write file (.text (written text)) with
      ⟨_ | _, files⟩
    · simp [hWrite] at hKeep
    · simp only [hWrite] at hKeep
      split at hKeep
      · rename_i hString
        rcases Option.isSome_iff_exists.mp hString with ⟨s, hSome⟩
        have hText : text = written text := by
          rw [written, hSome, Option.getD_some]
          exact Text.toString?_eq_some_iff.mp hSome
        cases hKeep
        exact ⟨made, hMade, hText, hWrite, rfl⟩
      · cases hKeep

/- Where it is not kept, folders were made, and it may be torn. -/
theorem keepText_error
    {file : Path}
    {text : Text}
    {w w' : World}
    {failure : Failure}
    (hKeep :
      (keepText file text).run w = .error failure w') :
    ∃ furnished,
      FileTree.FurnishedAlong file.parent w.files furnished ∧
        (w'.files = furnished ∨
          ∃ outcome,
            furnished.write file (.text (written text)) =
              (outcome, w'.files) ∧
            (outcome = .ok () → text.toString? = none)) ∧
        w' = { w with files := w'.files } := by
  have hMade := w.files.furnishedAlong_makeFolders file.parent
  unfold keepText at hKeep
  rw [EStateM.run_bind, run_makeFolders] at hKeep
  rcases hFolders : w.files.makeFolders file.parent with
    ⟨_ | _, made⟩
  · simp only [hFolders, EStateM.Result.error.injEq] at hKeep
    rw [hFolders] at hMade
    rw [← hKeep.2]
    exact ⟨made, hMade, .inl rfl, rfl⟩
  · rw [hFolders] at hKeep hMade
    simp only [run_writeText] at hKeep
    rcases hWrite : made.write file (.text (written text)) with
      ⟨fault | _, files⟩
    · simp only [hWrite, EStateM.Result.error.injEq] at hKeep
      rw [← hKeep.2]
      exact ⟨made, hMade,
        .inr ⟨_, hWrite, fun hOk => by cases hOk⟩, rfl⟩
    · simp only [hWrite] at hKeep
      split at hKeep
      · cases hKeep
      · rename_i hString
        cases hKeep
        exact ⟨made, hMade,
          .inr ⟨_, hWrite, fun _ => by simpa using hString⟩, rfl⟩

/-
  Whatever comes of it, folders are made at most, and then one
  file is rewritten at most.
-/
theorem left_keepText
    (file : Path)
    (text : Text)
    (w : World) :
    ∃ furnished files,
      FileTree.FurnishedAlong file.parent w.files furnished ∧
        FileTree.RewrittenAt file furnished files ∧
        (keepText file text).left w = { w with files := files } := by
  cases hKeep : (keepText file text).run w with
  | ok value w' =>
      rcases keepText_ok hKeep with
        ⟨furnished, hAlong, _, hWrite, hSame⟩
      exact ⟨furnished, w'.files, hAlong,
        FileTree.rewrittenAt_of_write hWrite,
        (left_of_ok hKeep).trans hSame⟩
  | error failure w' =>
      rcases keepText_error hKeep with
        ⟨furnished, hAlong, hWrite, hSame⟩
      refine ⟨furnished, w'.files, hAlong, ?_,
        (left_of_error hKeep).trans hSame⟩
      rcases hWrite with hNone | ⟨outcome, hTorn, _⟩
      · rw [hNone]
        exact refl_of (FileTree.RewrittenAt file) furnished
      · exact FileTree.rewrittenAt_of_write hTorn

/- Keeping a text changes nothing but the files. -/
theorem keepText_staysIn
    {R : World → World → Prop}
    (hFiles : ∀ w files, R w { w with files := files })
    (file : Path)
    (text : Text) :
    (keepText file text).StaysIn R := by
  intro w
  rcases left_keepText file text w with ⟨_, files, _, _, hLeft⟩
  rw [hLeft]
  exact hFiles w files

/- What stands elsewhere still stands there. -/
theorem standing?_left_keepText
    {file other : Path}
    (text : Text)
    {w : World}
    {entry : Entry}
    (hOther :
      ∀ tree place,
        FileTree.locate tree file = .ok place →
          tree.locate other ≠ .ok place)
    (hStanding : w.files.standing? other = some entry) :
    ((keepText file text).left w).files.standing? other =
      some entry := by
  rcases left_keepText file text w with
    ⟨furnished, files, hAlong, hRewritten, hLeft⟩
  rw [hLeft]
  exact hRewritten.standing?_of_ne (hOther furnished)
    (hAlong.furnished.standing?_eq_some hStanding)

/- What is kept elsewhere stands as before. -/
theorem standing?_of_keepText_ne
    {file other : Path}
    {text : Text}
    {w w' : World}
    (hKeep : (keepText file text).run w = .ok () w')
    {entry : Entry}
    (hOther :
      ∀ tree place,
        FileTree.locate tree file = .ok place →
          tree.locate other ≠ .ok place)
    (hStanding : w.files.standing? other = some entry) :
    w'.files.standing? other = some entry := by
  rw [← left_of_ok hKeep]
  exact standing?_left_keepText text hOther hStanding

/- A text that was kept is there, if no pipe took it. -/
theorem standing?_of_keepText
    {file : Path}
    {text : Text}
    {w w' : World}
    (hPipe : w'.files.standing? file ≠ some .pipe)
    (hKeep : (keepText file text).run w = .ok () w') :
    text = written text ∧
      w'.files.standing? file =
        some (.file (.text (written text))) := by
  rcases keepText_ok hKeep with
    ⟨furnished, _, hText, hWrite, _⟩
  refine ⟨hText, FileTree.standing?_of_write ?_ hWrite⟩
  intro hBefore
  apply hPipe
  rw [FileTree.eq_of_write_pipe hBefore hWrite, hBefore]

/- Keeping a text takes no folder away. -/
theorem keepsFolders_left_keepText
    (file : Path)
    (text : Text)
    (w : World) :
    FileTree.KeepsFolders w.files
      ((keepText file text).left w).files := by
  rcases left_keepText file text w with
    ⟨furnished, files, hAlong, hRewritten, hLeft⟩
  rw [hLeft]
  exact fun place hFolder => hRewritten.keepsFolders place
    (hAlong.furnished.keepsFolders place hFolder)

/- Keeping a text changes no file but its own. -/
theorem held?_left_keepText
    {file : Path}
    {text : Text}
    {w : World}
    {place : Place}
    (hPlace :
      ((keepText file text).left w).files.locate file ≠
        .ok place) :
    ((keepText file text).left w).files.held? place =
      w.files.held? place := by
  rcases left_keepText file text w with
    ⟨furnished, files, hAlong, hRewritten, hLeft⟩
  rw [hLeft] at hPlace ⊢
  have hBefore : furnished.locate file ≠ .ok place :=
    fun hLocate => hPlace
      (FileTree.locate_of_keepsFolders
        hRewritten.keepsFolders hLocate)
  have hEntry := hRewritten.2 place hBefore
  rw [← hAlong.furnished.held?_eq place]
  simp only [FileTree.held?, hEntry]

/-
  A file holds a beginning of a text, all of it at most.  Of a
  text that cannot be encoded it holds nothing.
-/
def FileTree.TornText
    (tree : FileTree)
    (path : Path)
    (text : Text) : Prop :=
  match text.toString? with
  | some s => tree.Torn path (.text s)
  | none => tree.standing? path = some (.file (.text ""))

/- A text without halves is torn like a content. -/
@[simp]
theorem FileTree.tornText_ofString
    (tree : FileTree)
    (path : Path)
    (s : String) :
    tree.TornText path s ↔ tree.Torn path (.text s) := by
  rw [TornText, Text.toString?_ofString]

/- A write that was not that of the whole text tore the file. -/
theorem FileTree.tornText_of_write
    {before after : FileTree}
    {file : Path}
    {text : Text}
    {outcome : Except FileTree.Fault Unit}
    (hWrite :
      before.write file (.text (written text)) = (outcome, after))
    (hOutcome : outcome = .ok () → text.toString? = none) :
    after = before ∨ after.TornText file text := by
  cases hString : text.toString? with
  | some s =>
      have hText := Text.toString?_eq_some_iff.mp hString
      subst hText
      cases outcome with
      | ok _ =>
          rw [hOutcome rfl] at hString
          cases hString
      | error fault =>
          rw [written, hString, Option.getD_some] at hWrite
          rw [tornText_ofString]
          exact torn_of_write hWrite
  | none =>
      rw [written, hString, Option.getD_none] at hWrite
      rw [TornText, hString]
      cases outcome with
      | ok _ =>
          by_cases hPipe : before.standing? file = some .pipe
          · exact .inl (eq_of_write_pipe hPipe hWrite)
          · exact .inr (standing?_of_write hPipe hWrite)
      | error fault =>
          -- the only beginning of the empty text is that text
          refine (torn_of_write hWrite).imp_right ?_
          rintro ⟨room, hRoom, hStanding⟩
          cases Nat.eq_zero_of_le_zero hRoom
          exact hStanding

/-
  A text that was not kept left every file as it was, or its
  own file with a beginning of the text.
-/
theorem torn_of_keepText
    {file : Path}
    {text : Text}
    {w w' : World}
    {failure : Failure}
    (hKeep :
      (keepText file text).run w = .error failure w') :
    (∀ place, w'.files.held? place = w.files.held? place) ∨
      w'.files.TornText file text := by
  rcases keepText_error hKeep with
    ⟨furnished, hAlong, hNone | ⟨outcome, hWrite, hOutcome⟩, _⟩
  · exact .inl fun place => hNone ▸ hAlong.furnished.held?_eq place
  · rcases FileTree.tornText_of_write hWrite hOutcome with
      hSame | hTorn
    · exact .inl fun place =>
        hSame ▸ hAlong.furnished.held?_eq place
    · exact .inr hTorn

end Replay
