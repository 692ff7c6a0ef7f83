import Mathlib.Order.Defs.Unbundled
import Replay.Proofs.Text.CodePoint
import Replay.World

/-
  This file describes acts by what they make of a world.

  Key definitions include:
    * `Play.left`
    * `Play.StaysIn`
    * `Play.ResultsAgree`
    * `Play.Agrees`

  An act stays in a relation if it leaves each world only for
  one that the relation allows, also when it fails.  Two acts
  agree under a relation if they do the same in any two
  worlds that it relates.
-/

------------------------------------------------------------
-- Running Acts
------------------------------------------------------------

namespace Replay

namespace Play

variable {α β : Type}

/- Acts that run alike are the same. -/
theorem eq_of_run
    {act other : Play α}
    (hRun : ∀ w, act.run w = other.run w) :
    act = other :=
  funext hRun

@[simp] theorem run_throw
    (failure : Failure)
    (w : World) :
    EStateM.run (throw failure : Play α) w =
      .error failure w := rfl

@[simp] theorem run_map
    (f : α → β)
    (act : Play α)
    (w : World) :
    EStateM.run (f <$> act) w =
      match act.run w with
      | .ok value w' => .ok (f value) w'
      | .error failure w' => .error failure w' := by
  rw [← bind_pure_comp, EStateM.run_bind]
  cases act.run w <;> rfl

@[simp] theorem run_record
    (call : Call)
    (w : World) :
    (record call).run w =
      .ok () { w with trace := w.trace ++ [call] } := rfl

@[simp] theorem run_note
    (level : Level)
    (source : String)
    (message : Text)
    (w : World) :
    (note level source message).run w =
      .ok () { w with
        log := w.log ++ [⟨level, source, message⟩] } := rfl

@[simp] theorem run_ofFiles
    (outcome : Except FileTree.Fault α)
    (w : World) :
    (ofFiles outcome).run w =
      match outcome with
      | .ok value => .ok value w
      | .error fault => .error (.files fault) w := by
  cases outcome <;> rfl

@[simp] theorem run_write
    (path : Path)
    (content : Content)
    (w : World) :
    (write path content).run w =
      match w.files.write path content with
      | (.ok (), files) => .ok () { w with files := files }
      | (.error fault, files) =>
        .error (.files fault) { w with files := files } := by
  unfold write
  rcases hWrite : w.files.write path content with
    ⟨_ | _, files⟩ <;> simp [hWrite]

/- The text of a string is written as that string. -/
@[simp] theorem writeText_ofString
    (path : Path)
    (s : String) :
    writeText path s = write path (.text s) := by
  rw [writeText, Text.toString?_ofString]

@[simp] theorem run_hasEntry
    (path : Path)
    (w : World) :
    (hasEntry path).run w =
      match w.files.hasEntry path with
      | .ok found => .ok found w
      | .error fault => .error (.files fault) w := by
  cases hFound : w.files.hasEntry path <;>
    simp [hasEntry, hFound]

@[simp] theorem run_makeFolders
    (path : Path)
    (w : World) :
    (makeFolders path).run w =
      match w.files.makeFolders path with
      | (.ok (), files) => .ok () { w with files := files }
      | (.error fault, files) =>
        .error (.files fault) { w with files := files } := by
  unfold makeFolders
  rcases hMake : w.files.makeFolders path with
    ⟨_ | _, files⟩ <;> simp [hMake]

/- Reading a text leaves the world as it is. -/
theorem run_readText
    (path : Path)
    (w : World) :
    (readText path).run w =
      match w.files.read path with
      | .error fault => .error (.files fault) w
      | .ok content =>
        match content.lines with
        | .ok s => .ok s w
        | .error failure => .error (.undecodable failure) w := by
  unfold readText
  cases hRead : w.files.read path with
  | error fault =>
      simp [hRead]
  | ok content =>
      cases hLines : content.lines <;> simp [hRead, hLines]

/- What is done about a failure begins where it came up. -/
@[simp] theorem run_tryCatch
    (act : Play α)
    (handle : Failure → Play α)
    (w : World) :
    EStateM.run (tryCatch act handle) w =
      match act.run w with
      | .ok value w' => .ok value w'
      | .error failure w' => (handle failure).run w' := by
  simp only [tryCatch, tryCatchThe, MonadExceptOf.tryCatch]
  delta EStateM.tryCatch
  simp only [EStateM.run]
  cases act w <;> rfl

@[simp] theorem run_outcome
    (act : Play α)
    (w : World) :
    act.outcome.run w =
      match act.run w with
      | .ok value w' => .ok (.ok value) w'
      | .error failure w' => .ok (.error failure) w' := by
  rw [outcome, run_tryCatch, run_map]
  cases act.run w <;> rfl

/-
  After an act another one follows in any case.  A failure of
  the later one counts first.
-/
theorem run_andFinally
    (act : Play α)
    (last : Play Unit)
    (w : World) :
    (act.andFinally last).run w =
      match act.run w with
      | .ok value w' =>
        match last.run w' with
        | .ok () w'' => .ok value w''
        | .error failure w'' => .error failure w''
      | .error failure w' =>
        match last.run w' with
        | .ok () w'' => .error failure w''
        | .error other w'' => .error other w'' := by
  unfold andFinally
  cases hAct : act.run w with
  | ok value w' =>
      cases hLast : last.run w' <;>
        simp [hAct, hLast, ofOutcome]
  | error failure w' =>
      cases hLast : last.run w' <;>
        simp [hAct, hLast, ofOutcome]

/- An act with a value ends in some world. -/
theorem exists_run_of_run'
    {act : Play α}
    {w : World}
    {value : α}
    (hValue : act.run' w = some value) :
    ∃ u, act.run w = .ok value u := by
  delta EStateM.run' at hValue
  cases hRun : act.run w with
  | ok first u =>
      rw [hRun] at hValue
      cases hValue
      exact ⟨u, rfl⟩
  | error failure u =>
      rw [hRun] at hValue
      cases hValue

/- Acts one after another end only if each of them ends. -/
theorem exists_of_bind_ok
    {act : Play α}
    {next : α → Play β}
    {w w' : World}
    {value : β}
    (hRun : (act >>= next).run w = .ok value w') :
    ∃ first v,
      act.run w = .ok first v ∧
        (next first).run v = .ok value w' := by
  rw [EStateM.run_bind] at hRun
  cases hAct : act.run w with
  | ok first v =>
      rw [hAct] at hRun
      exact ⟨first, v, rfl, hRun⟩
  | error failure v =>
      rw [hAct] at hRun
      cases hRun

/- The same, if the later one follows in any case. -/
theorem exists_of_andFinally_ok
    {act : Play α}
    {last : Play Unit}
    {w w' : World}
    {value : α}
    (hRun : (act.andFinally last).run w = .ok value w') :
    ∃ v, act.run w = .ok value v ∧ last.run v = .ok () w' := by
  rw [run_andFinally] at hRun
  cases hAct : act.run w with
  | ok first v =>
      rw [hAct] at hRun
      cases hLast : last.run v with
      | ok _ v' =>
          simp only [hLast, EStateM.Result.ok.injEq] at hRun
          rcases hRun with ⟨rfl, rfl⟩
          exact ⟨v, rfl, hLast⟩
      | error failure v' =>
          simp [hLast] at hRun
  | error failure v =>
      rw [hAct] at hRun
      cases hLast : last.run v <;> simp [hLast] at hRun

------------------------------------------------------------
-- Acts That Follow in Any Case
------------------------------------------------------------

/- An act, and another one after it if it fails. -/
def orFinally
    (act : Play α)
    (last : Play Unit) : Play α := do
  match ← act.outcome with
  | .ok value => return value
  | .error failure =>
    last
    throw failure

/- After a failure the last act is done, and may fail anew. -/
theorem run_orFinally
    (act : Play α)
    (last : Play Unit)
    (w : World) :
    (act.orFinally last).run w =
      match act.run w with
      | .ok value w' => .ok value w'
      | .error failure w' =>
        match last.run w' with
        | .ok () w'' => .error failure w''
        | .error other w'' => .error other w'' := by
  unfold orFinally
  cases hAct : act.run w with
  | ok value w' =>
      simp [hAct]
  | error failure w' =>
      cases hLast : last.run w' <;> simp [hAct, hLast]

/- What follows two acts in any case follows each of them. -/
theorem bind_andFinally
    (act : Play α)
    (next : α → Play β)
    (last : Play Unit) :
    (act >>= next).andFinally last =
      act.orFinally last >>= fun value =>
        (next value).andFinally last := by
  refine eq_of_run fun w => ?_
  rw [run_andFinally, EStateM.run_bind, EStateM.run_bind,
    run_orFinally]
  cases act.run w with
  | ok value w' =>
      exact (run_andFinally (next value) last w').symm
  | error failure w' =>
      dsimp only
      cases last.run w' <;> rfl

/- Of two last acts the outer one is done last. -/
theorem andFinally_andFinally
    (act : Play α)
    (last final : Play Unit) :
    (act.andFinally last).andFinally final =
      act.andFinally (last.andFinally final) := by
  refine eq_of_run fun w => ?_
  simp only [run_andFinally]
  cases act.run w with
  | ok value w' =>
      dsimp only
      cases last.run w' with
      | ok _ w'' =>
          dsimp only
          cases final.run w'' <;> rfl
      | error failure w'' =>
          dsimp only
          cases final.run w'' <;> rfl
  | error failure w' =>
      dsimp only
      cases last.run w' with
      | ok _ w'' =>
          dsimp only
          cases final.run w'' <;> rfl
      | error other w'' =>
          dsimp only
          cases final.run w'' <;> rfl

------------------------------------------------------------
-- What Is Left
------------------------------------------------------------

/- The world that an act leaves, whatever came of it. -/
def left
    (act : Play α)
    (w : World) : World :=
  match act.run w with
  | .ok _ w' => w'
  | .error _ w' => w'

theorem left_of_ok
    {act : Play α}
    {w w' : World}
    {value : α}
    (hRun : act.run w = .ok value w') :
    act.left w = w' := by
  simp [left, hRun]

theorem left_of_error
    {act : Play α}
    {w w' : World}
    {failure : Failure}
    (hRun : act.run w = .error failure w') :
    act.left w = w' := by
  simp [left, hRun]

/- What follows an act that ends begins where it has led. -/
theorem left_bind_of_ok
    {act : Play α}
    {next : α → Play β}
    {w w' : World}
    {value : α}
    (hRun : act.run w = .ok value w') :
    (act >>= next).left w = (next value).left w' := by
  simp [left, hRun]

/- After a failure nothing more is done. -/
theorem left_bind_of_error
    {act : Play α}
    {next : α → Play β}
    {w w' : World}
    {failure : Failure}
    (hRun : act.run w = .error failure w') :
    (act >>= next).left w = w' := by
  simp [left, hRun]

/- A write leaves its files, also where it fails. -/
theorem left_write
    (path : Path)
    (content : Content)
    (w : World) :
    (write path content).left w =
      { w with files := (w.files.write path content).2 } := by
  unfold left
  rw [run_write]
  rcases w.files.write path content with ⟨_ | _, files⟩ <;> rfl

/- Does an act end without a failure? -/
def ends
    (act : Play α)
    (w : World) : Bool :=
  match act.run w with
  | .ok _ _ => true
  | .error _ _ => false

/- An act that is seen to end has a value and a world. -/
theorem exists_of_ends
    {act : Play α}
    {w : World}
    (hEnds : act.ends w = true) :
    ∃ value w', act.run w = .ok value w' := by
  unfold ends at hEnds
  cases hRun : act.run w with
  | ok value w' =>
      exact ⟨value, w', rfl⟩
  | error failure w' =>
      rw [hRun] at hEnds
      cases hEnds

/- What follows in any case begins where an act has led. -/
theorem left_andFinally
    (act : Play α)
    (last : Play Unit)
    (w : World) :
    (act.andFinally last).left w = last.left (act.left w) := by
  unfold left
  rw [run_andFinally]
  cases hRun : act.run w with
  | ok value w' =>
      cases hEnd : last.run w' <;> simp [hEnd]
  | error failure w' =>
      cases hEnd : last.run w' <;> simp [hEnd]

/- An act leaves every world for a related one. -/
def StaysIn
    (R : World → World → Prop)
    (act : Play α) : Prop :=
  ∀ w, R w (act.left w)

namespace StaysIn

variable {R : World → World → Prop}

/- Where an act succeeds, its worlds are related. -/
theorem of_ok
    {act : Play α}
    (hAct : act.StaysIn R)
    {w w' : World}
    {value : α}
    (hRun : act.run w = .ok value w') :
    R w w' := by
  simpa [left_of_ok hRun] using hAct w

/- Where an act fails, its worlds are related too. -/
theorem of_error
    {act : Play α}
    (hAct : act.StaysIn R)
    {w w' : World}
    {failure : Failure}
    (hRun : act.run w = .error failure w') :
    R w w' := by
  simpa [left_of_error hRun] using hAct w

variable [IsPreorder World R]

theorem pure
    (value : α) :
    StaysIn R (Pure.pure value : Play α) :=
  fun w => refl_of R w

theorem throw
    (failure : Failure) :
    StaysIn R (MonadExcept.throw failure : Play α) :=
  fun w => refl_of R w

theorem get :
    StaysIn R (MonadState.get : Play World) :=
  fun w => refl_of R w

/- Acts one after another stay where each of them stays. -/
theorem bind
    {act : Play α}
    {next : α → Play β}
    (hAct : act.StaysIn R)
    (hNext : ∀ value, (next value).StaysIn R) :
    StaysIn R (act >>= next) := by
  intro w
  cases hRun : act.run w with
  | ok value w' =>
      rw [left_bind_of_ok hRun]
      exact trans_of R (hAct.of_ok hRun) (hNext value w')
  | error failure w' =>
      rw [left_bind_of_error hRun]
      exact hAct.of_error hRun

theorem map
    {act : Play α}
    (f : α → β)
    (hAct : act.StaysIn R) :
    StaysIn R (f <$> act) := by
  rw [← bind_pure_comp]
  exact hAct.bind fun value => pure (f value)

/- What is done about a failure stays in what came before. -/
theorem tryCatch
    {act : Play α}
    {handle : Failure → Play α}
    (hAct : act.StaysIn R)
    (hHandle : ∀ failure, (handle failure).StaysIn R) :
    StaysIn R (MonadExcept.tryCatch act handle) := by
  intro w
  unfold left
  rw [run_tryCatch]
  cases hRun : act.run w with
  | ok value w' =>
      exact hAct.of_ok hRun
  | error failure w' =>
      exact trans_of R (hAct.of_error hRun) (hHandle failure w')

omit [IsPreorder World R] in
/- To look at how an act ended keeps a relation. -/
theorem outcome
    {act : Play α}
    (hAct : act.StaysIn R) :
    act.outcome.StaysIn R := by
  intro w
  cases hRun : act.run w with
  | ok value w' =>
      have hLeft : act.outcome.left w = w' := by
        simp [left, hRun]
      rw [hLeft]
      exact hAct.of_ok hRun
  | error failure w' =>
      have hLeft : act.outcome.left w = w' := by
        simp [left, hRun]
      rw [hLeft]
      exact hAct.of_error hRun

/- A last act keeps a relation if both acts do. -/
theorem andFinally
    {act : Play α}
    {last : Play Unit}
    (hAct : act.StaysIn R)
    (hLast : last.StaysIn R) :
    (act.andFinally last).StaysIn R := by
  intro w
  rw [left_andFinally]
  exact trans_of R (hAct w) (hLast (act.left w))

/- So does one that is only done after a failure. -/
theorem orFinally
    {act : Play α}
    {last : Play Unit}
    (hAct : act.StaysIn R)
    (hLast : last.StaysIn R) :
    (act.orFinally last).StaysIn R := by
  apply hAct.outcome.bind
  intro outcome
  split
  · exact pure _
  · exact hLast.bind fun _ => throw _

/- After an act, what follows stays where the act has led. -/
theorem left_bind
    {act : Play α}
    {next : α → Play β}
    (hNext : ∀ value, (next value).StaysIn R)
    (w : World) :
    R (act.left w) ((act >>= next).left w) := by
  cases hRun : act.run w with
  | ok value w' =>
      rw [left_bind_of_ok hRun, left_of_ok hRun]
      exact hNext value w'
  | error failure w' =>
      rw [left_bind_of_error hRun, left_of_error hRun]
      exact refl_of R w'

end StaysIn

------------------------------------------------------------
-- Acts in Two Worlds
------------------------------------------------------------

/-
  Two results agree if they are related values or the same
  failure, in related worlds.
-/
inductive ResultsAgree
    (R : World → World → Prop)
    (V : α → β → Prop) :
    EStateM.Result Failure World α →
      EStateM.Result Failure World β → Prop
  | ok {a b w v} :
      V a b → R w v → ResultsAgree R V (.ok a w) (.ok b v)
  | error {failure w v} :
      R w v →
      ResultsAgree R V (.error failure w) (.error failure v)

/- Two acts do the same in any two related worlds. -/
def Agrees
    (R : World → World → Prop)
    (V : α → β → Prop)
    (act : Play α)
    (other : Play β) : Prop :=
  ∀ w v, R w v → ResultsAgree R V (act.run w) (other.run v)

namespace Agrees

variable {R : World → World → Prop}

theorem pure
    {V : α → β → Prop}
    {a : α}
    {b : β}
    (hValues : V a b) :
    Agrees R V (Pure.pure a) (Pure.pure b) :=
  fun _ _ hWorlds => .ok hValues hWorlds

theorem throw
    {V : α → β → Prop}
    (failure : Failure) :
    Agrees R V (MonadExcept.throw failure)
      (MonadExcept.throw failure) :=
  fun _ _ hWorlds => .error hWorlds

theorem get :
    Agrees R R MonadState.get MonadState.get :=
  fun _ _ hWorlds => .ok hWorlds hWorlds

/-
  A change agrees with another one if both keep the
  relation.
-/
theorem change
    {f g : World → World}
    (hChange : ∀ w v, R w v → R (f w) (g v)) :
    Agrees R Eq (modify f) (modify g) :=
  fun w v hWorlds => .ok rfl (hChange w v hWorlds)

/- Acts that agree may be followed by acts that agree. -/
theorem bind
    {γ δ : Type}
    {V : α → β → Prop}
    {U : γ → δ → Prop}
    {act : Play α}
    {other : Play β}
    {next : α → Play γ}
    {otherNext : β → Play δ}
    (hActs : Agrees R V act other)
    (hNext :
      ∀ a b, V a b → Agrees R U (next a) (otherNext b)) :
    Agrees R U (act >>= next) (other >>= otherNext) := by
  intro w v hWorlds
  rw [EStateM.run_bind, EStateM.run_bind]
  have hResults := hActs w v hWorlds
  generalize act.run w = result at hResults ⊢
  generalize other.run v = otherResult at hResults ⊢
  cases hResults with
  | ok hValues hLeft =>
      exact hNext _ _ hValues _ _ hLeft
  | error hLeft =>
      exact .error hLeft

/- Acts that give the same may be followed with that. -/
theorem bindEq
    {γ δ : Type}
    {U : γ → δ → Prop}
    {act other : Play α}
    {next : α → Play γ}
    {otherNext : α → Play δ}
    (hActs : Agrees R Eq act other)
    (hNext : ∀ a, Agrees R U (next a) (otherNext a)) :
    Agrees R U (act >>= next) (other >>= otherNext) := by
  apply hActs.bind
  intro a b hSame
  subst hSame
  exact hNext a

theorem map
    {γ δ : Type}
    {V : α → β → Prop}
    {U : γ → δ → Prop}
    {f : α → γ}
    {g : β → δ}
    {act : Play α}
    {other : Play β}
    (hActs : Agrees R V act other)
    (hValues : ∀ a b, V a b → U (f a) (g b)) :
    Agrees R U (f <$> act) (g <$> other) := by
  rw [← bind_pure_comp, ← bind_pure_comp]
  exact hActs.bind fun a b hRelated => pure (hValues a b hRelated)

/- What comes of acts that agree is the same, as a value. -/
theorem outcome
    {act other : Play α}
    (hActs : Agrees R Eq act other) :
    Agrees R Eq act.outcome other.outcome := by
  intro w v hWorlds
  rw [run_outcome, run_outcome]
  have hResults := hActs w v hWorlds
  generalize act.run w = result at hResults ⊢
  generalize other.run v = otherResult at hResults ⊢
  cases hResults with
  | ok hValues hLeft =>
      exact .ok (congrArg Except.ok hValues) hLeft
  | error hLeft =>
      exact .ok rfl hLeft

/- A breakdown does not depend on the world. -/
theorem breakDown
    (breakdown : Option Breakdown) :
    Agrees R Eq (breakDown breakdown) (breakDown breakdown) := by
  cases breakdown with
  | none =>
      exact pure rfl
  | some breakdown =>
      exact throw breakdown.failure

/- What one of two acts gives, the other one gives too. -/
theorem exists_related
    {V : α → β → Prop}
    {act : Play α}
    {other : Play β}
    (hActs : Agrees R V act other)
    {w v v' : World}
    (hWorlds : R w v)
    {value : β}
    (hRun : other.run v = .ok value v') :
    ∃ related w',
      act.run w = .ok related w' ∧ V related value ∧ R w' v' := by
  have hResults := hActs w v hWorlds
  rw [hRun] at hResults
  generalize act.run w = result at hResults ⊢
  cases hResults with
  | ok hValues hLeft =>
      exact ⟨_, _, rfl, hValues, hLeft⟩

/- Where one act succeeds, one that agrees with it does. -/
theorem exists_ok
    {act other : Play α}
    (hActs : Agrees R Eq act other)
    {w v v' : World}
    (hWorlds : R w v)
    {value : α}
    (hRun : other.run v = .ok value v') :
    ∃ w', act.run w = .ok value w' ∧ R w' v' := by
  rcases hActs.exists_related hWorlds hRun with
    ⟨_, w', hAct, rfl, hLeft⟩
  exact ⟨w', hAct, hLeft⟩

/- Where one act fails, one that agrees fails the same way. -/
theorem exists_error
    {V : α → β → Prop}
    {act : Play α}
    {other : Play β}
    (hActs : Agrees R V act other)
    {w v v' : World}
    (hWorlds : R w v)
    {failure : Failure}
    (hRun : other.run v = .error failure v') :
    ∃ w', act.run w = .error failure w' ∧ R w' v' := by
  have hResults := hActs w v hWorlds
  rw [hRun] at hResults
  generalize act.run w = result at hResults ⊢
  cases hResults with
  | error hLeft =>
      exact ⟨_, rfl, hLeft⟩

end Agrees

------------------------------------------------------------
-- The Log
------------------------------------------------------------

end Play

/- Two worlds that differ in their logs at most. -/
def World.Alike (w v : World) : Prop :=
  { w with log := [] } = { v with log := [] }

namespace World.Alike

variable {w v u : World}

theorem rfl :
    w.Alike w :=
  Eq.refl _

theorem symm
    (hAlike : w.Alike v) :
    v.Alike w :=
  Eq.symm hAlike

theorem trans
    (hFirst : w.Alike v)
    (hSecond : v.Alike u) :
    w.Alike u :=
  Eq.trans hFirst hSecond

/- The worlds agree on everything but the log. -/
theorem part
    {β : Type}
    (hAlike : w.Alike v)
    (f : World → β)
    (hLog : ∀ u : World, f { u with log := [] } = f u) :
    f w = f v := by
  rw [← hLog w, ← hLog v]
  exact congrArg f hAlike

theorem files
    (hAlike : w.Alike v) :
    w.files = v.files :=
  hAlike.part World.files fun _ => Eq.refl _

theorem page
    (hAlike : w.Alike v) :
    w.page = v.page :=
  hAlike.part World.page fun _ => Eq.refl _

theorem trace
    (hAlike : w.Alike v) :
    w.trace = v.trace :=
  hAlike.part World.trace fun _ => Eq.refl _

theorem profile
    (hAlike : w.Alike v) :
    w.profile = v.profile :=
  hAlike.part World.profile fun _ => Eq.refl _

/- The same change of both worlds, without heed to the log. -/
theorem map
    (hAlike : w.Alike v)
    (f : World → World)
    (hLog : ∀ u : World,
      (f { u with log := [] }).Alike (f u)) :
    (f w).Alike (f v) := by
  have hSame : f { w with log := [] } = f { v with log := [] } :=
    congrArg f hAlike
  exact (hLog w).symm.trans (hSame ▸ hLog v)

end World.Alike

instance : IsPreorder World World.Alike where
  refl _ := World.Alike.rfl
  trans _ _ _ hFirst hSecond := hFirst.trans hSecond

namespace Play

/- An act is blind if it does not read the log. -/
def Blind (act : Play α) : Prop :=
  Agrees World.Alike Eq act act

/- Two acts agree if one of them takes a note first. -/
theorem Agrees.noteFirst
    {V : α → β → Prop}
    {act : Play α}
    {other : Play β}
    (level : Level)
    (source : String)
    (message : Text)
    (hActs : Agrees World.Alike V act other) :
    Agrees World.Alike V
      (do
        note level source message
        act)
      other := by
  intro w v hAlike
  rw [EStateM.run_bind, run_note]
  exact hActs _ v hAlike

end Play

end Replay
