import Replay.Proofs.Run

/-
  This file proves that a run cannot tell pages apart on which
  every selector has the same first match.

  Key definitions include:
    * `Element.Equivalent`
    * `Page.Equivalent`
    * `World.SameButPage`
    * `AddsLater`

  Main results:
    * `Page.equivalent_apply`
    * `Page.equivalent_opened`
    * `World.sameButPage_twins`
    * `run_agrees`
    * `Page.equivalent_of_addsLater`
    * `run_of_equivalent_pages`
-/

------------------------------------------------------------
-- Equivalent Pages
------------------------------------------------------------

namespace Replay

open Play

/-
  Elements with the same text, attributes, effect of a click
  and breakdowns.  Within both, a selector matches nothing, or
  its first matches are again equivalent.
-/
inductive Element.Equivalent : Element → Element → Prop where
  | intro
    {a b : Element}
    (hText : a.text = b.text)
    (hValues : a.values = b.values)
    (hClicked : a.clicked = b.clicked)
    (hBreakdowns : a.breakdowns = b.breakdowns)
    (hNone : ∀ selector,
      matching a.children selector = [] ↔
        matching b.children selector = [])
    (hFirst : ∀ selector first rest other more,
      matching a.children selector = first :: rest →
      matching b.children selector = other :: more →
        Element.Equivalent first other) :
    Element.Equivalent a b

/-
  A selector matches nothing in both of two lists, or its
  first matches are equivalent.
-/
def FirstsEquivalent
    (listed other : List (Text × List Element)) : Prop :=
  ∀ selector,
    Option.Rel Element.Equivalent (matching listed selector).head?
      (matching other selector).head?

/-
  Pages with the same address, title, routes and breakdowns
  and equivalent first matches.
-/
structure Page.Equivalent (p q : Page) : Prop where
  url : p.url = q.url
  title : p.title = q.title
  routes : p.routes = q.routes
  unreachable : p.unreachable = q.unreachable
  titleBreakdown : p.titleBreakdown = q.titleBreakdown
  elements : FirstsEquivalent p.elements q.elements

/- Equivalent elements have equivalent children. -/
theorem Element.Equivalent.children
    {a b : Element}
    (hElements : a.Equivalent b) :
    FirstsEquivalent a.children b.children := by
  cases hElements with
  | intro _ _ _ _ hNone hFirst =>
      intro selector
      cases hLeft : matching a.children selector with
      | nil =>
          rw [(hNone selector).mp hLeft]
          exact .none
      | cons first rest =>
          cases hRight : matching b.children selector with
          | nil =>
              rw [(hNone selector).mpr hRight] at hLeft
              cases hLeft
          | cons other more =>
              exact .some
                (hFirst selector _ _ _ _ hLeft hRight)

/- What is in a list of matches stands somewhere in the list. -/
theorem mem_of_matching_eq_cons
    {listed : List (Text × List Element)}
    {selector : Text}
    {first : Element}
    {rest : List Element}
    (hMatching : matching listed selector = first :: rest) :
    ∃ entry ∈ listed, first ∈ entry.2 := by
  have hMem : first ∈ matching listed selector := by
    rw [hMatching]
    exact List.mem_cons_self
  rcases List.mem_flatMap.mp hMem with ⟨entry, hEntry, hFirst⟩
  exact ⟨entry, (List.mem_filter.mp hEntry).1, hFirst⟩

/- The children of an element are smaller than it. -/
theorem sizeOf_lt_of_child
    {a first : Element}
    {entry : Text × List Element}
    (hEntry : entry ∈ a.children)
    (hFirst : first ∈ entry.2) :
    sizeOf first < sizeOf a := by
  rcases a with ⟨text, values, children, clicked, breakdowns⟩
  rcases entry with ⟨selector, elements⟩
  have hInner : sizeOf first < sizeOf elements :=
    List.sizeOf_lt_of_mem hFirst
  have hOuter : sizeOf (selector, elements) < sizeOf children :=
    List.sizeOf_lt_of_mem hEntry
  rw [Prod.mk.sizeOf_spec] at hOuter
  rw [Element.mk.sizeOf_spec]
  omega

theorem Element.Equivalent.refl
    (a : Element) :
    a.Equivalent a := by
  refine .intro rfl rfl rfl rfl (fun _ => Iff.rfl) ?_
  intro selector first rest other more hFirst hOther
  rw [hFirst] at hOther
  cases hOther
  exact Element.Equivalent.refl first
termination_by sizeOf a
decreasing_by
  rcases mem_of_matching_eq_cons hFirst with
    ⟨entry, hEntry, hMem⟩
  exact sizeOf_lt_of_child hEntry hMem

theorem Element.Equivalent.trans
    {a b c : Element}
    (hFirst : a.Equivalent b)
    (hSecond : b.Equivalent c) :
    a.Equivalent c := by
  induction hFirst generalizing c with
  | @intro a b hText hValues hClicked hBreakdowns hNone _ ih =>
      cases hSecond with
      | intro hText' hValues' hClicked' hBreakdowns' hNone'
          hFirst' =>
          refine .intro (hText.trans hText')
            (hValues.trans hValues') (hClicked.trans hClicked')
            (hBreakdowns.trans hBreakdowns')
            (fun selector =>
              (hNone selector).trans (hNone' selector)) ?_
          intro selector first rest last after hLeft hRight
          cases hMiddle : matching b.children selector with
          | nil =>
              rw [(hNone' selector).mp hMiddle] at hRight
              cases hRight
          | cons other more =>
              exact ih _ _ _ _ _ hLeft hMiddle
                (hFirst' _ _ _ _ _ hMiddle hRight)

namespace FirstsEquivalent

variable {listed other : List (Text × List Element)}

theorem refl
    (listed : List (Text × List Element)) :
    FirstsEquivalent listed listed :=
  fun _ => rel_self Element.Equivalent.refl _

theorem trans
    {last : List (Text × List Element)}
    (hFirst : FirstsEquivalent listed other)
    (hSecond : FirstsEquivalent other last) :
    FirstsEquivalent listed last := by
  intro selector
  have hLeft := hFirst selector
  have hRight := hSecond selector
  generalize (matching listed selector).head? = a at hLeft ⊢
  generalize (matching other selector).head? = b at hLeft hRight
  generalize (matching last selector).head? = c at hRight ⊢
  cases hLeft with
  | none =>
      cases hRight
      exact .none
  | some hInner =>
      cases hRight with
      | some hOuter =>
          exact .some (hInner.trans hOuter)

/- Where nothing matches, nothing does in the other one. -/
theorem matching_eq_nil_iff
    (hListed : FirstsEquivalent listed other)
    (selector : Text) :
    matching listed selector = [] ↔
      matching other selector = [] := by
  have hHeads := hListed selector
  rw [← List.head?_eq_none_iff, ← List.head?_eq_none_iff]
  generalize (matching listed selector).head? = a at hHeads ⊢
  generalize (matching other selector).head? = b at hHeads ⊢
  cases hHeads <;> simp

/- Elements whose parts are equivalent are so themselves. -/
theorem element
    (hChildren : FirstsEquivalent listed other)
    (text : Option Text)
    (values : List (Text × Text))
    (clicked : Option (Effect Element))
    (breakdowns : List (Method × Breakdown)) :
    Element.Equivalent
      (.mk text values listed clicked breakdowns)
      (.mk text values other clicked breakdowns) := by
  refine .intro rfl rfl rfl rfl hChildren.matching_eq_nil_iff ?_
  intro selector first rest found more hLeft hRight
  have hHeads := hChildren selector
  simp only [Element.children] at hLeft hRight
  rw [hLeft, hRight] at hHeads
  cases hHeads with
  | some hFirst =>
      exact hFirst

end FirstsEquivalent

------------------------------------------------------------
-- Changes of Pages
------------------------------------------------------------

/- What matches later is listed later. -/
theorem matching_append
    (listed added : List (Text × List Element))
    (selector : Text) :
    matching (listed ++ added) selector =
      matching listed selector ++ matching added selector := by
  simp [matching]

/- What is removed matches no more, all else as before. -/
theorem matching_filter
    (listed : List (Text × List Element))
    (removed : List Text)
    (selector : Text) :
    matching
        (listed.filter fun entry => !removed.contains entry.1)
        selector =
      if removed.contains selector then []
      else matching listed selector := by
  unfold matching
  rw [List.filter_filter]
  split
  · rename_i hRemoved
    rw [List.filter_eq_nil_iff.mpr, List.flatMap_nil]
    intro entry _ hKept
    simp only [Bool.and_eq_true, beq_iff_eq, Bool.not_eq_true']
      at hKept
    rw [hKept.1, hRemoved] at hKept
    cases hKept.2
  · rename_i hKept
    rw [List.filter_congr]
    intro entry _
    by_cases hSame : entry.1 = selector
    · simpa [hSame] using hKept
    · simp [hSame]

namespace FirstsEquivalent

variable {listed other : List (Text × List Element)}

/- Parts that are equivalent are so one after the other. -/
theorem append
    {added more : List (Text × List Element)}
    (hListed : FirstsEquivalent listed other)
    (hAdded : FirstsEquivalent added more) :
    FirstsEquivalent (listed ++ added) (other ++ more) := by
  intro selector
  have hHeads := hListed selector
  rw [matching_append, matching_append, List.head?_append,
    List.head?_append]
  generalize (matching listed selector).head? = a at hHeads ⊢
  generalize (matching other selector).head? = b at hHeads ⊢
  cases hHeads with
  | none =>
      exact hAdded selector
  | some hFirst =>
      exact .some hFirst

/- What is removed is removed from both. -/
theorem filter
    (hListed : FirstsEquivalent listed other)
    (removed : List Text) :
    FirstsEquivalent
      (listed.filter fun entry => !removed.contains entry.1)
      (other.filter fun entry => !removed.contains entry.1) := by
  intro selector
  rw [matching_filter, matching_filter]
  split
  · exact .none
  · exact hListed selector

end FirstsEquivalent

namespace Page

variable {p q : Page}

/- The same effect keeps pages equivalent. -/
theorem equivalent_apply
    (effect : Effect Element)
    (hPages : p.Equivalent q) :
    (p.apply effect).Equivalent (q.apply effect) where
  url := by simp only [apply, hPages.url]
  title := by simp only [apply, hPages.title]
  routes := hPages.routes
  unreachable := hPages.unreachable
  titleBreakdown := hPages.titleBreakdown
  elements :=
    (hPages.elements.filter effect.removed).append
      (.refl effect.added)

/- So do effects one after another. -/
theorem equivalent_foldl
    (effects : List (Text × Effect Element))
    (hPages : p.Equivalent q) :
    (effects.foldl (fun page (_, effect) => page.apply effect)
        p).Equivalent
      (effects.foldl (fun page (_, effect) => page.apply effect)
        q) := by
  induction effects generalizing p q with
  | nil =>
      exact hPages
  | cons entry rest ih =>
      exact ih (equivalent_apply entry.2 hPages)

/- Equivalent pages lead to equivalent pages. -/
theorem equivalent_opened
    (url : Text)
    (hPages : p.Equivalent q) :
    (p.opened url).Equivalent (q.opened url) := by
  have hMoved :
      ({ p with url := url } : Page).Equivalent
        { q with url := url } :=
    { hPages with url := rfl }
  have hOther :
      q.opened url =
        (p.routes.filter fun entry => entry.1 == url).foldl
          (fun page (_, effect) => page.apply effect)
          { q with url := url } := by
    rw [hPages.routes]
    rfl
  rw [hOther]
  exact equivalent_foldl _ hMoved

/- Equivalent pages are twins. -/
theorem equivalent_twins :
    Page.Twins Page.Equivalent Element.Equivalent where
  text hElements := by cases hElements; assumption
  values hElements := by cases hElements; assumption
  clicked hElements := by cases hElements; assumption
  breakdowns hElements := by cases hElements; assumption
  child selector hElements := hElements.children selector
  url hPages := hPages.url
  title hPages := hPages.title
  titleBreakdown hPages := hPages.titleBreakdown
  unreachable hPages := hPages.unreachable
  first selector hPages := hPages.elements selector
  apply := equivalent_apply
  opened := equivalent_opened

end Page

/- Two worlds that differ in nothing but equivalent pages. -/
structure World.SameButPage (w v : World) : Prop where
  page : w.page.Equivalent v.page
  rest : v = { w with page := v.page }

/- They are twins to all actions. -/
theorem World.sameButPage_twins :
    World.Twins World.SameButPage Page.Equivalent
      Element.Equivalent where
  toTwins := Page.equivalent_twins
  page hWorlds := hWorlds.page
  files hWorlds := by rw [hWorlds.rest]
  record call hWorlds :=
    ⟨hWorlds.page, by rw [hWorlds.rest]⟩
  note notice hWorlds :=
    ⟨hWorlds.page, by rw [hWorlds.rest]⟩
  write files hWorlds :=
    ⟨hWorlds.page, by rw [hWorlds.rest]⟩
  turn hWorlds hPages :=
    ⟨hPages, by rw [hWorlds.rest]⟩

------------------------------------------------------------
-- Runs
------------------------------------------------------------

section

variable {R : World → World → Prop}
variable {P : Page → Page → Prop}
variable {E : Element → Element → Prop}

/- A step on twins leaves twins. -/
theorem runStep_twins
    (twins : World.Twins R P E)
    (config : Configuration)
    (stage : Stage)
    (scenario : Text)
    (position total : Nat)
    (step : Text) :
    Agrees R Eq
      (runStep config stage scenario position total step)
      (runStep config stage scenario position total step) := by
  unfold runStep
  split
  · exact Agrees.throw _
  · exact (twins.note_agrees _ _ _).bindEq fun _ =>
      perform_agrees twins stage _

/- The steps do the same, one after another. -/
theorem runSteps_agrees
    (twins : World.Twins R P E)
    (config : Configuration)
    (stage : Stage)
    (scenario : Text)
    (total : Nat)
    (completed steps : List Text) :
    Agrees R Eq
      (runSteps config stage scenario total completed steps)
      (runSteps config stage scenario total completed steps) := by
  induction steps generalizing completed with
  | nil =>
      exact Agrees.pure rfl
  | cons step rest ih =>
      refine (resultOf_agrees
        (runStep_twins twins config stage scenario _ total
          step)).bindEq fun outcome => ?_
      cases outcome with
      | none =>
          exact ih (completed ++ [step])
      | some failure =>
          exact (twins.note_agrees _ _ _).bindEq fun _ =>
            Agrees.pure rfl

/- A run does the same in worlds that are twins. -/
theorem run_agrees
    (twins : World.Twins R P E)
    (config : Configuration)
    (stage : Stage)
    (scenario : Text) :
    Agrees R Eq (run config stage scenario)
      (run config stage scenario) := by
  unfold run
  split
  · exact Agrees.throw _
  · exact runSteps_agrees twins config stage scenario _ [] _

end

------------------------------------------------------------
-- Later Matches
------------------------------------------------------------

/-
  More matches, none of them first: under a selector that has
  matched before, behind the first match of an entry, within
  an element, at any depth, and again and again.
-/
inductive AddsLater :
    List (Text × List Element) →
      List (Text × List Element) → Prop where
  | none
    {listed : List (Text × List Element)} :
    AddsLater listed listed
  | entry
    {before after : List (Text × List Element)}
    {selector : Text}
    {elements : List Element}
    (hMatched : matching before selector ≠ []) :
    AddsLater (before ++ after)
      (before ++ (selector, elements) :: after)
  | behind
    {before after : List (Text × List Element)}
    {selector : Text}
    {first : Element}
    {rest extra more : List Element} :
    AddsLater
      (before ++ (selector, first :: (rest ++ more)) :: after)
      (before ++
        (selector, first :: (rest ++ extra ++ more)) :: after)
  | inside
    {before after children grown : List (Text × List Element)}
    {selector : Text}
    {others more : List Element}
    {text : Option Text}
    {values : List (Text × Text)}
    {clicked : Option (Effect Element)}
    {breakdowns : List (Method × Breakdown)}
    (hChildren : AddsLater children grown) :
    AddsLater
      (before ++
        (selector,
          others ++
            .mk text values children clicked breakdowns ::
              more) :: after)
      (before ++
        (selector,
          others ++
            .mk text values grown clicked breakdowns :: more) ::
          after)
  | again
    {listed grown last : List (Text × List Element)}
    (hFirst : AddsLater listed grown)
    (hSecond : AddsLater grown last) :
    AddsLater listed last

/- One entry matches its own selector only. -/
theorem matching_singleton
    (selector other : Text)
    (elements : List Element) :
    matching [(selector, elements)] other =
      if selector = other then elements else [] := by
  unfold matching
  split
  · rename_i hSame
    simp [hSame]
  · rename_i hOther
    simp [hOther]

/- Entries of one selector, with equivalent first elements. -/
theorem firstsEquivalent_singleton
    (selector : Text)
    {elements others : List Element}
    (hHeads :
      Option.Rel Element.Equivalent elements.head? others.head?) :
    FirstsEquivalent [(selector, elements)]
      [(selector, others)] := by
  intro other
  rw [matching_singleton, matching_singleton]
  split
  · exact hHeads
  · exact .none

/- Later matches never come first. -/
theorem firstsEquivalent_of_addsLater
    {listed grown : List (Text × List Element)}
    (hAdds : AddsLater listed grown) :
    FirstsEquivalent listed grown := by
  have hAmong
      {entry other : Text × List Element}
      (before after : List (Text × List Element))
      (hEntries : FirstsEquivalent [entry] [other]) :
      FirstsEquivalent (before ++ entry :: after)
        (before ++ other :: after) :=
    (FirstsEquivalent.refl before).append
      (hEntries.append (.refl after))
  induction hAdds with
  | none =>
      exact .refl _
  | @entry before after selector elements hMatched =>
      intro other
      rw [matching_append, matching_append,
        ← List.singleton_append, matching_append,
        matching_singleton]
      split
      · rename_i hSame
        subst hSame
        cases hBefore : matching before selector with
        | nil =>
            exact absurd hBefore hMatched
        | cons first rest =>
            exact .some (.refl first)
      · exact rel_self Element.Equivalent.refl _
  | behind =>
      exact hAmong _ _
        (firstsEquivalent_singleton _ (.some (.refl _)))
  | @inside _ _ _ _ _ others more _ _ _ _ _ ih =>
      refine hAmong _ _ (firstsEquivalent_singleton _ ?_)
      cases others with
      | nil =>
          exact .some (ih.element _ _ _ _)
      | cons first rest =>
          exact .some (.refl first)
  | again _ _ hFirst hSecond =>
      exact hFirst.trans hSecond

/-
  What is only added behind a first match changes no first
  match.
-/
theorem Page.equivalent_of_addsLater
    (page : Page)
    {grown : List (Text × List Element)}
    (hAdds : AddsLater page.elements grown) :
    page.Equivalent { page with elements := grown } where
  url := rfl
  title := rfl
  routes := rfl
  unreachable := rfl
  titleBreakdown := rfl
  elements := firstsEquivalent_of_addsLater hAdds

/-
  Of two equivalent pages a run makes the same: it has the
  same result or fails in the same way, and leaves the same
  world, with the same trace, files and log, up to its page;
  the two pages that it leaves are equivalent again.  A page
  to which later matches are added, at any depth, is
  equivalent to the page without them.
-/
theorem run_of_equivalent_pages
    (config : Configuration)
    (stage : Stage)
    (scenario : Text)
    (w : World) :
    (∀ page,
      w.page.Equivalent page →
        (∃ result u other,
          (run config stage scenario).run w = .ok result u ∧
          (run config stage scenario).run { w with page := page } =
            .ok result { u with page := other } ∧
          u.page.Equivalent other) ∨
        ∃ failure u other,
          (run config stage scenario).run w = .error failure u ∧
          (run config stage scenario).run { w with page := page } =
            .error failure { u with page := other } ∧
          u.page.Equivalent other) ∧
    ∀ grown,
      AddsLater w.page.elements grown →
        w.page.Equivalent { w.page with elements := grown } := by
  refine ⟨fun page hPages => ?_, fun grown hAdds =>
    w.page.equivalent_of_addsLater hAdds⟩
  have hResults := run_agrees World.sameButPage_twins config stage
    scenario w { w with page := page } ⟨hPages, rfl⟩
  generalize (run config stage scenario).run w = result
    at hResults ⊢
  generalize (run config stage scenario).run
    { w with page := page } = other at hResults ⊢
  cases hResults with
  | @ok found _ u v hSame hLeft =>
      subst hSame
      exact Or.inl ⟨found, u, v.page, rfl,
        congrArg _ hLeft.rest, hLeft.page⟩
  | @error failure u v hLeft =>
      exact Or.inr ⟨failure, u, v.page, rfl,
        congrArg _ hLeft.rest, hLeft.page⟩

/- An element with a text and nothing else. -/
def plainElement (text : Text) : Element :=
  .mk (some text) [] [] none []

/- A menu that is replaced by a list when it is clicked. -/
def menuElement (items : List Element) : Element :=
  .mk (some "Menu") [] [("//li", items)]
    (some ⟨["//nav"], [("//ul", [plainElement "List"])], none, none⟩) []

def menuPage : Page :=
  { Page.blank with
    elements := [("//nav", [menuElement [plainElement "One"]])] }

/- A second menu, and a second item in the first one. -/
def crowdedElements : List (Text × List Element) :=
  [("//nav",
    [menuElement [plainElement "One", plainElement "Two"],
      menuElement []])]

def menuTour : Configuration :=
  ⟨[("open", .click "//nav")], [("tour", ⟨["open"], none⟩)]⟩

theorem addsLater_menuPage :
    AddsLater menuPage.elements crowdedElements :=
  .again
    (@AddsLater.inside [] [] _ _ "//nav" [] [] _ _ _ _
      (@AddsLater.behind [] [] "//li" (plainElement "One") []
        [plainElement "Two"] []))
    (@AddsLater.behind [] [] "//nav" _ [] [menuElement []] [])

/- A crowded menu makes no difference to the tour. -/
theorem run_of_equivalent_pages_of_menuTour :
    menuPage.Equivalent
        { menuPage with elements := crowdedElements } ∧
      ∃ u other,
        (run menuTour ⟨.ofText "state", none⟩ "tour").run
            (.start .empty menuPage) =
          .ok ⟨"tour", ["open"], none⟩ u ∧
        (run menuTour ⟨.ofText "state", none⟩ "tour").run
            (.start .empty
              { menuPage with elements := crowdedElements }) =
          .ok ⟨"tour", ["open"], none⟩ { u with page := other } ∧
        u.page.Equivalent other := by
  have hBoth := run_of_equivalent_pages menuTour
    ⟨.ofText "state", none⟩ "tour" (.start .empty menuPage)
  have hPages := hBoth.2 _ addsLater_menuPage
  have hResult :
      (run menuTour ⟨.ofText "state", none⟩ "tour").run'
        (.start .empty menuPage) =
          some ⟨"tour", ["open"], none⟩ := by
    decide +kernel
  rcases exists_run_of_run' hResult with ⟨left, hLeft⟩
  refine ⟨hPages, ?_⟩
  rcases hBoth.1 _ hPages with
    ⟨result, u, other, hRun, hOther, hEquivalent⟩ |
      ⟨failure, u, other, hRun, _⟩
  · rw [hLeft] at hRun
    cases hRun
    exact ⟨_, other, hLeft, hOther, hEquivalent⟩
  · rw [hLeft] at hRun
    cases hRun

end Replay
