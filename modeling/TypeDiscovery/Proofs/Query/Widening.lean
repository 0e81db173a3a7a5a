import TypeDiscovery.Proofs.Pattern.Compiling
import TypeDiscovery.Proofs.Query.Namespaces

/-!
# Wider queries

A request is widened by one more namespace or pattern where there are some, by none of them at all,
or by a setting that lets in more. One such step loses no answer (`Widening.answers`), so that no
number of them loses a result (`find_subset_of_widened`).
-/

namespace TypeDiscovery

/-! ## Lists of alternatives -/

/-- A list of alternatives that lets in no less than another one. The empty list lets in
everything. -/
def Looser {α : Type} (xs ys : List α) : Prop := ys = [] ∨ xs ≠ [] ∧ ∀ x ∈ xs, x ∈ ys

namespace Looser

variable {α : Type} {xs ys : List α} {P : α → Prop}

theorem refl (xs : List α) : Looser xs xs := by
  by_cases h : xs = []
  · exact .inl h
  · exact .inr ⟨h, fun _ hx => hx⟩

theorem lets_in (h : Looser xs ys) (hx : xs = [] ∨ ∃ x ∈ xs, P x) : ys = [] ∨ ∃ y ∈ ys, P y := by
  rcases h with hempty | ⟨hne, hsub⟩
  · exact .inl hempty
  · obtain ⟨x, hmem, hp⟩ := hx.resolve_left hne
    exact .inr ⟨x, hsub x hmem, hp⟩

theorem addNew [DecidableEq α] (h : xs ≠ []) (x : α) : Looser xs (Distinct.addNew xs x) :=
  .inr ⟨h, fun _ hy => Distinct.mem_addNew.mpr (.inl hy)⟩

end Looser

namespace Pattern

/-- One more text that compiles adds its pattern. -/
theorem compileAll_addNew [Engine] {sources : List String} {patterns : List Pattern}
    {source : String} {p : Pattern} (compiled : compileAll sources = .ok patterns)
    (compiles : compile? source = some p) (hne : sources ≠ []) :
    ∃ patterns', compileAll (Distinct.addNew sources source) = .ok patterns' ∧
      Looser patterns patterns' := by
  by_cases h : source ∈ sources
  · exact ⟨patterns, by rw [Distinct.addNew, if_pos h, compiled], .refl patterns⟩
  · have hall := compileAll_eq_ok_iff.mp compiled
    have happend := List.rel_append hall (.cons compiles .nil)
    refine ⟨patterns ++ [p], ?_, .inr ⟨?_, fun _ hq => List.mem_append_left _ hq⟩⟩
    · rw [Distinct.addNew, if_neg h]
      exact compileAll_eq_ok_iff.mpr happend
    · rintro rfl
      exact hne (List.forall₂_nil_right_iff.mp hall)

end Pattern

theorem MatchMode.accepts_any {mode : MatchMode} {r : Record} {required : List String}
    (h : mode.accepts r required = true) : MatchMode.any.accepts r required = true := by
  cases mode with
  | any => exact h
  | all =>
    cases required with
    | nil => rfl
    | cons marker rest =>
      have hmarker : r.hasMarker marker = true ∧ rest.all r.hasMarker = true := by
        simpa [accepts] using h
      simp [accepts, hmarker.1]

namespace TypeFinder

open Scan

variable {f g : TypeFinder} {patterns patterns' : List Pattern} {entries : List Entry}
  {place : Identity → Location}

/-! ## Requests that ask for more -/

/-- A request of the same kind that asks for no less: each of its filters lets in what the other
one's does. -/
structure Wider (f g : TypeFinder) (patterns patterns' : List Pattern) : Prop where
  target : g.target = f.target
  markers : g.markers = f.markers
  scope : g.scope = f.scope
  reader : g.reader = f.reader
  namespaces : Looser f.namespaces g.namespaces
  patterns : Looser patterns patterns'
  nested : f.config.includeNested = true → g.config.includeNested = true
  ancestors : f.config.filterAncestors = false → g.config.filterAncestors = false
  mode : g.mode = f.mode ∨ g.mode = .any

theorem Wider.refl (f : TypeFinder) (patterns : List Pattern) : f.Wider f patterns patterns :=
  ⟨rfl, rfl, rfl, rfl, .refl _, .refl _, id, id, .inl rfl⟩

theorem Wider.listed (wider : f.Wider g patterns patterns') :
    ∀ x ∈ f.Listed patterns entries, x ∈ g.Listed patterns' entries := by
  rintro x ⟨e, he, hid, hnested, hnamespace, l, hl, hmatch⟩
  exact ⟨e, he, hid, hnested.imp_left wider.nested, wider.namespaces.lets_in hnamespace, l, hl,
    wider.patterns.lets_in hmatch⟩

theorem Wider.admitted (wider : f.Wider g patterns patterns') {l : Location}
    (h : (f.scanWith patterns).Admitted l) : (g.scanWith patterns').Admitted l := by
  rcases h with hfree | hmatch
  · exact .inl (wider.ancestors hfree)
  · exact .inr (wider.patterns.lets_in hmatch)

theorem Wider.stricter (wider : f.Wider g patterns patterns') :
    (f.scanWith patterns).Stricter (g.scanWith patterns') where
  root := congrArg Reader.root wider.reader
  outcome l := by simp only [outcome, scanWith, wider.scope, wider.reader]
  wanted a h := by
    obtain ⟨hroot, l, hl, hadmitted⟩ := h
    refine ⟨?_, l, ?_, wider.admitted hadmitted⟩
    · simpa only [scanWith, wider.reader] using hroot
    · simpa only [scanWith, wider.scope] using hl

theorem Wider.accepts (wider : f.Wider g patterns patterns') {r : Record}
    (h : f.mode.accepts r f.markers = true) : g.mode.accepts r g.markers = true := by
  rw [wider.markers]
  rcases wider.mode with hmode | hmode <;> rw [hmode]
  · exact h
  · exact MatchMode.accepts_any h

/-- What answers a request answers a wider one. -/
theorem Wider.answers (wider : f.Wider g patterns patterns') {x : Identity}
    (h : f.Answers patterns entries place x) : g.Answers patterns' entries place x := by
  obtain ⟨⟨r, ⟨hx, hr⟩, haccepts⟩, chain⟩ := h
  have hstricter := wider.stricter
  refine ⟨⟨r, ⟨hx.mono hstricter wider.listed, (hstricter.outcome _).trans hr⟩,
    wider.accepts haccepts⟩, ?_⟩
  rw [wider.target, wider.reader]
  intro htarget
  exact Relation.TransGen.mono (fun _ _ => Names.mono hstricter wider.listed) _ _ (chain htarget)

/-! ## Steps -/

section Steps

variable [Pattern.Engine]

/-- One way of widening a request. -/
inductive Widening : TypeFinder → TypeFinder → Prop where
  | within {f : TypeFinder} (ns : String) (narrowed : f.namespaces ≠ []) :
    Widening f (f.within ns)
  | everywhere {f : TypeFinder} : Widening f (f.inNamespaces [])
  | byUrl {f : TypeFinder} {source : String} {p : Pattern} (filtered : f.locations ≠ [])
    (compiles : Pattern.compile? source = some p) : Widening f (f.byUrl source)
  | anyUrl {f : TypeFinder} : Widening f { f with locations := [] }
  | nested {f : TypeFinder} : Widening f (f.withConfig (f.config.withNested true))
  | freeAncestors {f : TypeFinder} :
    Widening f (f.withConfig { f.config with filterAncestors := false })
  | anyMarker {f : TypeFinder} : Widening f f.anyMarker

theorem Widening.wider (step : Widening f g) (h : f.Answerable patterns entries) :
    ∃ patterns', g.Answerable patterns' entries ∧ f.Wider g patterns patterns' := by
  have same := Wider.refl f patterns
  cases step with
  | within ns narrowed =>
    exact ⟨patterns, ⟨h.valid, h.compiled, h.listed⟩,
      { same with namespaces := .addNew narrowed ns }⟩
  | everywhere =>
    exact ⟨patterns, ⟨h.valid, h.compiled, h.listed⟩, { same with namespaces := .inl rfl }⟩
  | byUrl filtered compiles =>
    obtain ⟨patterns', hcompiled, hlooser⟩ :=
      Pattern.compileAll_addNew h.compiled compiles filtered
    exact ⟨patterns', ⟨h.valid, hcompiled, h.listed⟩, { same with patterns := hlooser }⟩
  | anyUrl => exact ⟨[], ⟨h.valid, rfl, h.listed⟩, { same with patterns := .inl rfl }⟩
  | nested =>
    exact ⟨patterns, ⟨h.valid, h.compiled, h.listed⟩, { same with nested := fun _ => rfl }⟩
  | freeAncestors =>
    exact ⟨patterns, ⟨h.valid, h.compiled, h.listed⟩, { same with ancestors := fun _ => rfl }⟩
  | anyMarker =>
    exact ⟨patterns, ⟨h.valid, h.compiled, h.listed⟩, { same with mode := .inr rfl }⟩

/-- A request that can be answered still can after any number of steps, and keeps its answers. -/
theorem answers_of_widened (widened : Relation.ReflTransGen Widening f g)
    (h : f.Answerable patterns entries) (place : Identity → Location) :
    ∃ patterns', g.Answerable patterns' entries ∧ g.scope = f.scope ∧
      ∀ x, f.Answers patterns entries place x → g.Answers patterns' entries place x := by
  induction widened with
  | refl => exact ⟨patterns, h, rfl, fun _ answers => answers⟩
  | tail _ step ih =>
    obtain ⟨middle, hmiddle, hscope, hkept⟩ := ih
    obtain ⟨patterns', hanswerable, hwider⟩ := step.wider hmiddle
    exact ⟨patterns', hanswerable, hwider.scope.trans hscope,
      fun x answers => hwider.answers (hkept x answers)⟩

/-- A query that is widened keeps all that it finds. -/
theorem find_subset_of_widened (widened : Relation.ReflTransGen Widening f g)
    (agrees : ∀ entries, f.scope.artifacts.answer = .ok entries → f.scope.Agrees place entries)
    {narrow : List Handle} (found : f.find.answer = .ok narrow) :
    ∃ wide, g.find.answer = .ok wide ∧ ∀ h ∈ narrow, h ∈ wide := by
  obtain ⟨patterns, entries, answerable⟩ := answerable_of_find found
  obtain ⟨patterns', answerable', hscope, hkept⟩ := answers_of_widened widened answerable place
  obtain ⟨handles, hfind, mem_narrow⟩ := answerable.find
  obtain rfl : narrow = handles := Except.ok.inj (found.symm.trans hfind)
  obtain ⟨wide, hwide, mem_wide⟩ := answerable'.find
  have hagrees := agrees entries answerable.listed
  refine ⟨wide, hwide, fun h hmem => (mem_wide h).mpr ?_⟩
  obtain ⟨hlocate, hmatches⟩ := (mem_narrow h).mp hmem
  rw [hscope]
  refine ⟨hlocate, (matches_iff_answers (hscope ▸ hagrees)).mpr ?_⟩
  exact hkept _ ((matches_iff_answers hagrees).mp hmatches)

end Steps

/-- The request for the knot within one namespace, widened by another one and nested units. -/
theorem find_subset_of_widened_knot :
    let f := knotFinder.within "a"
    let g := (f.within "b").withConfig (f.config.withNested true)
    Relation.ReflTransGen Widening f g ∧
    (∀ entries, f.scope.artifacts.answer = .ok entries →
      f.scope.Agrees f.scope.placeOf entries) ∧
    ∃ narrow wide, f.find.answer = .ok narrow ∧ g.find.answer = .ok wide ∧
      ⟨⟨"a.A"⟩, .memory "a.A"⟩ ∈ narrow ∧ ⟨⟨"a.A"⟩, .memory "a.A"⟩ ∈ wide := by
  intro f g
  have widened : Relation.ReflTransGen Widening f g :=
    (Relation.ReflTransGen.single (.within "b" (by decide))).tail .nested
  have agrees : ∀ entries, f.scope.artifacts.answer = .ok entries →
      f.scope.Agrees f.scope.placeOf entries :=
    fun _ listed => locatesListed_knotFinder.agrees listed
  obtain ⟨narrow, hnarrow, hmem⟩ :=
    mem_find_knotFinder (.inr ⟨"a", List.mem_singleton_self _, by decide +kernel⟩)
  obtain ⟨wide, hwide, hsub⟩ := find_subset_of_widened widened agrees hnarrow
  exact ⟨widened, agrees, narrow, wide, hnarrow, hwide, hmem, hsub _ hmem⟩

end TypeFinder

end TypeDiscovery
