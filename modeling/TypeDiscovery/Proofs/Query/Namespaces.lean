import TypeDiscovery.Proofs.Query.Results
import TypeDiscovery.Proofs.Scan.Chains

/-!
# Queries within namespaces

In a scope that locates what it lists, a namespace decides where a scan starts and nothing else: a
chain of records that a query over all namespaces can use is rebuilt from its first identity alone
(`answers_of_reached`). So a query within namespaces finds the same among its candidates
(`mem_find_withinAll_iff`), and a query within two lists of namespaces finds what one within the
first or one within the second finds (`mem_find_withinAll_append_iff`).
-/

namespace TypeDiscovery

namespace Scope

/-- Located is what is listed with a location, and there. -/
def LocatesListed (scope : Scope) : Prop :=
  ∀ id l, scope.locate id = some l ↔
    ∃ entries, scope.artifacts.answer = .ok entries ∧ ⟨id, some l⟩ ∈ entries

/-- Where an identity is located, if it is. -/
def placeOf (scope : Scope) (id : Identity) : Location := (scope.locate id).getD default

theorem placeOf_eq {scope : Scope} {id : Identity} {l : Location}
    (h : scope.locate id = some l) : l = scope.placeOf id := by
  rw [placeOf, h, Option.getD_some]

theorem LocatesListed.agrees {scope : Scope} {entries : List Entry} (h : scope.LocatesListed)
    (listed : scope.artifacts.answer = .ok entries) : scope.Agrees scope.placeOf entries := by
  refine ⟨?_, fun id l hl => placeOf_eq hl⟩
  rintro ⟨id, location⟩ he l rfl
  exact placeOf_eq ((h id l).mpr ⟨entries, listed, he⟩)

end Scope

namespace TypeFinder

open Scan

variable {f : TypeFinder} {patterns : List Pattern} {entries : List Entry}
  {place : Identity → Location} {e : DiscoveryError} {names ms ns : List String}

/-- The same request for other namespaces. -/
def inNamespaces (f : TypeFinder) (names : List String) : TypeFinder :=
  { f with namespaces := names }

/-- The request narrowed to several namespaces, one after the other. -/
def withinAll (f : TypeFinder) (names : List String) : TypeFinder := names.foldl within f

theorem withinAll_eq (f : TypeFinder) (names : List String) :
    f.withinAll names = f.inNamespaces (names.foldl Distinct.addNew f.namespaces) := by
  unfold withinAll
  induction names generalizing f with
  | nil => rfl
  | cons name rest ih => exact ih (f.within name)

/-! ## Where the scans start -/

/-- The order of namespaces and their repetitions do not matter. -/
theorem listed_inNamespaces_congr (h : ∀ name, name ∈ ms ↔ name ∈ ns) :
    (f.inNamespaces ms).Listed patterns entries = (f.inNamespaces ns).Listed patterns entries := by
  have hempty : ms = [] ↔ ns = [] := by
    simp only [List.eq_nil_iff_forall_not_mem, h]
  simp only [Listed, inNamespaces, h, hempty]

theorem listed_inNamespaces_append (hms : ms ≠ []) (hns : ns ≠ []) :
    (f.inNamespaces (ms ++ ns)).Listed patterns entries =
      (f.inNamespaces ms).Listed patterns entries ∪
        (f.inNamespaces ns).Listed patterns entries := by
  ext x
  simp only [Listed, inNamespaces, List.append_eq_nil_iff, List.mem_append, Set.mem_union,
    Set.mem_ofPred_eq, hms, hns, false_and, false_or]
  constructor
  · rintro ⟨e, he, hid, hnested, ⟨name, hname | hname, hin⟩, hl⟩
    · exact .inl ⟨e, he, hid, hnested, ⟨name, hname, hin⟩, hl⟩
    · exact .inr ⟨e, he, hid, hnested, ⟨name, hname, hin⟩, hl⟩
  · rintro (⟨e, he, hid, hnested, ⟨name, hname, hin⟩, hl⟩ |
      ⟨e, he, hid, hnested, ⟨name, hname, hin⟩, hl⟩)
    · exact ⟨e, he, hid, hnested, ⟨name, .inl hname, hin⟩, hl⟩
    · exact ⟨e, he, hid, hnested, ⟨name, .inr hname, hin⟩, hl⟩

/-- Two lists of namespaces together start the scan where one of them does. -/
theorem listed_withinAll_append (hms : ms ≠ []) (hns : ns ≠ []) :
    (f.inNamespaces ((ms ++ ns).foldl Distinct.addNew f.namespaces)).Listed patterns entries =
      (f.inNamespaces (ms.foldl Distinct.addNew f.namespaces)).Listed patterns entries ∪
        (f.inNamespaces (ns.foldl Distinct.addNew f.namespaces)).Listed patterns entries := by
  have hnil : ∀ {names : List String}, names ≠ [] →
      names.foldl Distinct.addNew f.namespaces ≠ [] := by
    intro names hne
    obtain ⟨name, hname⟩ := List.exists_mem_of_ne_nil names hne
    exact List.ne_nil_of_mem (Distinct.mem_foldl_addNew.mpr (.inr hname))
  rw [← listed_inNamespaces_append (hnil hms) (hnil hns)]
  refine listed_inNamespaces_congr fun name => ?_
  simp only [List.mem_append, Distinct.mem_foldl_addNew]
  rw [or_or_distrib_left]

theorem listed_subset_anywhere :
    ∀ x ∈ f.Listed patterns entries, x ∈ (f.inNamespaces []).Listed patterns entries := by
  rintro x ⟨e, he, hid, hnested, _, hl⟩
  exact ⟨e, he, hid, hnested, .inl rfl, hl⟩

/-! ## What the scans make of it -/

/-- A starting identity is located where the filter admits it, so that it would also be met as an
ancestor. -/
theorem wanted_of_reached (located : f.scope.LocatesListed)
    (listed : f.scope.artifacts.answer = .ok entries) {y : Identity}
    (h : Reached (f.scanWith patterns) place (f.Listed patterns entries) y) :
    (f.scanWith patterns).Wanted y := by
  cases h with
  | ancestor _ _ _ wanted => exact wanted
  | start hy hroot =>
    obtain ⟨⟨id, location⟩, he, rfl, _, _, l, rfl, hmatch⟩ := hy
    exact ⟨hroot, l, (located id l).mpr ⟨entries, listed, he⟩, .inr hmatch⟩

theorem Answers.reached {x : Identity} (h : f.Answers patterns entries place x) :
    Reached (f.scanWith patterns) place (f.Listed patterns entries) x := by
  obtain ⟨⟨r, hrecorded, _⟩, _⟩ := h
  exact hrecorded.1

/-- An answer within some namespaces is one within others as soon as the scan gets there. -/
theorem answers_of_reached (located : f.scope.LocatesListed)
    (listed : f.scope.artifacts.answer = .ok entries) {x : Identity}
    (h : (f.inNamespaces ms).Answers patterns entries place x)
    (hx : Reached (f.scanWith patterns) place ((f.inNamespaces ns).Listed patterns entries) x) :
    (f.inNamespaces ns).Answers patterns entries place x := by
  obtain ⟨⟨r, ⟨_, hr⟩, haccepts⟩, chain⟩ := h
  refine ⟨⟨r, ⟨hx, hr⟩, haccepts⟩, fun htarget => ?_⟩
  exact chain_of_reached (fun y hy => wanted_of_reached (f := f.inNamespaces ms) located listed hy)
    (chain htarget) hx

/-! ## Main results -/

section Find

variable [Pattern.Engine]

theorem spec_inNamespaces (f : TypeFinder) (names : List String) :
    (f.inNamespaces names).spec = f.spec.map fun q => { q with namespaces := names } := by
  rw [spec, spec, inNamespaces]
  split
  · rfl
  · cases Pattern.compileAll f.locations <;> rfl

theorem Fails.inNamespaces (h : f.Fails e) (names : List String) :
    (f.inNamespaces names).Fails e := by
  cases h with
  | refused hspec => exact .refused (by rw [spec_inNamespaces, hspec]; rfl)
  | unlisted hspec listing => exact .unlisted (by rw [spec_inNamespaces, hspec]; rfl) listing

theorem Answerable.inNamespaces (h : f.Answerable patterns entries) (names : List String) :
    (f.inNamespaces names).Answerable patterns entries :=
  ⟨h.valid, h.compiled, h.listed⟩

/-- What a finder that can answer finds within namespaces. -/
theorem Answerable.find_withinAll (h : f.Answerable patterns entries)
    (located : f.scope.LocatesListed) (names : List String) {all : List String}
    (hall : names.foldl Distinct.addNew f.namespaces = all) :
    ∃ handles, (f.withinAll names).find.answer = .ok handles ∧
      ∀ x, x ∈ handles ↔ f.scope.locate x.identity = some x.location ∧
        (f.inNamespaces all).Answers patterns entries f.scope.placeOf x.identity := by
  rw [withinAll_eq, hall]
  obtain ⟨handles, hfind, hmem⟩ := (h.inNamespaces all).find
  refine ⟨handles, hfind, fun x => (hmem x).trans (and_congr_right fun _ => ?_)⟩
  exact matches_iff_answers (f := f.inNamespaces all) (located.agrees h.listed)

/-- A query within namespaces finds the same among its candidates as one without namespaces. -/
theorem mem_find_withinAll_iff (everywhere : f.namespaces = [])
    (located : f.scope.LocatesListed) (names : List String) :
    (∃ e, f.Fails e ∧ (f.withinAll names).find.answer = .error e ∧ f.find.answer = .error e) ∨
    ∃ patterns candidates narrow wide,
      Pattern.compileAll f.locations = .ok patterns ∧
      f.scope.candidates ⟨f.config.includeNested, names, patterns⟩ = .ok candidates ∧
      (f.withinAll names).find.answer = .ok narrow ∧ f.find.answer = .ok wide ∧
      ∀ c ∈ candidates, ∀ h : Handle, h.identity = c.identity → (h ∈ narrow ↔ h ∈ wide) := by
  rcases f.fails_or_answerable with ⟨e, fails⟩ | ⟨patterns, entries, answerable⟩
  · refine .inl ⟨e, fails, ?_, fails.find⟩
    rw [withinAll_eq]
    exact (fails.inNamespaces _).find
  obtain ⟨narrow, hnarrow, mem_narrow⟩ := answerable.find_withinAll located names rfl
  obtain ⟨wide, hwide, mem_wide⟩ := answerable.find_withinAll located [] everywhere
  refine .inr ⟨patterns, (f.inNamespaces names).candidatesWith patterns entries, narrow, wide,
    answerable.compiled, candidates_eq_ok (f := f.inNamespaces names) answerable.listed,
    hnarrow, hwide, ?_⟩
  rintro c hc h hid
  have hnames : ∀ name, name ∈ names.foldl Distinct.addNew f.namespaces ↔ name ∈ names := by
    intro name
    rw [Distinct.mem_foldl_addNew, everywhere]
    simp
  have hcandidate : h.identity ∈ (f.inNamespaces
      (names.foldl Distinct.addNew f.namespaces)).Listed patterns entries := by
    rw [listed_inNamespaces_congr hnames, ← starts_candidates]
    exact ⟨c, hc, hid.symm⟩
  rw [mem_narrow, mem_wide]
  refine and_congr_right fun _ => ⟨fun answers => ?_, fun answers => ?_⟩
  · exact answers_of_reached located answerable.listed answers
      (answers.reached.mono (.refl _) listed_subset_anywhere)
  · exact answers_of_reached located answerable.listed answers
      (.start hcandidate answers.reached.notRoot)

/-- A query within two lists of namespaces finds what a query within one of them finds. -/
theorem mem_find_withinAll_append_iff (located : f.scope.LocatesListed) (hms : ms ≠ [])
    (hns : ns ≠ []) :
    (∃ e, f.Fails e ∧ (f.withinAll (ms ++ ns)).find.answer = .error e ∧
      (f.withinAll ms).find.answer = .error e ∧ (f.withinAll ns).find.answer = .error e) ∨
    ∃ both first second, (f.withinAll (ms ++ ns)).find.answer = .ok both ∧
      (f.withinAll ms).find.answer = .ok first ∧ (f.withinAll ns).find.answer = .ok second ∧
      ∀ h, h ∈ both ↔ h ∈ first ∨ h ∈ second := by
  rcases f.fails_or_answerable with ⟨e, fails⟩ | ⟨patterns, entries, answerable⟩
  · simp only [withinAll_eq]
    exact .inl ⟨e, fails, (fails.inNamespaces _).find, (fails.inNamespaces _).find,
      (fails.inNamespaces _).find⟩
  obtain ⟨both, hboth, mem_both⟩ := answerable.find_withinAll located (ms ++ ns) rfl
  obtain ⟨first, hfirst, mem_first⟩ := answerable.find_withinAll located ms rfl
  obtain ⟨second, hsecond, mem_second⟩ := answerable.find_withinAll located ns rfl
  refine .inr ⟨both, first, second, hboth, hfirst, hsecond, fun h => ?_⟩
  rw [mem_both, mem_first, mem_second, ← and_or_left]
  refine and_congr_right fun _ => ⟨fun answers => ?_, ?_⟩
  · have hreached := answers.reached
    rw [listed_withinAll_append hms hns] at hreached
    rcases reached_union_iff.mp hreached with hreached | hreached
    · exact .inl (answers_of_reached located answerable.listed answers hreached)
    · exact .inr (answers_of_reached located answerable.listed answers hreached)
  · rintro (answers | answers)
    · refine answers_of_reached located answerable.listed answers ?_
      rw [listed_withinAll_append hms hns]
      exact reached_union_iff.mpr (.inl answers.reached)
    · refine answers_of_reached located answerable.listed answers ?_
      rw [listed_withinAll_append hms hns]
      exact reached_union_iff.mpr (.inr answers.reached)

end Find

/-! ## A small request -/

/-- A reader of the knot that finds a marker on its first artifact. -/
def markingReader : Reader where
  root := "lang.Object"
  read := fun
    | [0] => .done (.ofLists ["a.A", "b.B"] ["m.M"])
    | [1] => .done (.ofLists ["a.A", "c.C", "lang.Object"] [])
    | _ => .failed "unknown"

/-- The readable part of the knot asked for the subtypes of the artifact that cannot be read. -/
def knotFinder : TypeFinder := .new "c.C" readableKnot markingReader .default

theorem locatesListed_knotFinder : knotFinder.scope.LocatesListed := by
  rintro ⟨name⟩ l
  have hlocate : knotFinder.scope.locate ⟨name⟩ =
      if name ∈ ["a.A", "b.B"] then some (.memory name) else none := rfl
  rw [hlocate]
  constructor
  · intro h
    refine ⟨_, rfl, ?_⟩
    split at h
    · rename_i hname
      cases h
      simpa using hname
    · cases h
  · rintro ⟨entries, hlisted, hmem⟩
    cases hlisted
    simp only [List.mem_cons, List.not_mem_nil, or_false, Entry.mk.injEq, Identity.mk.injEq,
      Option.some.injEq] at hmem
    rcases hmem with ⟨rfl, rfl⟩ | ⟨rfl, rfl⟩ <;> rfl

theorem answerable_knotFinder : ∃ entries, knotFinder.Answerable [] entries := by
  refine ⟨_, ?_, rfl, rfl⟩
  rintro ⟨htarget, _⟩
  revert htarget
  decide

/-- The first artifact of the knot has its record in every scan that starts at it. -/
theorem recorded_knotFinder (answerable : knotFinder.Answerable [] entries)
    (h : names = [] ∨ ∃ name ∈ names, Identity.inNamespace ⟨"a.A"⟩ name = true) :
    (knotFinder.inNamespaces names).Recorded [] entries knotFinder.scope.placeOf
      ⟨"a.A"⟩ (.ofLists ["a.A", "b.B"] ["m.M"]) := by
  obtain ⟨entries', hlisted, hentry⟩ := (locatesListed_knotFinder ⟨"a.A"⟩ (.memory "a.A")).mp rfl
  obtain rfl : entries = entries' := Except.ok.inj (answerable.listed.symm.trans hlisted)
  refine ⟨.start ⟨_, hentry, rfl, .inr (by decide +kernel), h, _, rfl, .inl rfl⟩ ?_, rfl⟩
  show "a.A" ≠ "lang.Object"
  decide

/-- The first artifact of the knot leads to the target by way of the second. -/
theorem mem_find_knotFinder
    (h : names = [] ∨ ∃ name ∈ names, Identity.inNamespace ⟨"a.A"⟩ name = true) :
    ∃ handles, (knotFinder.inNamespaces names).find.answer = .ok handles ∧
      ⟨⟨"a.A"⟩, .memory "a.A"⟩ ∈ handles := by
  obtain ⟨entries, answerable⟩ := answerable_knotFinder
  obtain ⟨handles, hfind, hmem⟩ := (answerable.inNamespaces names).find
  refine ⟨handles, hfind, (hmem _).mpr ⟨rfl, ?_⟩⟩
  refine (matches_iff_answers (f := knotFinder.inNamespaces names)
    (locatesListed_knotFinder.agrees answerable.listed)).mpr ?_
  have first := recorded_knotFinder answerable h
  have second : (knotFinder.inNamespaces names).Recorded [] entries knotFinder.scope.placeOf
      ⟨"b.B"⟩ (.ofLists ["a.A", "c.C", "lang.Object"] []) := by
    refine ⟨.ancestor first.1 first.2 (NameSet.mem_ofList.mpr (by simp))
      ⟨?_, _, rfl, .inr (.inl rfl)⟩, rfl⟩
    show "b.B" ≠ "lang.Object"
    decide
  refine ⟨⟨_, first, rfl⟩, fun _ => ?_⟩
  exact .head ⟨_, first, NameSet.mem_ofList.mpr (by simp)⟩
    (.single ⟨_, second, NameSet.mem_ofList.mpr (by simp [knotFinder, new, inNamespaces])⟩)

/-- The way to the target leads out of the namespace. -/
theorem mem_find_withinAll_iff_knot :
    knotFinder.namespaces = [] ∧ knotFinder.scope.LocatesListed ∧
    ∃ narrow, (knotFinder.withinAll ["a"]).find.answer = .ok narrow ∧
      ⟨⟨"a.A"⟩, .memory "a.A"⟩ ∈ narrow := by
  obtain ⟨entries, answerable⟩ := answerable_knotFinder
  obtain ⟨handles, hfind, hmem⟩ := mem_find_knotFinder (.inl rfl)
  refine ⟨rfl, locatesListed_knotFinder, ?_⟩
  rcases mem_find_withinAll_iff rfl locatesListed_knotFinder ["a"] with
    ⟨e, fails, _⟩ |
      ⟨patterns, candidates, narrow, wide, hpatterns, hcandidates, hnarrow, hwide, hsame⟩
  · exact absurd fails answerable.not_fails
  · obtain rfl : handles = wide := Except.ok.inj (hfind.symm.trans hwide)
    cases hpatterns
    cases hcandidates
    refine ⟨narrow, hnarrow, (hsame ⟨⟨"a.A"⟩, .memory "a.A"⟩ ?_ _ rfl).mpr hmem⟩
    decide +kernel

/-- A reader that finds the third artifact of the knot named in every artifact, and nothing else. -/
def apartReader : Reader := ⟨"lang.Object", fun _ => .done (.ofLists ["c.C"] [])⟩

def apartFinder : TypeFinder := { knotFinder with reader := apartReader }

theorem answerable_apartFinder : ∃ entries, apartFinder.Answerable [] entries := by
  refine ⟨_, ?_, rfl, rfl⟩
  rintro ⟨htarget, _⟩
  revert htarget
  decide

/-- Neither artifact leads to the other one, since the ancestor that they name is not located. -/
theorem mem_start_of_reached_apart {place : Identity → Location} {start : Set Identity}
    {x : Identity} (h : Reached (apartFinder.scanWith []) place start x) : x ∈ start := by
  cases h with
  | start mem => exact mem
  | @ancestor y _ r _ read named wanted =>
    have hancestors : r.ancestors = NameSet.ofList ["c.C"] := by
      unfold outcome at read
      cases hfetch : (apartFinder.scanWith []).scope.fetch (place y) <;> rw [hfetch] at read <;>
        cases read
      rfl
    obtain ⟨_, l, hl, _⟩ := wanted
    rw [hancestors, NameSet.mem_ofList, List.mem_singleton] at named
    have hnone : apartFinder.scope.locate x = none := by
      obtain ⟨name⟩ := x
      obtain rfl : name = "c.C" := named
      rfl
    have hlocated : apartFinder.scope.locate x = some l := hl
    rw [hnone] at hlocated
    cases hlocated

/-- The first artifact of the knot is found by this reader within its own namespace only. -/
theorem mem_find_apartFinder {names : List String} (hnames : names ≠ []) :
    ∃ handles, (apartFinder.withinAll names).find.answer = .ok handles ∧
      (⟨⟨"a.A"⟩, .memory "a.A"⟩ ∈ handles ↔
        ∃ name ∈ names, Identity.inNamespace ⟨"a.A"⟩ name = true) := by
  obtain ⟨entries, answerable⟩ := answerable_apartFinder
  obtain ⟨handles, hfind, hmem⟩ :=
    answerable.find_withinAll locatesListed_knotFinder names rfl
  have hnamespaces : ∀ name, name ∈ names.foldl Distinct.addNew apartFinder.namespaces ↔
      name ∈ names := by
    intro name
    rw [Distinct.mem_foldl_addNew]
    simp [apartFinder, knotFinder, new]
  refine ⟨handles, hfind, (hmem _).trans ⟨?_, ?_⟩⟩
  · rintro ⟨_, answers⟩
    have hstart := mem_start_of_reached_apart answers.reached
    rw [listed_inNamespaces_congr hnamespaces] at hstart
    obtain ⟨_, _, _, _, hin, _⟩ := hstart
    exact hin.resolve_left hnames
  · rintro ⟨name, hname, hin⟩
    obtain ⟨entries', hlisted, hentry⟩ := (locatesListed_knotFinder ⟨"a.A"⟩ (.memory "a.A")).mp rfl
    obtain rfl : entries = entries' := Except.ok.inj (answerable.listed.symm.trans hlisted)
    have recorded : (apartFinder.inNamespaces
        (names.foldl Distinct.addNew apartFinder.namespaces)).Recorded [] entries
        apartFinder.scope.placeOf ⟨"a.A"⟩ (.ofLists ["c.C"] []) := by
      refine ⟨.start ⟨_, hentry, rfl, .inr (by decide +kernel),
        .inr ⟨name, (hnamespaces name).mpr hname, hin⟩, _, rfl, .inl rfl⟩ ?_, rfl⟩
      show "a.A" ≠ "lang.Object"
      decide
    refine ⟨rfl, ⟨_, recorded, rfl⟩, fun _ => ?_⟩
    exact .single ⟨_, recorded,
      NameSet.mem_ofList.mpr (by simp [apartFinder, knotFinder, new, inNamespaces])⟩

/-- Two namespaces with one artifact each, neither of which leads to the other one: the first of
them is found within its own namespace and within both. -/
theorem mem_find_withinAll_append_iff_knot :
    apartFinder.scope.LocatesListed ∧ ["a"] ≠ [] ∧ ["b"] ≠ [] ∧
    ∃ both first second, (apartFinder.withinAll ["a", "b"]).find.answer = .ok both ∧
      (apartFinder.withinAll ["a"]).find.answer = .ok first ∧
      (apartFinder.withinAll ["b"]).find.answer = .ok second ∧
      ⟨⟨"a.A"⟩, .memory "a.A"⟩ ∈ first ∧ ⟨⟨"a.A"⟩, .memory "a.A"⟩ ∉ second ∧
      ⟨⟨"a.A"⟩, .memory "a.A"⟩ ∈ both := by
  have ha : ["a"] ≠ [] := by decide
  have hb : ["b"] ≠ [] := by decide
  obtain ⟨first, hfirst, mem_first⟩ := mem_find_apartFinder ha
  obtain ⟨second, hsecond, mem_second⟩ := mem_find_apartFinder hb
  have inFirst : ⟨⟨"a.A"⟩, .memory "a.A"⟩ ∈ first := mem_first.mpr (by decide +kernel)
  refine ⟨locatesListed_knotFinder, ha, hb, ?_⟩
  rcases mem_find_withinAll_append_iff (f := apartFinder) locatesListed_knotFinder ha hb with
    ⟨e, fails, _⟩ | ⟨both, first', second', hboth, hfirst', hsecond', hunion⟩
  · obtain ⟨entries, answerable⟩ := answerable_apartFinder
    exact absurd fails answerable.not_fails
  · obtain rfl : first = first' := Except.ok.inj (hfirst.symm.trans hfirst')
    refine ⟨both, first, second, hboth, hfirst, hsecond, inFirst, fun h => ?_,
      (hunion _).mpr (.inl inFirst)⟩
    exact absurd (mem_second.mp h) (by decide +kernel)

end TypeFinder

end TypeDiscovery
