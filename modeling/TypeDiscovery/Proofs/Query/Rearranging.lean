import TypeDiscovery.Proofs.Pattern.Compiling
import TypeDiscovery.Proofs.Query.Answers
import TypeDiscovery.Proofs.Query.Errors
import TypeDiscovery.Proofs.Query.Namespaces
import TypeDiscovery.Proofs.Scan.Course

/-!
# Requests put together in another order

The calls that narrow a request may be made in any order, be repeated, and stand anywhere among the
calls that set something, of which the last of each kind counts. Such requests ask for the same but
for the order of their lists (`Rearranged.sameRequest`). Their scans start from the same candidates
and let in ancestors at the same locations, and so they are answered alike, whatever the order in
which the work items of a scan take their steps (`find_of_rearranged`).
-/

namespace TypeDiscovery

/-! ## Lists with the same members -/

/-- Lists that differ at most in the order and the repetitions of their members. -/
def SameMembers {α : Type} (xs ys : List α) : Prop := ∀ x, x ∈ xs ↔ x ∈ ys

namespace SameMembers

variable {α : Type} {xs ys : List α}

theorem symm (h : SameMembers xs ys) : SameMembers ys xs := fun x => (h x).symm

theorem isEmpty_eq (h : SameMembers xs ys) : xs.isEmpty = ys.isEmpty := by
  rw [Bool.eq_iff_iff, List.isEmpty_iff, List.isEmpty_iff, List.eq_nil_iff_forall_not_mem,
    List.eq_nil_iff_forall_not_mem]
  exact forall_congr' fun x => not_congr (h x)

theorem any_eq (h : SameMembers xs ys) (p : α → Bool) : xs.any p = ys.any p := by
  rw [Bool.eq_iff_iff, List.any_eq_true, List.any_eq_true]
  exact exists_congr fun x => and_congr_left fun _ => h x

theorem all_eq (h : SameMembers xs ys) (p : α → Bool) : xs.all p = ys.all p := by
  rw [Bool.eq_iff_iff, List.all_eq_true, List.all_eq_true]
  exact forall_congr' fun x => imp_congr_left (h x)

theorem foldl_addNew [DecidableEq α] (h : SameMembers xs ys) (known : List α) :
    SameMembers (xs.foldl Distinct.addNew known) (ys.foldl Distinct.addNew known) := by
  intro x
  rw [Distinct.mem_foldl_addNew, Distinct.mem_foldl_addNew, h x]

end SameMembers

theorem MatchMode.accepts_congr {required required' : List String}
    (same : SameMembers required required') (mode : MatchMode) (r : Record) :
    mode.accepts r required = mode.accepts r required' := by
  cases mode <;> simp only [accepts, same.isEmpty_eq, same.all_eq, same.any_eq]

namespace Pattern

variable {sources sources' : List String} {ps qs : List Pattern}

theorem anyMatches_congr (same : SameMembers ps qs) (subject : String) (style : MatchStyle) :
    anyMatches ps subject style = anyMatches qs subject style := by
  rw [anyMatches, anyMatches, same.isEmpty_eq, same.any_eq]

section Compiled

variable [Engine]

theorem mem_of_compileAll (compiled : compileAll sources = .ok ps) {p : Pattern} :
    p ∈ ps ↔ ∃ source ∈ sources, compile? source = some p := by
  rw [compileAll_eq_ok_iff] at compiled
  induction compiled with
  | nil => simp
  | cons hp _ ih =>
    rw [List.mem_cons, List.exists_mem_cons_iff, ih, hp, Option.some.injEq, eq_comm]

/-- Texts that compile do so in any order. -/
theorem compileAll_congr (same : SameMembers sources sources')
    (compiled : compileAll sources = .ok ps) :
    ∃ qs, compileAll sources' = .ok qs ∧ SameMembers ps qs := by
  have valid := List.find?_eq_none.mp (find?_isInvalid_of_compileAll compiled)
  have compiles : ∀ source ∈ sources', (compile? source).isSome = true := by
    intro source hsource
    have hvalid := valid source ((same source).mpr hsource)
    simpa [isInvalid, Option.isSome_iff_ne_none] using hvalid
  obtain ⟨qs, hqs⟩ := exists_compileAll compiles
  refine ⟨qs, hqs, fun p => ?_⟩
  rw [mem_of_compileAll compiled, mem_of_compileAll hqs]
  exact exists_congr fun source => and_congr_left fun _ => same source

theorem invalid_of_compileAll {e : DiscoveryError} (h : compileAll sources = .error e) :
    ∃ source, isInvalid source = true ∧ e = .invalidPattern source := by
  obtain ⟨source, hfound, rfl⟩ := compileAll_eq_error_iff.mp h
  exact ⟨source, List.find?_some hfound, rfl⟩

end Compiled

end Pattern

theorem Selection.candidates_congr {nested : Bool} {ms ns : List String} {ps qs : List Pattern}
    (namespaces : SameMembers ms ns) (patterns : SameMembers ps qs) (entries : List Entry) :
    candidates ⟨nested, ms, ps⟩ entries = candidates ⟨nested, ns, qs⟩ entries := by
  have hentry : keepsEntry ⟨nested, ms, ps⟩ = keepsEntry ⟨nested, ns, qs⟩ := by
    funext e
    simp only [keepsEntry, namespaces.isEmpty_eq, namespaces.any_eq]
  have hlocation : keepsLocation ⟨nested, ms, ps⟩ = keepsLocation ⟨nested, ns, qs⟩ :=
    funext fun l => Pattern.anyMatches_congr patterns l.matchTarget .find
  have hcandidate : candidate? ⟨nested, ms, ps⟩ = candidate? ⟨nested, ns, qs⟩ := by
    funext e
    rw [candidate?, candidate?, hlocation]
  rw [candidates, candidates, hentry, hcandidate]

namespace TypeFinder

open Scan

variable {f g : TypeFinder} {patterns ps qs : List Pattern} {entries : List Entry}

/-! ## Requests that ask for the same -/

/-- A request for the same, whose lists have the same members. -/
structure SameRequest (f g : TypeFinder) : Prop where
  target : g.target = f.target
  mode : g.mode = f.mode
  scope : g.scope = f.scope
  reader : g.reader = f.reader
  config : g.config = f.config
  markers : SameMembers f.markers g.markers
  namespaces : SameMembers f.namespaces g.namespaces
  locations : SameMembers f.locations g.locations

theorem SameRequest.boundless_iff (same : f.SameRequest g) : g.Boundless ↔ f.Boundless := by
  rw [Boundless, Boundless, same.target, same.reader, ← List.isEmpty_iff, ← List.isEmpty_iff,
    same.markers.isEmpty_eq]

/-! ## The same course -/

theorem SameRequest.candidatesWith_eq (same : f.SameRequest g) (patterns : SameMembers ps qs) :
    g.candidatesWith qs entries = f.candidatesWith ps entries := by
  rw [candidatesWith, candidatesWith, TypeQuery.selection, TypeQuery.selection, same.config]
  exact Selection.candidates_congr same.namespaces.symm patterns.symm entries

theorem SameRequest.sameCourse (same : f.SameRequest g) (patterns : SameMembers ps qs) :
    (f.scanWith ps).SameCourse (g.scanWith qs) where
  scope := same.scope
  reader := same.reader
  admits l := by
    simp only [admits, scanWith, same.config, Pattern.anyMatches_congr patterns]

theorem SameRequest.scanned_eq (same : f.SameRequest g) (patterns : SameMembers ps qs) :
    g.scanned qs entries = f.scanned ps entries := by
  rw [scanned, scanned, (same.sameCourse patterns).run_eq, same.candidatesWith_eq patterns]

theorem SameRequest.matched_eq (same : f.SameRequest g) (ps qs : List Pattern)
    (records : Records) :
    (g.queryWith qs).matched g.reader.root records =
      (f.queryWith ps).matched f.reader.root records := by
  simp only [TypeQuery.matched, queryWith, same.target, same.reader, same.mode,
    MatchMode.accepts_congr same.markers]

theorem SameRequest.handles_eq (same : f.SameRequest g) (ps qs : List Pattern)
    (ids : List Identity) :
    (g.queryWith qs).handles ids = (f.queryWith ps).handles ids := by
  simp only [TypeQuery.handles, queryWith, same.scope]

/-! ## The same answers -/

section Find

variable [Pattern.Engine]

/-- The same handles, or errors of the same kind: if several patterns do not compile, the one that
is named may be another one. -/
inductive SameAnswer :
    Except DiscoveryError (List Handle) → Except DiscoveryError (List Handle) → Prop where
  | same (a : Except DiscoveryError (List Handle)) : SameAnswer a a
  | invalid {source source' : String} (invalid : Pattern.isInvalid source = true)
    (invalid' : Pattern.isInvalid source' = true) :
    SameAnswer (.error (.invalidPattern source)) (.error (.invalidPattern source'))

theorem SameRequest.fails_or_answerable (same : f.SameRequest g) :
    (∃ e e', f.Fails e ∧ g.Fails e' ∧ SameAnswer (.error e) (.error e')) ∨
    ∃ ps qs entries, f.Answerable ps entries ∧ g.Answerable qs entries ∧ SameMembers ps qs := by
  by_cases all : f.Boundless
  · have hf : f.spec = .error _ := if_pos all
    have hg : g.spec = .error _ := if_pos (same.boundless_iff.mpr all)
    rw [same.target] at hg
    exact .inl ⟨_, _, .refused hf, .refused hg, .same _⟩
  have all' : ¬g.Boundless := same.boundless_iff.not.mpr all
  cases compiled : Pattern.compileAll f.locations with
  | error e =>
    cases compiled' : Pattern.compileAll g.locations with
    | error e' =>
      obtain ⟨source, hsource, rfl⟩ := Pattern.invalid_of_compileAll compiled
      obtain ⟨source', hsource', rfl⟩ := Pattern.invalid_of_compileAll compiled'
      exact .inl ⟨_, _, .refused (spec_eq_error all compiled),
        .refused (spec_eq_error all' compiled'), .invalid hsource hsource'⟩
    | ok qs =>
      obtain ⟨ps, hps, _⟩ := Pattern.compileAll_congr same.locations.symm compiled'
      cases compiled.symm.trans hps
  | ok ps =>
    obtain ⟨qs, compiled', hpatterns⟩ := Pattern.compileAll_congr same.locations compiled
    cases listed : f.scope.artifacts.answer with
    | error reason =>
      have listed' : g.scope.artifacts.answer = .error reason := by rw [same.scope, listed]
      have hf := Fails.unlisted (spec_eq_ok all compiled) listed
      have hg := Fails.unlisted (spec_eq_ok all' compiled') listed'
      rw [same.scope] at hg
      exact .inl ⟨_, _, hf, hg, .same _⟩
    | ok entries =>
      have listed' : g.scope.artifacts.answer = .ok entries := by rw [same.scope, listed]
      exact .inr ⟨ps, qs, entries, ⟨all, compiled, listed⟩, ⟨all', compiled', listed'⟩, hpatterns⟩

theorem SameRequest.find (same : f.SameRequest g) : SameAnswer f.find.answer g.find.answer := by
  rcases same.fails_or_answerable with ⟨e, e', hf, hg, hsame⟩ | ⟨ps, qs, entries, hf, hg, patterns⟩
  · rwa [hf.find, hg.find]
  · obtain ⟨ids, hids, _⟩ := f.exists_matched ps entries
    have hids' := hids
    rw [← same.matched_eq ps qs, ← same.scanned_eq patterns] at hids'
    rw [hf.answer hids, hg.answer hids', same.handles_eq ps qs]
    exact .same _

theorem SameRequest.mayAnswer (same : f.SameRequest g) {a : Except DiscoveryError (List Handle)}
    (h : f.MayAnswer a) : ∃ b, g.MayAnswer b ∧ SameAnswer a b := by
  obtain ⟨p, after⟩ := h
  rcases same.fails_or_answerable with ⟨e, e', hf, hg, hsame⟩ | ⟨ps, qs, entries, hf, hg, patterns⟩
  · obtain ⟨rfl, rfl⟩ := hf.answersAfter_iff.mp after
    exact ⟨_, ⟨_, .failed hg⟩, hsame⟩
  · obtain ⟨⟨steps, finished⟩, ids, matched, rfl⟩ := hf.answersAfter_iff.mp after
    rw [← same.candidatesWith_eq patterns, ← (same.sameCourse patterns).steps_eq] at steps
    rw [← same.matched_eq ps qs] at matched
    refine ⟨_, ⟨p, .found hg steps finished matched⟩, ?_⟩
    rw [same.handles_eq ps qs]
    exact .same _

end Find

/-! ## Calls in another order -/

namespace Call

/-- A call that narrows a request. All others set something that earlier calls may have set. -/
def narrows : Call → Bool
  | within _ | byUrl _ | having _ => true
  | anyMarker | allMarkers | inScope _ | withConfig _ => false

theorem silent_of_narrows {c : Call} (h : c.narrows = true) :
    c.mode? = none ∧ c.scope? = none ∧ c.config? = none := by
  cases c with
  | within _ | byUrl _ | having _ => exact ⟨rfl, rfl, rfl⟩
  | anyMarker | allMarkers | inScope _ | withConfig _ => cases h

/-- The same narrowing calls, in whatever order and however often, among calls of which the last
ones of each kind are the same. -/
structure Rearranged (cs ds : List Call) : Prop where
  narrowing : ∀ c : Call, c.narrows = true → (c ∈ cs ↔ c ∈ ds)
  mode : (cs.filterMap mode?).getLast? = (ds.filterMap mode?).getLast?
  scope : (cs.filterMap scope?).getLast? = (ds.filterMap scope?).getLast?
  config : (cs.filterMap config?).getLast? = (ds.filterMap config?).getLast?

namespace Rearranged

variable {c : Call} {cs ds es : List Call}

theorem trans (h : Rearranged cs ds) (h' : Rearranged ds es) : Rearranged cs es where
  narrowing c hc := (h.narrowing c hc).trans (h'.narrowing c hc)
  mode := h.mode.trans h'.mode
  scope := h.scope.trans h'.scope
  config := h.config.trans h'.config

/-- A narrowing call may be made later, after any other calls. -/
theorem moved (hc : c.narrows = true) (before between later : List Call) :
    Rearranged (before ++ c :: between ++ later) (before ++ between ++ c :: later) := by
  obtain ⟨hmode, hscope, hconfig⟩ := silent_of_narrows hc
  constructor
  · intro d _
    simp only [List.mem_append, List.mem_cons]
    tauto
  · simp only [List.filterMap_append, List.filterMap_cons_none hmode]
  · simp only [List.filterMap_append, List.filterMap_cons_none hscope]
  · simp only [List.filterMap_append, List.filterMap_cons_none hconfig]

/-- A narrowing call may be repeated. -/
theorem repeated (hc : c.narrows = true) (before later : List Call) :
    Rearranged (before ++ c :: later) (before ++ c :: c :: later) := by
  obtain ⟨hmode, hscope, hconfig⟩ := silent_of_narrows hc
  constructor
  · intro d _
    simp
  · simp only [List.filterMap_append, List.filterMap_cons_none hmode]
  · simp only [List.filterMap_append, List.filterMap_cons_none hscope]
  · simp only [List.filterMap_append, List.filterMap_cons_none hconfig]

/-- What narrowing calls ask for has the same members. -/
theorem asked (h : Rearranged cs ds) (asked? : Call → Option String)
    (narrow : ∀ c x, asked? c = some x → c.narrows = true) :
    SameMembers (cs.filterMap asked?) (ds.filterMap asked?) := by
  intro x
  rw [List.mem_filterMap, List.mem_filterMap]
  exact exists_congr fun c => and_congr_left fun hx => h.narrowing c (narrow c x hx)

end Rearranged

end Call

/-- Such calls come to the same request. -/
theorem Call.Rearranged.sameRequest {cs ds : List Call} (h : Call.Rearranged cs ds)
    (f : TypeFinder) : (f.after cs).SameRequest (f.after ds) where
  target := (target_after f ds).1.trans (target_after f cs).1.symm
  reader := (target_after f ds).2.trans (target_after f cs).2.symm
  mode := by simp only [mode_after, List.getLastD_eq_getLast?, h.mode]
  scope := by simp only [scope_after, List.getLastD_eq_getLast?, h.scope]
  config := by simp only [config_after, List.getLastD_eq_getLast?, h.config]
  markers := by
    have asked := h.asked Call.marker? fun c marker hc => by
      cases c <;> simp_all [Call.marker?, Call.narrows]
    rw [markers_after, markers_after]
    exact asked.foldl_addNew _
  namespaces := by
    have asked := h.asked Call.namespace? fun c ns hc => by
      cases c <;> simp_all [Call.namespace?, Call.narrows]
    rw [namespaces_after, namespaces_after]
    exact asked.foldl_addNew _
  locations := by
    have asked := h.asked Call.pattern? fun c pattern hc => by
      cases c <;> simp_all [Call.pattern?, Call.narrows]
    rw [locations_after, locations_after]
    exact asked.foldl_addNew _

/-- Calls that are rearranged are answered alike, be it in order or by interleaved work items: there
are the same handles, or there is an error of the same kind. -/
theorem find_of_rearranged [Pattern.Engine] (f : TypeFinder) {cs ds : List Call}
    (h : Call.Rearranged cs ds) :
    SameAnswer (f.after cs).find.answer (f.after ds).find.answer ∧
    ∀ a, (f.after cs).MayAnswer a → ∃ b, (f.after ds).MayAnswer b ∧ SameAnswer a b :=
  ⟨(h.sameRequest f).find, fun _ => (h.sameRequest f).mayAnswer⟩

/-- The knot asked for within two namespaces, one of them named twice and in between other calls. -/
theorem find_of_rearranged_knot :
    let cs : List Call := [.within "a", .within "b", .allMarkers, .inScope readableKnot]
    let ds : List Call :=
      [.within "b", .allMarkers, .within "a", .inScope readableKnot, .within "b"]
    Call.Rearranged cs ds ∧ ∃ handles, (knotFinder.after cs).find.answer = .ok handles ∧
      (knotFinder.after ds).find.answer = .ok handles ∧ ⟨⟨"a.A"⟩, .memory "a.A"⟩ ∈ handles := by
  intro cs ds
  have rearranged : Call.Rearranged cs ds :=
    (Call.Rearranged.moved (c := .within "a") rfl [] [.within "b", .allMarkers] _).trans
      ((Call.Rearranged.repeated (c := .within "b") rfl [] _).trans
        (.moved (c := .within "b") rfl [.within "b"]
          [.allMarkers, .within "a", .inScope readableKnot] []))
  have inside : ["a", "b"] = [] ∨
      ∃ name ∈ ["a", "b"], Identity.inNamespace ⟨"a.A"⟩ name = true :=
    .inr ⟨"a", List.mem_cons_self, by decide +kernel⟩
  obtain ⟨handles, hfind, hmem⟩ := mem_find_knotFinder inside
  have hcs : knotFinder.after cs = knotFinder.inNamespaces ["a", "b"] := rfl
  rw [← hcs] at hfind
  have hsame := (find_of_rearranged knotFinder rearranged).1
  rw [hfind] at hsame
  refine ⟨rearranged, handles, hfind, ?_, hmem⟩
  generalize (knotFinder.after ds).find.answer = answer at hsame ⊢
  cases hsame
  rfl

/-- Of several patterns that do not compile, the first one is named. -/
example :
    (knotFinder.after [.byUrl "(", .byUrl "["]).find.answer = .error (.invalidPattern "(") ∧
    (knotFinder.after [.byUrl "[", .byUrl "("]).find.answer = .error (.invalidPattern "[") := by
  decide +kernel

end TypeFinder

end TypeDiscovery
