import Mathlib.Data.List.Perm.Basic
import TypeDiscovery.Proofs.Query.Types

/-!
# Unreadable artifacts do not disturb queries

Artifacts that cannot be read may be added to a scope without changing what a query answers that
takes its candidates in order (`find_eq_of_adds`). Both scans take the same way: the larger one also
tries the added artifacts, as candidates or as ancestors that records name, but what it leaves
behind is a claimed key without a record (`Alike`).
-/

namespace TypeDiscovery

/-- A location that a scope gives: listed, or that of an identity it locates. -/
def Scope.Gives (s : Scope) (id : Identity) (l : Location) : Prop :=
  (∃ entries, s.artifacts.answer = .ok entries ∧ ⟨id, some l⟩ ∈ entries) ∨ s.locate id = some l

/-- A scope is another one with artifacts of some identities added, none of which can be read. The
listing may have them anywhere, with a location or without; the other scope neither lists nor
locates them, and in all else the scopes are the same. -/
structure Scope.Adds (added : Identity → Bool) (reader : Reader) (larger smaller : Scope) :
    Prop where
  name : larger.name = smaller.name
  listed : smaller.artifacts.answer =
    larger.artifacts.answer.map (·.filter fun e => !added e.identity)
  unlocated : ∀ id, added id = true → smaller.locate id = none
  located : ∀ id, added id = false → larger.locate id = smaller.locate id
  fetched : ∀ id l, smaller.Gives id l → larger.fetch l = smaller.fetch l
  unread : ∀ id l, added id = true → larger.Gives id l →
    ∀ r, (larger.fetch l).bind reader.read ≠ .done r

/-! ## Caches -/

namespace Cache

/-- Caches with the same record for each key list their records alike. -/
theorem records_eq {c d : Cache} (h : ∀ id r, c.slot? id = some (.ready r) ↔
    d.slot? id = some (.ready r)) : c.records = d.records := by
  have hsorted : ∀ c : Cache, c.records.Pairwise fun a b => compare a.1 b.1 = .lt := by
    intro c
    rw [records, List.pairwise_filterMap]
    refine c.slots.ordered_keys_toList.imp ?_
    rintro ⟨x, s⟩ ⟨y, t⟩ hlt p hp q hq
    cases s <;> cases t <;> simp at hp hq
    simpa [← hp, ← hq] using hlt
  have hnodup : ∀ c : Cache, c.records.Nodup := fun c =>
    List.Nodup.of_map _ c.nodup_keys_records
  have hperm : c.records.Perm d.records := by
    rw [List.perm_ext_iff_of_nodup (hnodup c) (hnodup d)]
    rintro ⟨id, r⟩
    rw [mem_records, mem_records, h]
  refine hperm.eq_of_pairwise ?_ (hsorted c) (hsorted d)
  intro a b _ _ hab hba
  rw [Std.OrientedOrd.eq_swap, hba] at hab
  cases hab

/-- The caches have the same slots, but for added identities: one has no slot for them, and the
other has them at most as unreadable. -/
structure Alike (added : Identity → Bool) (smaller larger : Cache) : Prop where
  known : ∀ id, added id = false → larger.slot? id = smaller.slot? id
  free : ∀ id, added id = true → smaller.slot? id = none
  unread : ∀ id, added id = true → ∀ r, larger.slot? id ≠ some (.ready r)

theorem alike_empty (added : Identity → Bool) : Alike added empty empty :=
  ⟨fun _ _ => rfl, fun _ _ => slot?_empty, fun _ _ r => by simp⟩

variable {added : Identity → Bool} {c d : Cache}

theorem Alike.contains_eq (h : Alike added c d) {id : Identity} (hid : added id = false) :
    d.contains id = c.contains id := by
  rw [contains_eq_isSome_slot?, contains_eq_isSome_slot?, h.known id hid]

theorem ne_of_added {x id : Identity} (hx : added x = true) (hid : added id = false) : x ≠ id := by
  rintro rfl
  rw [hid] at hx
  cases hx

theorem Alike.set (h : Alike added c d) {id : Identity} (hid : added id = false) (s : Slot) :
    Alike added (c.set id s) (d.set id s) := by
  constructor
  · intro x hx
    rw [slot?_set, slot?_set, h.known x hx]
  · intro x hx
    rw [slot?_set_of_ne (ne_of_added hx hid)]
    exact h.free x hx
  · intro x hx
    rw [slot?_set_of_ne (ne_of_added hx hid)]
    exact h.unread x hx

/-- A key of an added identity that gets no record makes no difference. -/
theorem Alike.set_added (h : Alike added c d) {id : Identity} (hid : added id = true) {s : Slot}
    (hs : ∀ r, s ≠ .ready r) : Alike added c (d.set id s) := by
  constructor
  · intro x hx
    rw [slot?_set_of_ne (ne_of_added hid hx).symm, h.known x hx]
  · exact h.free
  · intro x hx r
    rw [slot?_set]
    split
    · exact fun heq => hs r (Option.some.inj heq)
    · exact h.unread x hx r

theorem Alike.records_eq (h : Alike added c d) : d.records = c.records := by
  apply Cache.records_eq
  intro id r
  cases hid : added id with
  | false => rw [h.known id hid]
  | true =>
    rw [h.free id hid]
    exact ⟨fun hready => absurd hready (h.unread id hid r), fun hnone => by cases hnone⟩

end Cache

/-! ## Scans -/

namespace Scan

open Cache

/-- A scan of a scope to which unreadable artifacts have been added, alike in all else. -/
structure Adds (added : Identity → Bool) (larger smaller : Scan) : Prop where
  scope : larger.scope.Adds added smaller.reader smaller.scope
  reader : larger.reader = smaller.reader
  patterns : larger.patterns = smaller.patterns
  filterAncestors : larger.filterAncestors = smaller.filterAncestors

variable {added : Identity → Bool} {larger smaller : Scan} {p q : Progress} {id : Identity}
  {l : Location}

theorem Adds.isRoot_eq (h : Adds added larger smaller) (id : Identity) :
    larger.isRoot id = smaller.isRoot id := by
  rw [isRoot, isRoot, h.reader]

theorem Adds.admits_eq (h : Adds added larger smaller) (l : Location) :
    larger.admits l = smaller.admits l := by
  rw [admits, admits, h.patterns, h.filterAncestors]

theorem Adds.outcome_eq (h : Adds added larger smaller) (hgives : smaller.scope.Gives id l) :
    larger.outcome l = smaller.outcome l := by
  rw [outcome, outcome, h.scope.fetched id l hgives, h.reader]

theorem Adds.outcome_ne_done (h : Adds added larger smaller) (hid : added id = true)
    (hgives : larger.scope.Gives id l) (r : Record) : larger.outcome l ≠ .done r := by
  rw [outcome, h.reader]
  exact h.scope.unread id l hid hgives r

theorem cache_visit_eq (s : Scan) (role : Role) (p : Progress) (id : Identity) (l : Location) :
    (s.visit role p id l).1.cache =
      match p.cache.slot? id with
      | some _ => p.cache
      | none => (p.cache.set id .pending).set id (slotOf (s.outcome l)) := by
  rw [cache_visit, getOrCreate]
  cases p.cache.slot? id <;> rfl

theorem ancestors_visit_eq (s : Scan) (role : Role) (p : Progress) (id : Identity) (l : Location) :
    (s.visit role p id l).2 =
      match p.cache.slot? id, s.outcome l with
      | none, .done r => r.ancestors.toList.map (⟨·⟩)
      | _, _ => [] := by
  simp only [visit, getOrCreate]
  cases p.cache.slot? id with
  | some slot => cases slot <;> rfl
  | none => cases s.outcome l <;> rfl

/-- A visit of an artifact that both scopes have. -/
theorem Adds.visit_alike (h : Adds added larger smaller) (hid : added id = false)
    (hgives : smaller.scope.Gives id l) (alike : Alike added p.cache q.cache) (role : Role) :
    Alike added (smaller.visit role p id l).1.cache (larger.visit role q id l).1.cache ∧
      (larger.visit role q id l).2 = (smaller.visit role p id l).2 := by
  rw [cache_visit_eq, cache_visit_eq, ancestors_visit_eq, ancestors_visit_eq,
    h.outcome_eq hgives, alike.known id hid]
  refine ⟨?_, rfl⟩
  cases p.cache.slot? id with
  | some slot => exact alike
  | none => exact (alike.set hid _).set hid _

/-- A visit of an added artifact leaves no record and no ancestors. -/
theorem Adds.visit_added (h : Adds added larger smaller) (hid : added id = true)
    (hgives : larger.scope.Gives id l) (alike : Alike added p.cache q.cache) (role : Role) :
    Alike added p.cache (larger.visit role q id l).1.cache ∧
      (larger.visit role q id l).2 = [] := by
  have hunread := h.outcome_ne_done hid hgives
  rw [cache_visit_eq, ancestors_visit_eq]
  cases q.cache.slot? id with
  | some slot => exact ⟨alike, rfl⟩
  | none =>
    cases houtcome : larger.outcome l with
    | done r => exact absurd houtcome (hunread r)
    | failed reason | panicked =>
      exact ⟨(alike.set_added hid (by simp)).set_added hid (by simp [slotOf]), rfl⟩

/-- An ancestor that is not to be visited is passed over, and the cache stays as it is. -/
theorem follow_pass {s : Scan} (p : Progress) (id : Identity) (stack : List Identity)
    (hpass : ∀ l, s.isRoot id = false → p.cache.contains id = false →
      s.scope.locate id = some l → s.admits l = false) :
    ∃ p' : Progress, p'.cache = p.cache ∧ s.follow p (id :: stack) = s.follow p' stack := by
  rw [follow]
  split
  · exact ⟨p, rfl, rfl⟩
  · rename_i unknown
    simp only [Bool.or_eq_true, not_or, Bool.not_eq_true] at unknown
    split
    · refine ⟨_, ?_, rfl⟩
      rfl
    · rename_i l hl
      rw [if_neg (by simp [hpass l unknown.1 unknown.2 hl])]
      refine ⟨_, ?_, rfl⟩
      rfl

theorem follow_visit {s : Scan} (p : Progress) (stack : List Identity)
    (unknown : ¬(s.isRoot id || p.cache.contains id) = true) (hl : s.scope.locate id = some l)
    (hadmits : s.admits l = true) :
    ∃ p' : Progress, p'.cache = p.cache ∧ s.follow p (id :: stack) =
      s.follow (s.visit .ancestor p' id l).1 ((s.visit .ancestor p' id l).2.reverse ++ stack) := by
  rw [follow, dif_neg unknown]
  split
  · rename_i hnone
    rw [hl] at hnone
    cases hnone
  · rename_i l' hl'
    obtain rfl : l = l' := Option.some.inj (hl.symm.trans hl')
    rw [if_pos hadmits]
    refine ⟨_, ?_, rfl⟩
    rfl

/-- What the larger scan passes over, and what has been added, the smaller scan passes over. -/
theorem Adds.follow_pass (h : Adds added larger smaller) (alike : Alike added p.cache q.cache)
    (id : Identity) (stack : List Identity)
    (hpass : added id = false → ∀ l, larger.isRoot id = false → q.cache.contains id = false →
      larger.scope.locate id = some l → larger.admits l = false) :
    ∃ p' : Progress, Alike added p'.cache q.cache ∧
      smaller.follow p (id :: stack) = smaller.follow p' stack := by
  have hsmaller : ∀ l, smaller.isRoot id = false → p.cache.contains id = false →
      smaller.scope.locate id = some l → smaller.admits l = false := by
    intro l hroot hfree hl
    cases hid : added id with
    | true =>
      rw [h.scope.unlocated id hid] at hl
      cases hl
    | false =>
      rw [← h.isRoot_eq] at hroot
      rw [← alike.contains_eq hid] at hfree
      rw [← h.scope.located id hid] at hl
      rw [← h.admits_eq]
      exact hpass hid l hroot hfree hl
  obtain ⟨p', hcache, hfollow⟩ := Scan.follow_pass p id stack hsmaller
  exact ⟨p', hcache ▸ alike, hfollow⟩

/-- The walks take the same ancestors from the stack. An added one that the larger scope locates is
one that the smaller scope does not, so that only the larger scan tries it. -/
theorem Adds.follow_alike (h : Adds added larger smaller) (stack : List Identity)
    (alike : Alike added p.cache q.cache) :
    Alike added (smaller.follow p stack).cache (larger.follow q stack).cache := by
  -- by the course of the larger walk, since it tries all that the smaller one tries
  fun_induction follow larger q stack generalizing p with
  | case1 q =>
    rw [follow]
    exact alike
  | case2 q id rest known ih =>
    obtain ⟨p', alike', hfollow⟩ := h.follow_pass alike id rest fun _ l hroot hfree => by
      simp [hroot, hfree] at known
    rw [hfollow]
    exact ih alike'
  | case3 q id rest unknown unlocated ih =>
    obtain ⟨p', alike', hfollow⟩ := h.follow_pass alike id rest fun _ l _ _ hl => by
      rw [unlocated] at hl
      cases hl
    rw [hfollow]
    exact ih alike'
  | case4 q id rest unknown l located admitted visited =>
    rename_i ih
    cases hid : added id with
    | true =>
      obtain ⟨p', alike', hfollow⟩ := h.follow_pass alike id rest fun hnew => by
        rw [hid] at hnew
        cases hnew
      obtain ⟨hvisit, hnone⟩ : Alike added p'.cache visited.1.cache ∧ visited.2 = [] :=
        h.visit_added (q := ⟨q.cache, q.tally, q.trace.add (.located id)⟩) hid (.inr located)
          alike' .ancestor
      rw [hnone] at ih ⊢
      rw [hfollow]
      exact ih hvisit
    | false =>
      rw [h.isRoot_eq, alike.contains_eq hid] at unknown
      rw [h.scope.located id hid] at located
      rw [h.admits_eq] at admitted
      obtain ⟨p', hcache, hfollow⟩ := follow_visit p rest unknown located admitted
      obtain ⟨hvisit, hsame⟩ : Alike added (smaller.visit .ancestor p' id l).1.cache
          visited.1.cache ∧ visited.2 = (smaller.visit .ancestor p' id l).2 :=
        h.visit_alike (q := ⟨q.cache, q.tally, q.trace.add (.located id)⟩) hid (.inr located)
          (hcache ▸ alike) .ancestor
      rw [hsame] at ih ⊢
      rw [hfollow]
      exact ih hvisit
  | case5 q id rest unknown l located rejected ih =>
    obtain ⟨p', alike', hfollow⟩ := h.follow_pass alike id rest fun _ l' _ _ hl => by
      obtain rfl : l = l' := Option.some.inj (located.symm.trans hl)
      exact Bool.eq_false_iff.mpr rejected
    rw [hfollow]
    exact ih alike'

/-- A candidate that both scopes list. -/
theorem Adds.scanCandidate_alike (h : Adds added larger smaller) {c : Candidate}
    (hid : added c.identity = false) (hgives : smaller.scope.Gives c.identity c.location)
    (alike : Alike added p.cache q.cache) :
    Alike added (smaller.scanCandidate p c).cache (larger.scanCandidate q c).cache := by
  rw [scanCandidate, scanCandidate, h.isRoot_eq]
  split
  · exact alike
  · obtain ⟨hvisit, hsame⟩ := h.visit_alike hid hgives alike .candidate
    simp only [hsame]
    exact h.follow_alike _ hvisit

/-- An added candidate. -/
theorem Adds.scanCandidate_added (h : Adds added larger smaller) {c : Candidate}
    (hid : added c.identity = true) (hgives : larger.scope.Gives c.identity c.location)
    (alike : Alike added p.cache q.cache) :
    Alike added p.cache (larger.scanCandidate q c).cache := by
  rw [scanCandidate]
  split
  · exact alike
  · obtain ⟨hvisit, hnone⟩ := h.visit_added hid hgives alike .candidate
    simp only [hnone, List.reverse_nil]
    rw [follow]
    exact hvisit

/-- The scan of candidates leaves the same as the scan of those not added. -/
theorem Adds.run_alike (h : Adds added larger smaller) {candidates : List Candidate}
    (hlarger : ∀ c ∈ candidates, larger.scope.Gives c.identity c.location)
    (hsmaller : ∀ c ∈ candidates, added c.identity = false →
      smaller.scope.Gives c.identity c.location) (t u : Trace) :
    Alike added
      (smaller.run (candidates.filter fun c => !added c.identity) (.start .empty u)).cache
      (larger.run candidates (.start .empty t)).cache := by
  have folded : ∀ (p q : Progress), Alike added p.cache q.cache →
      Alike added
        ((candidates.filter fun c => !added c.identity).foldl smaller.scanCandidate p).cache
        (candidates.foldl larger.scanCandidate q).cache := by
    induction candidates with
    | nil => exact fun _ _ alike => alike
    | cons c rest ih =>
      intro p q alike
      have hrest := ih (fun d hd => hlarger d (List.mem_cons_of_mem _ hd))
        (fun d hd => hsmaller d (List.mem_cons_of_mem _ hd))
      cases hid : added c.identity with
      | true =>
        rw [List.filter_cons_of_neg (by simp [hid]), List.foldl_cons]
        exact hrest _ _ (h.scanCandidate_added hid (hlarger c List.mem_cons_self) alike)
      | false =>
        rw [List.filter_cons_of_pos (by simp [hid]), List.foldl_cons, List.foldl_cons]
        exact hrest _ _ (h.scanCandidate_alike hid (hsmaller c List.mem_cons_self hid) alike)
  exact folded (.start .empty u) (.start .empty t) (alike_empty added)

end Scan

/-! ## Queries -/

theorem Selection.candidates_filter (sel : Selection) (keeps : Identity → Bool)
    (entries : List Entry) :
    sel.candidates (entries.filter fun e => keeps e.identity) =
      (sel.candidates entries).filter fun c => keeps c.identity := by
  have hsame : ∀ e, (sel.candidate? e).filter (fun c => keeps c.identity) =
      if keeps e.identity then sel.candidate? e else none := by
    intro e
    unfold candidate?
    cases e.location with
    | none => simp
    | some l =>
      by_cases hl : sel.keepsLocation l = true <;> by_cases he : keeps e.identity = true <;>
        simp [hl, he]
  rw [candidates, candidates, List.filter_filterMap, List.filter_filter, List.filterMap_filter,
    List.filterMap_filter]
  refine List.filterMap_congr fun e _ => ?_
  rw [hsame]
  by_cases hentry : sel.keepsEntry e = true <;> by_cases he : keeps e.identity = true <;>
    simp [hentry, he]

namespace TypeQuery

/-- What answers a query has been scanned. -/
theorem record_of_matched {q : TypeQuery} {root : String} {records : Records}
    {ids : List Identity} (h : q.matched root records = .ok ids) {id : Identity} (hid : id ∈ ids) :
    ∃ r, (id, r) ∈ records := by
  have haccepted : q.accepted records id = true := by
    unfold matched at h
    split at h
    · cases h
      exact (List.mem_filter.mp hid).2
    · cases hsubtypes : records.subtypesOf root q.target with
      | error e =>
        rw [hsubtypes] at h
        cases h
      | ok found =>
        rw [hsubtypes] at h
        cases h
        exact (List.mem_filter.mp hid).2
  obtain ⟨r, hmem, _⟩ := accepted_iff.mp haccepted
  exact ⟨r, hmem⟩

variable {added : Identity → Bool} {larger smaller : Scope} {reader : Reader}

theorem candidates_of_adds (h : larger.Adds added reader smaller) (sel : Selection) :
    smaller.candidates sel =
      (larger.candidates sel).map (·.filter fun c => !added c.identity) := by
  rw [Scope.candidates, Scope.candidates, h.listed, h.name]
  cases larger.artifacts.answer with
  | error reason => rfl
  | ok entries => exact congrArg Except.ok (sel.candidates_filter (fun id => !added id) entries)

/-- A candidate is given by the scope that lists it. -/
theorem gives_of_candidates {scope : Scope} {sel : Selection} {candidates : List Candidate}
    (h : scope.candidates sel = .ok candidates) {c : Candidate} (hc : c ∈ candidates) :
    scope.Gives c.identity c.location := by
  unfold Scope.candidates at h
  cases hlisted : scope.artifacts.answer with
  | error reason =>
    rw [hlisted] at h
    cases h
  | ok entries =>
    rw [hlisted] at h
    cases h
    obtain ⟨⟨id, location⟩, he, rfl, _, hlocation, _⟩ := Selection.mem_candidates.mp hc
    obtain rfl : location = some c.location := hlocation
    exact .inl ⟨entries, hlisted, he⟩

/-- The query in another scope. -/
def inScope (q : TypeQuery) (scope : Scope) : TypeQuery := { q with scope }

theorem answer_of_unlisted {q : TypeQuery} {config : Config} {t : Trace} {e : DiscoveryError}
    (h : q.scope.candidates (q.selection config) = .error e) :
    (q.evaluate reader config t).answer = .error e := by
  simp only [evaluate, h]

/-- An added identity has no record and is no match, and all others are located alike. -/
theorem handles_eq_of_adds (h : larger.Adds added reader smaller) {q : TypeQuery} {root : String}
    {c d : Cache} (alike : Cache.Alike added c d) {ids : List Identity}
    (hids : q.matched root c.records = .ok ids) :
    (q.inScope larger).handles ids = (q.inScope smaller).handles ids := by
  refine congrArg (Distinct.ordered Handle.compare) (List.filterMap_congr fun id hid => ?_)
  obtain ⟨r, hr⟩ := record_of_matched hids hid
  have hknown : added id = false := by
    refine Bool.eq_false_iff.mpr fun hadded => ?_
    rw [Cache.mem_records, alike.free id hadded] at hr
    cases hr
  show (larger.locate id).map _ = (smaller.locate id).map _
  rw [h.located id hknown]

theorem evaluate_of_adds (h : larger.Adds added reader smaller) (q : TypeQuery) (config : Config)
    (t u : Trace) :
    ((q.inScope larger).evaluate reader config t).answer =
      ((q.inScope smaller).evaluate reader config u).answer := by
  have hcandidates := candidates_of_adds h (q.selection config)
  cases hlarger : larger.candidates (q.selection config) with
  | error e =>
    have hsmaller : smaller.candidates (q.selection config) = .error e := by
      rw [hcandidates, hlarger]
      rfl
    have hl : ((q.inScope larger).evaluate reader config t).answer = .error e :=
      answer_of_unlisted hlarger
    have hs : ((q.inScope smaller).evaluate reader config u).answer = .error e :=
      answer_of_unlisted hsmaller
    rw [hl, hs]
  | ok candidates =>
    have hsmaller : smaller.candidates (q.selection config) =
        .ok (candidates.filter fun c => !added c.identity) := by
      rw [hcandidates, hlarger]
      rfl
    have hscans : Scan.Adds added ((q.inScope larger).scan reader config)
        ((q.inScope smaller).scan reader config) := ⟨h, rfl, rfl, rfl⟩
    have hgives : ∀ c ∈ candidates, added c.identity = false →
        smaller.Gives c.identity c.location := fun c hc hid =>
      gives_of_candidates hsmaller (List.mem_filter.mpr ⟨hc, by simp [hid]⟩)
    have alike := hscans.run_alike (fun c hc => gives_of_candidates hlarger hc) hgives
      (larger.candidateTrace (q.selection config) t) (smaller.candidateTrace (q.selection config) u)
    generalize hrun : ((q.inScope smaller).scan reader config).run
      (candidates.filter fun c => !added c.identity) (.start .empty
        (smaller.candidateTrace (q.selection config) u)) = scanned at alike
    obtain ⟨ids, hids, _⟩ := matched_eq_ok (q := q) reader.root scanned.cache.nodup_keys_records
    have hl : ((q.inScope larger).evaluate reader config t).answer =
        .ok ((q.inScope larger).handles ids) :=
      answer_evaluate hlarger (alike.records_eq ▸ hids)
    have hs : ((q.inScope smaller).evaluate reader config u).answer =
        .ok ((q.inScope smaller).handles ids) :=
      answer_evaluate hsmaller (by rw [← hrun] at hids; exact hids)
    rw [hl, hs, handles_eq_of_adds h alike hids]

end TypeQuery

namespace TypeFinder

theorem spec_inScope [Pattern.Engine] (f : TypeFinder) (scope : Scope) :
    (f.inScope scope).spec = f.spec.map (·.inScope scope) := by
  rw [spec, spec, inScope]
  split
  · rfl
  · cases Pattern.compileAll f.locations <;> rfl

/-- A query answers the same when artifacts that cannot be read are added to its scope. -/
theorem find_eq_of_adds [Pattern.Engine] {f : TypeFinder} {added : Identity → Bool}
    {larger smaller : Scope} (h : larger.Adds added f.reader smaller) :
    (f.inScope larger).find.answer = (f.inScope smaller).find.answer := by
  rw [find, find, spec_inScope, spec_inScope]
  cases f.spec with
  | error e => rfl
  | ok q => exact TypeQuery.evaluate_of_adds h q f.config _ _

/-- The scope of the knot without the artifact whose reading panics and the one that has no
location. -/
def readableKnot : Scope where
  name := "knot"
  artifacts := ⟨.ok [⟨⟨"a.A"⟩, some (.memory "a.A")⟩, ⟨⟨"b.B"⟩, some (.memory "b.B")⟩], []⟩
  resources := ⟨.ok [], []⟩
  locate := fun id => if id.name ∈ ["a.A", "b.B"] then some (.memory id.name) else none
  fetch := Scan.knot.scope.fetch
  visible := [⟨"a.A"⟩, ⟨"b.B"⟩]
  mem_visible := by
    rintro ⟨name⟩ h
    simpa using h

/-- The knot has these two more, whatever the reader. -/
theorem adds_readableKnot (reader : Reader) :
    Scan.knot.scope.Adds (fun id => id.name == "c.C" || id.name == "d.D") reader readableKnot := by
  refine ⟨rfl, rfl, ?_, ?_, fun _ _ _ => rfl, ?_⟩
  · rintro ⟨name⟩ hadded
    simp only [Bool.or_eq_true, beq_iff_eq] at hadded
    rcases hadded with rfl | rfl <;> rfl
  · rintro ⟨name⟩ hadded
    simp only [Bool.or_eq_false_iff, beq_eq_false_iff_ne] at hadded
    simp [Scan.knot, readableKnot, hadded.1]
  · rintro ⟨name⟩ l hadded hgives r
    simp only [Bool.or_eq_true, beq_iff_eq] at hadded
    have hunlisted : ¬∃ entries, Scan.knot.scope.artifacts.answer = .ok entries ∧
        ⟨⟨name⟩, some l⟩ ∈ entries := by
      rintro ⟨entries, hlisted, hmem⟩
      cases hlisted
      rcases hadded with rfl | rfl <;> simp [Scan.knotEntries] at hmem
    have hlocated : Scan.knot.scope.locate ⟨name⟩ = some l := hgives.resolve_left hunlisted
    rcases hadded with rfl | rfl
    · cases hlocated
      exact fun hdone => by cases hdone
    · cases hlocated

end TypeFinder

end TypeDiscovery
