import TypeDiscovery.Proofs.Query.Answers
import TypeDiscovery.Proofs.Query.Namespaces
import TypeDiscovery.Proofs.Scan.Simulation

/-!
# Unreadable artifacts in every order

Artifacts that cannot be read may be added to a scope without changing what a query may answer,
whatever the order in which the work items of its scan take their steps (`mayAnswer_of_adds`). Scans
of the two scopes simulate each other. They take the same steps, but that the larger scan alone
tries an added artifact, which ends without a record, while the smaller scan has passed it over or
waits before it (`Tracks`).
-/

namespace TypeDiscovery

variable {added : Identity → Bool}

/-- The smaller scope gives what the larger one does, but for added identities. -/
theorem Scope.Adds.gives_iff {reader : Reader} {larger smaller : Scope}
    (h : larger.Adds added reader smaller) {id : Identity} {l : Location} :
    smaller.Gives id l ↔ added id = false ∧ larger.Gives id l := by
  have hlisted : (∃ entries, smaller.artifacts.answer = .ok entries ∧ ⟨id, some l⟩ ∈ entries) ↔
      added id = false ∧ ∃ entries, larger.artifacts.answer = .ok entries ∧
        ⟨id, some l⟩ ∈ entries := by
    rw [h.listed]
    cases larger.artifacts.answer with
    | error reason => simp [Except.map]
    | ok entries => simp [Except.map, and_comm]
  have hlocated : smaller.locate id = some l ↔ added id = false ∧ larger.locate id = some l := by
    cases hid : added id with
    | true => simp [h.unlocated id hid]
    | false => simp [h.located id hid]
  rw [Gives, Gives, hlisted, hlocated, and_or_left]

namespace WorkItem

/-- What an item is to read is at a location that a scope gives. -/
def Given (scope : Scope) : WorkItem → Prop
  | waiting c => scope.Gives c.identity c.location
  | claiming id l _ | reading id l _ => scope.Gives id l
  | _ => True

/-- Whether an item looks at an ancestor that has been added. -/
def meets (added : Identity → Bool) : WorkItem → Bool
  | walking (id :: _) | locating id _ => added id
  | _ => false

/-- An item of a scan of the larger scope, and one of a scan of the smaller scope that keeps up with
it. -/
inductive Tracks (added : Identity → Bool) (larger smaller : Scope) :
    WorkItem → WorkItem → Prop where
  | same {item : WorkItem} (given : item.Given smaller) : Tracks added larger smaller item item
  | candidate {c : Candidate} (new : added c.identity = true)
    (given : larger.Gives c.identity c.location) :
    Tracks added larger smaller (waiting c) (walking [])
  | claiming {id : Identity} {l : Location} {stack : List Identity} (new : added id = true)
    (given : larger.Gives id l) :
    Tracks added larger smaller (claiming id l stack) (walking stack)
  | reading {id : Identity} {l : Location} {stack : List Identity} (new : added id = true)
    (given : larger.Gives id l) :
    Tracks added larger smaller (reading id l stack) (walking stack)
  | counting {outcome : Outcome Record} {stack : List Identity} (unread : ∀ r, outcome ≠ .done r) :
    Tracks added larger smaller (counting outcome stack) (walking stack)
  /-- The larger scan waits until the smaller one passes the ancestor. -/
  | late {id : Identity} {stack : List Identity} (new : added id = true) :
    Tracks added larger smaller (walking (id :: stack)) (locating id stack)

end WorkItem

namespace Scan

open Cache WorkItem

variable {larger smaller : Scan} {sh sh' : Shared} {id : Identity} {l : Location}
  {stack : List Identity} {item : WorkItem}

/-! ## Steps that both scans take -/

theorem Adds.step_alike (h : Adds added larger smaller) (given : item.Given smaller.scope)
    (known : item.meets added = false) (alike : Alike added sh.cache sh'.cache) :
    Option.Rel (fun x y => Alike added x.1.cache y.1.cache ∧ x.2 = y.2 ∧ x.2.Given smaller.scope)
      (item.step smaller sh) (item.step larger sh') := by
  cases item with
  | waiting c =>
    simp only [step, h.isRoot_eq]
    refine .some ⟨alike, rfl, ?_⟩
    split
    · trivial
    · exact given
  | walking stack =>
    cases stack with
    | nil => exact .none
    | cons id stack =>
      simp only [step, h.isRoot_eq, alike.contains_eq known]
      refine .some ⟨alike, rfl, ?_⟩
      split <;> trivial
  | locating id stack =>
    simp only [step, h.scope.located id known, h.admits_eq]
    cases hl : smaller.scope.locate id with
    | none => exact .some ⟨alike, rfl, trivial⟩
    | some l =>
      simp only
      split
      · exact .some ⟨alike, rfl, .inr hl⟩
      · exact .some ⟨alike, rfl, trivial⟩
  | claiming id l stack =>
    have hid : added id = false := (h.scope.gives_iff.mp given).1
    simp only [step, alike.known id hid]
    cases sh.cache.slot? id with
    | some slot => exact .some ⟨alike, rfl, trivial⟩
    | none => exact .some ⟨alike.set hid .pending, rfl, given⟩
  | reading id l stack =>
    have hid : added id = false := (h.scope.gives_iff.mp given).1
    simp only [step, h.outcome_eq given]
    exact .some ⟨alike.set hid _, rfl, trivial⟩
  | counting outcome stack => cases outcome <;> exact .some ⟨alike, rfl, trivial⟩
  | pushing r stack => exact .some ⟨alike, rfl, trivial⟩

/-! ## An added artifact in the smaller scan -/

theorem Adds.smaller_looks (h : Adds added larger smaller) (new : added id = true)
    (alike : Alike added sh.cache sh'.cache) (notRoot : larger.isRoot id = false) :
    (walking (id :: stack)).step smaller sh = some (sh, locating id stack) := by
  have hfree := contains_eq_false_iff.mpr (alike.free id new)
  simp [step, ← h.isRoot_eq, notRoot, hfree]

theorem Adds.smaller_locates (h : Adds added larger smaller) (new : added id = true) :
    (locating id stack).step smaller sh = some (sh, walking stack) := by
  simp only [step, h.scope.unlocated id new]

/-- The smaller scan does not find an added ancestor. -/
theorem Adds.smaller_passes (h : Adds added larger smaller) (new : added id = true)
    (alike : Alike added sh.cache sh'.cache) :
    Advances smaller (sh, walking (id :: stack)) (sh, walking stack) := by
  cases hroot : larger.isRoot id with
  | true => exact .single (by simp [step, ← h.isRoot_eq, hroot])
  | false => exact .head (h.smaller_looks new alike hroot) (.single (h.smaller_locates new))

/-! ## An added artifact in the larger scan -/

theorem larger_counts (sh' : Shared) {outcome : Outcome Record} (unread : ∀ r, outcome ≠ .done r) :
    ∃ sh₁, sh₁.cache = sh'.cache ∧
      Advances larger (sh', counting outcome stack) (sh₁, walking stack) := by
  cases outcome with
  | done r => exact absurd rfl (unread r)
  | failed reason | panicked =>
    refine ⟨_, ?_, .single rfl⟩
    rfl

theorem Adds.larger_reads (h : Adds added larger smaller) (new : added id = true)
    (given : larger.scope.Gives id l) (alike : Alike added sh.cache sh'.cache) :
    ∃ sh₁, Alike added sh.cache sh₁.cache ∧
      Advances larger (sh', reading id l stack) (sh₁, walking stack) := by
  have unread := h.outcome_ne_done new given
  have stored : ∀ r, slotOf (larger.outcome l) ≠ .ready r :=
    fun r hr => unread r (slotOf_eq_ready_iff.mp hr.symm)
  obtain ⟨sh₁, hcache, counts⟩ := larger_counts { sh' with
    cache := sh'.cache.set id (slotOf (larger.outcome l))
    reads := id :: sh'.reads } unread
  refine ⟨sh₁, ?_, .head rfl counts⟩
  rw [hcache]
  exact alike.set_added new stored

theorem Adds.larger_claims (h : Adds added larger smaller) (new : added id = true)
    (given : larger.scope.Gives id l) (alike : Alike added sh.cache sh'.cache)
    (stack : List Identity) :
    ∃ sh₁, Alike added sh.cache sh₁.cache ∧
      Advances larger (sh', claiming id l stack) (sh₁, walking stack) := by
  cases hslot : sh'.cache.slot? id with
  | some slot => exact ⟨sh', alike, .single (by simp [step, hslot])⟩
  | none =>
    have claimed : Alike added sh.cache
        ({ sh' with cache := sh'.cache.set id .pending } : Shared).cache :=
      alike.set_added new (by simp)
    obtain ⟨sh₁, hread, reads⟩ := h.larger_reads new given claimed
    exact ⟨sh₁, hread, .head (by simp [step, hslot]) reads⟩

theorem Adds.larger_locates (h : Adds added larger smaller) (new : added id = true)
    (alike : Alike added sh.cache sh'.cache) (stack : List Identity) :
    ∃ sh₁, Alike added sh.cache sh₁.cache ∧
      Advances larger (sh', locating id stack) (sh₁, walking stack) := by
  cases hl : larger.scope.locate id with
  | none => exact ⟨sh', alike, .single (by simp [step, hl])⟩
  | some l =>
    cases hadmits : larger.admits l with
    | true =>
      obtain ⟨sh₁, hclaim, claims⟩ := h.larger_claims new (.inr hl) alike stack
      exact ⟨sh₁, hclaim, .head (by simp [step, hl, hadmits]) claims⟩
    | false =>
      have excludes : (locating id stack).step larger sh' =
          some ({ sh' with tally := { sh'.tally with excluded := sh'.tally.excluded + 1 } },
            walking stack) := by
        simp [step, hl, hadmits]
      refine ⟨_, ?_, .single excludes⟩
      exact alike

/-- The larger scan tries an added ancestor, and is then where it would be without it. -/
theorem Adds.larger_passes (h : Adds added larger smaller) (new : added id = true)
    (alike : Alike added sh.cache sh'.cache) :
    ∃ sh₁, Alike added sh.cache sh₁.cache ∧
      Advances larger (sh', walking (id :: stack)) (sh₁, walking stack) := by
  cases hknown : larger.isRoot id || sh'.cache.contains id with
  | true => exact ⟨sh', alike, .single (by simp [step, hknown])⟩
  | false =>
    obtain ⟨sh₁, hlocate, locates⟩ := h.larger_locates new alike stack
    exact ⟨sh₁, hlocate, .head (by simp [step, hknown]) locates⟩

/-- An item comes to where the item that keeps up with it is. -/
theorem Adds.larger_catches_up (h : Adds added larger smaller)
    (tracks : Tracks added larger.scope smaller.scope item (walking stack))
    (alike : Alike added sh.cache sh'.cache) :
    ∃ sh₁, Alike added sh.cache sh₁.cache ∧ Advances larger (sh', item) (sh₁, walking stack) := by
  cases tracks with
  | same given => exact ⟨sh', alike, .refl⟩
  | @candidate c new given =>
    cases hroot : larger.isRoot c.identity with
    | true => exact ⟨sh', alike, .single (by simp [step, hroot])⟩
    | false =>
      obtain ⟨sh₁, hclaim, claims⟩ := h.larger_claims new given alike []
      exact ⟨sh₁, hclaim, .head (by simp [step, hroot]) claims⟩
  | claiming new given => exact h.larger_claims new given alike stack
  | reading new given => exact h.larger_reads new given alike
  | counting unread =>
    obtain ⟨sh₁, hcache, counts⟩ := larger_counts sh' unread
    exact ⟨sh₁, hcache ▸ alike, counts⟩

/-! ## The simulations -/

open Pool

theorem Adds.smaller_simulates (h : Adds added larger smaller) :
    Simulates larger smaller (fun sh sh' => Alike added sh'.cache sh.cache)
      (Tracks added larger.scope smaller.scope) := by
  intro sh sh' item item' sh₁ item₁ alike tracks next
  cases tracks with
  | same given =>
    cases hmeets : item.meets added with
    | false =>
      have steps := h.step_alike given hmeets alike
      rw [next] at steps
      generalize hstep : item.step smaller sh' = after at steps
      obtain ⟨alike₁, rfl, given₁⟩ := steps
      exact ⟨_, _, alike₁, .same given₁, .single hstep⟩
    | true =>
      cases move_of_step next with
      | pass => exact ⟨sh', _, alike, .same trivial, h.smaller_passes hmeets alike⟩
      | look notRoot =>
        exact ⟨sh', _, alike, .same trivial,
          .single (h.smaller_looks hmeets alike (isRoot_eq_false_iff.mpr notRoot))⟩
      | invisible | exclude =>
        exact ⟨sh', _, alike, .same trivial, .single (h.smaller_locates hmeets)⟩
      | enter located =>
        exact ⟨sh', _, alike, .claiming hmeets (.inr located), .single (h.smaller_locates hmeets)⟩
      | _ => cases hmeets
  | candidate new given =>
    cases move_of_step next with
    | skip => exact ⟨sh', _, alike, .same trivial, .refl⟩
    | begin => exact ⟨sh', _, alike, .claiming new given, .refl⟩
  | claiming new given =>
    cases move_of_step next with
    | abandon => exact ⟨sh', _, alike, .same trivial, .refl⟩
    | claim => exact ⟨sh', _, alike.set_added new (by simp), .reading new given, .refl⟩
  | reading new given =>
    cases move_of_step next with
    | settle =>
      have unread := h.outcome_ne_done new given
      refine ⟨sh', _, alike.set_added new fun r hr => ?_, .counting unread, .refl⟩
      exact unread r (slotOf_eq_ready_iff.mp hr.symm)
  | counting unread =>
    cases move_of_step next with
    | parsed => exact absurd rfl (unread _)
    | unreadable | panicked => exact ⟨sh', _, alike, .same trivial, .refl⟩
  | late new =>
    cases move_of_step next with
    | pass => exact ⟨sh', _, alike, .same trivial, .single (h.smaller_locates new)⟩
    | look => exact ⟨sh', _, alike, .same trivial, .refl⟩

theorem Adds.larger_simulates (h : Adds added larger smaller) :
    Simulates smaller larger (fun sh sh' => Alike added sh.cache sh'.cache)
      (fun item' item => Tracks added larger.scope smaller.scope item item') := by
  intro sh sh' item' item sh₁ item₁ alike tracks next
  -- an item that is behind catches up first, and so it is enough to follow from the same place
  have follows : ∀ sh', Alike added sh.cache sh'.cache → item'.Given smaller.scope →
      ∃ sh₂ item₂, Alike added sh₁.cache sh₂.cache ∧
        Tracks added larger.scope smaller.scope item₂ item₁ ∧
        Advances larger (sh', item') (sh₂, item₂) := by
    intro sh' alike given
    cases hmeets : item'.meets added with
    | false =>
      have steps := h.step_alike given hmeets alike
      rw [next] at steps
      generalize hstep : item'.step larger sh' = after at steps
      obtain ⟨alike₁, rfl, given₁⟩ := steps
      exact ⟨_, _, alike₁, .same given₁, .single hstep⟩
    | true =>
      cases move_of_step next with
      | pass known =>
        obtain ⟨sh₂, alike₂, passes⟩ := h.larger_passes hmeets alike
        exact ⟨sh₂, _, alike₂, .same trivial, passes⟩
      | look => exact ⟨sh', _, alike, .late hmeets, .refl⟩
      | invisible =>
        obtain ⟨sh₂, alike₂, locates⟩ := h.larger_locates hmeets alike _
        exact ⟨sh₂, _, alike₂, .same trivial, locates⟩
      | enter located | exclude located =>
        rw [h.scope.unlocated _ hmeets] at located
        cases located
      | _ => cases hmeets
  have caught : ∀ stack, item' = walking stack → ∃ sh₂ item₂,
      Alike added sh₁.cache sh₂.cache ∧ Tracks added larger.scope smaller.scope item₂ item₁ ∧
        Advances larger (sh', item) (sh₂, item₂) := by
    rintro stack rfl
    obtain ⟨sh₂, alike₂, catches⟩ := h.larger_catches_up tracks alike
    obtain ⟨sh₃, item₃, alike₃, tracks₃, advances⟩ := follows sh₂ alike₂ trivial
    exact ⟨sh₃, item₃, alike₃, tracks₃, catches.trans advances⟩
  cases tracks with
  | same given => exact follows sh' alike given
  | candidate | claiming | reading | counting => exact caught _ rfl
  | late new =>
    rw [h.smaller_locates new] at next
    cases next
    obtain ⟨sh₂, alike₂, passes⟩ := h.larger_passes new alike
    exact ⟨sh₂, _, alike₂, .same trivial, passes⟩

/-! ## Runs -/

/-- An item that is done for each candidate that has been added. -/
def standIns (added : Identity → Bool) (cs : List Candidate) : Multiset WorkItem :=
  ((cs.filter fun c => added c.identity).map fun _ => .walking [] : List WorkItem)

theorem idle_standIns {cs : List Candidate} : ∀ item ∈ standIns added cs, item = .walking [] := by
  intro item hitem
  obtain ⟨_, _, rfl⟩ := List.mem_map.mp (Multiset.mem_coe.mp hitem)
  rfl

theorem Adds.tracks_start (h : Adds added larger smaller) {cs : List Candidate}
    (given : ∀ c ∈ cs, larger.scope.Gives c.identity c.location) :
    Multiset.Rel (Tracks added larger.scope smaller.scope) (start cs).items
      ((start (cs.filter fun c => !added c.identity)).items + standIns added cs) := by
  induction cs with
  | nil => exact .zero
  | cons c cs ih =>
    obtain ⟨hc, hcs⟩ := List.forall_mem_cons.mp given
    have hrest := ih hcs
    simp only [start, standIns] at hrest ⊢
    cases hid : added c.identity with
    | true =>
      rw [List.filter_cons_of_neg (by simp [hid]), List.filter_cons_of_pos (by simp [hid]),
        List.map_cons, List.map_cons, ← Multiset.cons_coe, ← Multiset.cons_coe, Multiset.add_cons]
      exact .cons (.candidate hid hc) hrest
    | false =>
      rw [List.filter_cons_of_pos (by simp [hid]), List.filter_cons_of_neg (by simp [hid]),
        List.map_cons, List.map_cons, ← Multiset.cons_coe, ← Multiset.cons_coe, Multiset.cons_add]
      exact .cons (.same (h.scope.gives_iff.mpr ⟨hid, hc⟩)) hrest

/-- Whatever a scan of the larger scope comes to, a scan of the smaller one does. -/
theorem Adds.exists_smaller_run (h : Adds added larger smaller) {cs : List Candidate}
    (given : ∀ c ∈ cs, larger.scope.Gives c.identity c.location) {p : Pool}
    (steps : Steps larger (start cs) p) (finished : p.Finished) :
    ∃ q, Steps smaller (start (cs.filter fun c => !added c.identity)) q ∧ q.Finished ∧
      Alike added q.shared.cache p.shared.cache := by
  have fresh : Alike added (start (cs.filter fun c => !added c.identity)).shared.cache
      (start cs).shared.cache := alike_empty added
  obtain ⟨q, alike, related, hsteps⟩ := h.smaller_simulates.steps steps fresh (h.tracks_start given)
  obtain ⟨items, hitems, hdrop⟩ := hsteps.drop idle_standIns
  refine ⟨⟨q.shared, items⟩, hdrop, fun item hitem => ?_, alike⟩
  have hmem : item ∈ q.items := hitems ▸ Multiset.mem_add.mpr (.inl hitem)
  obtain ⟨other, hother, tracks⟩ :=
    Multiset.exists_mem_of_rel_of_mem (Multiset.rel_flip.mpr related) hmem
  obtain rfl := finished other hother
  cases tracks
  rfl

/-- Whatever a scan of the smaller scope comes to, a scan of the larger one does. -/
theorem Adds.exists_larger_run (h : Adds added larger smaller) {cs : List Candidate}
    (given : ∀ c ∈ cs, larger.scope.Gives c.identity c.location) {q : Pool}
    (steps : Steps smaller (start (cs.filter fun c => !added c.identity)) q)
    (finished : q.Finished) :
    ∃ p, Steps larger (start cs) p ∧ p.Finished ∧ Alike added q.shared.cache p.shared.cache := by
  have fresh : Alike added (start (cs.filter fun c => !added c.identity)).shared.cache
      (start cs).shared.cache := alike_empty added
  obtain ⟨p, alike, related, hsteps⟩ := h.larger_simulates.steps (steps.beside (standIns added cs))
    fresh (Multiset.rel_flip.mpr (h.tracks_start given))
  -- what the larger scan has left to do is with added artifacts
  have behind : ∀ item ∈ p.items, Tracks added larger.scope smaller.scope item (walking []) := by
    intro item hitem
    obtain ⟨other, hother, tracks⟩ :=
      Multiset.exists_mem_of_rel_of_mem (Multiset.rel_flip.mpr related) hitem
    have hdone : other = .walking [] := by
      rcases Multiset.mem_add.mp hother with hmem | hmem
      · exact finished other hmem
      · exact idle_standIns other hmem
    exact hdone ▸ tracks
  obtain ⟨p', alike', finished', hend⟩ := exists_finished (s := larger)
    (R := fun sh => Alike added q.shared.cache sh.cache)
    (fun _ _ alike tracks => h.larger_catches_up tracks alike) alike p.items behind
  exact ⟨p', hsteps.trans hend, finished', alike'⟩

end Scan

/-! ## Answers -/

namespace TypeFinder

section Query

variable {f : TypeFinder} {larger smaller : Scope} {patterns : List Pattern} {entries : List Entry}

theorem scanWith_adds (h : larger.Adds added f.reader smaller) (patterns : List Pattern) :
    Scan.Adds added ((f.inScope larger).scanWith patterns)
      ((f.inScope smaller).scanWith patterns) :=
  ⟨h, rfl, rfl, rfl⟩

theorem candidatesWith_smaller (f : TypeFinder) (added : Identity → Bool)
    (larger smaller : Scope) (patterns : List Pattern) (entries : List Entry) :
    (f.inScope smaller).candidatesWith patterns (entries.filter fun e => !added e.identity) =
      ((f.inScope larger).candidatesWith patterns entries).filter fun c => !added c.identity :=
  Selection.candidates_filter _ (fun id => !added id) entries

variable [Pattern.Engine]

theorem Answerable.in_smaller (h : larger.Adds added f.reader smaller)
    (answerable : (f.inScope larger).Answerable patterns entries) :
    (f.inScope smaller).Answerable patterns (entries.filter fun e => !added e.identity) where
  valid := answerable.valid
  compiled := answerable.compiled
  listed := by
    have hlisted : larger.artifacts.answer = .ok entries := answerable.listed
    show smaller.artifacts.answer = _
    rw [h.listed, hlisted]
    rfl

theorem Answerable.in_larger (h : larger.Adds added f.reader smaller)
    (answerable : (f.inScope smaller).Answerable patterns entries) :
    ∃ all, (f.inScope larger).Answerable patterns all ∧
      entries = all.filter fun e => !added e.identity := by
  have hlisted : smaller.artifacts.answer = .ok entries := answerable.listed
  rw [h.listed] at hlisted
  cases hall : larger.artifacts.answer with
  | error reason =>
    rw [hall] at hlisted
    cases hlisted
  | ok all =>
    rw [hall] at hlisted
    exact ⟨all, ⟨answerable.valid, answerable.compiled, hall⟩, (Except.ok.inj hlisted).symm⟩

theorem Answerable.given (answerable : f.Answerable patterns entries) :
    ∀ c ∈ f.candidatesWith patterns entries, f.scope.Gives c.identity c.location :=
  fun _ hc => TypeQuery.gives_of_candidates (candidates_eq_ok answerable.listed) hc

theorem MayAnswer.in_smaller (h : larger.Adds added f.reader smaller)
    {a : Except DiscoveryError (List Handle)} (may : (f.inScope larger).MayAnswer a) :
    (f.inScope smaller).MayAnswer a := by
  obtain ⟨p, after⟩ := may
  cases after with
  | failed fails =>
    exact ⟨_, .failed (fails_iff.mpr ((find_eq_of_adds h).symm.trans fails.find))⟩
  | @found patterns entries p ids answerable steps finished matched =>
    obtain ⟨q, hsteps, hfinished, alike⟩ :=
      (scanWith_adds h patterns).exists_smaller_run answerable.given steps finished
    rw [← candidatesWith_smaller f added larger smaller] at hsteps
    rw [alike.records_eq] at matched
    have hhandles := TypeQuery.handles_eq_of_adds h (q := f.queryWith patterns) alike matched
    have hfound := AnswersAfter.found (answerable.in_smaller h) hsteps hfinished matched
    exact ⟨q, hhandles ▸ hfound⟩

theorem MayAnswer.in_larger (h : larger.Adds added f.reader smaller)
    {a : Except DiscoveryError (List Handle)} (may : (f.inScope smaller).MayAnswer a) :
    (f.inScope larger).MayAnswer a := by
  obtain ⟨q, after⟩ := may
  cases after with
  | failed fails => exact ⟨_, .failed (fails_iff.mpr ((find_eq_of_adds h).trans fails.find))⟩
  | @found patterns entries q ids answerable steps finished matched =>
    obtain ⟨all, answerable', rfl⟩ := answerable.in_larger h
    rw [candidatesWith_smaller f added larger smaller] at steps
    obtain ⟨p, hsteps, hfinished, alike⟩ :=
      (scanWith_adds h patterns).exists_larger_run answerable'.given steps finished
    have hhandles := TypeQuery.handles_eq_of_adds h (q := f.queryWith patterns) alike matched
    rw [← alike.records_eq] at matched
    have hfound := AnswersAfter.found answerable' hsteps hfinished matched
    exact ⟨p, hhandles.symm ▸ hfound⟩

/-- Artifacts that cannot be read may be added to a scope: a query answers the same, be it in order
or in any other order that the work items of its scan take. -/
theorem mayAnswer_of_adds (h : larger.Adds added f.reader smaller) :
    (f.inScope larger).find.answer = (f.inScope smaller).find.answer ∧
    ∀ a, (f.inScope larger).MayAnswer a ↔ (f.inScope smaller).MayAnswer a :=
  ⟨find_eq_of_adds h, fun _ => ⟨.in_smaller h, .in_larger h⟩⟩

end Query

/-- The target is the artifact whose reading panics, and an ancestor of what is found. -/
theorem mayAnswer_of_adds_knot :
    Scan.knot.scope.Adds (fun id => id.name == "c.C" || id.name == "d.D") knotFinder.reader
      readableKnot ∧
    ∃ handles, (knotFinder.inScope Scan.knot.scope).MayAnswer (.ok handles) ∧
      ⟨⟨"a.A"⟩, .memory "a.A"⟩ ∈ handles := by
  have adds := adds_readableKnot knotFinder.reader
  obtain ⟨handles, hfind, hmem⟩ := mem_find_knotFinder (.inl rfl)
  have may : (knotFinder.inScope readableKnot).MayAnswer (.ok handles) :=
    hfind ▸ (knotFinder.inScope readableKnot).mayAnswer_find
  exact ⟨adds, handles, ((mayAnswer_of_adds adds).2 _).mpr may, hmem⟩

end TypeFinder

end TypeDiscovery
