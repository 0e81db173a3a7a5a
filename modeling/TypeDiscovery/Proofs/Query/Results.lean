import TypeDiscovery.Proofs.Query.Resilience

/-!
# What a finder answers in every case

A finder either fails, because its request is refused or its scope cannot be listed, or it answers
with the handles of the located identities that match among the records of its scan
(`Answerable.find`). Nothing is asked of the scope here. In a scope with one location for every
identity, those that match are the ones described by `Answers` (`matches_iff_answers`).
-/

namespace TypeDiscovery

/-- A scope is itself with nothing added. -/
theorem Scope.adds_nothing (scope : Scope) (reader : Reader) :
    scope.Adds (fun _ => false) reader scope where
  name := rfl
  listed := by cases scope.artifacts.answer <;> simp [Except.map]
  unlocated _ h := by cases h
  located _ _ := rfl
  fetched _ _ _ := rfl
  unread _ _ h := by cases h

namespace TypeFinder

variable {f : TypeFinder} {patterns : List Pattern} {entries : List Entry}
  {place : Identity → Location} {e : DiscoveryError}

/-- The candidates of a query. -/
def candidatesWith (f : TypeFinder) (patterns : List Pattern) (entries : List Entry) :
    List Candidate :=
  ((f.queryWith patterns).selection f.config).candidates entries

/-- The records that the scan of a query leaves. -/
def scanned (f : TypeFinder) (patterns : List Pattern) (entries : List Entry) : Records :=
  ((f.scanWith patterns).run (f.candidatesWith patterns entries) (.start .empty #[])).cache.records

theorem candidates_eq_ok (listed : f.scope.artifacts.answer = .ok entries) :
    f.scope.candidates ((f.queryWith patterns).selection f.config) =
      .ok (f.candidatesWith patterns entries) := by
  rw [Scope.candidates, listed]
  rfl

/-- The records do not depend on the trace that the scan starts from. -/
theorem records_run_eq_scanned (listed : f.scope.artifacts.answer = .ok entries) (t : Trace) :
    ((f.scanWith patterns).run (f.candidatesWith patterns entries)
      (.start .empty t)).cache.records = f.scanned patterns entries := by
  have hgives : ∀ c ∈ f.candidatesWith patterns entries, f.scope.Gives c.identity c.location :=
    fun c hc => TypeQuery.gives_of_candidates (candidates_eq_ok listed) hc
  have adds : Scan.Adds (fun _ => false) (f.scanWith patterns) (f.scanWith patterns) :=
    ⟨f.scope.adds_nothing f.reader, rfl, rfl, rfl⟩
  have alike := adds.run_alike hgives (fun c hc _ => hgives c hc) t #[]
  simp only [Bool.not_false, List.filter_true] at alike
  exact alike.records_eq

/-- An identity with a record that meets the required markers and from which, unless the target is
the root, a chain of records leads to the target. -/
def Matches (f : TypeFinder) (records : Records) (x : Identity) : Prop :=
  (∃ r, (x, r) ∈ records ∧ f.mode.accepts r f.markers = true) ∧
    (f.target ≠ f.reader.root → Relation.TransGen records.Extends x.name f.target)

/-- Among the records of its scan a finder finds what matches, each identity once. -/
theorem exists_matched (f : TypeFinder) (patterns : List Pattern) (entries : List Entry) :
    ∃ ids, (f.queryWith patterns).matched f.reader.root (f.scanned patterns entries) = .ok ids ∧
      ids.Nodup ∧ ∀ x, x ∈ ids ↔ f.Matches (f.scanned patterns entries) x :=
  TypeQuery.matched_eq_ok f.reader.root Cache.nodup_keys_records

/-- What matches, if every identity has one location. -/
theorem matches_iff_answers (agrees : f.scope.Agrees place entries) {x : Identity} :
    f.Matches (f.scanned patterns entries) x ↔ f.Answers patterns entries place x := by
  have hrecords : ∀ y r, (y, r) ∈ f.scanned patterns entries ↔
      f.Recorded patterns entries place y r := fun y r => mem_records_scanWith agrees #[]
  have hextends : Records.Extends (f.scanned patterns entries) =
      fun y a => ∃ r, f.Recorded patterns entries place ⟨y⟩ r ∧ a ∈ r.ancestors := by
    funext y a
    simp only [Records.Extends, hrecords]
  simp only [Matches, hextends, hrecords]
  rfl

variable [Pattern.Engine]

/-- Why a finder has no answer. -/
inductive Fails (f : TypeFinder) : DiscoveryError → Prop where
  /-- The request is refused. -/
  | refused {e : DiscoveryError} (spec : f.spec = .error e) : Fails f e
  /-- The scope of an accepted request cannot be listed. -/
  | unlisted {patterns : List Pattern} {reason : String}
    (spec : f.spec = .ok (f.queryWith patterns))
    (listing : f.scope.artifacts.answer = .error reason) :
    Fails f (.enumeration s!"scope {f.scope.name}: {reason}")

/-- A request that is accepted, and whose scope can be listed. -/
structure Answerable (f : TypeFinder) (patterns : List Pattern) (entries : List Entry) : Prop where
  valid : ¬(f.target = f.reader.root ∧ f.markers = [])
  compiled : Pattern.compileAll f.locations = .ok patterns
  listed : f.scope.artifacts.answer = .ok entries

theorem spec_eq_ok (valid : ¬(f.target = f.reader.root ∧ f.markers = []))
    (compiled : Pattern.compileAll f.locations = .ok patterns) :
    f.spec = .ok (f.queryWith patterns) := by
  rw [spec, if_neg valid, compiled]
  rfl

theorem spec_eq_error (valid : ¬(f.target = f.reader.root ∧ f.markers = []))
    (compiled : Pattern.compileAll f.locations = .error e) : f.spec = .error e := by
  rw [spec, if_neg valid, compiled]
  rfl

theorem fails_or_answerable (f : TypeFinder) :
    (∃ e, f.Fails e) ∨ ∃ patterns entries, f.Answerable patterns entries := by
  by_cases valid : f.target = f.reader.root ∧ f.markers = []
  · exact .inl ⟨_, .refused (by rw [spec, if_pos valid])⟩
  · cases compiled : Pattern.compileAll f.locations with
    | error e => exact .inl ⟨e, .refused (spec_eq_error valid compiled)⟩
    | ok patterns =>
      cases listed : f.scope.artifacts.answer with
      | error reason => exact .inl ⟨_, .unlisted (spec_eq_ok valid compiled) listed⟩
      | ok entries => exact .inr ⟨patterns, entries, valid, compiled, listed⟩

theorem Fails.find (h : f.Fails e) : f.find.answer = .error e := by
  cases h with
  | refused hspec => rw [TypeFinder.find, hspec]
  | unlisted hspec listing =>
    rw [TypeFinder.find, hspec]
    refine TypeQuery.answer_of_unlisted ?_
    show f.scope.candidates _ = _
    rw [Scope.candidates, listing]

/-- A finder that can answer gives the handles of what is found among the records of its scan. -/
theorem Answerable.answer (h : f.Answerable patterns entries) {ids : List Identity}
    (matched : (f.queryWith patterns).matched f.reader.root (f.scanned patterns entries) =
      .ok ids) :
    f.find.answer = .ok ((f.queryWith patterns).handles ids) := by
  rw [TypeFinder.find, spec_eq_ok h.valid h.compiled]
  refine TypeQuery.answer_evaluate (candidates_eq_ok h.listed) ?_
  rw [← records_run_eq_scanned h.listed] at matched
  exact matched

/-- These are the located identities that match. -/
theorem Answerable.find (h : f.Answerable patterns entries) :
    ∃ handles, f.find.answer = .ok handles ∧
      ∀ x, x ∈ handles ↔ f.scope.locate x.identity = some x.location ∧
        f.Matches (f.scanned patterns entries) x.identity := by
  obtain ⟨ids, hmatched, hnodup, hids⟩ := f.exists_matched patterns entries
  refine ⟨_, h.answer hmatched, fun x => ?_⟩
  rw [TypeQuery.mem_handles hnodup, hids]
  rfl

theorem Answerable.not_fails (h : f.Answerable patterns entries) : ¬f.Fails e := by
  intro fails
  obtain ⟨handles, hfind, _⟩ := h.find
  rw [fails.find] at hfind
  cases hfind

theorem answerable_of_find {handles : List Handle} (h : f.find.answer = .ok handles) :
    ∃ patterns entries, f.Answerable patterns entries := by
  rcases f.fails_or_answerable with ⟨e, fails⟩ | answerable
  · rw [fails.find] at h
    cases h
  · exact answerable

end TypeFinder

end TypeDiscovery
