import TypeDiscovery.Proofs.Query.Results
import TypeDiscovery.Proofs.Scan.Accounting
import TypeDiscovery.Proofs.Scan.Sequential

/-!
# What a finder may answer

The work items of a scan take their steps in some order, and an answer is one that some order leads
to (`MayAnswer`). It is read off what the scan leaves (`AnswersAfter`). The order of the listing is
one of them (`mayAnswer_find`), and so is every other order of the candidates
(`Answerable.exists_answersAfter_of_perm`). In a scope with one location for every identity they all
lead to the same answer (`mayAnswer_iff`).
-/

namespace TypeDiscovery

/-- The work items of a pool are in no order. -/
theorem Pool.start_perm {cs ds : List Candidate} (h : cs.Perm ds) : start cs = start ds := by
  rw [start, start, Multiset.coe_eq_coe.mpr (h.map _)]

namespace TypeFinder

open Scan Pool

variable [Pattern.Engine] {f : TypeFinder} {patterns : List Pattern} {entries : List Entry}
  {p : Pool} {a : Except DiscoveryError (List Handle)} {e : DiscoveryError}

/-- What a finder answers when its scan has come to an end. A finder that fails scans nothing. -/
inductive AnswersAfter (f : TypeFinder) : Pool → Except DiscoveryError (List Handle) → Prop where
  | failed {e : DiscoveryError} (fails : f.Fails e) : AnswersAfter f (.start []) (.error e)
  | found {patterns : List Pattern} {entries : List Entry} {p : Pool} {ids : List Identity}
    (answerable : f.Answerable patterns entries)
    (steps : Pool.Steps (f.scanWith patterns) (.start (f.candidatesWith patterns entries)) p)
    (finished : p.Finished)
    (matched : (f.queryWith patterns).matched f.reader.root p.shared.cache.records = .ok ids) :
    AnswersAfter f p (.ok ((f.queryWith patterns).handles ids))

/-- An answer that a finder gives if the work items of its scan take their steps in some order. In a
scope that has several locations for an identity, not every order need lead to the same answer. -/
def MayAnswer (f : TypeFinder) (a : Except DiscoveryError (List Handle)) : Prop :=
  ∃ p, f.AnswersAfter p a

theorem fails_iff : f.Fails e ↔ f.find.answer = .error e := by
  refine ⟨Fails.find, fun h => ?_⟩
  rcases f.fails_or_answerable with ⟨e', fails⟩ | ⟨patterns, entries, answerable⟩
  · rw [fails.find] at h
    cases h
    exact fails
  · obtain ⟨handles, hfind, _⟩ := answerable.find
    rw [hfind] at h
    cases h

theorem Fails.answersAfter_iff (h : f.Fails e) :
    f.AnswersAfter p a ↔ p = .start [] ∧ a = .error e := by
  constructor
  · intro after
    cases after with
    | failed fails => exact ⟨rfl, fails.find.symm.trans h.find⟩
    | found answerable => exact absurd h answerable.not_fails
  · rintro ⟨rfl, rfl⟩
    exact .failed h

theorem Answerable.answersAfter_iff (h : f.Answerable patterns entries) :
    f.AnswersAfter p a ↔
      (Steps (f.scanWith patterns) (.start (f.candidatesWith patterns entries)) p ∧ p.Finished) ∧
      ∃ ids, (f.queryWith patterns).matched f.reader.root p.shared.cache.records = .ok ids ∧
        a = .ok ((f.queryWith patterns).handles ids) := by
  constructor
  · intro after
    cases after with
    | failed fails => exact absurd fails h.not_fails
    | @found patterns' entries' p ids answerable steps finished matched =>
      obtain rfl : patterns = patterns' := Except.ok.inj (h.compiled.symm.trans answerable.compiled)
      obtain rfl : entries = entries' := Except.ok.inj (h.listed.symm.trans answerable.listed)
      exact ⟨⟨steps, finished⟩, ids, matched, rfl⟩
  · rintro ⟨⟨steps, finished⟩, ids, matched, rfl⟩
    exact .found h steps finished matched

/-- The handles that a finder answers with are those of the located identities that match among the
records that its scan has left. -/
theorem AnswersAfter.mem_iff {handles : List Handle} (h : f.AnswersAfter p (.ok handles))
    (x : Handle) : x ∈ handles ↔ f.scope.locate x.identity = some x.location ∧
      f.Matches p.shared.cache.records x.identity := by
  cases h with
  | @found patterns _ _ ids _ _ _ matched =>
    have keys : (p.shared.cache.records.map (·.1)).Nodup := Cache.nodup_keys_records
    obtain ⟨ids', hmatched, hnodup, hids⟩ :=
      TypeQuery.matched_eq_ok (q := f.queryWith patterns) f.reader.root keys
    obtain rfl : ids = ids' := Except.ok.inj (matched.symm.trans hmatched)
    rw [TypeQuery.mem_handles hnodup, hids]
    rfl

/-- A finder that can answer does so whatever the course of its scan. -/
theorem Answerable.exists_answersAfter_iff (h : f.Answerable patterns entries) :
    (∃ a, f.AnswersAfter p a) ↔
      Steps (f.scanWith patterns) (.start (f.candidatesWith patterns entries)) p ∧ p.Finished := by
  constructor
  · rintro ⟨a, after⟩
    exact (h.answersAfter_iff.mp after).1
  · intro ends
    have keys : (p.shared.cache.records.map (·.1)).Nodup := Cache.nodup_keys_records
    obtain ⟨ids, hmatched, _⟩ :=
      TypeQuery.matched_eq_ok (q := f.queryWith patterns) f.reader.root keys
    exact ⟨_, h.answersAfter_iff.mpr ⟨ends, ids, hmatched, rfl⟩⟩

/-- The candidates may be taken in any order. -/
theorem Answerable.exists_answersAfter_of_perm (h : f.Answerable patterns entries)
    {cs : List Candidate} (perm : cs.Perm (f.candidatesWith patterns entries)) :
    ∃ p handles, f.AnswersAfter p (.ok handles) ∧
      p.shared.cache = ((f.scanWith patterns).run cs (.start .empty #[])).cache := by
  obtain ⟨p, steps, finished, hcache, _⟩ := Pool.run_steps (f.scanWith patterns) cs #[]
  rw [Pool.start_perm perm] at steps
  obtain ⟨a, after⟩ := h.exists_answersAfter_iff.mpr ⟨steps, finished⟩
  obtain ⟨_, ids, _, rfl⟩ := h.answersAfter_iff.mp after
  exact ⟨p, _, after, hcache⟩

/-- What the scan leaves that takes the candidates in the order of the listing. -/
theorem Answerable.find_answersAfter (h : f.Answerable patterns entries)
    (ends : Steps (f.scanWith patterns) (.start (f.candidatesWith patterns entries)) p ∧ p.Finished)
    (hcache : p.shared.cache = ((f.scanWith patterns).run
      (f.candidatesWith patterns entries) (.start .empty #[])).cache) :
    f.AnswersAfter p f.find.answer := by
  obtain ⟨ids, hmatched, _⟩ := f.exists_matched patterns entries
  rw [h.answer hmatched]
  refine h.answersAfter_iff.mpr ⟨ends, ids, ?_, rfl⟩
  rw [hcache]
  exact hmatched

/-- A finder that takes the candidates in order gives one of these answers. -/
theorem mayAnswer_find (f : TypeFinder) : f.MayAnswer f.find.answer := by
  rcases f.fails_or_answerable with ⟨e, fails⟩ | ⟨patterns, entries, answerable⟩
  · rw [fails.find]
    exact ⟨_, .failed fails⟩
  · obtain ⟨p, steps, finished, hcache, _⟩ :=
      Pool.run_steps (f.scanWith patterns) (f.candidatesWith patterns entries) #[]
    exact ⟨p, answerable.find_answersAfter ⟨steps, finished⟩ hcache⟩

/-- In a scope with one location for every identity there is no other. -/
theorem mayAnswer_iff {place : Identity → Location}
    (agrees : ∀ entries, f.scope.artifacts.answer = .ok entries → f.scope.Agrees place entries) :
    f.MayAnswer a ↔ a = f.find.answer := by
  constructor
  · rintro ⟨p, after⟩
    cases after with
    | failed fails => exact fails.find.symm
    | @found patterns entries p ids answerable steps finished matched =>
      have placed : (f.scanWith patterns).Placed place (f.candidatesWith patterns entries) :=
        placed_candidates (agrees entries answerable.listed)
      obtain ⟨q, qSteps, qFinished, hcache, _⟩ :=
        Pool.run_steps (f.scanWith patterns) (f.candidatesWith patterns entries) #[]
      rw [Pool.cache_eq_of_finished placed steps qSteps finished qFinished, hcache] at matched
      exact (answerable.answer matched).symm
  · rintro rfl
    exact f.mayAnswer_find

end TypeFinder

end TypeDiscovery
