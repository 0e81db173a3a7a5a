import Mathlib.Data.Set.Card
import TypeDiscovery.Pattern.Regex
import TypeDiscovery.Proofs.Scan.Accounting
import TypeDiscovery.Proofs.Scan.Evaluation
import TypeDiscovery.Proofs.Scan.Sequential

/-!
# What a report accounts for

Whatever the scope and the reader answer and whatever the cache holds at first, the counts of a scan
are those of the keys that it claims, and it opens one location for each of them and no other
(`Accounts`). If every identity has one location and the scan starts afresh from the candidates that
its own patterns select, the exclusions that it counts are pairs of a record and an ancestor named
in it (`rejectedPairs`), none of them counted twice (`report_accounts`).
-/

namespace TypeDiscovery

/-- The keys claimed in a cache that were not claimed in an earlier one. -/
def Cache.newlyClaimed (c d : Cache) : Set Identity :=
  {x | c.contains x = false ∧ d.contains x = true}

/-- The newly claimed keys that were read. -/
def Cache.newlyReady (c d : Cache) : Set Identity :=
  {x ∈ c.newlyClaimed d | ∃ r, d.get? x = some r}

namespace Scan

/-- A place at which a scan of some candidates may open an identity. -/
def Located (s : Scan) (cs : List Candidate) (x : Identity) (l : Location) : Prop :=
  ⟨x, l⟩ ∈ cs ∨ s.scope.locate x = some l

/-- What a scan that turned one cache into another has opened and counted. -/
structure Accounts (s : Scan) (c : Cache) (cs : List Candidate)
    (opened : List (Identity × Location)) (d : Cache) (t : Tally) : Prop where
  /-- No identity is opened twice. -/
  once : (opened.map (·.1)).Nodup
  /-- The identities opened are the keys newly claimed. -/
  mem_opened : ∀ x, x ∈ opened.map (·.1) ↔ x ∈ c.newlyClaimed d
  /-- An identity is opened at a place of its own, and its slot holds what came of that. -/
  stored : ∀ x l, (x, l) ∈ opened →
    s.Located cs x l ∧ d.slot? x = some (Cache.slotOf (s.outcome l))
  /-- A key claimed before has the slot that it had. -/
  kept : ∀ x, c.contains x = true → d.slot? x = c.slot? x
  claimed : (c.newlyClaimed d).ncard = t.parsed + t.unreadable + t.failed
  ready : (c.newlyReady d).ncard = t.parsed

end Scan

/-! ## What is opened -/

namespace WorkItem

open Scan

/-- An item works on identities at places where they may be opened. -/
def Aimed (s : Scan) (cs : List Candidate) : WorkItem → Prop
  | waiting c => c ∈ cs
  | claiming id l _ | reading id l _ => s.Located cs id l
  | _ => True

variable {s : Scan} {cs : List Candidate} {sh sh' : Shared} {item item' : WorkItem}

theorem Move.aimed (move : Move s sh item sh' item') (aimed : item.Aimed s cs) :
    item'.Aimed s cs := by
  cases move with
  | begin => exact .inl aimed
  | enter located => exact .inr located
  | claim => exact aimed
  | _ => trivial

theorem Aimed.located (aimed : item.Aimed s cs) {x : Identity} {l : Location}
    (h : (x, l) ∈ item.opens) : s.Located cs x l := by
  cases item with
  | reading =>
    cases List.mem_singleton.mp h
    exact aimed
  | _ => cases h

end WorkItem

namespace Pool

open Scan WorkItem

/-- Items open identities at places of their own. -/
structure Targeted (s : Scan) (cs : List Candidate) (opened : List (Identity × Location))
    (p : Pool) : Prop where
  aimed : ∀ item ∈ p.items, item.Aimed s cs
  located : ∀ x l, (x, l) ∈ opened → s.Located cs x l

variable {s : Scan} {c : Cache} {cs : List Candidate} {opened : List (Identity × Location)}
  {q : Pool} {sh sh' : Shared} {item item' : WorkItem} {rest : Multiset WorkItem}

theorem Targeted.step (next : item.step s sh = some (sh', item'))
    (targeted : Targeted s cs opened ⟨sh, item ::ₘ rest⟩) :
    Targeted s cs (opened ++ item.opens) ⟨sh', item' ::ₘ rest⟩ := by
  have aimed := targeted.aimed item (Multiset.mem_cons_self item rest)
  constructor
  · intro other hother
    rcases Multiset.mem_cons.mp hother with rfl | hmem
    · exact (move_of_step next).aimed aimed
    · exact targeted.aimed other (Multiset.mem_cons_of_mem hmem)
  · intro x l hx
    rcases List.mem_append.mp hx with hold | hnew
    · exact targeted.located x l hold
    · exact aimed.located hnew

theorem targeted_start (s : Scan) (c : Cache) (cs : List Candidate) :
    Targeted s cs [] (startOn c cs) := by
  refine ⟨?_, by simp⟩
  intro item hitem
  obtain ⟨d, hd, rfl⟩ := List.mem_map.mp (Multiset.mem_coe.mp hitem)
  exact hd

theorem targeted_of_run (run : Run s (startOn c cs) opened q) : Targeted s cs opened q :=
  run.keeps (fun _ _ _ _ _ _ next targeted => targeted.step next) (targeted_start s c cs)

theorem ncard_eq_length {α : Type} {S : Set α} {xs : List α} (nodup : xs.Nodup)
    (mem : ∀ x, x ∈ S ↔ x ∈ xs) : S.ncard = xs.length := by
  classical
  have hset : S = (xs.toFinset : Set α) := by
    ext x
    simp [mem]
  rw [hset, Set.ncard_coe_finset, List.toFinset_card_of_nodup nodup]

theorem taken_of_finished (finished : q.Finished) :
    taken opened q = (opened.map (·.1) : List Identity) := by
  rw [taken, finished.bind_held, zero_add]

theorem Ledger.mem_opened (ledger : Ledger s c opened q) (finished : q.Finished) (x : Identity) :
    x ∈ opened.map (·.1) ↔ x ∈ c.newlyClaimed q.shared.cache := by
  have hvacant := ledger.vacant x
  have hclaimed := ledger.claimed x
  rw [taken_of_finished finished, Multiset.mem_coe] at hvacant hclaimed
  constructor
  · intro hx
    exact ⟨hvacant hx, hclaimed.mpr (.inr hx)⟩
  · rintro ⟨hold, hnew⟩
    refine (hclaimed.mp hnew).resolve_left ?_
    rw [hold]
    simp

theorem Ledger.mem_parsed (ledger : Ledger s c opened q) (x : Identity) :
    x ∈ (opened.filter s.parses).map (·.1) ↔
      x ∈ opened.map (·.1) ∧ ∃ r, q.shared.cache.get? x = some r := by
  constructor
  · intro hx
    obtain ⟨⟨_, l⟩, hfiltered, rfl⟩ := List.mem_map.mp hx
    obtain ⟨hopened, hparses⟩ := List.mem_filter.mp hfiltered
    obtain ⟨r, hr⟩ := parses_iff.mp hparses
    refine ⟨List.mem_map_of_mem hopened, r, Cache.get?_eq_some_iff.mpr ?_⟩
    rw [ledger.stored _ l hopened, Cache.slotOf_eq_ready_iff.mpr hr]
  · rintro ⟨hx, r, hr⟩
    obtain ⟨⟨_, l⟩, hopened, rfl⟩ := List.mem_map.mp hx
    have hslot := ledger.stored _ l hopened
    rw [Cache.get?_eq_some_iff.mp hr, Option.some.injEq, Cache.slotOf_eq_ready_iff] at hslot
    exact List.mem_map_of_mem (List.mem_filter.mpr ⟨hopened, parses_iff.mpr ⟨r, hslot⟩⟩)

/-- A finished run accounts for every key that it claimed. -/
theorem accounts_of_run (run : Run s (startOn c cs) opened q) (finished : q.Finished) :
    s.Accounts c cs opened q.shared.cache q.shared.tally := by
  have ledger := ledger_of_run run
  have targeted := targeted_of_run run
  have mem_opened := ledger.mem_opened finished
  have once : (opened.map (·.1)).Nodup := by
    simpa [taken_of_finished finished] using ledger.once
  obtain ⟨n, hn⟩ := balanced_of_run run
  rw [finished.sum_map rfl, add_zero] at hn
  refine ⟨once, mem_opened, fun x l h => ⟨targeted.located x l h, ledger.stored x l h⟩,
    ledger.kept, ?_, ?_⟩
  · rw [ncard_eq_length once fun x => (mem_opened x).symm, List.length_map,
      ← worth_total s opened, hn]
    rfl
  · have once' : ((opened.filter s.parses).map (·.1)).Nodup :=
      once.sublist (opened.filter_sublist.map _)
    have hready : ∀ x, x ∈ c.newlyReady q.shared.cache ↔
        x ∈ (opened.filter s.parses).map (·.1) := by
      intro x
      rw [ledger.mem_parsed x, mem_opened x]
      rfl
    rw [ncard_eq_length once' hready, List.length_map, ← worth_parsed, hn]
    rfl

/-- A record that a scan leaves is what came of its artifact at a place of its own. -/
theorem located_of_mem_records (steps : Steps s (start cs) q) (finished : q.Finished)
    {x : Identity} {r : Record} (h : (x, r) ∈ q.shared.cache.records) :
    ∃ l, s.Located cs x l ∧ s.outcome l = .done r := by
  obtain ⟨opened, run⟩ := exists_run_of_steps steps
  have accounts := accounts_of_run (c := .empty) run finished
  have hslot := Cache.mem_records.mp h
  have hclaimed : x ∈ Cache.empty.newlyClaimed q.shared.cache :=
    ⟨rfl, Cache.contains_iff.mpr ⟨_, hslot⟩⟩
  obtain ⟨⟨_, l⟩, hopened, rfl⟩ := List.mem_map.mp ((accounts.mem_opened x).mpr hclaimed)
  obtain ⟨located, stored⟩ := accounts.stored _ l hopened
  refine ⟨l, located, Cache.slotOf_eq_ready_iff.mp (Option.some.inj ?_)⟩
  exact hslot.symm.trans stored

end Pool

/-! ## Exclusions -/

namespace Scan

/-- The pairs of an identity that was read and an ancestor in its record that the filter keeps
out. -/
def rejectedPairs (s : Scan) (d : Cache) : Set (Identity × Identity) :=
  {e | ∃ r, d.get? e.1 = some r ∧ e.2.name ∈ r.ancestors ∧ e.2.name ≠ s.reader.root ∧
    ∃ l, s.scope.locate e.2 = some l ∧ ¬ s.Admitted l}

variable {s : Scan} {place : Identity → Location} {cs : List Candidate}

theorem nodup_named (o : Outcome Record) : (named o).Nodup := by
  cases o with
  | done r =>
    refine List.Nodup.map ?_ (r.ancestors.increasing.imp fun h => String.ne_of_lt h)
    intro a b h
    exact congrArg Identity.name h
  | failed | panicked => exact .nil

/-- The pairs of an identity and an ancestor to be excluded, in the order of the identities. -/
def exclusionPairs (s : Scan) (place : Identity → Location) (xs : List Identity) :
    List (Identity × Identity) :=
  xs.flatMap fun x => ((named (s.outcome (place x))).filter s.rejects).map (x, ·)

theorem excluded_charges (s : Scan) (place : Identity → Location) (xs : List Identity) :
    ((xs.map (s.charge place)).sum).excluded = (s.exclusionPairs place xs).length := by
  induction xs with
  | nil => rfl
  | cons x xs ih =>
    have hcharge : (s.charge place x).excluded =
        (named (s.outcome (place x))).countP s.rejects := by
      rw [charge]
      cases s.outcome (place x) <;> simp [Tally.ofOutcome, exclusions, Tally.add_def]
    simp only [exclusionPairs] at ih
    simp [exclusionPairs, Tally.add_def, ih, hcharge, List.countP_eq_length_filter]

theorem nodup_exclusionPairs {xs : List Identity} (h : xs.Nodup) :
    (s.exclusionPairs place xs).Nodup := by
  refine List.nodup_flatMap.mpr ⟨?_, ?_⟩
  · intro x _
    exact ((nodup_named _).filter _).map (Prod.mk_right_injective x)
  · refine h.imp ?_
    intro x y hne e hx hy
    obtain ⟨_, _, rfl⟩ := List.mem_map.mp hx
    obtain ⟨_, _, hxy⟩ := List.mem_map.mp hy
    exact hne (congrArg Prod.fst hxy).symm

end Scan

namespace Pool

open Scan

variable {s : Scan} {place : Identity → Location} {cs : List Candidate} {p : Pool}

theorem mem_rejectedPairs_of_finished (placed : s.Placed place cs) (steps : Steps s (start cs) p)
    (finished : p.Finished) (e : Identity × Identity) :
    e ∈ s.rejectedPairs p.shared.cache ↔ e ∈ s.exclusionPairs place p.shared.reads := by
  obtain ⟨x, a⟩ := e
  have hread : ∀ r, p.shared.cache.get? x = some r ↔
      x ∈ p.shared.reads ∧ s.outcome (place x) = .done r := by
    intro r
    rw [Cache.get?_eq_some_iff, slot?_of_finished placed steps finished,
      mem_reads_of_finished placed steps finished, Cache.slotOf_eq_ready_iff]
  have hpair : (x, a) ∈ s.exclusionPairs place p.shared.reads ↔ x ∈ p.shared.reads ∧
      a ∈ named (s.outcome (place x)) ∧ s.rejects a = true := by
    simp [exclusionPairs]
  rw [hpair, mem_named, rejects_iff]
  constructor
  · rintro ⟨r, hr, hname, hrejected⟩
    obtain ⟨hx, hdone⟩ := (hread r).mp hr
    exact ⟨hx, ⟨r, hdone, hname⟩, hrejected⟩
  · rintro ⟨hx, ⟨r, hdone, hname⟩, hrejected⟩
    exact ⟨r, (hread r).mpr ⟨hx, hdone⟩, hname, hrejected⟩

/-- The exclusions that a finished pool has counted. -/
theorem excluded_of_finished (placed : s.Placed place cs)
    (admitted : ∀ c ∈ cs, s.Admitted c.location) (steps : Steps s (start cs) p)
    (finished : p.Finished) :
    p.shared.tally.excluded = (s.rejectedPairs p.shared.cache).ncard := by
  have nodup : (s.exclusionPairs place p.shared.reads).Nodup :=
    nodup_exclusionPairs (exclusive_of_steps steps).reads_nodup
  rw [ncard_eq_length nodup (mem_rejectedPairs_of_finished placed steps finished),
    tally_of_finished placed admitted steps finished, excluded_charges]

end Pool

/-! ## The report -/

namespace Scan

open Pool

theorem admitted_of_candidates {s : Scan} {sel : Selection} {cs : List Candidate}
    (patterns : sel.patterns = s.patterns) (listed : s.scope.candidates sel = .ok cs) :
    ∀ c ∈ cs, s.Admitted c.location := by
  intro c hc
  rw [Scope.candidates] at listed
  split at listed
  · cases listed
    obtain ⟨_, _, _, _, _, hplace⟩ := Selection.mem_candidates.mp hc
    rw [Selection.keepsLocation, patterns] at hplace
    refine admits_iff.mp ?_
    rw [admits, hplace, Bool.or_true]
  · cases listed

/-- A scan, and every interleaving of its work items that ends, claims as many keys as it counts
parsed, unreadable and failed ones, of which those parsed have come to be ready; each of them it has
opened once, at a place of its own, and nothing else. The report has the number of candidates as
they were given. If the scan starts on an empty cache from the candidates that its own patterns
select, and every identity has one location, the excluded ancestors are counted once for every
record that names them. -/
theorem report_accounts (s : Scan) (c : Cache) (cs : List Candidate) (t : Trace) :
    let done := s.run cs (.start c t)
    (∃ opened, s.Accounts c cs opened done.cache done.tally ∧
      done.trace.opened = t.opened ++ opened.map (·.2)) ∧
    done.trace.events.getLast? = some (.scanned s.scope.name cs.length done.tally) ∧
    (∀ p, Steps s (startOn c cs) p → p.Finished → ∃ opened,
      s.Accounts c cs opened p.shared.cache p.shared.tally ∧
      p.shared.reads.reverse = opened.map (·.1)) ∧
    (∀ place sel, c = .empty → s.Placed place cs → sel.patterns = s.patterns →
      s.scope.candidates sel = .ok cs →
      done.tally.excluded = (s.rejectedPairs done.cache).ncard ∧
      ∀ p, Steps s (startOn c cs) p → p.Finished →
        p.shared.tally.excluded = (s.rejectedPairs p.shared.cache).ncard) := by
  intro done
  obtain ⟨opened, q, run, finished, hcache, htally, htrace⟩ := exists_run s c cs t
  refine ⟨⟨opened, ?_, htrace⟩, ?_, ?_, ?_⟩
  · have accounts := accounts_of_run run finished
    rwa [hcache, htally] at accounts
  · simp [done, Scan.run, Trace.events, Trace.note, Trace.add]
  · intro p steps hp
    obtain ⟨opened, run⟩ := exists_run_of_steps steps
    refine ⟨opened, accounts_of_run run hp, ?_⟩
    rw [run.reads]
    simp [startOn]
  · rintro place sel rfl placed patterns listed
    have admitted := admitted_of_candidates patterns listed
    refine ⟨?_, fun p steps hp => excluded_of_finished placed admitted steps hp⟩
    have excluded := excluded_of_finished placed admitted run.steps finished
    rwa [hcache, htally] at excluded

/-- The knot, with a filter that keeps its third artifact out. -/
def filteredKnot : Scan := { knot with patterns := (Pattern.compile? "[AB]").toList }

/-- The artifacts of the knot that have a location. -/
def filteredCandidates : List Candidate :=
  ["a.A", "b.B"].map fun name => ⟨⟨name⟩, .memory name⟩

theorem candidates_filteredKnot :
    filteredKnot.scope.candidates ⟨false, [], filteredKnot.patterns⟩ = .ok filteredCandidates := by
  decide +kernel

/-- The one exclusion is the third artifact, which the second one names, and an interleaving of the
two items counts it as well. -/
theorem report_accounts_filteredKnot :
    filteredKnot.Placed (fun id => .memory id.name) filteredCandidates ∧
    filteredKnot.scope.candidates ⟨false, [], filteredKnot.patterns⟩ = .ok filteredCandidates ∧
    (filteredKnot.rejectedPairs
      (filteredKnot.run filteredCandidates (.start .empty #[])).cache).ncard = 1 ∧
    ∃ p, Steps filteredKnot (startOn .empty filteredCandidates) p ∧ p.Finished ∧
      p.shared.tally.excluded = (filteredKnot.rejectedPairs p.shared.cache).ncard := by
  have placed : filteredKnot.Placed (fun id => .memory id.name) filteredCandidates :=
    ⟨by simp [filteredCandidates], placed_knot.2⟩
  obtain ⟨excluded, interleaved⟩ :=
    (report_accounts filteredKnot .empty filteredCandidates #[]).2.2.2 _ _ rfl placed rfl
      candidates_filteredKnot
  obtain ⟨_, q, run, finished, _⟩ := exists_run filteredKnot .empty filteredCandidates #[]
  refine ⟨placed, candidates_filteredKnot, ?_, q, run.steps, finished,
    interleaved q run.steps finished⟩
  have evaluated : (filteredCandidates.foldlM (filteredKnot.scanWithin 9) (.start .empty #[])).map
      (·.tally.excluded) = some 1 := by
    decide +kernel
  obtain ⟨done, hdone, hexcluded⟩ := Option.map_eq_some_iff.mp evaluated
  rw [← excluded, run_of_within hdone]
  exact hexcluded

end Scan

end TypeDiscovery
