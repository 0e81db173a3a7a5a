import TypeDiscovery.Pattern.Regex
import TypeDiscovery.Proofs.Query.Subtypes
import TypeDiscovery.Proofs.Scan.LeastFixedPoint
import TypeDiscovery.Query.Types

/-!
# What a type query answers

The answer of a query is described without its stages: the located identities that have a record
in the closure of the admitted listed artifacts, whose own markers meet the required ones, and from
which a chain of records leads to the target.
-/

namespace TypeDiscovery

/-- One location for every identity, in a listing and in the answers of the scope. -/
def Scope.Agrees (scope : Scope) (place : Identity → Location) (entries : List Entry) : Prop :=
  (∀ e ∈ entries, ∀ l, e.location = some l → l = place e.identity) ∧
    ∀ id l, scope.locate id = some l → l = place id

namespace TypeFinder

/-- The listed artifacts that a query starts from. -/
def Listed (f : TypeFinder) (patterns : List Pattern) (entries : List Entry) : Set Identity :=
  {x | ∃ e ∈ entries, e.identity = x ∧
    (f.config.includeNested = true ∨ x.isNested = false) ∧
    (f.namespaces = [] ∨ ∃ ns ∈ f.namespaces, x.inNamespace ns = true) ∧
    ∃ l, e.location = some l ∧
      (patterns = [] ∨ ∃ p ∈ patterns, p.isMatch l.matchTarget .find = true)}

/-- The scan of a query. -/
def scanWith (f : TypeFinder) (patterns : List Pattern) : Scan :=
  ⟨f.scope, f.reader, patterns, f.config.filterAncestors⟩

/-- An identity in the closure of the listed artifacts that can be read, and its record. -/
def Recorded (f : TypeFinder) (patterns : List Pattern) (entries : List Entry)
    (place : Identity → Location) (x : Identity) (r : Record) : Prop :=
  (f.scanWith patterns).Reached place (f.Listed patterns entries) x ∧
    (f.scanWith patterns).outcome (place x) = .done r

/-- An identity with a record that meets the required markers and from which, unless the target is
the root, a chain of records leads to the target. -/
def Answers (f : TypeFinder) (patterns : List Pattern) (entries : List Entry)
    (place : Identity → Location) (x : Identity) : Prop :=
  (∃ r, f.Recorded patterns entries place x r ∧ f.mode.accepts r f.markers = true) ∧
    (f.target ≠ f.reader.root → Relation.TransGen
      (fun y a => ∃ r, f.Recorded patterns entries place ⟨y⟩ r ∧ a ∈ r.ancestors)
      x.name f.target)

end TypeFinder

namespace TypeQuery

variable {q : TypeQuery} {root : String} {records : Records}

/-- The filter that a query applies to scanned identities. -/
def accepted (q : TypeQuery) (records : Records) (id : Identity) : Bool :=
  records.any fun (other, r) => other == id && q.mode.accepts r q.markers

theorem accepted_iff {id : Identity} : q.accepted records id = true ↔
    ∃ r, (id, r) ∈ records ∧ q.mode.accepts r q.markers = true := by
  simp only [accepted, List.any_eq_true, Bool.and_eq_true, beq_iff_eq]
  constructor
  · rintro ⟨⟨x, r⟩, hmem, rfl, haccepts⟩
    exact ⟨r, hmem, haccepts⟩
  · rintro ⟨r, hmem, haccepts⟩
    exact ⟨(id, r), hmem, rfl, haccepts⟩

/-- The matches among records with distinct keys: those accepted, and on a chain to the target
unless that is the root. -/
theorem matched_eq_ok (root : String) (keys : (records.map (·.1)).Nodup) :
    ∃ ids, q.matched root records = .ok ids ∧ ids.Nodup ∧
      ∀ x, x ∈ ids ↔ (∃ r, (x, r) ∈ records ∧ q.mode.accepts r q.markers = true) ∧
        (q.target ≠ root → Relation.TransGen records.Extends x.name q.target) := by
  by_cases htarget : q.target = root
  · refine ⟨(records.map (·.1)).filter (q.accepted records), ?_, keys.filter _, ?_⟩
    · rw [matched, if_pos htarget]
      rfl
    · intro x
      rw [List.mem_filter, accepted_iff]
      constructor
      · rintro ⟨_, haccepted⟩
        exact ⟨haccepted, fun hne => absurd htarget hne⟩
      · rintro ⟨⟨r, hmem, haccepts⟩, _⟩
        exact ⟨List.mem_map.mpr ⟨(x, r), hmem, rfl⟩, r, hmem, haccepts⟩
  · refine ⟨(records.spread [] [q.target]).filter (q.accepted records), ?_,
      (Records.nodup_spread keys List.nodup_nil).filter _, ?_⟩
    · rw [matched, if_neg htarget, Records.subtypesOf, if_neg htarget]
      rfl
    · intro x
      rw [List.mem_filter, accepted_iff, Records.mem_spread_singleton]
      constructor
      · rintro ⟨chain, haccepted⟩
        exact ⟨haccepted, fun _ => chain⟩
      · rintro ⟨haccepted, chain⟩
        exact ⟨chain htarget, haccepted⟩

theorem identity_eq_of_compare {a b : Handle} (h : a.compare b = .eq) :
    a.identity = b.identity := by
  have hid : Ord.compare a.identity b.identity = .eq := (Ordering.then_eq_eq.mp h).1
  exact Std.LawfulEqOrd.eq_of_compare hid

/-- The handles of identities without repeats: each located one with its location. -/
theorem handles_perm {ids : List Identity} (nodup : ids.Nodup) :
    (q.handles ids).Perm (ids.filterMap fun id => (q.scope.locate id).map (⟨id, ·⟩)) := by
  have located : ∀ h ∈ ids.filterMap fun id => (q.scope.locate id).map (Handle.mk id),
      q.scope.locate h.identity = some h.location := by
    intro h hh
    obtain ⟨id, _, hid⟩ := List.mem_filterMap.mp hh
    obtain ⟨l, hl, rfl⟩ := Option.map_eq_some_iff.mp hid
    exact hl
  refine Distinct.ordered_perm ?_ ?_
  · refine List.Nodup.filterMap ?_ nodup
    intro x y h hx hy
    obtain ⟨_, _, rfl⟩ := Option.map_eq_some_iff.mp (Option.mem_def.mp hx)
    obtain ⟨_, _, hsame⟩ := Option.map_eq_some_iff.mp (Option.mem_def.mp hy)
    exact (congrArg Handle.identity hsame).symm
  · intro a ha b hb hcompare
    have hid := identity_eq_of_compare hcompare
    have hla := located a ha
    rw [hid, located b hb] at hla
    cases a
    cases b
    simp_all

theorem mem_handles {ids : List Identity} (nodup : ids.Nodup) {h : Handle} :
    h ∈ q.handles ids ↔ q.scope.locate h.identity = some h.location ∧ h.identity ∈ ids := by
  rw [(handles_perm nodup).mem_iff, List.mem_filterMap]
  constructor
  · rintro ⟨id, hmem, hid⟩
    obtain ⟨l, hl, rfl⟩ := Option.map_eq_some_iff.mp hid
    exact ⟨hl, hmem⟩
  · rintro ⟨hl, hmem⟩
    exact ⟨h.identity, hmem, by rw [hl]; rfl⟩

theorem nodup_identities_handles {ids : List Identity} (nodup : ids.Nodup) :
    ((q.handles ids).map (·.identity)).Nodup := by
  rw [((handles_perm nodup).map _).nodup_iff, List.map_filterMap]
  refine List.Nodup.filterMap ?_ nodup
  intro x y id hx hy
  simp only [Option.mem_def, Option.map_eq_some_iff] at hx hy
  obtain ⟨_, ⟨_, _, rfl⟩, rfl⟩ := hx
  obtain ⟨_, ⟨_, _, rfl⟩, hsame⟩ := hy
  exact hsame.symm

/-- A query whose scope can be listed and whose matches are found answers with their handles. -/
theorem answer_evaluate {reader : Reader} {config : Config} {t : Trace} {cs : List Candidate}
    {ids : List Identity} (candidates : q.scope.candidates (q.selection config) = .ok cs)
    (matched : q.matched reader.root ((q.scan reader config).run cs (.start .empty
      (q.scope.candidateTrace (q.selection config) t))).cache.records = .ok ids) :
    (q.evaluate reader config t).answer = .ok (q.handles ids) := by
  simp only [evaluate, candidates, matched]

end TypeQuery

namespace TypeFinder

open Scan

variable {f : TypeFinder} {patterns : List Pattern} {entries : List Entry}
  {place : Identity → Location}

/-- The query that a finder makes. -/
def queryWith (f : TypeFinder) (patterns : List Pattern) : TypeQuery :=
  ⟨f.target, f.markers, f.mode, f.namespaces, patterns, f.scope⟩

theorem mem_candidates_iff {c : Candidate} :
    c ∈ ((f.queryWith patterns).selection f.config).candidates entries ↔
      ∃ e ∈ entries, e.identity = c.identity ∧
        (f.config.includeNested = true ∨ c.identity.isNested = false) ∧
        (f.namespaces = [] ∨ ∃ ns ∈ f.namespaces, c.identity.inNamespace ns = true) ∧
        e.location = some c.location ∧
        (patterns = [] ∨ ∃ p ∈ patterns, p.isMatch c.location.matchTarget .find = true) := by
  rw [Selection.mem_candidates]
  refine exists_congr fun e => and_congr_right fun _ => and_congr_right fun hid => ?_
  simp [Selection.keepsEntry, Selection.keepsLocation, Pattern.anyMatches, TypeQuery.selection,
    queryWith, hid, and_assoc]

/-- The candidates of a query are the listed artifacts that it starts from. -/
theorem starts_candidates :
    starts (((f.queryWith patterns).selection f.config).candidates entries) =
      f.Listed patterns entries := by
  ext x
  simp only [starts, Listed, Set.mem_ofPred_eq, mem_candidates_iff]
  constructor
  · rintro ⟨c, ⟨e, he, hid, hnested, hns, hl, hmatch⟩, rfl⟩
    exact ⟨e, he, hid, hnested, hns, c.location, hl, hmatch⟩
  · rintro ⟨e, he, rfl, hnested, hns, l, hl, hmatch⟩
    exact ⟨⟨e.identity, l⟩, ⟨e, he, rfl, hnested, hns, hl, hmatch⟩, rfl⟩

theorem placed_candidates (agrees : f.scope.Agrees place entries) :
    (f.scanWith patterns).Placed place
      (((f.queryWith patterns).selection f.config).candidates entries) := by
  refine ⟨?_, agrees.2⟩
  intro c hc
  obtain ⟨e, he, hid, _, _, hl, _⟩ := mem_candidates_iff.mp hc
  rw [agrees.1 e he _ hl, hid]

/-- The records that the scan of a query leaves. -/
theorem mem_records_scanWith (agrees : f.scope.Agrees place entries) (t : Trace)
    {x : Identity} {r : Record} :
    (x, r) ∈ ((f.scanWith patterns).run
        (((f.queryWith patterns).selection f.config).candidates entries)
        (.start .empty t)).cache.records ↔ f.Recorded patterns entries place x r := by
  rw [mem_records_run (placed_candidates agrees), starts_candidates, Recorded]

/-- A valid query on a scope that can be listed answers with the handles of exactly the located
identities described by `Answers`, each identity once. -/
theorem mem_find_iff [Pattern.Engine] (valid : ¬(f.target = f.reader.root ∧ f.markers = []))
    (compiled : Pattern.compileAll f.locations = .ok patterns)
    (listed : f.scope.artifacts.answer = .ok entries) (agrees : f.scope.Agrees place entries) :
    ∃ handles, f.find.answer = .ok handles ∧
      (∀ h, h ∈ handles ↔ f.scope.locate h.identity = some h.location ∧
        f.Answers patterns entries place h.identity) ∧
      (handles.map (·.identity)).Nodup := by
  have hspec : f.spec = .ok (f.queryWith patterns) := by
    rw [spec, if_neg valid, compiled]
    rfl
  have hcandidates : f.scope.candidates ((f.queryWith patterns).selection f.config) =
      .ok (((f.queryWith patterns).selection f.config).candidates entries) := by
    rw [Scope.candidates, listed]
  let t := f.scope.candidateTrace ((f.queryWith patterns).selection f.config)
    (Trace.note #[] (.evaluating (f.queryWith patterns).debug))
  let candidates := ((f.queryWith patterns).selection f.config).candidates entries
  let records := ((f.scanWith patterns).run candidates (.start .empty t)).cache.records
  have hrecords : ∀ x r, (x, r) ∈ records ↔ f.Recorded patterns entries place x r :=
    fun x r => mem_records_scanWith agrees t
  have hkeys : (records.map (·.1)).Nodup := Cache.nodup_keys_records
  obtain ⟨ids, hmatched, hnodup, hids⟩ :=
    TypeQuery.matched_eq_ok (q := f.queryWith patterns) f.reader.root hkeys
  refine ⟨(f.queryWith patterns).handles ids, ?_, ?_, TypeQuery.nodup_identities_handles hnodup⟩
  · rw [find, hspec]
    exact TypeQuery.answer_evaluate hcandidates hmatched
  · intro h
    have hextends : Records.Extends records =
        fun y a => ∃ r, f.Recorded patterns entries place ⟨y⟩ r ∧ a ∈ r.ancestors := by
      funext y a
      simp only [Records.Extends, hrecords]
    rw [TypeQuery.mem_handles hnodup, hids]
    simp only [hextends, hrecords]
    rfl

/-- The knot asked for the subtypes of a member of its cycle, which is its own subtype. -/
theorem mem_find_iff_knot :
    let f := TypeFinder.new "a.A" knot.scope knot.reader .default
    ¬(f.target = f.reader.root ∧ f.markers = []) ∧
    Pattern.compileAll f.locations = .ok [] ∧
    f.scope.artifacts.answer = .ok knotEntries ∧
    f.scope.Agrees (fun id => .memory id.name) knotEntries ∧
    ∃ handles, f.find.answer = .ok handles ∧ ⟨⟨"a.A"⟩, .memory "a.A"⟩ ∈ handles := by
  intro f
  have valid : ¬(f.target = f.reader.root ∧ f.markers = []) := by
    rintro ⟨htarget, _⟩
    revert htarget
    decide
  have agrees : f.scope.Agrees (fun id => .memory id.name) knotEntries :=
    ⟨by simp [knotEntries], placed_knot.2⟩
  have compiled : Pattern.compileAll f.locations = .ok [] := rfl
  have listed : f.scope.artifacts.answer = .ok knotEntries := rfl
  obtain ⟨handles, hfind, hmem, _⟩ := mem_find_iff valid compiled listed agrees
  refine ⟨valid, compiled, listed, agrees, handles, hfind, (hmem _).mpr ⟨rfl, ?_⟩⟩
  have recorded : f.Recorded [] knotEntries (fun id => .memory id.name) ⟨"a.A"⟩
      (.ofLists ["a.A", "b.B"] []) := by
    refine ⟨.start ⟨_, List.mem_cons_self, rfl, .inr (by decide +kernel), .inl rfl, _, rfl,
      .inl rfl⟩ ?_, rfl⟩
    show "a.A" ≠ "lang.Object"
    decide
  exact ⟨⟨_, recorded, rfl⟩,
    fun _ => .single ⟨_, recorded, NameSet.mem_ofList.mpr (by simp [f, new])⟩⟩

end TypeFinder

end TypeDiscovery
