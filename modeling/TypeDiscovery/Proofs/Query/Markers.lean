import TypeDiscovery.Proofs.Query.Answers
import TypeDiscovery.Proofs.Query.Namespaces
import TypeDiscovery.Proofs.Scan.Report

/-!
# Queries for marked subtypes

The subtypes of a target that carry markers are found on one path, all types that carry them on
another one. On the same scope with the same filters both scan the same candidates. If their scans
take the same course, the query for marked subtypes finds what both the query for subtypes and the
query for marked types find; and if every identity has one location, it does so whatever courses
they take (`meets_unmarked_and_allTypes`). In other scopes scans that take different courses may
read an identity at different places, so that the three answers need not go together
(`not_meets_relocated`).
-/

namespace TypeDiscovery.TypeFinder

open Scan Pool

variable {f : TypeFinder} {patterns : List Pattern}

/-- The same request without required markers. -/
def unmarked (f : TypeFinder) : TypeFinder := { f with markers := [] }

/-- The same request for all types. -/
def allTypes (f : TypeFinder) : TypeFinder := { f with target := f.reader.root }

/-- The first of three answers has what both of the others have, unless the scope cannot be listed
and all of them say so. -/
def Meets (f : TypeFinder) (a b c : Except DiscoveryError (List Handle)) : Prop :=
  (∃ reason, f.scope.artifacts.answer = .error reason ∧
    ∀ answer ∈ [a, b, c],
      answer = .error (.enumeration s!"scope {f.scope.name}: {reason}")) ∨
  ∃ both subtypes marked, a = .ok both ∧ b = .ok subtypes ∧ c = .ok marked ∧
    ∀ h, h ∈ both ↔ h ∈ subtypes ∧ h ∈ marked

/-- The requests for marked subtypes, for subtypes, and for marked types. -/
def threefold (f : TypeFinder) : List TypeFinder := [f, f.unmarked, f.allTypes]

theorem mem_threefold {g : TypeFinder} :
    g ∈ f.threefold ↔ g = f ∨ g = f.unmarked ∨ g = f.allTypes := by
  simp [threefold]

/-- A match carries the required markers, and it is one without them. -/
theorem matches_iff (records : Records) (x : Identity) :
    f.Matches records x ↔ f.unmarked.Matches records x ∧ f.allTypes.Matches records x := by
  constructor
  · rintro ⟨⟨r, hr, haccepts⟩, chain⟩
    exact ⟨⟨⟨r, hr, rfl⟩, chain⟩, ⟨r, hr, haccepts⟩, fun hroot => absurd rfl hroot⟩
  · rintro ⟨⟨_, chain⟩, haccepted, _⟩
    exact ⟨haccepted, chain⟩

section Courses

variable [Pattern.Engine] {p : Pool} {a b c : Except DiscoveryError (List Handle)}

/-- Either none of the three requests can list the scope, or they all scan the same candidates. -/
theorem fail_or_answerable_alike (target : f.target ≠ f.reader.root) (markers : f.markers ≠ [])
    (compiled : Pattern.compileAll f.locations = .ok patterns) :
    (∃ reason, f.scope.artifacts.answer = .error reason ∧
      ∀ g ∈ f.threefold, g.Fails (.enumeration s!"scope {f.scope.name}: {reason}")) ∨
    ∃ entries, ∀ g ∈ f.threefold, g.Answerable patterns entries ∧
      g.scanWith patterns = f.scanWith patterns ∧
      g.candidatesWith patterns entries = f.candidatesWith patterns entries := by
  have valid : ∀ g ∈ f.threefold, ¬(g.target = g.reader.root ∧ g.markers = []) := by
    intro g hg
    rcases mem_threefold.mp hg with rfl | rfl | rfl
    · exact fun h => target h.1
    · exact fun h => target h.1
    · exact fun h => markers h.2
  have same : ∀ g ∈ f.threefold, g.locations = f.locations ∧ g.scope = f.scope ∧
      g.scanWith patterns = f.scanWith patterns ∧
      ∀ entries, g.candidatesWith patterns entries = f.candidatesWith patterns entries := by
    intro g hg
    rcases mem_threefold.mp hg with rfl | rfl | rfl <;> exact ⟨rfl, rfl, rfl, fun _ => rfl⟩
  cases listed : f.scope.artifacts.answer with
  | error reason =>
    refine .inl ⟨reason, rfl, fun g hg => ?_⟩
    obtain ⟨hlocations, hscope, _⟩ := same g hg
    rw [← hscope] at listed ⊢
    exact .unlisted (spec_eq_ok (valid g hg) (hlocations ▸ compiled)) listed
  | ok entries =>
    refine .inr ⟨entries, fun g hg => ?_⟩
    obtain ⟨hlocations, hscope, hscan, hcandidates⟩ := same g hg
    exact ⟨⟨valid g hg, hlocations ▸ compiled, hscope ▸ listed⟩, hscan, hcandidates entries⟩

/-- Answers that are read off the same records go together. -/
theorem meets_of_course (target : f.target ≠ f.reader.root) (markers : f.markers ≠ [])
    (compiled : Pattern.compileAll f.locations = .ok patterns) (ha : f.AnswersAfter p a)
    (hb : f.unmarked.AnswersAfter p b) (hc : f.allTypes.AnswersAfter p c) : f.Meets a b c := by
  have first : f ∈ f.threefold := mem_threefold.mpr (.inl rfl)
  have second : f.unmarked ∈ f.threefold := mem_threefold.mpr (.inr (.inl rfl))
  have third : f.allTypes ∈ f.threefold := mem_threefold.mpr (.inr (.inr rfl))
  rcases fail_or_answerable_alike target markers compiled with
    ⟨reason, listing, fails⟩ | ⟨entries, alike⟩
  · refine .inl ⟨reason, listing, ?_⟩
    simp only [List.forall_mem_cons, List.not_mem_nil, false_imp_iff, implies_true, and_true]
    exact ⟨((fails _ first).answersAfter_iff.mp ha).2, ((fails _ second).answersAfter_iff.mp hb).2,
      ((fails _ third).answersAfter_iff.mp hc).2⟩
  · obtain ⟨_, _, _, rfl⟩ := (alike _ first).1.answersAfter_iff.mp ha
    obtain ⟨_, _, _, rfl⟩ := (alike _ second).1.answersAfter_iff.mp hb
    obtain ⟨_, _, _, rfl⟩ := (alike _ third).1.answersAfter_iff.mp hc
    refine .inr ⟨_, _, _, rfl, rfl, rfl, fun h => ?_⟩
    rw [ha.mem_iff, hb.mem_iff, hc.mem_iff, matches_iff, and_and_left]
    rfl

/-- The three requests have their courses in common. -/
theorem exists_answersAfter_threefold (target : f.target ≠ f.reader.root) (markers : f.markers ≠ [])
    (compiled : Pattern.compileAll f.locations = .ok patterns) {g : TypeFinder}
    (hg : g ∈ f.threefold) : (∃ a, g.AnswersAfter p a) ↔ ∃ a, f.AnswersAfter p a := by
  have first : f ∈ f.threefold := mem_threefold.mpr (.inl rfl)
  rcases fail_or_answerable_alike target markers compiled with
    ⟨reason, _, fails⟩ | ⟨entries, alike⟩
  · simp only [(fails g hg).answersAfter_iff, (fails f first).answersAfter_iff]
  · obtain ⟨answerable, hscan, hcandidates⟩ := alike g hg
    rw [answerable.exists_answersAfter_iff, (alike f first).1.exists_answersAfter_iff, hscan,
      hcandidates]

/-- Taking the candidates in order is one of these courses. -/
theorem exists_course_in_order (target : f.target ≠ f.reader.root) (markers : f.markers ≠ [])
    (compiled : Pattern.compileAll f.locations = .ok patterns) :
    ∃ p, ∀ g ∈ f.threefold, g.AnswersAfter p g.find.answer := by
  rcases fail_or_answerable_alike target markers compiled with
    ⟨reason, _, fails⟩ | ⟨entries, alike⟩
  · exact ⟨.start [], fun g hg => (fails g hg).find ▸ .failed (fails g hg)⟩
  · obtain ⟨p, steps, finished, hcache, _⟩ :=
      Pool.run_steps (f.scanWith patterns) (f.candidatesWith patterns entries) #[]
    refine ⟨p, fun g hg => ?_⟩
    obtain ⟨answerable, hscan, hcandidates⟩ := alike g hg
    rw [← hscan, ← hcandidates] at steps hcache
    exact answerable.find_answersAfter ⟨steps, finished⟩ hcache

/-- A query for the marked subtypes of a target finds what the query for its subtypes and the query
for all marked types both find, if their scans take the same course. The courses that one of the
scans may take are those that the others may take, and the candidates taken in order are one of
them. If every identity has one location, the answers go together in whatever order the work items
of each scan take their steps. -/
theorem meets_unmarked_and_allTypes (target : f.target ≠ f.reader.root) (markers : f.markers ≠ [])
    (compiled : Pattern.compileAll f.locations = .ok patterns) :
    (∀ p a b c, f.AnswersAfter p a → f.unmarked.AnswersAfter p b → f.allTypes.AnswersAfter p c →
      f.Meets a b c) ∧
    (∀ p, ∀ g ∈ f.threefold, (∃ a, g.AnswersAfter p a) ↔ ∃ a, f.AnswersAfter p a) ∧
    f.Meets f.find.answer f.unmarked.find.answer f.allTypes.find.answer ∧
    ∀ place, (∀ entries, f.scope.artifacts.answer = .ok entries → f.scope.Agrees place entries) →
      ∀ a b c, f.MayAnswer a → f.unmarked.MayAnswer b → f.allTypes.MayAnswer c →
        f.Meets a b c := by
  have inOrder : f.Meets f.find.answer f.unmarked.find.answer f.allTypes.find.answer := by
    obtain ⟨p, hp⟩ := exists_course_in_order target markers compiled
    exact meets_of_course target markers compiled (hp _ (mem_threefold.mpr (.inl rfl)))
      (hp _ (mem_threefold.mpr (.inr (.inl rfl)))) (hp _ (mem_threefold.mpr (.inr (.inr rfl))))
  refine ⟨fun p a b c => meets_of_course target markers compiled,
    fun p g => exists_answersAfter_threefold target markers compiled, inOrder,
    fun place agrees a b c ha hb hc => ?_⟩
  rw [(mayAnswer_iff agrees).mp ha, (mayAnswer_iff (f := f.unmarked) agrees).mp hb,
    (mayAnswer_iff (f := f.allTypes) agrees).mp hc]
  exact inOrder

end Courses

/-- The first artifact of the knot is the marked one of its subtypes. -/
theorem meets_unmarked_and_allTypes_knot :
    let f := knotFinder.having "m.M"
    f.target ≠ f.reader.root ∧ f.markers ≠ [] ∧ Pattern.compileAll f.locations = .ok [] ∧
    (∀ entries, f.scope.artifacts.answer = .ok entries →
      f.scope.Agrees f.scope.placeOf entries) ∧
    ∃ both, f.MayAnswer (.ok both) ∧ ⟨⟨"a.A"⟩, .memory "a.A"⟩ ∈ both := by
  intro f
  have target : f.target ≠ f.reader.root := by
    show "c.C" ≠ "lang.Object"
    decide
  have markers : f.markers ≠ [] := by decide
  have agrees : ∀ entries, f.scope.artifacts.answer = .ok entries →
      f.scope.Agrees f.scope.placeOf entries :=
    fun entries listed => locatesListed_knotFinder.agrees listed
  refine ⟨target, markers, rfl, agrees, ?_⟩
  obtain ⟨entries, answerable⟩ := answerable_knotFinder
  have meets := (meets_unmarked_and_allTypes target markers rfl).2.2.2 f.scope.placeOf agrees
    _ _ _ f.mayAnswer_find f.unmarked.mayAnswer_find f.allTypes.mayAnswer_find
  rcases meets with ⟨reason, unlisted, _⟩ |
    ⟨both, subtypes, marked, hboth, hsubtypes, hmarked, hmem⟩
  · cases answerable.listed.symm.trans unlisted
  refine ⟨both, hboth ▸ f.mayAnswer_find, (hmem _).mpr ⟨?_, ?_⟩⟩
  · obtain ⟨handles, hfind, hfound⟩ := mem_find_knotFinder (.inl rfl)
    obtain rfl : handles = subtypes := Except.ok.inj (hfind.symm.trans hsubtypes)
    exact hfound
  · have hanswerable : f.allTypes.Answerable [] entries :=
      ⟨fun h => markers h.2, rfl, answerable.listed⟩
    obtain ⟨handles, hfind, hfound⟩ := hanswerable.find
    obtain rfl : handles = marked := Except.ok.inj (hfind.symm.trans hmarked)
    refine (hfound _).mpr ⟨rfl, (matches_iff_answers (f := f.allTypes)
      (locatesListed_knotFinder.agrees answerable.listed)).mpr ?_⟩
    exact ⟨⟨_, recorded_knotFinder answerable (.inl rfl), by decide +kernel⟩,
      fun hroot => absurd rfl hroot⟩

/-! ## An identity with two locations -/

/-- Two artifacts, the first of which is marked. -/
def relocatedEntries : List Entry :=
  [⟨⟨"p.X"⟩, some (.memory "p.X")⟩, ⟨⟨"p.Y"⟩, some (.memory "p.Y")⟩]

/-- A scope that locates the first artifact elsewhere than it lists it. -/
def relocatedScope : Scope where
  name := "moved"
  artifacts := ⟨.ok relocatedEntries, []⟩
  resources := ⟨.ok [], []⟩
  locate := fun id =>
    if id.name = "p.X" then some (.memory "copy")
    else if id.name = "p.Y" then some (.memory "p.Y") else none
  fetch := fun
    | .memory "p.X" => .done [0]
    | .memory "p.Y" => .done [1]
    | .memory "copy" => .done [2]
    | _ => .failed "absent"
  visible := [⟨"p.X"⟩, ⟨"p.Y"⟩]
  mem_visible := by
    rintro ⟨name⟩ h
    by_cases hx : name = "p.X"
    · simp [hx]
    · simpa [hx] using h

/-- The first artifact is marked where it is listed, and extends the target where it is located. The
second artifact extends the first one. -/
def relocatedReader : Reader where
  root := "lang.Object"
  read := fun
    | [0] => .done (.ofLists ["lang.Object"] ["m.M"])
    | [1] => .done (.ofLists ["p.X"] [])
    | [2] => .done (.ofLists ["t.T"] [])
    | _ => .failed "unknown"

def relocatedFinder : TypeFinder :=
  (TypeFinder.new "t.T" relocatedScope relocatedReader .default).having "m.M"

theorem answerable_relocatedFinder {g : TypeFinder} (hg : g ∈ relocatedFinder.threefold) :
    g.Answerable [] relocatedEntries := by
  rcases mem_threefold.mp hg with rfl | rfl | rfl
  · refine ⟨?_, rfl, rfl⟩
    rintro ⟨htarget, _⟩
    revert htarget
    decide
  · refine ⟨?_, rfl, rfl⟩
    rintro ⟨htarget, _⟩
    revert htarget
    decide
  · refine ⟨?_, rfl, rfl⟩
    rintro ⟨_, hmarkers⟩
    cases hmarkers

theorem candidatesWith_relocatedFinder : relocatedFinder.candidatesWith [] relocatedEntries =
    [⟨⟨"p.X"⟩, .memory "p.X"⟩, ⟨⟨"p.Y"⟩, .memory "p.Y"⟩] := by
  decide +kernel

/-- Wherever an artifact is read, its record has the marker or leads to the target, not both. -/
theorem eq_of_mem_records_relocated {p : Pool} {x : Identity} {r : Record}
    (steps : Steps (relocatedFinder.scanWith []) (.start
      (relocatedFinder.candidatesWith [] relocatedEntries)) p)
    (finished : p.Finished) (h : (x, r) ∈ p.shared.cache.records) :
    (x = ⟨"p.X"⟩ ∧ (r = .ofLists ["lang.Object"] ["m.M"] ∨ r = .ofLists ["t.T"] [])) ∨
      x = ⟨"p.Y"⟩ ∧ r = .ofLists ["p.X"] [] := by
  obtain ⟨l, located, read⟩ := located_of_mem_records steps finished h
  rw [Located, candidatesWith_relocatedFinder] at located
  have hl : (x = ⟨"p.X"⟩ ∧ (l = .memory "p.X" ∨ l = .memory "copy")) ∨
      x = ⟨"p.Y"⟩ ∧ l = .memory "p.Y" := by
    obtain ⟨name⟩ := x
    rcases located with hmem | hlocated
    · simp only [List.mem_cons, List.not_mem_nil, or_false, Candidate.mk.injEq] at hmem
      rcases hmem with ⟨hx, rfl⟩ | ⟨hx, rfl⟩
      · exact .inl ⟨hx, .inl rfl⟩
      · exact .inr ⟨hx, rfl⟩
    · have hlocate : (if name = "p.X" then some (Location.memory "copy")
          else if name = "p.Y" then some (.memory "p.Y") else none) = some l := hlocated
      split at hlocate
      · rename_i hx
        cases hlocate
        exact .inl ⟨congrArg _ hx, .inr rfl⟩
      · split at hlocate
        · rename_i hy
          cases hlocate
          exact .inr ⟨congrArg _ hy, rfl⟩
        · cases hlocate
  rcases hl with ⟨rfl, rfl | rfl⟩ | ⟨rfl, rfl⟩
  · cases read
    exact .inl ⟨rfl, .inl rfl⟩
  · cases read
    exact .inl ⟨rfl, .inr rfl⟩
  · cases read
    exact .inr ⟨rfl, rfl⟩

/-- So neither of them is a marked subtype of the target, whatever the course of the scan. -/
theorem not_matches_relocated {p : Pool} (steps : Steps (relocatedFinder.scanWith [])
      (.start (relocatedFinder.candidatesWith [] relocatedEntries)) p)
    (finished : p.Finished) (x : Identity) : ¬relocatedFinder.Matches p.shared.cache.records x := by
  rintro ⟨⟨r, hr, haccepts⟩, chain⟩
  have target : relocatedFinder.target ≠ relocatedFinder.reader.root := by
    show "t.T" ≠ "lang.Object"
    decide
  rcases eq_of_mem_records_relocated steps finished hr with ⟨rfl, rfl | rfl⟩ | ⟨rfl, rfl⟩
  · obtain ⟨a, ⟨r', hr', ha⟩, rest⟩ := Relation.TransGen.head'_iff.mp (chain target)
    have hsame := (Cache.mem_records.mp hr').symm.trans (Cache.mem_records.mp hr)
    cases hsame
    obtain rfl : a = "lang.Object" := List.mem_singleton.mp (NameSet.mem_ofList.mp ha)
    -- nothing is read for the root
    rcases Relation.ReflTransGen.cases_head rest with hroot | ⟨b, ⟨r', hr', _⟩, _⟩
    · exact absurd hroot.symm target
    · rcases eq_of_mem_records_relocated steps finished hr' with ⟨hx, _⟩ | ⟨hy, _⟩
      · revert hx
        decide
      · revert hy
        decide
  · revert haccepts
    decide +kernel
  · revert haccepts
    decide +kernel

theorem mayAnswer_relocatedFinder {a : Except DiscoveryError (List Handle)} :
    relocatedFinder.MayAnswer a ↔ a = .ok [] := by
  have answerable := answerable_relocatedFinder (mem_threefold.mpr (.inl rfl))
  have only : ∀ a, relocatedFinder.MayAnswer a → a = .ok [] := by
    rintro a ⟨p, after⟩
    obtain ⟨⟨steps, finished⟩, ids, _, rfl⟩ := answerable.answersAfter_iff.mp after
    refine congrArg _ (List.eq_nil_iff_forall_not_mem.mpr fun x hx => ?_)
    exact not_matches_relocated steps finished _ ((after.mem_iff x).mp hx).2
  refine ⟨only a, ?_⟩
  rintro rfl
  exact only _ relocatedFinder.mayAnswer_find ▸ relocatedFinder.mayAnswer_find

/-- The second artifact may be scanned first, and then leads to the place where the first one
extends the target. -/
theorem exists_subtypes_relocated : ∃ subtypes, relocatedFinder.unmarked.MayAnswer (.ok subtypes) ∧
    ⟨⟨"p.X"⟩, .memory "copy"⟩ ∈ subtypes := by
  have answerable := answerable_relocatedFinder (mem_threefold.mpr (.inr (.inl rfl)))
  have perm : [⟨⟨"p.Y"⟩, .memory "p.Y"⟩, ⟨⟨"p.X"⟩, .memory "p.X"⟩].Perm
      (relocatedFinder.unmarked.candidatesWith [] relocatedEntries) := by
    show List.Perm _ (relocatedFinder.candidatesWith [] relocatedEntries)
    rw [candidatesWith_relocatedFinder]
    exact .swap _ _ _
  obtain ⟨p, subtypes, after, hcache⟩ := answerable.exists_answersAfter_of_perm perm
  have hrecord : (⟨"p.X"⟩, .ofLists ["t.T"] []) ∈ p.shared.cache.records := by
    rw [hcache]
    exact mem_records_of_within (n := 9) (by decide +kernel)
  refine ⟨subtypes, ⟨p, after⟩, (after.mem_iff _).mpr ⟨rfl, ⟨_, hrecord, rfl⟩, fun _ => ?_⟩⟩
  exact .single ⟨_, hrecord, NameSet.mem_ofList.mpr List.mem_cons_self⟩

/-- In order, the first artifact is read where it is marked. -/
theorem exists_marked_relocated : ∃ marked, relocatedFinder.allTypes.MayAnswer (.ok marked) ∧
    ⟨⟨"p.X"⟩, .memory "copy"⟩ ∈ marked := by
  have answerable := answerable_relocatedFinder (mem_threefold.mpr (.inr (.inr rfl)))
  obtain ⟨p, marked, after, hcache⟩ := answerable.exists_answersAfter_of_perm (.refl _)
  have hrecord : (⟨"p.X"⟩, .ofLists ["lang.Object"] ["m.M"]) ∈ p.shared.cache.records := by
    rw [hcache]
    exact mem_records_of_within (n := 9) (by decide +kernel)
  refine ⟨marked, ⟨p, after⟩, (after.mem_iff _).mpr ⟨rfl, ⟨_, hrecord, by decide +kernel⟩, ?_⟩⟩
  exact fun hroot => absurd rfl hroot

/-- The request for marked subtypes finds nothing, whatever the course of its scan. The scans of the
other two may take different courses, in which each of them finds the first artifact. -/
theorem not_meets_relocated :
    relocatedFinder.target ≠ relocatedFinder.reader.root ∧ relocatedFinder.markers ≠ [] ∧
    Pattern.compileAll relocatedFinder.locations = .ok [] ∧
    (∀ a, relocatedFinder.MayAnswer a ↔ a = .ok []) ∧
    ∃ subtypes marked, relocatedFinder.unmarked.MayAnswer (.ok subtypes) ∧
      relocatedFinder.allTypes.MayAnswer (.ok marked) ∧
      ⟨⟨"p.X"⟩, .memory "copy"⟩ ∈ subtypes ∧ ⟨⟨"p.X"⟩, .memory "copy"⟩ ∈ marked ∧
      ¬relocatedFinder.Meets (.ok []) (.ok subtypes) (.ok marked) := by
  have target : relocatedFinder.target ≠ relocatedFinder.reader.root := by
    show "t.T" ≠ "lang.Object"
    decide
  obtain ⟨subtypes, may_subtypes, mem_subtypes⟩ := exists_subtypes_relocated
  obtain ⟨marked, may_marked, mem_marked⟩ := exists_marked_relocated
  refine ⟨target, by decide, rfl, fun _ => mayAnswer_relocatedFinder, subtypes, marked,
    may_subtypes, may_marked, mem_subtypes, mem_marked, ?_⟩
  rintro (⟨reason, unlisted, _⟩ | ⟨_, _, _, hboth, hsubtypes, hmarked, hmem⟩)
  · cases unlisted
  · cases hboth
    cases hsubtypes
    cases hmarked
    exact absurd ((hmem _).mpr ⟨mem_subtypes, mem_marked⟩) List.not_mem_nil

end TypeDiscovery.TypeFinder
