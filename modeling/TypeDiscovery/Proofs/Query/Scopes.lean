import TypeDiscovery.Proofs.Query.Namespaces

/-!
# One request in two scopes

A scope covers another one if it locates whatever the other one locates, with the same bytes behind
it and where the patterns of a request match no less. If both locate what they list, the scan of the
larger scope meets all that the scan of the smaller one meets, and so a request finds in the larger
scope every identity that it finds in the smaller one (`find_of_covers`). Scopes that cover each
other answer alike (`identities_find_of_covers`).
-/

namespace TypeDiscovery

/-- Whatever the smaller scope locates, the larger one locates too: the same bytes, at a location
that no fewer of some patterns match. -/
def Scope.Covers (patterns : List Pattern) (larger smaller : Scope) : Prop :=
  ∀ id l, smaller.locate id = some l → ∃ m, larger.locate id = some m ∧
    larger.fetch m = smaller.fetch l ∧
    ∀ p ∈ patterns, p.isMatch l.matchTarget .find = true → p.isMatch m.matchTarget .find = true

namespace TypeFinder

open Scan

variable {f : TypeFinder} {patterns : List Pattern} {smaller larger : Scope}
  {entries entries' : List Entry}

theorem listed_of_covers (covers : larger.Covers patterns smaller)
    (located : smaller.LocatesListed) (located' : larger.LocatesListed)
    (listed : smaller.artifacts.answer = .ok entries)
    (listed' : larger.artifacts.answer = .ok entries') {x : Identity}
    (hx : x ∈ (f.inScope smaller).Listed patterns entries) :
    x ∈ (f.inScope larger).Listed patterns entries' := by
  obtain ⟨⟨id, location⟩, he, rfl, hnested, hns, l, rfl, hmatch⟩ := hx
  obtain ⟨m, hm, _, hmatches⟩ := covers id l ((located id l).mpr ⟨entries, listed, he⟩)
  obtain ⟨all, hall, hentry⟩ := (located' id m).mp hm
  obtain rfl : entries' = all := Except.ok.inj (listed'.symm.trans hall)
  refine ⟨_, hentry, rfl, hnested, hns, m, rfl, hmatch.imp_right ?_⟩
  rintro ⟨p, hp, hmatch⟩
  exact ⟨p, hp, hmatches p hp hmatch⟩

/-- The scan of the larger scope meets all that the scan of the smaller one does. -/
theorem carries_of_covers (covers : larger.Covers patterns smaller)
    (located : smaller.LocatesListed) (located' : larger.LocatesListed)
    (listed : smaller.artifacts.answer = .ok entries)
    (listed' : larger.artifacts.answer = .ok entries') :
    Carries ((f.inScope smaller).scanWith patterns) ((f.inScope larger).scanWith patterns)
      smaller.placeOf larger.placeOf ((f.inScope smaller).Listed patterns entries)
      ((f.inScope larger).Listed patterns entries') where
  root := rfl
  origins _ hx := listed_of_covers covers located located' listed listed' hx
  outcome x hx := by
    -- what is reached is located, so that both scopes have the same bytes for it
    obtain ⟨_, l, hl, _⟩ := wanted_of_reached (f := f.inScope smaller) located listed hx
    obtain ⟨m, hm, hfetch, _⟩ := covers x l hl
    have hplace : l = smaller.placeOf x := Scope.placeOf_eq hl
    rw [← hplace, ← Scope.placeOf_eq hm]
    exact congrArg (·.bind f.reader.read) hfetch
  wanted a h := by
    obtain ⟨hroot, l, hl, hadmitted⟩ := h
    obtain ⟨m, hm, _, hmatches⟩ := covers a l hl
    refine ⟨hroot, m, hm, hadmitted.imp_right (Or.imp_right ?_)⟩
    rintro ⟨p, hp, hmatch⟩
    exact ⟨p, hp, hmatches p hp hmatch⟩

theorem answers_of_covers (covers : larger.Covers patterns smaller)
    (located : smaller.LocatesListed) (located' : larger.LocatesListed)
    (listed : smaller.artifacts.answer = .ok entries)
    (listed' : larger.artifacts.answer = .ok entries') {x : Identity}
    (h : (f.inScope smaller).Answers patterns entries smaller.placeOf x) :
    (f.inScope larger).Answers patterns entries' larger.placeOf x := by
  have carries := carries_of_covers (f := f) covers located located' listed listed'
  obtain ⟨⟨r, ⟨hx, hr⟩, haccepts⟩, chain⟩ := h
  refine ⟨⟨r, ⟨carries.reached hx, (carries.outcome x hx).trans hr⟩, haccepts⟩, fun htarget => ?_⟩
  exact Relation.TransGen.mono (fun _ _ => carries.names) _ _ (chain htarget)

/-- The identities that an answer has handles for. -/
def identities (answer : Except DiscoveryError (List Handle)) :
    Except DiscoveryError (Set Identity) :=
  answer.map fun handles => {id | ∃ h ∈ handles, h.identity = id}

variable [Pattern.Engine]

theorem locate_of_mem_find {found : List Handle} (h : f.find.answer = .ok found) {x : Handle}
    (hx : x ∈ found) : f.scope.locate x.identity = some x.location := by
  obtain ⟨patterns, entries, answerable⟩ := answerable_of_find h
  obtain ⟨handles, hfind, mem_found⟩ := answerable.find
  obtain rfl : found = handles := Except.ok.inj (h.symm.trans hfind)
  exact ((mem_found x).mp hx).1

/-- A request that can be answered in both scopes finds in the larger one whatever it finds in the
smaller one, and has it where the larger one locates it. -/
theorem find_of_covers
    (covers : ∀ patterns, Pattern.compileAll f.locations = .ok patterns →
      larger.Covers patterns smaller)
    (located : smaller.LocatesListed) (located' : larger.LocatesListed)
    (listed' : larger.artifacts.answer = .ok entries') {found : List Handle}
    (h : (f.inScope smaller).find.answer = .ok found) :
    ∃ wide, (f.inScope larger).find.answer = .ok wide ∧ ∀ x ∈ found, ∃ m,
      larger.locate x.identity = some m ∧ ⟨x.identity, m⟩ ∈ wide := by
  obtain ⟨patterns, entries, answerable⟩ := answerable_of_find h
  obtain ⟨handles, hfind, mem_found⟩ := answerable.find
  obtain rfl : found = handles := Except.ok.inj (h.symm.trans hfind)
  have answerable' : (f.inScope larger).Answerable patterns entries' :=
    ⟨answerable.valid, answerable.compiled, listed'⟩
  obtain ⟨wide, hwide, mem_wide⟩ := answerable'.find
  refine ⟨wide, hwide, fun x hx => ?_⟩
  obtain ⟨hlocate, hmatches⟩ := (mem_found x).mp hx
  have hcovers := covers patterns answerable.compiled
  obtain ⟨m, hm, _⟩ := hcovers x.identity x.location hlocate
  refine ⟨m, hm, (mem_wide _).mpr ⟨hm, ?_⟩⟩
  refine (matches_iff_answers (f := f.inScope larger) (located'.agrees listed')).mpr ?_
  refine answers_of_covers hcovers located located' answerable.listed listed' ?_
  exact (matches_iff_answers (f := f.inScope smaller)
    (located.agrees answerable.listed)).mp hmatches

/-- Scopes that cover each other give the same answers, but for the locations. -/
theorem identities_find_of_covers
    (covers : ∀ patterns, Pattern.compileAll f.locations = .ok patterns →
      larger.Covers patterns smaller ∧ smaller.Covers patterns larger)
    (located : smaller.LocatesListed) (located' : larger.LocatesListed)
    (listed : smaller.artifacts.answer = .ok entries)
    (listed' : larger.artifacts.answer = .ok entries') :
    identities (f.inScope smaller).find.answer = identities (f.inScope larger).find.answer := by
  rcases (f.inScope smaller).fails_or_answerable with ⟨e, fails⟩ | ⟨patterns, _, answerable⟩
  · have fails' : (f.inScope larger).Fails e := by
      cases fails with
      | refused hspec =>
        refine .refused ?_
        rw [spec_inScope] at hspec ⊢
        cases hf : f.spec with
        | error e' =>
          rw [hf] at hspec
          exact hspec
        | ok q =>
          rw [hf] at hspec
          cases hspec
      | unlisted _ listing => cases listing.symm.trans listed
    rw [fails.find, fails'.find]
  · obtain ⟨found, hfound, _⟩ := answerable.find
    obtain ⟨wide, hwide, hcovered⟩ := find_of_covers (fun patterns h => (covers patterns h).1)
      located located' listed' hfound
    obtain ⟨back, hback, hcovered'⟩ := find_of_covers (fun patterns h => (covers patterns h).2)
      located' located listed hwide
    obtain rfl : found = back := Except.ok.inj (hfound.symm.trans hback)
    rw [hfound, hwide]
    refine congrArg Except.ok (Set.ext fun id => ⟨?_, ?_⟩)
    · rintro ⟨x, hx, rfl⟩
      obtain ⟨m, _, hm⟩ := hcovered x hx
      exact ⟨_, hm, rfl⟩
    · rintro ⟨x, hx, rfl⟩
      obtain ⟨m, _, hm⟩ := hcovered' x hx
      exact ⟨_, hm, rfl⟩

end TypeFinder

end TypeDiscovery
