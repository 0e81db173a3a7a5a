import TypeDiscovery.ClassPath.View
import TypeDiscovery.Proofs.ClassPath.Memo
import TypeDiscovery.Proofs.Query.Namespaces

/-!
# New class paths over a file system that stands still

While the file system does not change, it makes no difference to opening a location that the class
path has listed its archives before, so that a new class path and the scope that it is (`view`) open
alike. That scope locates what it lists (`locatesListed_view`). Listing fails only where there is
nothing but archives that cannot be read (`listableRoots_fails_iff`).
-/

namespace TypeDiscovery

open FileSystem

/-- Whether a root is an archive that could not be read. -/
def Root.isBroken : Root → Bool
  | .broken .. => true
  | _ => false

theorem Location.Twin.refl (l : Location) : Location.Twin l l := by
  cases l with
  | file path => exact .file (.refl path)
  | archive path member => exact .archive (.refl path) member
  | memory key => exact .memory key

namespace ClassPath

variable {fs : FileSystem}

/-- A file system that stands still shows no file with two contents. -/
theorem steady_standing (fs : FileSystem) (p : Path) : Steady [fs] p := by
  intro fs₁ h₁ fs₂ h₂ place₁ place₂ bytes₁ bytes₂ modified hp hq _
  obtain rfl := List.mem_singleton.mp h₁
  obtain rfl := List.mem_singleton.mp h₂
  rw [hp] at hq
  cases hq
  rfl

/-! ## When listing fails -/

/-- The roots that can be searched: directories and the archives that were read. -/
def readable (roots : List Root) : List Root := roots.filter fun r => !r.isBroken

theorem readable_append (roots more : List Root) :
    readable (roots ++ more) = readable roots ++ readable more := List.filter_append _ _

theorem mem_readable {roots : List Root} {r : Root} :
    r ∈ readable roots ↔ r ∈ roots ∧ r.isBroken = false := by
  rw [readable, List.mem_filter, Bool.not_eq_true']

theorem length_skipped (c : ClassPath) (roots : List Root) :
    (roots.filterMap c.skipped?).length = roots.countP Root.isBroken := by
  rw [List.length_filterMap_eq_countP]
  refine List.countP_congr fun r _ => ?_
  cases r <;> simp [skipped?, Root.isBroken]

section Library

variable [ArchiveLibrary]

theorem listableRoots_fails_iff (c : ClassPath) (fs : FileSystem) :
    (∃ reason, (c.listableRoots fs).1 = .error reason) ↔
      (c.roots fs).1 ≠ [] ∧ ∀ r ∈ (c.roots fs).1, r.isBroken = true := by
  have hall : ((c.roots fs).1.filterMap c.skipped?).length = (c.roots fs).1.length ↔
      ∀ r ∈ (c.roots fs).1, r.isBroken = true := by
    rw [length_skipped, List.countP_eq_length]
  have hempty : ((c.roots fs).1.filterMap c.skipped?).length = (c.roots fs).1.length →
      (((c.roots fs).1.filterMap c.skipped?).isEmpty = false ↔ (c.roots fs).1 ≠ []) := by
    intro hlength
    rw [← List.length_pos_iff, ← hlength, List.length_pos_iff, List.isEmpty_eq_false_iff]
  simp only [listableRoots]
  split
  · rename_i hfails
    simp only [Bool.and_eq_true, Bool.not_eq_true', beq_iff_eq] at hfails
    exact ⟨fun _ => ⟨(hempty hfails.2).mp hfails.1, hall.mp hfails.2⟩, fun _ => ⟨_, rfl⟩⟩
  · rename_i hlists
    constructor
    · rintro ⟨reason, h⟩
      cases h
    · rintro ⟨hne, hbroken⟩
      refine absurd ?_ hlists
      have hlength := hall.mpr hbroken
      simp only [Bool.and_eq_true, Bool.not_eq_true', beq_iff_eq]
      exact ⟨(hempty hlength).mpr hne, hlength⟩

theorem artifacts_fails_iff (c : ClassPath) (fs : FileSystem) :
    (∃ reason, (c.artifacts fs).1.answer = .error reason) ↔
      (c.roots fs).1 ≠ [] ∧ ∀ r ∈ (c.roots fs).1, r.isBroken = true := by
  rw [← listableRoots_fails_iff, artifacts_answer]
  cases (c.listableRoots fs).1 <;> simp [Except.map]

theorem resources_fails_iff (c : ClassPath) (fs : FileSystem) :
    (∃ reason, (c.resources fs).1.answer = .error reason) ↔
      (c.roots fs).1 ≠ [] ∧ ∀ r ∈ (c.roots fs).1, r.isBroken = true := by
  rw [← listableRoots_fails_iff]
  show (∃ reason, (c.listableRoots fs).1.map (·.flatMap (resourcesOf fs)) = .error reason) ↔ _
  cases (c.listableRoots fs).1 <;> simp [Except.map]

theorem listableRoots_of_readable {c : ClassPath} {fs : FileSystem}
    (h : readable (c.roots fs).1 ≠ []) : (c.listableRoots fs).1 = .ok (c.roots fs).1 := by
  cases hroots : (c.listableRoots fs).1 with
  | error reason =>
    obtain ⟨r, hr⟩ := List.exists_mem_of_ne_nil _ h
    obtain ⟨hmem, hread⟩ := mem_readable.mp hr
    have hbroken := ((listableRoots_fails_iff c fs).mp ⟨reason, hroots⟩).2 r hmem
    rw [hread] at hbroken
    cases hbroken
  | ok roots => rw [roots_of_listableRoots hroots]

theorem listableRoots_singleton {c : ClassPath} {fs : FileSystem} {r : Root}
    (h : (c.roots fs).1 = [r]) (hr : r.isBroken = false) : (c.listableRoots fs).1 = .ok [r] := by
  rw [← h]
  refine listableRoots_of_readable (List.ne_nil_of_mem (a := r) (mem_readable.mpr ⟨?_, hr⟩))
  rw [h]
  exact List.mem_singleton_self r

theorem artifacts_of_listableRoots {c : ClassPath} {roots : List Root}
    (h : (c.listableRoots fs).1 = .ok roots) :
    (c.artifacts fs).1.answer =
      .ok ((firstClasses (roots.flatMap (classesOf fs))).map entryOf) := by
  rw [artifacts_answer, h]
  rfl

theorem resources_of_listableRoots {c : ClassPath} {roots : List Root}
    (h : (c.listableRoots fs).1 = .ok roots) :
    (c.resources fs).1.answer = .ok (roots.flatMap (resourcesOf fs)) := by
  show (c.listableRoots fs).1.map _ = _
  rw [h]
  rfl

/-- Where the classes can be listed, the roots can. -/
theorem listableRoots_of_artifacts {c : ClassPath} {listed : List Entry}
    (h : (c.artifacts fs).1.answer = .ok listed) :
    (c.listableRoots fs).1 = .ok (c.roots fs).1 := by
  rw [artifacts_answer] at h
  cases hroots : (c.listableRoots fs).1 with
  | error reason =>
    rw [hroots] at h
    cases h
  | ok roots => rw [roots_of_listableRoots hroots]

/-! ## Opening -/

variable (name : String) (entries : List String)

theorem follows_new (fs : FileSystem) : Follows name entries [fs] (Session.begin name entries fs) :=
  ⟨rfl, rfl, recorded_nil, List.mem_singleton_self fs⟩

/-- After it has listed its classes, a class path opens each location like a new one. -/
theorem fetch_listed (fs : FileSystem) (l : Location) :
    ((((new entries).withName name).artifacts fs).2.fetch fs l).1 =
      (((new entries).withName name).fetch fs l).1 := by
  have hlisted := (follows_new name entries fs).perform .artifacts (by rintro next ⟨⟩)
  exact hlisted.fetch_twin (.refl l) fun p _ _ => steady_standing fs p

/-- So it does after it has listed its resources. -/
theorem fetch_resourcesListed (fs : FileSystem) (l : Location) :
    ((((new entries).withName name).resources fs).2.fetch fs l).1 =
      (((new entries).withName name).fetch fs l).1 := by
  have hlisted := (follows_new name entries fs).perform .resources (by rintro next ⟨⟩)
  exact hlisted.fetch_twin (.refl l) fun p _ _ => steady_standing fs p

/-- What stands behind a location is no matter of the entries. -/
theorem fetch_new (others : List String) (fs : FileSystem) (l : Location) :
    (((new entries).withName name).fetch fs l).1 = (((new others).withName name).fetch fs l).1 := by
  cases l <;> rfl

/-! ## The scope of a new class path -/

theorem locate_view (fs : FileSystem) (id : Identity) :
    (((new entries).withName name).view fs).locate id =
      (((new entries).withName name).locate fs id).1 :=
  (locate_of_none rfl fs id).1.symm

theorem fetch_view (fs : FileSystem) (l : Location) :
    (((new entries).withName name).view fs).fetch l =
      (((new entries).withName name).fetch fs l).1 :=
  fetch_listed name entries fs l

theorem locatesListed_view (fs : FileSystem) :
    (((new entries).withName name).view fs).LocatesListed := by
  intro id l
  generalize hc : (new entries).withName name = c
  have hsnapshot : c.snapshot = none := hc ▸ rfl
  show (c.artifacts fs).2.located? id = some l ↔
    ∃ listed, (c.artifacts fs).1.answer = .ok listed ∧ ⟨id, some l⟩ ∈ listed
  rcases artifacts_cases c fs with ⟨reason, hfails, hnext⟩ | ⟨hlists, hnext⟩
  · have hnone : (c.artifacts fs).2.snapshot = none :=
      (congrArg (·.snapshot) hnext).trans hsnapshot
    simp [located?, hnone, hfails]
  · have hentry : (⟨id, some l⟩ : Entry) = entryOf (id, l) := rfl
    rw [hnext, located?, Option.bind_some, ofClasses_index, hlists,
      ← List.mem_map_of_injective entryOf_injective, ← hentry]
    simp

end Library

/-! ## An archive with one class -/

/-- What the archive of the shelf is opened as. -/
def shelfZip : Zip := ⟨shelfArchive.toArray, [⟨"a/B.class", false, 0, 0x4ad0cf31, 1, 0⟩]⟩

/-- What it is listed as. -/
def shelfListing : ArchiveListing where
  stamp := ⟨shelfArchive.length, 1000000000⟩
  classes := [(⟨"a.B"⟩, "a/B.class")]
  resources := []
  references := []
  archive := shelfZip.toArchive

theorem openBytes_shelfArchive : openBytes shelfArchive =
    .ok (shelfZip.toArchive, [⟨"a/B.class", false⟩], []) := (rfl)

theorem listing_shelfArchive {fs : FileSystem} {p : Path} {place : Place}
    (h : fs.find p = .ok (place, .file shelfArchive 1000000000)) :
    (listing fs [] p).1 = .ok shelfListing := by
  rw [listing_nil (stampOf_file h), readArchive_file h, listBytes, openBytes_shelfArchive]
  rfl

theorem checksum_shelf : (Archive.checksum [0x42]).toNat = 0x4ad0cf31 := by
  rw [Archive.checksum, List.foldl_cons, List.foldl_nil, Archive.updateChecksum_eq]
  decide

theorem packed_shelfZip :
    shelfZip.packed ⟨"a/B.class", false, 0, 0x4ad0cf31, 1, 0⟩ = .ok [0x42] := (rfl)

theorem read_shelfListing : shelfListing.archive.read "a/B.class" = .ok [0x42] :=
  Zip.read_of_content (by decide) packed_shelfZip
    (Zip.content_of_stored packed_shelfZip rfl checksum_shelf)

end ClassPath

end TypeDiscovery
