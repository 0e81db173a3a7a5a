import TypeDiscovery.Proofs.ClassPath.Respelling

/-!
# The memo does not show

A class path remembers the listings of archives under the stamps that the archives had. If no
archive shows different contents under one stamp while a session lasts, then what the class path
answers is what a new one would answer at that moment (`answers_as_new`). The invariant is that
every remembered listing was made of what the archive was at some moment of the session
(`Recorded`).
-/

namespace TypeDiscovery.ClassPath

open FileSystem

variable {fs : FileSystem} {M : List FileSystem} {memo : Memo}

section Library

variable [ArchiveLibrary]

/-! ## Recorded listings -/

/-- Each listing remembered was made of the bytes that a path with the same components led to at one
of some moments. -/
def Recorded (M : List FileSystem) (memo : Memo) : Prop :=
  ∀ p l, Memo.get? memo p = some l → ∃ fs ∈ M, ∃ q place bytes modified,
    q.components = p.components ∧ fs.find q = .ok (place, .file bytes modified) ∧
      listBytes q ⟨bytes.length, modified⟩ bytes = .ok l

theorem recorded_nil : Recorded M [] := fun _ _ h => by cases h

/-- Listing an archive records it as it is at the moment. -/
theorem Recorded.listing (h : Recorded M memo) (hfs : fs ∈ M) (path : Path) :
    Recorded M (listing fs memo path).2.1 := by
  have hlists := listing_lists fs memo path
  generalize ClassPath.listing fs memo path = listed at hlists
  cases hlists with
  | absent | remembered | unreadable => exact h
  | @read stamp l stamped miss read =>
    intro p l' hget
    rw [Memo.get?_put] at hget
    split at hget
    · rename_i hsame
      cases hget
      obtain ⟨place, bytes, modified, hfind⟩ := file_of_readArchive read
      rw [stampOf_file hfind] at stamped
      cases stamped
      rw [readArchive_file hfind] at read
      exact ⟨fs, hfs, path, place, bytes, modified, hsame, hfind, read⟩
    · exact h p l' hget

theorem Recorded.expand (hfs : fs ∈ M) (x : Expansion) (stack : List Path)
    (h : Recorded M x.memo) : Recorded M (expand fs x stack).memo := by
  fun_induction ClassPath.expand fs x stack with
  | case1 x => exact h
  | case2 x path rest key known ih => exact ih h
  | case3 x path rest key new found ih => exact ih h
  | case4 x path rest key new notDir found listed events l hl ih => exact ih (h.listing hfs path)
  | case5 x path rest key new notDir found listed events reason hl ih =>
    exact ih (h.listing hfs path)
  | case6 x path rest key new notDir notFile ih => exact ih h

/-! ## Sessions -/

/-- What a session keeps: the name and the entries of its class path, and a memo recorded at some
moments, of which the present one is one. -/
structure Follows (name : String) (entries : List String) (M : List FileSystem) (s : Session) :
    Prop where
  name : s.classPath.name = name
  entries : s.classPath.entries = (new entries).entries
  recorded : Recorded M s.classPath.memo
  present : s.files ∈ M

theorem Follows.perform {name : String} {entries : List String} {s : Session}
    (h : Follows name entries M s) (a : Action) (hchange : ∀ next, a = .change next → next ∈ M) :
    Follows name entries M (s.perform a).2 := by
  have hroots : Recorded M (s.classPath.roots s.files).2.1.memo :=
    Recorded.expand h.present _ _ h.recorded
  have hlisted : Follows name entries M ⟨(s.classPath.artifacts s.files).2, s.files⟩ := by
    rcases artifacts_cases s.classPath s.files with ⟨_, _, hnext⟩ | ⟨_, hnext⟩ <;>
      rw [hnext] <;> exact ⟨h.name, h.entries, hroots, h.present⟩
  cases a with
  | change next => exact ⟨h.name, h.entries, h.recorded, hchange next rfl⟩
  | artifacts => exact hlisted
  | resources => exact ⟨h.name, h.entries, hroots, h.present⟩
  | locate id =>
    show Follows name entries M ⟨(s.classPath.locate s.files id).2.1, s.files⟩
    cases hsnapshot : s.classPath.snapshot with
    | none =>
      rw [(locate_of_none hsnapshot s.files id).2]
      exact hlisted
    | some kept =>
      rw [locate_of_snapshot hsnapshot]
      exact h
  | fetch location =>
    cases location with
    | file path | memory key => exact h
    | archive path member =>
      exact ⟨h.name, h.entries, h.recorded.listing h.present path, h.present⟩

theorem Follows.after {name : String} {entries : List String} {s : Session}
    (h : Follows name entries M s) (actions : List Action)
    (hchange : ∀ next, .change next ∈ actions → next ∈ M) :
    Follows name entries M (s.after actions) := by
  induction actions generalizing s with
  | nil => exact h
  | cons a rest ih =>
    refine ih (h.perform a ?_) fun next hmem => hchange next (List.mem_cons_of_mem _ hmem)
    rintro next rfl
    exact hchange next List.mem_cons_self

/-! ## One listing -/

/-- At some moments, a path leads to the same bytes whenever it leads to files of one size and one
time of change. -/
def Steady (M : List FileSystem) (p : Path) : Prop :=
  ∀ fs₁ ∈ M, ∀ fs₂ ∈ M, ∀ place₁ place₂ bytes₁ bytes₂ modified,
    fs₁.find p = .ok (place₁, .file bytes₁ modified) →
    fs₂.find p = .ok (place₂, .file bytes₂ modified) → bytes₁.length = bytes₂.length →
    bytes₁ = bytes₂

theorem readArchive_twin {p q : Path} (h : Path.Twin p q) (stamp : Stamp) :
    Likewise ArchiveListing.Twin (readArchive fs p stamp) (readArchive fs q stamp) := by
  have hfile : fs.readFile p = fs.readFile q := by
    rw [readFile, readFile, Path.find_eq_of_twin h]
  rw [readArchive, readArchive, hfile]
  cases fs.readFile q with
  | error e => exact .failed _
  | ok bytes => exact listBytes_twin h.components stamp bytes

/-- A remembered listing that holds is what reading the archive would give. -/
theorem Recorded.read_of_hit (h : Recorded M memo) (hfs : fs ∈ M) {p : Path} {l : ArchiveListing}
    (hit : Memo.get? memo p = some l) (stamped : stampOf fs p = .ok l.stamp)
    (steady : Steady M p) :
    ∃ l', readArchive fs p l.stamp = .ok l' ∧ ArchiveListing.Twin l l' := by
  obtain ⟨fs₁, hfs₁, q, place₁, bytes₁, modified₁, hcomponents, hq, hl⟩ := h p l hit
  rw [stamp_of_listBytes hl] at stamped ⊢
  -- a directory has the stamp of no archive, as no archive is empty
  have hsize : bytes₁ ≠ [] := ne_nil_of_listBytes hl
  cases hp : fs.find p with
  | error e => simp [stampOf, hp] at stamped
  | ok found =>
    obtain ⟨place, item⟩ := found
    cases item with
    | directory | link target =>
      simp only [stampOf, hp, Except.ok.injEq, Stamp.mk.injEq] at stamped
      exact absurd (List.length_eq_zero_iff.mp stamped.1.symm) hsize
    | file bytes modified =>
      rw [stampOf_file hp] at stamped
      obtain ⟨hlength, rfl⟩ := Stamp.mk.inj (Except.ok.inj stamped)
      have htwin : Path.Twin q p :=
        Path.twin_of_isFile hcomponents (isFile_of_find hq) (isFile_of_find hp)
      rw [Path.find_eq_of_twin htwin] at hq
      obtain rfl : bytes₁ = bytes := steady fs₁ hfs₁ fs hfs _ _ _ _ _ hq hp hlength.symm
      rw [readArchive_file hp]
      exact (listBytes_twin hcomponents _ _).exists_ok hl

/-- Whatever is remembered, an archive is listed as if nothing were. -/
theorem Recorded.listing_twin (h : Recorded M memo) (hfs : fs ∈ M) {p q : Path}
    (twin : Path.Twin p q) (steady : Steady M q) :
    Likewise ArchiveListing.Twin (ClassPath.listing fs memo p).1
      (ClassPath.listing fs [] q).1 := by
  have hstamp : stampOf fs q = stampOf fs p := by
    rw [stampOf, stampOf, Path.find_eq_of_twin twin]
  have hlists := listing_lists fs memo p
  generalize ClassPath.listing fs memo p = listed at hlists
  cases hlists with
  | @absent e gone =>
    simp only [ClassPath.listing, hstamp, gone]
    exact .failed _
  | @unreadable stamp reason stamped _ read | @read stamp l stamped _ read =>
    rw [listing_nil (hstamp.trans stamped), ← read]
    exact readArchive_twin twin stamp
  | @remembered l stamped hit =>
    have hit' : Memo.get? memo q = some l := by
      rw [← hit]
      simp only [Memo.get?, Path.same, twin.components]
    obtain ⟨l', hread, alike⟩ := h.read_of_hit hfs hit' (hstamp.trans stamped) steady
    rw [listing_nil (hstamp.trans stamped), hread]
    exact .answered alike

/-! ## All listings -/

/-- The paths that a new class path has as archives, readable or not, at one of some moments. -/
def ArchivePath (entries : List String) (M : List FileSystem) (p : Path) : Prop :=
  ∃ fs ∈ M, ∃ r ∈ ((new entries).roots fs).1, r.archivePath? = some p

/-- At some moments, no archive shows different contents under one stamp. -/
def SteadyArchives (entries : List String) (M : List FileSystem) : Prop :=
  ∀ p, ArchivePath entries M p → Steady M p

/-- The roots are those of a new class path. -/
theorem roots_twin {name : String} {entries : List String} {s : Session}
    (h : Follows name entries M s) (steady : SteadyArchives entries M) :
    List.Forall₂ Root.Twin (s.classPath.roots s.files).1 ((new entries).roots s.files).1 := by
  obtain ⟨seen, hvisit⟩ := roots_visit s.classPath s.files
  obtain ⟨seen', hnew⟩ := roots_visit (new entries) s.files
  have hsame : List.Forall₂ Path.Twin s.classPath.entries (new entries).entries := by
    rw [h.entries, List.forall₂_same]
    exact fun p _ => .refl p
  obtain ⟨roots, hrespelled, htwins⟩ := hnew.respell hsame fun r hr p p' hp htwin =>
    h.recorded.listing_twin h.present htwin (steady p' ⟨_, h.present, r, hr, hp⟩)
  obtain ⟨rfl, _⟩ := hrespelled.unique hvisit
  exact htwins

/-- The archives in which a new class path lists classes are among its own. -/
theorem archivePath_of_artifacts {name : String} {entries : List String} (hfs : fs ∈ M)
    {listed : List Entry}
    (h : (((new entries).withName name).artifacts fs).1.answer = .ok listed) {e : Entry}
    (he : e ∈ listed) {p : Path} {member : String} (hl : e.location = some (.archive p member)) :
    ArchivePath entries M p := by
  rcases artifacts_cases ((new entries).withName name) fs with ⟨_, hfails, _⟩ | ⟨hlists, _⟩
  · rw [hfails] at h
    cases h
  · obtain rfl := Except.ok.inj (hlists.symm.trans h)
    obtain ⟨⟨id, l⟩, hfirst, rfl⟩ := List.mem_map.mp he
    cases hl
    obtain ⟨earlier, rest, hclasses, _⟩ := (Distinct.mem_firsts_iff Prod.fst).mp hfirst
    have hmem : (id, Location.archive p member) ∈ ((new entries).withName name).classes fs :=
      hclasses ▸ List.mem_append_right _ List.mem_cons_self
    obtain ⟨r, hr, hclass⟩ := List.mem_flatMap.mp hmem
    exact ⟨fs, hfs, r, hr, archivePath?_of_classesOf hclass⟩

theorem archivePath_of_resources {name : String} {entries : List String} (hfs : fs ∈ M)
    {listed : List Resource}
    (h : (((new entries).withName name).resources fs).1.answer = .ok listed) {r : Resource}
    (hr : r ∈ listed) {p : Path} {member : String} (hl : r.location = .archive p member) :
    ArchivePath entries M p := by
  obtain ⟨resource, location⟩ := r
  obtain rfl : location = .archive p member := hl
  have hanswer : (((new entries).withName name).listableRoots fs).1.map
      (·.flatMap (resourcesOf fs)) = .ok listed := h
  cases hroots : (((new entries).withName name).listableRoots fs).1 with
  | error reason =>
    rw [hroots] at hanswer
    cases hanswer
  | ok roots =>
    rw [hroots] at hanswer
    cases hanswer
    obtain ⟨root, hroot, hresource⟩ := List.mem_flatMap.mp hr
    rw [roots_of_listableRoots hroots] at hroot
    exact ⟨fs, hfs, root, hroot, archivePath?_of_resourcesOf hresource⟩

/-- Opening a location gives the same as on a new class path. -/
theorem Follows.fetch_twin {name : String} {entries : List String} {s : Session}
    (h : Follows name entries M s) {l l' : Location} (twin : Location.Twin l l')
    (steady : ∀ p member, l' = .archive p member → Steady M p) :
    (s.classPath.fetch s.files l).1 = (((new entries).withName name).fetch s.files l').1 := by
  cases twin with
  | @file p q path =>
    have hfile : s.files.readFile p = s.files.readFile q := by
      rw [readFile, readFile, Path.find_eq_of_twin path]
    simp only [fetch, hfile]
  | archive path member =>
    have hlisted := h.recorded.listing_twin h.present path (steady _ _ rfl)
    have hmemo : ((new entries).withName name).memo = [] := rfl
    simp only [fetch, hmemo]
    generalize (ClassPath.listing s.files s.classPath.memo _).1 = mine at hlisted ⊢
    generalize (ClassPath.listing s.files [] _).1 = other at hlisted ⊢
    cases hlisted with
    | failed reason => rfl
    | answered alike => simp only [alike.archive]
  | memory key =>
    simp only [fetch, h.name]
    rfl

/-- Two spellings of a location, the first of which the class path of a session opens like another
class path opens either. -/
structure Session.OpensLike (s : Session) (c : ClassPath) (l l' : Location) : Prop where
  same : l.same l' = true
  opened : (s.classPath.fetch s.files l).1 = (c.fetch s.files l).1
  respelled : (s.classPath.fetch s.files l).1 = (c.fetch s.files l').1

theorem opensLike_of_twin {name : String} {entries : List String} {s : Session}
    (h : Follows name entries M s) (steady : SteadyArchives entries M) {l l' : Location}
    (twin : Location.Twin l l')
    (hpath : ∀ p member, l' = .archive p member → ArchivePath entries M p) :
    s.OpensLike ((new entries).withName name) l l' := by
  have hsteady : ∀ p member, l' = .archive p member → Steady M p :=
    fun p member hl => steady p (hpath p member hl)
  have hnew : Follows name entries M ⟨(new entries).withName name, s.files⟩ :=
    ⟨rfl, rfl, recorded_nil, h.present⟩
  have hopened := h.fetch_twin twin hsteady
  exact ⟨twin.same, hopened.trans (hnew.fetch_twin twin hsteady).symm, hopened⟩

/-- Let no archive show different contents under one stamp while a session lasts. Then at each
moment the class path lists classes and resources like a new class path, and from then on it opens
each location that it listed like a new class path. -/
theorem answers_as_new (name : String) (entries : List String) (start : FileSystem)
    (before later : List Action)
    (steady : SteadyArchives entries
      ((Session.begin name entries start).moments (before ++ later))) :
    let s := (Session.begin name entries start).after before
    let t := (Session.begin name entries start).after (before ++ later)
    let c := (new entries).withName name
    Likewise (List.Forall₂ fun e e' => e.identity = e'.identity ∧
        Option.Rel (t.OpensLike c) e.location e'.location)
      (s.classPath.artifacts s.files).1.answer (c.artifacts s.files).1.answer ∧
    Likewise (List.Forall₂ fun r r' => r.name = r'.name ∧ t.OpensLike c r.location r'.location)
      (s.classPath.resources s.files).1.answer (c.resources s.files).1.answer := by
  intro s t c
  generalize hM : (Session.begin name entries start).moments (before ++ later) = M at steady
  have hstart : Follows name entries M (Session.begin name entries start) :=
    ⟨rfl, rfl, recorded_nil, hM ▸ List.mem_cons_self⟩
  have hchange : ∀ next, Action.change next ∈ before ++ later → next ∈ M := by
    intro next hmem
    rw [← hM]
    exact List.mem_cons_of_mem _ (List.mem_filterMap.mpr ⟨_, hmem, rfl⟩)
  have hs : Follows name entries M s :=
    hstart.after before fun next hmem => hchange next (List.mem_append_left _ hmem)
  have ht : Follows name entries M t := hstart.after (before ++ later) hchange
  have hname : s.classPath.name = c.name := hs.name
  have htwins : List.Forall₂ Root.Twin (s.classPath.roots s.files).1 (c.roots s.files).1 :=
    roots_twin hs steady
  constructor
  · apply (artifacts_twin hname htwins).imp
    intro _ listed hlisted hentries
    apply forall₂_imp_mem hentries
    intro e e' he' hee'
    refine ⟨hee'.1, ?_⟩
    have hpaths : ∀ p member, e'.location = some (.archive p member) → ArchivePath entries M p :=
      fun p member hl => archivePath_of_artifacts hs.present hlisted he' hl
    have hlocations : Option.Rel Location.Twin e.location e'.location := hee'.2
    generalize e.location = location, e'.location = location' at hpaths hlocations ⊢
    cases hlocations with
    | none => exact .none
    | some htwin =>
      apply Option.Rel.some
      apply opensLike_of_twin ht steady htwin
      exact fun p member hl => hpaths p member (congrArg some hl)
  · apply (resources_twin hname htwins).imp
    intro _ listed hlisted hresources
    apply forall₂_imp_mem hresources
    intro r r' hr' hrr'
    refine ⟨hrr'.1, opensLike_of_twin ht steady hrr'.2 ?_⟩
    exact fun p member hl => archivePath_of_resources hs.present hlisted hr' hl

end Library

/-- An archive in place of the directory. -/
def packedLoft : FileSystem :=
  ⟨[([], .directory), (["work"], .directory), (["work", "d"], .file shelfArchive 1000000000)]⟩

/-- Paths are steady if files anywhere that changed at one time are the same. -/
theorem steady_of_items (h : ∀ fs₁ ∈ M, ∀ fs₂ ∈ M, ∀ place₁ place₂ bytes₁ bytes₂ modified,
    (place₁, Item.file bytes₁ modified) ∈ fs₁.items →
    (place₂, Item.file bytes₂ modified) ∈ fs₂.items → bytes₁ = bytes₂) (p : Path) :
    Steady M p := by
  have hmem : ∀ {fs : FileSystem} {place : Place} {item : Item}, fs.find p = .ok (place, item) →
      (place, item) ∈ fs.items := by
    intro fs place item hfind
    obtain ⟨before, later, hitems, _⟩ := List.lookup_eq_some_iff.mp (item?_of_find_eq_ok hfind)
    rw [hitems]
    exact List.mem_append_right _ List.mem_cons_self
  intro fs₁ hfs₁ fs₂ hfs₂ place₁ place₂ bytes₁ bytes₂ modified h₁ h₂ _
  exact h fs₁ hfs₁ fs₂ hfs₂ place₁ place₂ bytes₁ bytes₂ modified (hmem h₁) (hmem h₂)

theorem steadyArchives_loft : SteadyArchives ["d"] [packedLoft, takenLoft] := by
  intro p _
  apply steady_of_items
  intro fs₁ hfs₁ fs₂ hfs₂ place₁ place₂ bytes₁ bytes₂ modified h₁ h₂
  simp only [List.mem_cons, List.not_mem_nil, or_false] at hfs₁ hfs₂
  rcases hfs₁ with rfl | rfl <;> rcases hfs₂ with rfl | rfl <;>
    simp_all [packedLoft, takenLoft]

/-- An archive that was listed and then broken fails as if it had never been listed. -/
theorem answers_as_new_loft :
    let s := (Session.begin "loft" ["d"] packedLoft).after [.artifacts, .change takenLoft]
    SteadyArchives ["d"] [packedLoft, takenLoft] ∧
      (s.classPath.artifacts s.files).1.answer = .error "no readable entry on loft" := by
  intro s
  have hnew : (((new ["d"]).withName "loft").artifacts takenLoft).1.answer =
      .error "no readable entry on loft" := artifacts_takenLoft rfl rfl rfl
  refine ⟨steadyArchives_loft, ?_⟩
  exact (answers_as_new "loft" ["d"] packedLoft [.artifacts, .change takenLoft] []
    steadyArchives_loft).1.eq_error hnew

end TypeDiscovery.ClassPath
