import Mathlib.Data.List.Nodup
import TypeDiscovery.ClassPath.Session
import TypeDiscovery.Distinct
import TypeDiscovery.Proofs.ClassPath.Reading

/-!
# The listing and the index

A class path locates identities by the listing that it gave last. The listing has the first
occurrence of each identity among the classes of the roots (`ofClasses_entries`), and the index has
the same (`ofClasses_index`). Only a listing that succeeds replaces the index (`after_keeps`); until
there is one, an identity is located by a listing made for it.
-/

namespace TypeDiscovery.ClassPath

/-- The first occurrence of each identity. -/
def firstClasses (classes : List (Identity × Location)) : List (Identity × Location) :=
  Distinct.firsts (fun a b => a.1 == b.1) classes

def entryOf (found : Identity × Location) : Entry := ⟨found.1, some found.2⟩

theorem entryOf_injective : Function.Injective entryOf := by
  rintro ⟨id, l⟩ ⟨id', l'⟩ h
  simpa [entryOf] using h

/-! ## Snapshots -/

/-- Recording keeps the entries and the index at the classes that are first among those recorded. -/
theorem foldl_record (found kept : List (Identity × Location))
    (index : Std.ExtTreeMap Identity Location)
    (agree : ∀ id l, index[id]? = some l ↔ (id, l) ∈ kept) :
    (found.foldl record (kept.map entryOf, index)).1.reverse =
        (Distinct.firsts.go (fun a b => a.1 == b.1) kept found).map entryOf ∧
      ∀ id l, (found.foldl record (kept.map entryOf, index)).2[id]? = some l ↔
        (id, l) ∈ Distinct.firsts.go (fun a b => a.1 == b.1) kept found := by
  induction found generalizing kept index with
  | nil =>
    refine ⟨by simp [Distinct.firsts.go], fun id l => ?_⟩
    rw [Distinct.firsts.go, List.mem_reverse]
    exact agree id l
  | cons first rest ih =>
    obtain ⟨id, l⟩ := first
    have hknown : index.contains id = kept.any (·.1 == id) := by
      rw [Std.ExtTreeMap.contains_eq_isSome_getElem?, Bool.eq_iff_iff, Option.isSome_iff_exists,
        List.any_eq_true]
      constructor
      · rintro ⟨l, hl⟩
        exact ⟨(id, l), (agree id l).mp hl, beq_self_eq_true id⟩
      · rintro ⟨⟨id', l⟩, hmem, hsame⟩
        obtain rfl : id' = id := beq_iff_eq.mp hsame
        exact ⟨l, (agree id' l).mpr hmem⟩
    rw [List.foldl_cons, Distinct.firsts.go, record, hknown]
    split
    · exact ih kept index agree
    · rename_i hnew
      refine ih ((id, l) :: kept) (index.insert id l) fun id' l' => ?_
      rw [Std.ExtTreeMap.getElem?_insert, List.mem_cons, Prod.mk.injEq]
      by_cases hid : id = id'
      · subst hid
        have hfresh : (id, l') ∉ kept := by
          intro hmem
          exact hnew (List.any_eq_true.mpr ⟨_, hmem, beq_self_eq_true id⟩)
        simp [hfresh, eq_comm]
      · simp [Std.LawfulEqCmp.compare_eq_iff_eq, hid, Ne.symm hid, agree]

theorem ofClasses_entries (found : List (Identity × Location)) :
    (Snapshot.ofClasses found).entries = (firstClasses found).map entryOf :=
  (foldl_record found [] ∅ (by simp)).1

theorem ofClasses_index (found : List (Identity × Location)) (id : Identity) (l : Location) :
    (Snapshot.ofClasses found).index[id]? = some l ↔ (id, l) ∈ firstClasses found :=
  (foldl_record found [] ∅ (by simp)).2 id l

/-- A listing of classes as it ought to be: each identity once, where it first occurs, in their
order. -/
structure FirstOf (found : List (Identity × Location)) (listed : List Entry) : Prop where
  inOrder : listed = (firstClasses found).map entryOf
  once : (listed.map (·.identity)).Nodup
  first : ∀ id l, ⟨id, some l⟩ ∈ listed ↔
    ∃ earlier later, found = earlier ++ (id, l) :: later ∧ ∀ x ∈ earlier, x.1 ≠ id

theorem firstOf_firstClasses (found : List (Identity × Location)) :
    FirstOf found ((firstClasses found).map entryOf) := by
  refine ⟨rfl, ?_, ?_⟩
  · have hnodup := Distinct.nodup_firsts Prod.fst found
    rwa [List.map_map]
  · intro id l
    have hentry : (⟨id, some l⟩ : Entry) = entryOf (id, l) := rfl
    rw [hentry, List.mem_map_of_injective entryOf_injective]
    exact Distinct.mem_firsts_iff Prod.fst

/-! ## Listing -/

section Library

variable [ArchiveLibrary]

/-- The classes of the roots in search order. -/
def classes (c : ClassPath) (fs : FileSystem) : List (Identity × Location) :=
  (c.roots fs).1.flatMap (classesOf fs)

theorem roots_of_listableRoots {c : ClassPath} {fs : FileSystem} {roots : List Root}
    (h : (c.listableRoots fs).1 = .ok roots) : roots = (c.roots fs).1 := by
  simp only [listableRoots] at h
  split at h
  · cases h
  · exact (Except.ok.inj h).symm

theorem artifacts_answer (c : ClassPath) (fs : FileSystem) :
    (c.artifacts fs).1.answer = (c.listableRoots fs).1.map fun roots =>
      (firstClasses (roots.flatMap (classesOf fs))).map entryOf := by
  unfold artifacts
  cases hanswer : (c.listableRoots fs).1 with
  | error reason => simp only [hanswer, Except.map]
  | ok roots => simp only [hanswer, Except.map, ofClasses_entries]

/-- A listing either fails, or has the classes of the roots and is what identities are located
by. -/
theorem artifacts_cases (c : ClassPath) (fs : FileSystem) :
    (∃ reason, (c.artifacts fs).1.answer = .error reason ∧
      (c.artifacts fs).2 = (c.roots fs).2.1) ∨
    ((c.artifacts fs).1.answer = .ok ((firstClasses (c.classes fs)).map entryOf) ∧
      (c.artifacts fs).2 =
        { (c.roots fs).2.1 with snapshot := some (Snapshot.ofClasses (c.classes fs)) }) := by
  rw [artifacts_answer]
  cases hanswer : (c.listableRoots fs).1 with
  | error reason =>
    refine .inl ⟨reason, rfl, ?_⟩
    simp only [artifacts, hanswer]
    rfl
  | ok roots =>
    obtain rfl := roots_of_listableRoots hanswer
    refine .inr ⟨rfl, ?_⟩
    simp only [artifacts, hanswer]
    rfl

theorem locate_of_snapshot {c : ClassPath} {s : Snapshot} (h : c.snapshot = some s)
    (fs : FileSystem) (id : Identity) : c.locate fs id = (s.index[id]?, c, []) := by
  simp [locate, located?, h]

/-- Without an index, an identity is located by a listing made for it. -/
theorem locate_of_none {c : ClassPath} (h : c.snapshot = none) (fs : FileSystem) (id : Identity) :
    (c.locate fs id).1 = (c.artifacts fs).2.located? id ∧
      (c.locate fs id).2.1 = (c.artifacts fs).2 := by
  rcases artifacts_cases c fs with ⟨reason, hanswer, hnext⟩ | ⟨hanswer, _⟩
  · simp [locate, h, hanswer, located?, hnext, roots]
  · simp [locate, h, hanswer]

/-! ## Sessions -/

namespace Session

/-- No action of some is answered with a listing of the classes. -/
def Quiet (s : Session) (actions : List Action) : Prop :=
  ∀ listed, Answer.artifacts (.ok listed) ∉ s.answers actions

/-- Listing fails whenever one of some actions lists the classes or locates an identity. -/
def Unlisted : Session → List Action → Prop
  | _, [] => True
  | s, a :: rest =>
    ((a = .artifacts ∨ ∃ id, a = .locate id) →
      ∃ reason, (s.classPath.artifacts s.files).1.answer = .error reason) ∧
    Unlisted (s.perform a).2 rest

/-- Identities are located by a listing: where it has them, and nowhere if it has not. -/
def LocatesBy (s : Session) (listed : List Entry) : Prop :=
  ∀ id l, (s.perform (.locate id)).1 = .located (some l) ↔ ⟨id, some l⟩ ∈ listed

/-- What answers from the index of a listing locates by it. -/
theorem locatesBy_of_located {s : Session} {c : ClassPath} {found : List (Identity × Location)}
    (h : c.snapshot = some (Snapshot.ofClasses found))
    (hlocate : ∀ id, (s.perform (.locate id)).1 = .located (c.located? id)) :
    s.LocatesBy ((firstClasses found).map entryOf) := by
  intro id l
  have hentry : (⟨id, some l⟩ : Entry) = entryOf (id, l) := rfl
  rw [hentry, List.mem_map_of_injective entryOf_injective, ← ofClasses_index, hlocate, located?, h]
  simp

theorem locatesBy_of_snapshot {s : Session} {found : List (Identity × Location)}
    (h : s.classPath.snapshot = some (Snapshot.ofClasses found)) :
    s.LocatesBy ((firstClasses found).map entryOf) := by
  apply locatesBy_of_located h
  intro id
  rw [perform, locate_of_snapshot h, located?, h]
  rfl

/-- One action that lists no classes leaves the index as it is. -/
theorem perform_keeps {s : Session} {kept : Snapshot} (h : s.classPath.snapshot = some kept)
    (a : Action) (quiet : ∀ listed, (s.perform a).1 ≠ .artifacts (.ok listed)) :
    (s.perform a).2.classPath.snapshot = some kept := by
  cases a with
  | change next => exact h
  | artifacts =>
    rcases artifacts_cases s.classPath s.files with ⟨_, _, hnext⟩ | ⟨hanswer, _⟩
    · exact (congrArg (·.snapshot) hnext).trans h
    · exact absurd (congrArg Answer.artifacts hanswer) (quiet _)
  | resources => exact h
  | locate id =>
    have hlocate := locate_of_snapshot h s.files id
    simpa [perform, hlocate] using h
  | fetch location => cases location <;> exact h

theorem after_keeps {s : Session} {kept : Snapshot} (h : s.classPath.snapshot = some kept)
    {actions : List Action} (quiet : s.Quiet actions) :
    (s.after actions).classPath.snapshot = some kept := by
  induction actions generalizing s with
  | nil => exact h
  | cons a rest ih =>
    have hone : ∀ listed, (s.perform a).1 ≠ .artifacts (.ok listed) := by
      intro listed heq
      exact quiet listed (heq ▸ List.mem_cons_self)
    have hrest : (s.perform a).2.Quiet rest :=
      fun listed hmem => quiet listed (List.mem_cons_of_mem _ hmem)
    exact ih (perform_keeps h a hone) hrest

/-- Without a listing there is no index. -/
theorem snapshot_of_unlisted {s : Session} (h : s.classPath.snapshot = none)
    {actions : List Action} (unlisted : s.Unlisted actions) :
    (s.after actions).classPath.snapshot = none := by
  induction actions generalizing s with
  | nil => exact h
  | cons a rest ih =>
    obtain ⟨hone, hrest⟩ := unlisted
    refine ih ?_ hrest
    have failing : (∃ reason, (s.classPath.artifacts s.files).1.answer = .error reason) →
        (s.classPath.artifacts s.files).2.snapshot = none := by
      rintro ⟨reason, hreason⟩
      rcases artifacts_cases s.classPath s.files with ⟨_, _, hnext⟩ | ⟨hanswer, _⟩
      · exact (congrArg (·.snapshot) hnext).trans h
      · rw [hanswer] at hreason
        cases hreason
    cases a with
    | change next => exact h
    | artifacts => exact failing (hone (.inl rfl))
    | resources => exact h
    | locate id =>
      have hlocate := (locate_of_none h s.files id).2
      show (s.classPath.locate s.files id).2.1.snapshot = none
      rw [hlocate]
      exact failing (hone (.inr ⟨id, rfl⟩))
    | fetch location => cases location <;> exact h

end Session

end Library

open Session

/-- In whatever way a session has come about: a listing that succeeds has the first occurrence of
each identity among the classes of the roots, and until the next one that succeeds, every identity
is located by it. So it is with the listing made for an identity that is located before there is
any; if that one fails, nothing is located and nothing is kept. -/
theorem locates_as_listed [ArchiveLibrary] (name : String) (entries : List String)
    (start : FileSystem) (before : List Action) :
    let s := (begin name entries start).after before
    (∀ listed, (s.classPath.artifacts s.files).1.answer = .ok listed →
      FirstOf (s.classPath.classes s.files) listed ∧
      (∀ between, (s.perform .artifacts).2.Quiet between →
        ((s.perform .artifacts).2.after between).LocatesBy listed) ∧
      ((begin name entries start).Unlisted before → s.LocatesBy listed ∧
        ∀ id between, (s.perform (.locate id)).2.Quiet between →
          ((s.perform (.locate id)).2.after between).LocatesBy listed)) ∧
    (∀ reason, (s.classPath.artifacts s.files).1.answer = .error reason →
      (begin name entries start).Unlisted before →
        ∀ id, (s.perform (.locate id)).1 = .located none ∧
          (s.perform (.locate id)).2.classPath.snapshot = none) := by
  intro s
  have hfresh : (begin name entries start).Unlisted before → ∀ id,
      (s.perform (.locate id)).1 = .located ((s.classPath.artifacts s.files).2.located? id) ∧
        (s.perform (.locate id)).2.classPath = (s.classPath.artifacts s.files).2 := by
    intro unlisted id
    have hnone : s.classPath.snapshot = none := snapshot_of_unlisted rfl unlisted
    obtain ⟨hlocated, hnext⟩ := locate_of_none hnone s.files id
    exact ⟨congrArg Answer.located hlocated, hnext⟩
  rcases artifacts_cases s.classPath s.files with ⟨reason, hfails, hnext⟩ | ⟨hlists, hnext⟩
  · constructor
    · intro listed h
      rw [hfails] at h
      cases h
    · intro _ _ unlisted id
      have hnone : (s.classPath.artifacts s.files).2.snapshot = none :=
        (congrArg (·.snapshot) hnext).trans (snapshot_of_unlisted rfl unlisted)
      obtain ⟨hlocated, hlast⟩ := hfresh unlisted id
      rw [hlocated, hlast, located?, hnone]
      exact ⟨rfl, rfl⟩
  · have hsnapshot := congrArg (·.snapshot) hnext
    constructor
    · intro listed h
      obtain rfl : (firstClasses (s.classPath.classes s.files)).map entryOf = listed :=
        Except.ok.inj (hlists.symm.trans h)
      refine ⟨firstOf_firstClasses _, ?_, ?_⟩
      · intro between quiet
        exact locatesBy_of_snapshot (after_keeps hsnapshot quiet)
      · intro unlisted
        constructor
        · exact locatesBy_of_located hsnapshot fun id => (hfresh unlisted id).1
        · intro id between quiet
          have hkept : (s.perform (.locate id)).2.classPath.snapshot =
              some (Snapshot.ofClasses (s.classPath.classes s.files)) := by
            rw [(hfresh unlisted id).2, hsnapshot]
          exact locatesBy_of_snapshot (after_keeps hkept quiet)
    · intro reason h
      rw [hlists] at h
      cases h

/-- A directory that holds one class. -/
def loft : FileSystem :=
  ⟨[([], .directory), (["work"], .directory), (["work", "d"], .directory),
    (["work", "d", "A.class"], .file [] 1)]⟩

/-- The place of the directory is taken by a file that is no archive. -/
def takenLoft : FileSystem :=
  ⟨[([], .directory), (["work"], .directory), (["work", "d"], .file [] 1)]⟩

open FileSystem in
theorem artifacts_loft :
    ((begin "loft" ["d"] loft).classPath.artifacts loft).1.answer =
      .ok [⟨⟨"A"⟩, some (.file ⟨"d/A.class"⟩)⟩] ∧
    ((begin "loft" ["d"] loft).classPath.artifacts loft).2 =
      { (begin "loft" ["d"] loft).classPath with
        snapshot := some (Snapshot.ofClasses [(⟨"A"⟩, .file ⟨"d/A.class"⟩)]) } := by
  have atWork : loft.item? ["work"] = some .directory := rfl
  have atD : loft.item? ["work", "d"] = some .directory := rfl
  have hfind : loft.find ⟨"d"⟩ = .ok (["work", "d"], .directory) := by
    simp [find, stepsOf, piecesOf, piecesOf.ofSegment, Text.segments, placeOf, walk,
      workingDirectory, linkLimit, bind, Except.bind, pure, Except.pure, atWork, atD]
  have hbelow : loft.filesBelow ⟨"d"⟩ = [("A.class", ⟨"d/A.class"⟩)] := by
    have hplace : loft.canonical? ⟨"d"⟩ = some ["work", "d"] := by simp [canonical?, hfind]
    have hjoin : Path.join ⟨"d"⟩ "A.class" = ⟨"d/A.class"⟩ := rfl
    rw [filesBelow, hplace]
    simp only [loft, List.filterMap_cons, List.filterMap_nil]
    simp [hjoin]
  have hroots : (begin "loft" ["d"] loft).classPath.roots loft =
      ([.directory ⟨"d"⟩], (begin "loft" ["d"] loft).classPath, []) := by
    simp [begin, new, withName, roots, expand, isDirectory, hfind]
  have hclasses : (begin "loft" ["d"] loft).classPath.classes loft =
      [(⟨"A"⟩, .file ⟨"d/A.class"⟩)] := by
    rw [classes, hroots]
    simp only [List.flatMap_cons, List.flatMap_nil, classesOf, hbelow]
    rfl
  rcases artifacts_cases (begin "loft" ["d"] loft).classPath loft with ⟨_, h, _⟩ | ⟨h, hnext⟩
  · simp [artifacts, listableRoots, hroots, skipped?] at h
  · rw [h, hnext, hclasses, hroots]
    exact ⟨rfl, rfl⟩

open FileSystem in
theorem artifacts_takenLoft {c : ClassPath} (hname : c.name = "loft")
    (hentries : c.entries = [⟨"d"⟩]) (hmemo : c.memo = []) :
    (c.artifacts takenLoft).1.answer = .error "no readable entry on loft" := by
  have atWork : takenLoft.item? ["work"] = some .directory := rfl
  have atD : takenLoft.item? ["work", "d"] = some (.file [] 1) := rfl
  have hfind : takenLoft.find ⟨"d"⟩ = .ok (["work", "d"], .file [] 1) := by
    simp [find, stepsOf, piecesOf, piecesOf.ofSegment, Text.segments, placeOf, walk,
      workingDirectory, linkLimit, bind, Except.bind, pure, Except.pure, atWork, atD]
  have hlisting : listing takenLoft [] ⟨"d"⟩ =
      (.error Zip.ZipError.noDirectory.message, [], []) := by
    have hbytes : listBytes ⟨"d"⟩ ⟨0, 1⟩ [] = .error Zip.ZipError.noDirectory.message := rfl
    simp [listing, stampOf, hfind, Memo.get?, relist, readArchive_file hfind, hbytes]
  have hroots : (c.roots takenLoft).1 =
      [.broken ⟨"d"⟩ Zip.ZipError.noDirectory.message] := by
    simp [roots, hentries, hmemo, expand, isDirectory, isFile, hfind, hlisting]
  have hmessage : toString "no readable entry on " ++ toString "loft" =
      "no readable entry on loft" := rfl
  rw [artifacts_answer]
  simpa [listableRoots, hroots, skipped?, Except.map, hname] using hmessage

/-- Identities are located as before when the directory has gone and listing fails. -/
theorem locates_as_listed_loft :
    (begin "loft" ["d"] loft).answers
        [.artifacts, .change takenLoft, .artifacts, .locate ⟨"A"⟩] =
      [.artifacts (.ok [⟨⟨"A"⟩, some (.file ⟨"d/A.class"⟩)⟩]), .changed,
        .artifacts (.error "no readable entry on loft"),
        .located (some (.file ⟨"d/A.class"⟩))] := by
  obtain ⟨hlisted, hnext⟩ := artifacts_loft
  obtain ⟨_, hlocates, _⟩ := (locates_as_listed "loft" ["d"] loft []).1 _ hlisted
  have hfails := artifacts_takenLoft (c := ((begin "loft" ["d"] loft).classPath.artifacts loft).2)
    (by rw [hnext]; rfl) (by rw [hnext]; rfl) (by rw [hnext]; rfl)
  have hlocated := (hlocates [.change takenLoft, .artifacts] ?_ ⟨"A"⟩ (.file ⟨"d/A.class"⟩)).mpr
    List.mem_cons_self
  · simp only [answers, List.cons.injEq, and_true]
    exact ⟨congrArg Answer.artifacts hlisted, rfl, congrArg Answer.artifacts hfails, hlocated⟩
  · intro listed hmem
    simp only [answers, List.mem_cons, List.not_mem_nil, or_false] at hmem
    rcases hmem with h | h
    · cases h
    · have herror := (Answer.artifacts.inj h).trans hfails
      cases herror

end TypeDiscovery.ClassPath
