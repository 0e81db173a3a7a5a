import TypeDiscovery.Proofs.ClassPath.Standing
import TypeDiscovery.Proofs.Path.Below

/-!
# Entries that count for nothing

A path that leads nowhere and an archive that cannot be read have no classes, no resources and no
references. Put among the entries of a class path that can be listed, they leave its listings as
they are, unless one that leads nowhere takes the key of a readable root: a visit with such paths
put in has the same readable roots (`Visit.inserted`). That case does occur, since a path that leads
nowhere counts as visited under its own components (`artifacts_shelf_slash`).
-/

namespace TypeDiscovery

open FileSystem

/-- A list with elements of a kind put in anywhere. -/
inductive Inserted {α : Type} (P : α → Prop) : List α → List α → Prop where
  | done : Inserted P [] []
  | kept {x : α} {xs ys : List α} (next : Inserted P xs ys) : Inserted P (x :: xs) (x :: ys)
  | added {x : α} {xs ys : List α} (put : P x) (next : Inserted P xs ys) : Inserted P xs (x :: ys)

section Inserted

variable {α : Type} {P : α → Prop} {x : α} {xs ys : List α}

theorem Inserted.refl (xs : List α) : Inserted P xs xs := by
  induction xs with
  | nil => exact .done
  | cons x rest ih => exact .kept ih

theorem Inserted.map {β : Type} {Q : β → Prop} {f : α → β} (h : Inserted P xs ys)
    (hf : ∀ x, P x → Q (f x)) : Inserted Q (xs.map f) (ys.map f) := by
  induction h with
  | done => exact .done
  | kept _ ih => exact .kept ih
  | added put _ ih => exact .added (hf _ put) ih

theorem Inserted.of_nil (h : Inserted P [] ys) : ∀ y ∈ ys, P y := by
  generalize hxs : ([] : List α) = xs at h
  induction h with
  | done => exact fun _ hy => absurd hy List.not_mem_nil
  | kept => cases hxs
  | added put _ ih =>
    intro y hy
    rcases List.mem_cons.mp hy with rfl | hrest
    · exact put
    · exact ih hxs y hrest

/-- Some elements are put in before the first one, the others after it. -/
theorem Inserted.split (h : Inserted P (x :: xs) ys) :
    ∃ before after, ys = before ++ x :: after ∧ (∀ y ∈ before, P y) ∧ Inserted P xs after := by
  generalize hxs : x :: xs = all at h
  induction h with
  | done => cases hxs
  | kept next =>
    cases hxs
    exact ⟨[], _, rfl, fun _ hy => absurd hy List.not_mem_nil, next⟩
  | @added y all ys put _ ih =>
    obtain ⟨before, after, rfl, hbefore, hafter⟩ := ih hxs
    exact ⟨y :: before, after, rfl, List.forall_mem_cons.mpr ⟨put, hbefore⟩, hafter⟩

end Inserted

namespace ClassPath

variable {fs : FileSystem}

/-- A path that adds nothing to a visit but a broken root: nothing is there, or an archive that
cannot be read. -/
def Inert (fs : FileSystem) (read : Path → Except String ArchiveListing) (p : Path) : Prop :=
  ¬fs.Present p ∨ (fs.isFile p = true ∧ ∃ reason, read p = .error reason)

/-! ## Visits with inert paths put in -/

section Visit

variable {κ : Type} {key : Path → κ} {read : Path → Except String ArchiveListing} {X : κ → Prop}
  {seen seen' more : List κ} {path : Path} {paths paths' rest : List Path} {roots : List Root}
  {P : Path → Prop}

/-- More has been visited, but only under some keys. -/
structure Grown (X : κ → Prop) (seen more : List κ) : Prop where
  subset : seen ⊆ more
  fresh : ∀ k ∈ more, k ∈ seen ∨ X k

theorem Grown.refl (seen : List κ) : Grown X seen seen := ⟨fun _ hk => hk, fun _ hk => .inl hk⟩

theorem Grown.cons (h : Grown X seen more) (k : κ) : Grown X (k :: seen) (k :: more) := by
  refine ⟨List.cons_subset_cons k h.subset, fun j hj => ?_⟩
  rcases List.mem_cons.mp hj with rfl | hmore
  · exact .inl List.mem_cons_self
  · exact (h.fresh j hmore).imp_left (List.mem_cons_of_mem k)

/-- What has been visited already may be visited again. -/
theorem Grown.known (h : Grown X seen more) {k : κ} (hk : k ∈ more) : Grown X (k :: seen) more :=
  ⟨List.cons_subset.mpr ⟨hk, h.subset⟩,
    fun j hj => (h.fresh j hj).imp_left (List.mem_cons_of_mem k)⟩

theorem Grown.put (h : Grown X seen more) {k : κ} (hk : X k) : Grown X seen (k :: more) := by
  refine ⟨fun j hj => List.mem_cons_of_mem k (h.subset hj), fun j hj => ?_⟩
  rcases List.mem_cons.mp hj with rfl | hmore
  · exact .inr hk
  · exact h.fresh j hmore

theorem Grown.not_mem (h : Grown X seen more) {k : κ} (new : k ∉ seen) (hk : ¬X k) : k ∉ more :=
  fun hmore => (h.fresh k hmore).elim new hk

/-- A visit, with more visited before it and after it, that has the given readable roots. -/
def VisitsAs (fs : FileSystem) (key : Path → κ) (read : Path → Except String ArchiveListing)
    (X : κ → Prop) (more : List κ) (paths : List Path) (roots : List Root)
    (seen' : List κ) : Prop :=
  ∃ roots' more', Visit fs key read more paths roots' more' ∧ Grown X seen' more' ∧
    readable roots' = readable roots

/-- Inert paths at the start of a visit add broken roots and nothing else. -/
theorem Visit.skip {added : List Path} (inert : ∀ p ∈ added, Inert fs read p ∧ X (key p))
    (grown : Grown X seen more)
    (next : ∀ more', Grown X seen more' → VisitsAs fs key read X more' rest roots seen') :
    VisitsAs fs key read X more (added ++ rest) roots seen' := by
  induction added generalizing more with
  | nil => exact next more grown
  | cons p added ih =>
    obtain ⟨⟨hp, hkey⟩, hinert⟩ := List.forall_mem_cons.mp inert
    by_cases hknown : key p ∈ more
    · obtain ⟨roots', more', hvisit, hrest⟩ := ih hinert grown
      exact ⟨roots', more', .again hknown hvisit, hrest⟩
    · obtain ⟨roots', more', hvisit, hgrown, hroots⟩ := ih hinert (grown.put hkey)
      rcases hp with absent | ⟨found, reason, unread⟩
      · exact ⟨roots', more', .missing hknown absent hvisit, hgrown, hroots⟩
      · exact ⟨_, more', .broken hknown found unread hvisit, hgrown, hroots⟩

/-- The paths put in before the first one that is kept are passed over. -/
theorem Visit.pass (inserted : Inserted P (path :: rest) paths')
    (inert : ∀ p, P p → Inert fs read p ∧ X (key p)) (grown : Grown X seen more)
    (next : ∀ rest' more', Inserted P rest rest' → Grown X seen more' →
      VisitsAs fs key read X more' (path :: rest') roots seen') :
    VisitsAs fs key read X more paths' roots seen' := by
  obtain ⟨before, after, rfl, hbefore, hafter⟩ := inserted.split
  exact Visit.skip (fun p hp => inert p (hbefore p hp)) grown
    fun more' hmore => next after more' hafter hmore

/-- A visit with inert paths put in has the same readable roots, if none of these has the key of an
inert path. -/
theorem Visit.inserted (h : Visit fs key read seen paths roots seen')
    (inserted : Inserted P paths paths') (inert : ∀ p, P p → Inert fs read p ∧ X (key p))
    (apart : ∀ r ∈ readable roots, ¬X (key r.path)) (grown : Grown X seen more) :
    VisitsAs fs key read X more paths' roots seen' := by
  induction h generalizing paths' more with
  | @done seen =>
    have hadded := inserted.of_nil
    have hskip : VisitsAs fs key read X more (paths' ++ []) [] seen :=
      Visit.skip (fun p hp => inert p (hadded p hp)) grown
        fun more' hmore => ⟨[], more', .done, hmore, rfl⟩
    rwa [List.append_nil] at hskip
  | again known _ ih =>
    refine Visit.pass inserted inert grown fun rest' more' hrest hmore => ?_
    obtain ⟨roots', last, hvisit, hlast⟩ := ih hrest apart hmore
    exact ⟨roots', last, .again (hmore.subset known) hvisit, hlast⟩
  | @missing seen seen' path rest roots new absent _ ih =>
    refine Visit.pass inserted inert grown fun rest' more' hrest hmore => ?_
    by_cases hknown : key path ∈ more'
    · obtain ⟨roots', last, hvisit, hlast⟩ := ih hrest apart (hmore.known hknown)
      exact ⟨roots', last, .again hknown hvisit, hlast⟩
    · obtain ⟨roots', last, hvisit, hlast⟩ := ih hrest apart (hmore.cons (key path))
      exact ⟨roots', last, .missing hknown absent hvisit, hlast⟩
  | @directory seen seen' path rest roots new found _ ih =>
    refine Visit.pass inserted inert grown fun rest' more' hrest hmore => ?_
    obtain ⟨hpath, hroots⟩ := List.forall_mem_cons.mp apart
    obtain ⟨roots', last, hvisit, hlast, hsame⟩ := ih hrest hroots (hmore.cons (key path))
    refine ⟨_, last, .directory (hmore.not_mem new hpath) found hvisit, hlast, ?_⟩
    exact congrArg (Root.directory path :: ·) hsame
  | @broken seen seen' path rest roots reason new found unread _ ih =>
    refine Visit.pass inserted inert grown fun rest' more' hrest hmore => ?_
    by_cases hknown : key path ∈ more'
    · obtain ⟨roots', last, hvisit, hlast⟩ := ih hrest apart (hmore.known hknown)
      exact ⟨roots', last, .again hknown hvisit, hlast⟩
    · obtain ⟨roots', last, hvisit, hlast⟩ := ih hrest apart (hmore.cons (key path))
      exact ⟨_, last, .broken hknown found unread hvisit, hlast⟩
  | @archive seen middle seen' path rest within roots l new found listed _ _ ihInner ihNext =>
    refine Visit.pass inserted inert grown fun rest' more' hrest hmore => ?_
    have hpath : ¬X (key path) := apart (.archive path l) List.mem_cons_self
    have hroots : ∀ r ∈ readable within ++ readable roots, ¬X (key r.path) := by
      rw [← readable_append]
      exact fun r hr => apart r (List.mem_cons_of_mem _ hr)
    obtain ⟨within', middle', hinner, hmiddle, hwithin⟩ := ihInner (.refl l.references)
      (fun r hr => hroots r (List.mem_append_left _ hr)) (hmore.cons (key path))
    obtain ⟨roots', last, hnext, hlast, hsame⟩ := ihNext hrest
      (fun r hr => hroots r (List.mem_append_right _ hr)) hmiddle
    refine ⟨_, last, .archive (hmore.not_mem new hpath) found listed hinner hnext, hlast, ?_⟩
    have hboth : readable (within' ++ roots') = readable (within ++ roots) := by
      rw [readable_append, readable_append, hwithin, hsame]
    exact congrArg (Root.archive path l :: ·) hboth

/-- A readable root is what it is said to be. -/
theorem Visit.found_of_mem (h : Visit fs key read seen paths roots seen') {r : Root}
    (hr : r ∈ readable roots) :
    fs.isDirectory r.path = true ∨ (fs.isFile r.path = true ∧ ∃ l, read r.path = .ok l) := by
  induction h with
  | done => cases hr
  | again _ _ ih | missing _ _ _ ih | broken _ _ _ _ ih => exact ih hr
  | directory _ found _ ih =>
    rcases List.mem_cons.mp hr with rfl | hrest
    · exact .inl found
    · exact ih hrest
  | @archive _ _ _ _ _ within roots _ _ found listed _ _ ihInner ihNext =>
    rcases List.mem_cons.mp hr with rfl | hrest
    · exact .inr ⟨found, _, listed⟩
    · have hboth : r ∈ readable (within ++ roots) := hrest
      rw [readable_append] at hboth
      exact (List.mem_append.mp hboth).elim ihInner ihNext

end Visit

/-! ## Listing with inert entries put in -/

/-- A path that leads nowhere is not spelled like the straight way to a readable root, as the path
to an archive with a slash added is. -/
def Apart (fs : FileSystem) (roots : List Root) (p : Path) : Prop :=
  fs.canonical? p = none → ∀ r ∈ readable roots, p.components ≠ fs.key r.path

theorem flatMap_readable {α : Type} {f : Root → List α} (roots : List Root)
    (h : ∀ r, r.isBroken = true → f r = []) : (readable roots).flatMap f = roots.flatMap f := by
  induction roots with
  | nil => rfl
  | cons r rest ih =>
    cases hr : r.isBroken with
    | false => simpa [readable, hr] using ih
    | true => simpa [readable, hr, h r hr] using ih

section Library

variable [ArchiveLibrary]

/-- What is at a place can be read as an archive, whatever path leads there, or cannot. -/
theorem listing_ok_congr {p q : Path} {l : ArchiveListing} (hp : fs.isFile p = true)
    (hfind : fs.find p = fs.find q) (h : (listing fs [] q).1 = .ok l) :
    ∃ l', (listing fs [] p).1 = .ok l' := by
  obtain ⟨place, bytes, modified, hfile⟩ : ∃ place bytes modified,
      fs.find p = .ok (place, .file bytes modified) := by
    unfold isFile at hp
    split at hp
    · exact ⟨_, _, _, ‹_›⟩
    · cases hp
  rw [listing_nil (stampOf_file (hfind ▸ hfile)), readArchive_file (hfind ▸ hfile), listBytes] at h
  rw [listing_nil (stampOf_file hfile), readArchive_file hfile, listBytes]
  cases hopen : openBytes bytes with
  | error e =>
    rw [hopen] at h
    cases h
  | ok opened => exact ⟨_, rfl⟩

variable (name : String) (fs : FileSystem)

/-- An entry of a class path that adds nothing to its listings. -/
def Idle (entries : List String) (entry : String) : Prop :=
  Inert fs (((new entries).withName name).reading fs) ⟨entry⟩ ∧
    Apart fs (((new entries).withName name).roots fs).1 ⟨entry⟩

/-- An inert path has the key of no readable root. -/
theorem key_ne_of_inert {entries : List String} {p : Path} {r : Root}
    (inert : Inert fs (((new entries).withName name).reading fs) p)
    (apart : Apart fs (((new entries).withName name).roots fs).1 p)
    (hr : r ∈ readable (((new entries).withName name).roots fs).1) : fs.key p ≠ fs.key r.path := by
  obtain ⟨_, hvisit⟩ := roots_visit ((new entries).withName name) fs
  obtain ⟨place, hplace⟩ := canonical?_of_present (hvisit.met_of_mem (mem_readable.mp hr).1).2
  cases hp : fs.canonical? p with
  | none =>
    have hne := apart hp r hr
    simpa only [key, hp] using hne
  | some there =>
    intro hsame
    simp only [key, hp, hplace] at hsame
    obtain rfl : there = place := straight_inj hsame
    have hfind : fs.find p = fs.find r.path := find_congr hp hplace
    rcases inert with absent | ⟨found, reason, unread⟩
    · have hpresent := (hvisit.met_of_mem (mem_readable.mp hr).1).2
      exact absent (present_congr (hplace.trans hp.symm) hpresent)
    · rcases hvisit.found_of_mem hr with hdir | ⟨_, l, hread⟩
      · have hfile : fs.isFile r.path = true := by
          rwa [isFile, ← hfind]
        simp [isDirectory_eq_false_of_isFile hfile] at hdir
      · obtain ⟨l', hl'⟩ := listing_ok_congr found hfind hread
        have hbroken : (listing fs [] p).1 = .error reason := unread
        rw [hl'] at hbroken
        cases hbroken

theorem readable_inserted {entries entries' : List String}
    (inserted : Inserted (Idle name fs entries) entries entries') :
    readable (((new entries').withName name).roots fs).1 =
      readable (((new entries).withName name).roots fs).1 := by
  obtain ⟨seen, hvisit⟩ := roots_visit ((new entries).withName name) fs
  obtain ⟨_, hvisit'⟩ := roots_visit ((new entries').withName name) fs
  let P (p : Path) : Prop := Inert fs (((new entries).withName name).reading fs) p ∧
    Apart fs (((new entries).withName name).roots fs).1 p
  have hpaths : Inserted P ((new entries).withName name).entries
      ((new entries').withName name).entries := inserted.map fun _ idle => idle
  obtain ⟨roots, more, hmore, _, hroots⟩ := hvisit.inserted
    (X := fun k => ∃ p, P p ∧ fs.key p = k) hpaths (fun p hp => ⟨hp.1, p, hp, rfl⟩)
    (fun r hr ⟨p, hp, hkey⟩ => key_ne_of_inert name fs hp.1 hp.2 hr hkey) (.refl [])
  obtain ⟨rfl, _⟩ := hmore.unique hvisit'
  exact hroots

/-- Class paths with the same readable roots, of which there are some, list the same. -/
theorem artifacts_of_readable {c : ClassPath} {fs : FileSystem}
    (h : readable (c.roots fs).1 ≠ []) : (c.artifacts fs).1.answer =
      .ok ((firstClasses ((readable (c.roots fs).1).flatMap (classesOf fs))).map entryOf) := by
  rw [artifacts_of_listableRoots (listableRoots_of_readable h), flatMap_readable]
  intro r hr
  cases r <;> first | rfl | cases hr

theorem resources_of_readable {c : ClassPath} {fs : FileSystem}
    (h : readable (c.roots fs).1 ≠ []) :
    (c.resources fs).1.answer = .ok ((readable (c.roots fs).1).flatMap (resourcesOf fs)) := by
  rw [resources_of_listableRoots (listableRoots_of_readable h), flatMap_readable]
  intro r hr
  cases r <;> first | rfl | cases hr

/-- What is located follows from what is listed. -/
theorem locate_congr {entries entries' : List String}
    (h : (((new entries').withName name).artifacts fs).1.answer =
      (((new entries).withName name).artifacts fs).1.answer) (id : Identity) :
    (((new entries').withName name).locate fs id).1 =
      (((new entries).withName name).locate fs id).1 := by
  rw [← locate_view, ← locate_view]
  refine Option.ext fun l => ?_
  have hiff := locatesListed_view name entries fs id l
  have hiff' := locatesListed_view name entries' fs id l
  have hview : (((new entries').withName name).view fs).artifacts.answer =
      (((new entries).withName name).view fs).artifacts.answer := h
  rw [hiff, hiff', hview]

/-- Let a class path have a directory or a readable archive. Entries put in anywhere that lead
nowhere or to archives that cannot be read change neither its classes, nor its resources, nor where
an identity is located, if none that leads nowhere is spelled like the straight way to a readable
root. And a listing of any class path fails if and only if it has roots, all of which are archives
that cannot be read. -/
theorem listings_of_inserted :
    (∀ entries entries' : List String,
      readable (((new entries).withName name).roots fs).1 ≠ [] →
      Inserted (Idle name fs entries) entries entries' →
      (((new entries').withName name).artifacts fs).1.answer =
          (((new entries).withName name).artifacts fs).1.answer ∧
        (((new entries').withName name).resources fs).1.answer =
          (((new entries).withName name).resources fs).1.answer ∧
        ∀ id, (((new entries').withName name).locate fs id).1 =
          (((new entries).withName name).locate fs id).1) ∧
    ∀ c : ClassPath,
      ((∃ reason, (c.artifacts fs).1.answer = .error reason) ↔
        (c.roots fs).1 ≠ [] ∧ ∀ r ∈ (c.roots fs).1, r.isBroken = true) ∧
      ((∃ reason, (c.resources fs).1.answer = .error reason) ↔
        (c.roots fs).1 ≠ [] ∧ ∀ r ∈ (c.roots fs).1, r.isBroken = true) := by
  refine ⟨fun entries entries' hreadable inserted => ?_,
    fun c => ⟨artifacts_fails_iff c fs, resources_fails_iff c fs⟩⟩
  have hsame := readable_inserted name fs inserted
  have hreadable' : readable (((new entries').withName name).roots fs).1 ≠ [] := hsame ▸ hreadable
  have hartifacts : (((new entries').withName name).artifacts fs).1.answer =
      (((new entries).withName name).artifacts fs).1.answer := by
    rw [artifacts_of_readable hreadable, artifacts_of_readable hreadable', hsame]
  refine ⟨hartifacts, ?_, locate_congr name fs hartifacts⟩
  rw [resources_of_readable hreadable, resources_of_readable hreadable', hsame]

end Library

/-! ## An archive among entries that are inert -/

/-- A class path with the archive of the shelf as its one root lists its class. -/
theorem artifacts_shelfArchive {c : ClassPath} {fs : FileSystem} {p : Path}
    (h : (c.roots fs).1 = [.archive p shelfListing]) :
    readable (c.roots fs).1 ≠ [] ∧
      (c.artifacts fs).1.answer = .ok [⟨⟨"a.B"⟩, some (.archive p "a/B.class")⟩] := by
  have hreadable : readable (c.roots fs).1 ≠ [] := by
    rw [h]
    exact List.cons_ne_nil _ _
  refine ⟨hreadable, ?_⟩
  rw [artifacts_of_readable hreadable, h]
  rfl

/-- The archive of the shelf beside a file that is none. -/
def spareShelf : FileSystem :=
  ⟨[([], .directory), (["work"], .directory), (["work", "a.jar"], .file shelfArchive 1000000000),
    (["work", "b.jar"], .file [] 1)]⟩

theorem find_spareShelf :
    spareShelf.find ⟨"a.jar"⟩ = .ok (["work", "a.jar"], .file shelfArchive 1000000000) ∧
    spareShelf.find ⟨"b.jar"⟩ = .ok (["work", "b.jar"], .file [] 1) ∧
    spareShelf.find ⟨"gone"⟩ = .error .notFound := by
  refine ⟨find_name (by decide) rfl rfl nofun, find_name (by decide) rfl rfl nofun, ?_⟩
  have atWork : spareShelf.item? ["work"] = some .directory := rfl
  have atGone : spareShelf.item? ["work", "gone"] = none := rfl
  simp [find, stepsOf, piecesOf, piecesOf.ofSegment, Text.segments, placeOf, walk,
    workingDirectory, bind, Except.bind, atWork, atGone]

theorem roots_spareShelf : (((new ["a.jar"]).withName "shelf").roots spareShelf).1 =
    [.archive ⟨"a.jar"⟩ shelfListing] := by
  obtain ⟨hfind, _, _⟩ := find_spareShelf
  have hlisted := listing_shelfArchive hfind
  show (expand spareShelf ⟨[], [], [], []⟩ [⟨"a.jar"⟩]).roots.reverse = _
  simp [expand, isDirectory, isFile, hfind, hlisted, shelfListing]

/-- Around an archive, a missing entry and a file that is no archive change nothing. -/
theorem listings_of_inserted_shelf :
    readable (((new ["a.jar"]).withName "shelf").roots spareShelf).1 ≠ [] ∧
    Inserted (Idle "shelf" spareShelf ["a.jar"]) ["a.jar"] ["gone", "b.jar", "a.jar", "gone"] ∧
    (((new ["gone", "b.jar", "a.jar", "gone"]).withName "shelf").artifacts spareShelf).1.answer =
      .ok [⟨⟨"a.B"⟩, some (.archive ⟨"a.jar"⟩ "a/B.class")⟩] := by
  obtain ⟨ha, hb, hgone⟩ := find_spareShelf
  obtain ⟨hreadable, hlisted⟩ := artifacts_shelfArchive roots_spareShelf
  have gone : Idle "shelf" spareShelf ["a.jar"] "gone" := by
    refine ⟨.inl ?_, fun _ r hr => ?_⟩
    · simp [Present, isDirectory, isFile, hgone]
    · rw [roots_spareShelf] at hr
      obtain rfl := List.mem_singleton.mp hr
      simp only [key, canonical?, Root.path, ha]
      decide
  have spare : Idle "shelf" spareShelf ["a.jar"] "b.jar" := by
    refine ⟨.inr ⟨by simp [isFile, hb], Zip.ZipError.noDirectory.message, ?_⟩,
      fun hnone => ?_⟩
    · show (listing spareShelf [] ⟨"b.jar"⟩).1 = _
      rw [listing_nil (stampOf_file hb), readArchive_file hb]
      rfl
    · simp [canonical?, hb] at hnone
  have inserted : Inserted (Idle "shelf" spareShelf ["a.jar"]) ["a.jar"]
      ["gone", "b.jar", "a.jar", "gone"] :=
    .added gone (.added spare (.kept (.added gone .done)))
  refine ⟨hreadable, inserted, ?_⟩
  rw [← hlisted]
  exact ((listings_of_inserted "shelf" spareShelf).1 _ _ hreadable inserted).1

/-- A slash after the path to an archive leads nowhere. Put before the path itself, it takes the key
of the archive, whose class is not listed any more. -/
theorem artifacts_shelf_slash :
    let c := (new ["/tmp/shelf/a.jar"]).withName "classpath"
    let c' := (new ["/tmp/shelf/a.jar/", "/tmp/shelf/a.jar"]).withName "classpath"
    readable (c.roots shelf).1 ≠ [] ∧
    Inserted (fun entry => Inert shelf (c.reading shelf) ⟨entry⟩) ["/tmp/shelf/a.jar"]
      ["/tmp/shelf/a.jar/", "/tmp/shelf/a.jar"] ∧
    (c.artifacts shelf).1.answer =
      .ok [⟨⟨"a.B"⟩, some (.archive ⟨"/tmp/shelf/a.jar"⟩ "a/B.class")⟩] ∧
    (c'.artifacts shelf).1.answer = .ok [] := by
  intro c c'
  obtain ⟨hfile, hslash⟩ := find_shelf
  have hlisted := listing_shelfArchive hfile
  have hroots : (c.roots shelf).1 = [.archive ⟨"/tmp/shelf/a.jar"⟩ shelfListing] := by
    show (expand shelf ⟨[], [], [], []⟩ [⟨"/tmp/shelf/a.jar"⟩]).roots.reverse = _
    simp [expand, isDirectory, isFile, hfile, hlisted, shelfListing]
  obtain ⟨hreadable, hclasses⟩ := artifacts_shelfArchive hroots
  refine ⟨hreadable, .added (.inl ?_) (.kept .done), hclasses, ?_⟩
  · simp [Present, isDirectory, isFile, hslash]
  · have hlistable : (c'.listableRoots shelf).1 = .ok [] := by
      simp [listableRoots, c', roots_shelf_slash]
    rw [artifacts_of_listableRoots hlistable]
    rfl

end ClassPath

end TypeDiscovery
