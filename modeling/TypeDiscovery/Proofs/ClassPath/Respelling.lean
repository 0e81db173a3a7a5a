import Mathlib.Data.List.Forall2
import TypeDiscovery.Proofs.ClassPath.Preorder
import TypeDiscovery.Proofs.ClassPath.Snapshot

/-!
# Listings with paths spelled differently

What a class path answers depends on the spelling of its archives' paths only in how the paths
answered are spelled. Each relation `Twin` is that of answers which differ in no more, and each
function on the way from the bytes of an archive to the listing of a class path takes twins to
twins.
-/

namespace TypeDiscovery

open FileSystem

section Likewise

variable {α β : Type} {R : α → β → Prop} {x : Except String α} {y : Except String β}

/-- The same failure, or answers in a relation. -/
inductive Likewise (R : α → β → Prop) : Except String α → Except String β → Prop where
  | failed (reason : String) : Likewise R (.error reason) (.error reason)
  | answered {a : α} {b : β} (alike : R a b) : Likewise R (.ok a) (.ok b)

theorem Likewise.map {γ δ : Type} {S : γ → δ → Prop} {f : α → γ} {g : β → δ} (h : Likewise R x y)
    (hfg : ∀ a b, R a b → S (f a) (g b)) : Likewise S (x.map f) (y.map g) := by
  cases h with
  | failed reason => exact .failed reason
  | answered alike => exact .answered (hfg _ _ alike)

theorem Likewise.imp {S : α → β → Prop} (h : Likewise R x y)
    (hrs : ∀ a b, y = .ok b → R a b → S a b) : Likewise S x y := by
  cases h with
  | failed reason => exact .failed reason
  | answered alike => exact .answered (hrs _ _ rfl alike)

theorem Likewise.eq_error {reason : String} (h : Likewise R x y) (hy : y = .error reason) :
    x = .error reason := by
  cases h with
  | failed reason => exact congrArg Except.error (Except.error.inj hy)
  | answered alike => cases hy

theorem Likewise.exists_ok {a : α} (h : Likewise R x y) (hx : x = .ok a) :
    ∃ b, y = .ok b ∧ R a b := by
  cases h with
  | failed reason => cases hx
  | answered alike =>
    cases hx
    exact ⟨_, rfl, alike⟩

theorem forall₂_imp_mem {S : α → β → Prop} {xs : List α} {ys : List β}
    (h : List.Forall₂ R xs ys) (hrs : ∀ a b, b ∈ ys → R a b → S a b) : List.Forall₂ S xs ys := by
  induction h with
  | nil => exact .nil
  | cons hab _ ih =>
    apply List.Forall₂.cons
    · exact hrs _ _ List.mem_cons_self hab
    · exact ih fun a b hb => hrs a b (List.mem_cons_of_mem _ hb)

end Likewise

structure ArchiveListing.Twin (l l' : ArchiveListing) : Prop where
  stamp : l.stamp = l'.stamp
  classes : l.classes = l'.classes
  resources : l.resources = l'.resources
  references : List.Forall₂ Path.Twin l.references l'.references
  archive : l.archive = l'.archive

inductive Root.Twin : Root → Root → Prop where
  | directory {p q : Path} (path : Path.Twin p q) : Twin (.directory p) (.directory q)
  | archive {p q : Path} {l l' : ArchiveListing} (path : Path.Twin p q)
    (listing : ArchiveListing.Twin l l') : Twin (.archive p l) (.archive q l')
  | broken {p q : Path} (path : Path.Twin p q) (reason : String) :
    Twin (.broken p reason) (.broken q reason)

inductive Location.Twin : Location → Location → Prop where
  | file {p q : Path} (path : Path.Twin p q) : Twin (.file p) (.file q)
  | archive {p q : Path} (path : Path.Twin p q) (member : String) :
    Twin (.archive p member) (.archive q member)
  | memory (key : String) : Twin (.memory key) (.memory key)

theorem Location.Twin.same {l l' : Location} (h : Twin l l') : l.same l' = true := by
  cases h with
  | file path => exact Path.same_iff.mpr path.components
  | archive path member =>
    rw [Location.same, Bool.and_eq_true]
    exact ⟨Path.same_iff.mpr path.components, beq_self_eq_true member⟩
  | memory key => exact beq_self_eq_true key

/-- The path of a root that is an archive, readable or not. -/
def Root.archivePath? : Root → Option Path
  | .directory _ => none
  | .archive path _ | .broken path _ => some path

namespace ClassPath

variable {fs : FileSystem}

/-! ## Roots -/

/-- A visit of the same paths in other spellings gives the same roots in other spellings, if that
goes for the archives among them. -/
theorem Visit.respell {read read' : Path → Except String ArchiveListing}
    {seen seen' : List (List Path.Component)} {paths paths' : List Path} {roots' : List Root}
    (h : Visit fs fs.key read' seen paths' roots' seen')
    (twins : List.Forall₂ Path.Twin paths paths')
    (reads : ∀ r ∈ roots', ∀ p p', r.archivePath? = some p' → Path.Twin p p' →
      Likewise ArchiveListing.Twin (read p) (read' p')) :
    ∃ roots, Visit fs fs.key read seen paths roots seen' ∧ List.Forall₂ Root.Twin roots roots' := by
  have hkey : ∀ {p p' : Path}, Path.Twin p p' → fs.key p = fs.key p' := by
    intro p p' htwin
    simp only [key, canonical?, Path.find_eq_of_twin htwin, htwin.components]
  have hdir : ∀ {p p' : Path}, Path.Twin p p' → fs.isDirectory p = fs.isDirectory p' := by
    intro p p' htwin
    simp only [isDirectory, Path.find_eq_of_twin htwin]
  have hfile : ∀ {p p' : Path}, Path.Twin p p' → fs.isFile p = fs.isFile p' := by
    intro p p' htwin
    simp only [isFile, Path.find_eq_of_twin htwin]
  induction h generalizing paths with
  | done =>
    cases twins
    exact ⟨[], .done, .nil⟩
  | again known next ih =>
    obtain ⟨p, rest, htwin, hrest, rfl⟩ := List.forall₂_cons_right_iff.mp twins
    obtain ⟨roots, hvisit, hroots⟩ := ih hrest reads
    exact ⟨roots, .again (hkey htwin ▸ known) hvisit, hroots⟩
  | missing new absent next ih =>
    obtain ⟨p, rest, htwin, hrest, rfl⟩ := List.forall₂_cons_right_iff.mp twins
    obtain ⟨roots, hvisit, hroots⟩ := ih hrest reads
    rw [← hkey htwin] at new hvisit
    rw [Present, ← hdir htwin, ← hfile htwin] at absent
    exact ⟨roots, .missing new absent hvisit, hroots⟩
  | directory new found next ih =>
    obtain ⟨p, rest, htwin, hrest, rfl⟩ := List.forall₂_cons_right_iff.mp twins
    obtain ⟨roots, hvisit, hroots⟩ := ih hrest fun r hr => reads r (List.mem_cons_of_mem _ hr)
    rw [← hkey htwin] at new hvisit
    rw [← hdir htwin] at found
    exact ⟨_, .directory new found hvisit, .cons (.directory htwin) hroots⟩
  | broken new found unread next ih =>
    obtain ⟨p, rest, htwin, hrest, rfl⟩ := List.forall₂_cons_right_iff.mp twins
    have hread := reads _ List.mem_cons_self p _ rfl htwin
    obtain ⟨roots, hvisit, hroots⟩ := ih hrest fun r hr => reads r (List.mem_cons_of_mem _ hr)
    rw [← hkey htwin] at new hvisit
    rw [← hfile htwin] at found
    rw [unread] at hread
    generalize hp : read p = answer at hread
    cases hread
    exact ⟨_, .broken new found hp hvisit, .cons (.broken htwin _) hroots⟩
  | @archive seen middle seen' path rest within later l new found listed inner next ihInner
      ihNext =>
    obtain ⟨p, rest, htwin, hrest, rfl⟩ := List.forall₂_cons_right_iff.mp twins
    have hread := reads _ List.mem_cons_self p _ rfl htwin
    rw [listed] at hread
    generalize hp : read p = answer at hread
    cases hread with
    | answered alike =>
      obtain ⟨roots, hvisit, hroots⟩ := ihInner alike.references fun r hr =>
        reads r (List.mem_cons_of_mem _ (List.mem_append_left _ hr))
      obtain ⟨roots₂, hvisit₂, hroots₂⟩ := ihNext hrest fun r hr =>
        reads r (List.mem_cons_of_mem _ (List.mem_append_right _ hr))
      rw [← hkey htwin] at new hvisit
      rw [← hfile htwin] at found
      exact ⟨_, .archive new found hp hvisit hvisit₂,
        .cons (.archive htwin alike) (List.rel_append hroots hroots₂)⟩

/-! ## Classes and resources -/

theorem filesBelow_twin {p q : Path} (h : Path.Twin p q) :
    List.Forall₂ (fun a b => a.1 = b.1 ∧ Path.Twin a.2 b.2) (fs.filesBelow p)
      (fs.filesBelow q) := by
  have hplace : fs.canonical? p = fs.canonical? q := by
    simp only [canonical?, Path.find_eq_of_twin h]
  rw [filesBelow, filesBelow, hplace]
  cases fs.canonical? q with
  | none => exact .nil
  | some place =>
    simp only [List.forall₂_map_left_iff, List.forall₂_map_right_iff, List.forall₂_same]
    intro names _
    exact ⟨trivial, Path.twin_join h.components _⟩

theorem classesOf_twin {r r' : Root} (h : Root.Twin r r') :
    List.Forall₂ (fun a b => a.1 = b.1 ∧ Location.Twin a.2 b.2) (classesOf fs r)
      (classesOf fs r') := by
  cases h with
  | directory path =>
    refine List.rel_filterMap ?_ (filesBelow_twin path)
    rintro ⟨relative, p⟩ ⟨relative', q⟩ ⟨rfl, htwin⟩
    simp only
    cases classIdentity? relative with
    | none => exact .none
    | some id => exact .some ⟨rfl, .file htwin⟩
  | archive path listing =>
    rw [classesOf, classesOf, listing.classes, List.forall₂_map_left_iff,
      List.forall₂_map_right_iff, List.forall₂_same]
    intro found _
    exact ⟨rfl, .archive path _⟩
  | broken path reason => exact .nil

theorem resourcesOf_twin {r r' : Root} (h : Root.Twin r r') :
    List.Forall₂ (fun a b => a.name = b.name ∧ Location.Twin a.location b.location)
      (resourcesOf fs r) (resourcesOf fs r') := by
  cases h with
  | directory path =>
    refine List.rel_filterMap ?_ (filesBelow_twin path)
    rintro ⟨relative, p⟩ ⟨relative', q⟩ ⟨rfl, htwin⟩
    simp only
    split
    · exact .none
    · exact .some ⟨rfl, .file htwin⟩
  | archive path listing =>
    rw [resourcesOf, resourcesOf, listing.resources, List.forall₂_map_left_iff,
      List.forall₂_map_right_iff, List.forall₂_same]
    intro found _
    exact ⟨rfl, .archive path _⟩
  | broken path reason => exact .nil

theorem firstClasses_twin {found found' : List (Identity × Location)}
    (h : List.Forall₂ (fun a b => a.1 = b.1 ∧ Location.Twin a.2 b.2) found found') :
    List.Forall₂ (fun a b => a.1 = b.1 ∧ Location.Twin a.2 b.2) (firstClasses found)
      (firstClasses found') := by
  induction h with
  | nil => exact .nil
  | @cons a b rest rest' hab _ ih =>
    rw [firstClasses, firstClasses, Distinct.firsts_cons Prod.fst, Distinct.firsts_cons Prod.fst]
    refine .cons hab (List.rel_filter ?_ ih)
    intro x y hxy
    simp only [hab.1, hxy.1]

/-- What is listed in an archive is of an archive's path. -/
theorem archivePath?_of_classesOf {r : Root} {id : Identity} {p : Path} {member : String}
    (h : (id, Location.archive p member) ∈ classesOf fs r) : r.archivePath? = some p := by
  cases r with
  | directory dir =>
    obtain ⟨⟨relative, path⟩, _, hfound⟩ := List.mem_filterMap.mp h
    obtain ⟨id', _, hpair⟩ := Option.map_eq_some_iff.mp hfound
    cases hpair
  | archive path l =>
    obtain ⟨found, _, hpair⟩ := List.mem_map.mp h
    cases hpair
    rfl
  | broken path reason => cases h

theorem archivePath?_of_resourcesOf {r : Root} {name : String} {p : Path} {member : String}
    (h : ⟨name, Location.archive p member⟩ ∈ resourcesOf fs r) : r.archivePath? = some p := by
  cases r with
  | directory dir =>
    obtain ⟨⟨relative, path⟩, _, hfound⟩ := List.mem_filterMap.mp h
    simp only at hfound
    split at hfound <;> cases hfound
  | archive path l =>
    obtain ⟨found, _, hpair⟩ := List.mem_map.mp h
    cases hpair
    rfl
  | broken path reason => cases h

/-! ## Archives -/

section Library

variable [ArchiveLibrary]

/-- Of its path, an archive's listing takes only the directory into account. -/
theorem listBytes_twin {p q : Path} (h : p.components = q.components) (stamp : Stamp)
    (bytes : List UInt8) :
    Likewise ArchiveListing.Twin (listBytes p stamp bytes) (listBytes q stamp bytes) := by
  unfold listBytes
  cases openBytes bytes with
  | error e => exact .failed e
  | ok opened =>
    refine .answered ⟨rfl, rfl, rfl, ?_, rfl⟩
    rw [List.forall₂_map_left_iff, List.forall₂_map_right_iff, List.forall₂_same]
    intro reference _
    exact Path.twin_resolve h _

theorem stamp_of_listBytes {p : Path} {stamp : Stamp} {bytes : List UInt8} {l : ArchiveListing}
    (h : listBytes p stamp bytes = .ok l) : l.stamp = stamp := by
  unfold listBytes at h
  cases hopen : openBytes bytes with
  | error e => simp [hopen, bind, Except.bind] at h
  | ok opened =>
    simp only [hopen, bind, Except.bind, pure, Except.pure, Except.ok.injEq] at h
    rw [← h]

/-! ## Answers -/

theorem listableRoots_twin {c c' : ClassPath} (hname : c.name = c'.name)
    (h : List.Forall₂ Root.Twin (c.roots fs).1 (c'.roots fs).1) :
    Likewise (List.Forall₂ Root.Twin) (c.listableRoots fs).1 (c'.listableRoots fs).1 := by
  have hskipped : ((c.roots fs).1.filterMap c.skipped?).length =
      ((c'.roots fs).1.filterMap c'.skipped?).length := by
    refine List.Forall₂.length_eq (R := fun _ _ => True) (List.rel_filterMap ?_ h)
    intro r r' htwin
    cases htwin with
    | directory | archive => exact .none
    | broken => exact .some trivial
  have hempty : ((c.roots fs).1.filterMap c.skipped?).isEmpty =
      ((c'.roots fs).1.filterMap c'.skipped?).isEmpty := by
    rw [Bool.eq_iff_iff, List.isEmpty_iff_length_eq_zero, List.isEmpty_iff_length_eq_zero, hskipped]
  simp only [listableRoots, hskipped, hempty, h.length_eq, hname]
  split
  · exact .failed _
  · exact .answered h

/-- The entries have the same identities, and their locations are spellings of one. -/
def Entry.Twin (e e' : Entry) : Prop :=
  e.identity = e'.identity ∧ Option.Rel Location.Twin e.location e'.location

theorem artifacts_twin {c c' : ClassPath} (hname : c.name = c'.name)
    (h : List.Forall₂ Root.Twin (c.roots fs).1 (c'.roots fs).1) :
    Likewise (List.Forall₂ Entry.Twin) (c.artifacts fs).1.answer (c'.artifacts fs).1.answer := by
  rw [artifacts_answer, artifacts_answer]
  refine (listableRoots_twin hname h).map fun roots roots' htwins => ?_
  have hclasses := List.rel_flatMap htwins fun _ _ => @classesOf_twin fs _ _
  rw [List.forall₂_map_left_iff, List.forall₂_map_right_iff]
  exact (firstClasses_twin hclasses).imp fun _ _ hab => ⟨hab.1, .some hab.2⟩

theorem resources_twin {c c' : ClassPath} (hname : c.name = c'.name)
    (h : List.Forall₂ Root.Twin (c.roots fs).1 (c'.roots fs).1) :
    Likewise (List.Forall₂ fun r r' => r.name = r'.name ∧ Location.Twin r.location r'.location)
      (c.resources fs).1.answer (c'.resources fs).1.answer :=
  (listableRoots_twin hname h).map fun _ _ htwins =>
    List.rel_flatMap htwins fun _ _ => @resourcesOf_twin fs _ _

end Library

end ClassPath

end TypeDiscovery
