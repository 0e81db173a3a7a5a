import Mathlib.Data.List.Nodup
import TypeDiscovery.Proofs.ClassPath.Reading
import TypeDiscovery.Proofs.Path.Spelling

/-!
# Roots as a depth-first preorder

The roots of a class path are those of a recursion over paths: a path whose place has been visited
counts for nothing, and so does one that leads nowhere; a directory, an archive or a broken archive
is a root; and what an archive refers to is visited right after it. `Visit` is that recursion, for
any notion of what tells paths apart. The class path tells them apart by `FileSystem.key`
(`roots_visit`), which comes to the same as their places unless a path that leads nowhere is spelled
like the straight way to a place.
-/

namespace TypeDiscovery

open FileSystem

def Root.path : Root → Path
  | .directory path | .archive path _ | .broken path _ => path

/-- A directory or a file is at a path. -/
def FileSystem.Present (fs : FileSystem) (path : Path) : Prop :=
  fs.isDirectory path = true ∨ fs.isFile path = true

namespace ClassPath

variable {fs : FileSystem} {memo : Memo}

theorem Memo.get?_put (memo : Memo) (p q : Path) (l : ArchiveListing) :
    Memo.get? (Memo.put memo p l) q =
      if p.components = q.components then some l else Memo.get? memo q := by
  induction memo with
  | nil => by_cases h : p.components = q.components <;> simp [Memo.put, Memo.get?, Path.same, h]
  | cons entry rest ih =>
    obtain ⟨r, kept⟩ := entry
    have hget : ∀ (l : ArchiveListing) (more : Memo), Memo.get? ((r, l) :: more) q =
        if r.components = q.components then some l else Memo.get? more q := by
      intro l more
      by_cases h : r.components = q.components <;> simp [Memo.get?, Path.same, h]
    by_cases hrp : r.components = p.components
    · have hput : Memo.put ((r, kept) :: rest) p l = (r, l) :: rest := by
        simp [Memo.put, Path.same, hrp]
      rw [hput, hget, hget, hrp]
      split <;> rfl
    · have hput : Memo.put ((r, kept) :: rest) p l = (r, kept) :: Memo.put rest p l := by
        simp [Memo.put, Path.same, hrp]
      rw [hput, hget, hget, ih]
      by_cases hrq : r.components = q.components
      · rw [if_pos hrq, if_pos hrq, if_neg]
        exact fun hpq => hrp (hrq.trans hpq.symm)
      · rw [if_neg hrq, if_neg hrq]

section Listing

variable [ArchiveLibrary]

/-- The ways in which an archive is listed. -/
inductive Lists (fs : FileSystem) (memo : Memo) (path : Path) :
    Except String ArchiveListing × Memo × List Event → Prop where
  | absent {e : FileError} (gone : stampOf fs path = .error e) :
    Lists fs memo path (.error e.message, memo, [])
  | remembered {l : ArchiveListing} (stamped : stampOf fs path = .ok l.stamp)
    (hit : Memo.get? memo path = some l) : Lists fs memo path (.ok l, memo, [])
  | unreadable {stamp : Stamp} {reason : String} (stamped : stampOf fs path = .ok stamp)
    (miss : ∀ l, Memo.get? memo path = some l → l.stamp ≠ stamp)
    (read : readArchive fs path stamp = .error reason) :
    Lists fs memo path (.error reason, memo, [])
  | read {stamp : Stamp} {l : ArchiveListing} (stamped : stampOf fs path = .ok stamp)
    (miss : ∀ l, Memo.get? memo path = some l → l.stamp ≠ stamp)
    (read : readArchive fs path stamp = .ok l) :
    Lists fs memo path (.ok l, Memo.put memo path l,
      [.archiveListed path l.classes.length l.resources.length])

theorem listing_lists (fs : FileSystem) (memo : Memo) (path : Path) :
    Lists fs memo path (listing fs memo path) := by
  unfold listing
  cases hs : stampOf fs path with
  | error e => exact .absent hs
  | ok stamp =>
    have unkept : (∀ l, Memo.get? memo path = some l → l.stamp ≠ stamp) →
        Lists fs memo path (relist fs memo path stamp) := by
      intro miss
      unfold relist
      cases hr : readArchive fs path stamp with
      | error reason => exact .unreadable hs miss hr
      | ok l => exact .read hs miss hr
    cases hg : Memo.get? memo path with
    | none => exact unkept (by simp [hg])
    | some l =>
      by_cases hstamp : l.stamp = stamp
      · subst hstamp
        simpa using Lists.remembered hs hg
      · simpa [hstamp] using unkept (by simp [hg, hstamp])

theorem fst_relist (fs : FileSystem) (memo : Memo) (path : Path) (stamp : Stamp) :
    (relist fs memo path stamp).1 = readArchive fs path stamp := by
  unfold relist
  split <;> simp_all

/-- Of a memo, listing an archive takes nothing into account but what is kept for its path. -/
theorem listing_congr {memo' : Memo} {path : Path}
    (h : Memo.get? memo path = Memo.get? memo' path) :
    (listing fs memo path).1 = (listing fs memo' path).1 := by
  unfold listing
  cases stampOf fs path with
  | error e => rfl
  | ok stamp =>
    rw [h]
    cases Memo.get? memo' path with
    | none => simp only [fst_relist]
    | some l =>
      simp only
      split
      · rfl
      · simp only [fst_relist]

theorem listing_nil {p : Path} {stamp : Stamp} (h : stampOf fs p = .ok stamp) :
    (listing fs [] p).1 = readArchive fs p stamp := by
  simp only [listing, h, Memo.get?, List.find?_nil, Option.map_none, fst_relist]

end Listing

/-! ## The recursion -/

/-- Visiting paths in order gives roots: `Visit fs key read seen paths roots seen'` where `key` says
which paths are the same, `read` what listing an archive gives, `seen` what has been visited before,
and `seen'` what has been visited after. -/
inductive Visit {κ : Type} (fs : FileSystem) (key : Path → κ)
    (read : Path → Except String ArchiveListing) :
    List κ → List Path → List Root → List κ → Prop where
  | done {seen : List κ} : Visit fs key read seen [] [] seen
  | again {seen seen' : List κ} {path : Path} {rest : List Path} {roots : List Root}
    (known : key path ∈ seen) (next : Visit fs key read seen rest roots seen') :
    Visit fs key read seen (path :: rest) roots seen'
  | missing {seen seen' : List κ} {path : Path} {rest : List Path} {roots : List Root}
    (new : key path ∉ seen) (absent : ¬fs.Present path)
    (next : Visit fs key read (key path :: seen) rest roots seen') :
    Visit fs key read seen (path :: rest) roots seen'
  | directory {seen seen' : List κ} {path : Path} {rest : List Path} {roots : List Root}
    (new : key path ∉ seen) (found : fs.isDirectory path = true)
    (next : Visit fs key read (key path :: seen) rest roots seen') :
    Visit fs key read seen (path :: rest) (.directory path :: roots) seen'
  | broken {seen seen' : List κ} {path : Path} {rest : List Path} {roots : List Root}
    {reason : String} (new : key path ∉ seen) (found : fs.isFile path = true)
    (unread : read path = .error reason)
    (next : Visit fs key read (key path :: seen) rest roots seen') :
    Visit fs key read seen (path :: rest) (.broken path reason :: roots) seen'
  | archive {seen middle seen' : List κ} {path : Path} {rest : List Path}
    {within roots : List Root} {l : ArchiveListing} (new : key path ∉ seen)
    (found : fs.isFile path = true) (listed : read path = .ok l)
    (inner : Visit fs key read (key path :: seen) l.references within middle)
    (next : Visit fs key read middle rest roots seen') :
    Visit fs key read seen (path :: rest) (.archive path l :: (within ++ roots)) seen'

section Visit

variable {κ : Type} {key : Path → κ} {read : Path → Except String ArchiveListing}
  {seen seen' : List κ} {paths : List Path} {roots : List Root}

/-- A visit of two lists of paths is a visit of the one and then of the other. -/
theorem Visit.split {before after : List Path}
    (h : Visit fs key read seen (before ++ after) roots seen') :
    ∃ first second middle, roots = first ++ second ∧ Visit fs key read seen before first middle ∧
      Visit fs key read middle after second seen' := by
  induction before generalizing seen roots with
  | nil => exact ⟨[], roots, seen, rfl, .done, h⟩
  | cons path rest ih =>
    cases h with
    | again known next =>
      obtain ⟨first, second, middle, rfl, hfirst, hsecond⟩ := ih next
      exact ⟨first, second, middle, rfl, .again known hfirst, hsecond⟩
    | missing new absent next =>
      obtain ⟨first, second, middle, rfl, hfirst, hsecond⟩ := ih next
      exact ⟨first, second, middle, rfl, .missing new absent hfirst, hsecond⟩
    | directory new found next =>
      obtain ⟨first, second, middle, rfl, hfirst, hsecond⟩ := ih next
      exact ⟨_, second, middle, rfl, .directory new found hfirst, hsecond⟩
    | broken new found unread next =>
      obtain ⟨first, second, middle, rfl, hfirst, hsecond⟩ := ih next
      exact ⟨_, second, middle, rfl, .broken new found unread hfirst, hsecond⟩
    | archive new found listed inner next =>
      obtain ⟨first, second, middle, rfl, hfirst, hsecond⟩ := ih next
      exact ⟨_, second, middle, by simp, .archive new found listed inner hfirst, hsecond⟩

theorem isDirectory_eq_false_of_isFile {path : Path} (h : fs.isFile path = true) :
    fs.isDirectory path = false := by
  unfold isFile at h
  unfold isDirectory
  split at h
  · rename_i hfind
    rw [hfind]
  · cases h

/-- There is one way of visiting paths. -/
theorem Visit.unique {roots₂ : List Root} {seen₂ : List κ}
    (h : Visit fs key read seen paths roots seen')
    (h₂ : Visit fs key read seen paths roots₂ seen₂) : roots₂ = roots ∧ seen₂ = seen' := by
  induction h generalizing roots₂ seen₂ with
  | done =>
    cases h₂
    exact ⟨rfl, rfl⟩
  | again known next ih =>
    cases h₂ with
    | again _ next₂ => exact ih next₂
    | missing new | directory new | broken new | archive new => exact absurd known new
  | missing new absent next ih =>
    cases h₂ with
    | again known => exact absurd known new
    | missing _ _ next₂ => exact ih next₂
    | directory _ found => exact absurd (.inl found) absent
    | broken _ found | archive _ found => exact absurd (.inr found) absent
  | directory new found next ih =>
    cases h₂ with
    | again known => exact absurd known new
    | missing _ absent => exact absurd (.inl found) absent
    | directory _ _ next₂ =>
      obtain ⟨rfl, rfl⟩ := ih next₂
      exact ⟨rfl, rfl⟩
    | broken _ found₂ | archive _ found₂ =>
      simp [isDirectory_eq_false_of_isFile found₂] at found
  | broken new found unread next ih =>
    cases h₂ with
    | again known => exact absurd known new
    | missing _ absent => exact absurd (.inr found) absent
    | directory _ found₂ => simp [isDirectory_eq_false_of_isFile found] at found₂
    | broken _ _ unread₂ next₂ =>
      obtain ⟨rfl, rfl⟩ := ih next₂
      rw [unread] at unread₂
      cases unread₂
      exact ⟨rfl, rfl⟩
    | archive _ _ listed₂ =>
      rw [unread] at listed₂
      cases listed₂
  | archive new found listed inner next ihInner ihNext =>
    cases h₂ with
    | again known => exact absurd known new
    | missing _ absent => exact absurd (.inr found) absent
    | directory _ found₂ => simp [isDirectory_eq_false_of_isFile found] at found₂
    | broken _ _ unread₂ =>
      rw [listed] at unread₂
      cases unread₂
    | archive _ _ listed₂ inner₂ next₂ =>
      rw [listed] at listed₂
      cases listed₂
      obtain ⟨rfl, rfl⟩ := ihInner inner₂
      obtain ⟨rfl, rfl⟩ := ihNext next₂
      exact ⟨rfl, rfl⟩

/-! ## What a visit meets -/

theorem Visit.seen_subset (h : Visit fs key read seen paths roots seen') : seen ⊆ seen' := by
  induction h with
  | done => exact fun _ hk => hk
  | again _ _ ih => exact ih
  | missing _ _ _ ih | directory _ _ _ ih | broken _ _ _ _ ih =>
    exact fun _ hk => ih (List.mem_cons_of_mem _ hk)
  | archive _ _ _ _ _ ihInner ihNext =>
    exact fun _ hk => ihNext (ihInner (List.mem_cons_of_mem _ hk))

theorem Visit.key_mem_of_mem (h : Visit fs key read seen paths roots seen') {p : Path}
    (hp : p ∈ paths) : key p ∈ seen' := by
  induction h with
  | done => cases hp
  | again known next ih =>
    rcases List.mem_cons.mp hp with rfl | hrest
    · exact next.seen_subset known
    · exact ih hrest
  | missing _ _ next ih | directory _ _ next ih | broken _ _ _ next ih =>
    rcases List.mem_cons.mp hp with rfl | hrest
    · exact next.seen_subset List.mem_cons_self
    · exact ih hrest
  | archive _ _ _ inner next _ ihNext =>
    rcases List.mem_cons.mp hp with rfl | hrest
    · exact next.seen_subset (inner.seen_subset List.mem_cons_self)
    · exact ihNext hrest

/-- A path that a visit meets: one of those to visit, or one that an archive among the roots refers
to. -/
def Met (paths : List Path) (roots : List Root) (p : Path) : Prop :=
  p ∈ paths ∨ ∃ q l, Root.archive q l ∈ roots ∧ p ∈ l.references

theorem Met.mono {paths' : List Path} {roots' : List Root} {p : Path} (met : Met paths roots p)
    (hpaths : ∀ q ∈ paths, Met paths' roots' q) (hroots : roots ⊆ roots') :
    Met paths' roots' p := by
  rcases met with hp | ⟨q, l, hroot, href⟩
  · exact hpaths p hp
  · exact .inr ⟨q, l, hroots hroot, href⟩

theorem Met.tail {path p : Path} {roots' : List Root} (met : Met paths roots p)
    (hroots : roots ⊆ roots') : Met (path :: paths) roots' p :=
  met.mono (fun _ hq => .inl (List.mem_cons_of_mem _ hq)) hroots

/-- What is met behind an archive is met with it. -/
theorem Met.within {path p : Path} {l : ArchiveListing} {within rest : List Root}
    (met : Met l.references within p) :
    Met (path :: paths) (.archive path l :: (within ++ rest)) p :=
  met.mono (fun _ hq => .inr ⟨path, l, List.mem_cons_self, hq⟩)
    (fun _ hr => List.mem_cons_of_mem _ (List.mem_append_left _ hr))

/-- What a visit meets has been visited when it ends. -/
theorem Visit.key_mem_of_met (h : Visit fs key read seen paths roots seen') {p : Path}
    (met : Met paths roots p) : key p ∈ seen' := by
  rcases met with hp | ⟨q, l, hroot, href⟩
  · exact h.key_mem_of_mem hp
  · induction h with
    | done => cases hroot
    | again _ _ ih | missing _ _ _ ih => exact ih hroot
    | directory _ _ _ ih | broken _ _ _ _ ih =>
      rcases List.mem_cons.mp hroot with heq | hrest
      · cases heq
      · exact ih hrest
    | archive _ _ _ inner next ihInner ihNext =>
      rcases List.mem_cons.mp hroot with heq | hrest
      · cases heq
        exact next.seen_subset (inner.key_mem_of_mem href)
      · rcases List.mem_append.mp hrest with hwithin | hlater
        · exact next.seen_subset (ihInner hwithin)
        · exact ihNext hlater

/-- Roots are met, and something is there. -/
theorem Visit.met_of_mem (h : Visit fs key read seen paths roots seen') {r : Root}
    (hr : r ∈ roots) : Met paths roots r.path ∧ fs.Present r.path := by
  induction h with
  | done => cases hr
  | again _ _ ih | missing _ _ _ ih =>
    obtain ⟨met, hpresent⟩ := ih hr
    exact ⟨met.tail (List.Subset.refl _), hpresent⟩
  | directory _ found _ ih =>
    rcases List.mem_cons.mp hr with rfl | hrest
    · exact ⟨.inl List.mem_cons_self, .inl found⟩
    · obtain ⟨met, hpresent⟩ := ih hrest
      exact ⟨met.tail (List.subset_cons_self _ _), hpresent⟩
  | broken _ found _ _ ih =>
    rcases List.mem_cons.mp hr with rfl | hrest
    · exact ⟨.inl List.mem_cons_self, .inr found⟩
    · obtain ⟨met, hpresent⟩ := ih hrest
      exact ⟨met.tail (List.subset_cons_self _ _), hpresent⟩
  | archive _ found _ _ _ ihInner ihNext =>
    rcases List.mem_cons.mp hr with rfl | hrest
    · exact ⟨.inl List.mem_cons_self, .inr found⟩
    · rcases List.mem_append.mp hrest with hwithin | hlater
      · obtain ⟨met, hpresent⟩ := ihInner hwithin
        exact ⟨met.within, hpresent⟩
      · obtain ⟨met, hpresent⟩ := ihNext hlater
        refine ⟨met.tail ?_, hpresent⟩
        exact fun _ hm => List.mem_cons_of_mem _ (List.mem_append_right _ hm)

/-- No root was visited before. -/
theorem Visit.key_not_mem (h : Visit fs key read seen paths roots seen') {r : Root}
    (hr : r ∈ roots) : key r.path ∉ seen := by
  induction h with
  | done => cases hr
  | again _ _ ih => exact ih hr
  | missing _ _ _ ih => exact fun hk => ih hr (List.mem_cons_of_mem _ hk)
  | directory new _ _ ih | broken new _ _ _ ih =>
    rcases List.mem_cons.mp hr with rfl | hrest
    · exact new
    · exact fun hk => ih hrest (List.mem_cons_of_mem _ hk)
  | archive new _ _ inner _ ihInner ihNext =>
    rcases List.mem_cons.mp hr with rfl | hrest
    · exact new
    · rcases List.mem_append.mp hrest with hwithin | hlater
      · exact fun hk => ihInner hwithin (List.mem_cons_of_mem _ hk)
      · exact fun hk => ihNext hlater (inner.seen_subset (List.mem_cons_of_mem _ hk))

/-- No two roots are told to be the same. -/
theorem Visit.nodup (h : Visit fs key read seen paths roots seen') :
    (roots.map fun r => key r.path).Nodup := by
  have fresh : ∀ {seen' seen₂ : List κ} {path : Path} {rest : List Path} {later : List Root},
      Visit fs key read seen' rest later seen₂ → key path ∈ seen' →
      key path ∉ later.map fun r => key r.path := by
    intro seen' seen₂ path rest later hvisit hmem hkey
    obtain ⟨r, hr, hsame⟩ := List.mem_map.mp hkey
    exact hvisit.key_not_mem hr (hsame ▸ hmem)
  induction h with
  | done => exact List.nodup_nil
  | again _ _ ih | missing _ _ _ ih => exact ih
  | directory _ _ next ih | broken _ _ _ next ih =>
    exact List.nodup_cons.mpr ⟨fresh next List.mem_cons_self, ih⟩
  | archive _ _ _ inner next ihInner ihNext =>
    rw [List.map_cons, List.map_append]
    refine List.nodup_cons.mpr ⟨?_, List.nodup_append.mpr ⟨ihInner, ihNext, ?_⟩⟩
    · rw [List.mem_append, not_or]
      exact ⟨fresh inner List.mem_cons_self,
        fresh next (inner.seen_subset List.mem_cons_self)⟩
    · intro k hk k' hk' hsame
      obtain ⟨r, hr, rfl⟩ := List.mem_map.mp hk
      obtain ⟨r', hr', rfl⟩ := List.mem_map.mp hk'
      have hmiddle : key r.path ∈ _ := inner.key_mem_of_met (inner.met_of_mem hr).1
      exact next.key_not_mem hr' (hsame ▸ hmiddle)

/-- What a visit adds to the visited is where its roots are, or leads nowhere. -/
theorem Visit.root_of_key_mem (h : Visit fs key read seen paths roots seen') {k : κ}
    (hk : k ∈ seen') : k ∈ seen ∨ (∃ r ∈ roots, key r.path = k) ∨
      ∃ p, ¬fs.Present p ∧ key p = k := by
  induction h with
  | done => exact .inl hk
  | again _ _ ih => exact ih hk
  | missing _ absent _ ih =>
    rcases ih hk with hcons | hrest
    · rcases List.mem_cons.mp hcons with rfl | hseen
      · exact .inr (.inr ⟨_, absent, rfl⟩)
      · exact .inl hseen
    · exact .inr hrest
  | directory _ _ _ ih | broken _ _ _ _ ih =>
    rcases ih hk with hcons | ⟨r, hr, hsame⟩ | hnone
    · rcases List.mem_cons.mp hcons with rfl | hseen
      · exact .inr (.inl ⟨_, List.mem_cons_self, rfl⟩)
      · exact .inl hseen
    · exact .inr (.inl ⟨r, List.mem_cons_of_mem _ hr, hsame⟩)
    · exact .inr (.inr hnone)
  | archive _ _ _ _ _ ihInner ihNext =>
    rcases ihNext hk with hmiddle | ⟨r, hr, hsame⟩ | hnone
    · rcases ihInner hmiddle with hcons | ⟨r, hr, hsame⟩ | hnone
      · rcases List.mem_cons.mp hcons with rfl | hseen
        · exact .inr (.inl ⟨_, List.mem_cons_self, rfl⟩)
        · exact .inl hseen
      · exact .inr (.inl ⟨r, List.mem_cons_of_mem _ (List.mem_append_left _ hr), hsame⟩)
      · exact .inr (.inr hnone)
    · exact .inr (.inl ⟨r, List.mem_cons_of_mem _ (List.mem_append_right _ hr), hsame⟩)
    · exact .inr (.inr hnone)

end Visit

/-! ## Other ways of telling paths apart -/

section Rekey

variable {κ κ' : Type} {key : Path → κ} {key' : Path → κ'}
  {read : Path → Except String ArchiveListing}

/-- Two keys tell the existing ones of some paths from the others alike. -/
def Alike (fs : FileSystem) (key : Path → κ) (key' : Path → κ') (M : Path → Prop) : Prop :=
  ∀ p q, M p → M q → fs.Present p → (key p = key q ↔ key' p = key' q)

/-- Of some existing paths the same have been visited. -/
def Agree (fs : FileSystem) (key : Path → κ) (key' : Path → κ') (M : Path → Prop)
    (seen : List κ) (tail : List κ') : Prop :=
  ∀ p, M p → fs.Present p → (key p ∈ seen ↔ key' p ∈ tail)

theorem Agree.cons {M : Path → Prop} {seen : List κ} {tail : List κ'}
    (agree : Agree fs key key' M seen tail) (alike : Alike fs key key' M) {q : Path} (hq : M q) :
    Agree fs key key' M (key q :: seen) (key' q :: tail) := by
  intro p hp hpresent
  rw [List.mem_cons, List.mem_cons, alike p q hp hq hpresent, agree p hp hpresent]

/-- The roots are the same for keys that tell the paths met apart alike. -/
theorem Visit.rekey {M : Path → Prop} {seen seen' : List κ} {paths : List Path}
    {roots : List Root} (h : Visit fs key read seen paths roots seen')
    (alike : Alike fs key key' M) (met : ∀ p, Met paths roots p → M p) (tail : List κ')
    (agree : Agree fs key key' M seen tail) :
    ∃ tail', Visit fs key' read tail paths roots tail' ∧ Agree fs key key' M seen' tail' := by
  have first : ∀ {path : Path} {rest : List Path} {roots : List Root},
      (∀ p, Met (path :: rest) roots p → M p) → M path :=
    fun met => met _ (.inl List.mem_cons_self)
  induction h generalizing tail with
  | done => exact ⟨tail, .done, agree⟩
  | @again seen seen' path rest roots known next ih =>
    have hrest : ∀ p, Met rest roots p → M p := fun p hp => met p (hp.tail (List.Subset.refl _))
    by_cases hpath : key' path ∈ tail
    · obtain ⟨tail', hvisit, hagree⟩ := ih hrest _ agree
      exact ⟨tail', .again hpath hvisit, hagree⟩
    · -- a path that leads nowhere, which the other key has not met
      have absent : ¬fs.Present path :=
        fun hpresent => hpath ((agree path (first met) hpresent).mp known)
      have agree' : Agree fs key key' M seen (key' path :: tail) := by
        intro p hp hpresent
        rw [← (agree.cons alike (first met)) p hp hpresent, List.mem_cons]
        exact ⟨.inr, fun h => h.elim (fun heq => heq ▸ known) id⟩
      obtain ⟨tail', hvisit, hagree⟩ := ih hrest _ agree'
      exact ⟨tail', .missing hpath absent hvisit, hagree⟩
  | @missing seen seen' path rest roots new absent next ih =>
    have hrest : ∀ p, Met rest roots p → M p := fun p hp => met p (hp.tail (List.Subset.refl _))
    by_cases hpath : key' path ∈ tail
    · have agree' : Agree fs key key' M (key path :: seen) tail := by
        intro p hp hpresent
        rw [(agree.cons alike (first met)) p hp hpresent, List.mem_cons]
        exact ⟨fun h => h.elim (fun heq => heq ▸ hpath) id, .inr⟩
      obtain ⟨tail', hvisit, hagree⟩ := ih hrest _ agree'
      exact ⟨tail', .again hpath hvisit, hagree⟩
    · obtain ⟨tail', hvisit, hagree⟩ := ih hrest _ (agree.cons alike (first met))
      exact ⟨tail', .missing hpath absent hvisit, hagree⟩
  | directory new found next ih =>
    have hnew := fun h => new ((agree _ (first met) (.inl found)).mpr h)
    obtain ⟨tail', hvisit, hagree⟩ :=
      ih (fun p hp => met p (hp.tail (List.subset_cons_self _ _))) _
        (agree.cons alike (first met))
    exact ⟨tail', .directory hnew found hvisit, hagree⟩
  | broken new found unread next ih =>
    have hnew := fun h => new ((agree _ (first met) (.inr found)).mpr h)
    obtain ⟨tail', hvisit, hagree⟩ :=
      ih (fun p hp => met p (hp.tail (List.subset_cons_self _ _))) _
        (agree.cons alike (first met))
    exact ⟨tail', .broken hnew found unread hvisit, hagree⟩
  | archive new found listed inner next ihInner ihNext =>
    have hnew := fun h => new ((agree _ (first met) (.inr found)).mpr h)
    obtain ⟨middle, hinner, hagree⟩ :=
      ihInner (fun p hp => met p hp.within) _ (agree.cons alike (first met))
    obtain ⟨tail', hnext, hagree'⟩ :=
      ihNext (fun p hp => met p (hp.tail fun _ hr =>
        List.mem_cons_of_mem _ (List.mem_append_right _ hr))) _ hagree
    exact ⟨tail', .archive hnew found listed hinner hnext, hagree'⟩

end Rekey

/-! ## Places -/

theorem straight_inj {a b : Place} (h : straight a = straight b) : a = b := by
  have hnames := (List.cons.inj h).2
  exact (List.map_inj_right fun x y hxy => Path.Component.name.inj hxy).mp hnames

theorem canonical?_of_present {p : Path} (h : fs.Present p) :
    ∃ place, fs.canonical? p = some place := by
  rcases h with hdir | hfile
  · unfold isDirectory at hdir
    split at hdir
    · rename_i place hfind
      exact ⟨place, by simp [canonical?, hfind]⟩
    · cases hdir
  · exact canonical?_of_isFile hfile

theorem find_of_canonical? {p : Path} {place : Place} (h : fs.canonical? p = some place) :
    ∃ item, fs.find p = .ok (place, item) ∧ fs.item? place = some item := by
  unfold canonical? at h
  split at h
  · rename_i there item hfind
    cases h
    exact ⟨item, hfind, item?_of_find_eq_ok hfind⟩
  · cases h

/-- What is at a path is a matter of its place. -/
theorem find_congr {p q : Path} {place : Place} (hp : fs.canonical? p = some place)
    (hq : fs.canonical? q = some place) : fs.find p = fs.find q := by
  obtain ⟨item, hfindp, hitem⟩ := find_of_canonical? hp
  obtain ⟨item', hfindq, hitem'⟩ := find_of_canonical? hq
  rw [hitem] at hitem'
  cases hitem'
  rw [hfindp, hfindq]

theorem present_congr {p q : Path} (h : fs.canonical? p = fs.canonical? q) (hp : fs.Present p) :
    fs.Present q := by
  obtain ⟨place, hplace⟩ := canonical?_of_present hp
  have hfind : fs.find p = fs.find q := find_congr hplace (h ▸ hplace)
  simpa only [Present, isDirectory, isFile, hfind] using hp

/-- Of some paths, none that leads nowhere is spelled like the straight way to where another one
leads, such as that to a file with a slash added. -/
def Fair (fs : FileSystem) (M : Path → Prop) : Prop :=
  ∀ p q place, M p → M q → fs.canonical? p = some place → fs.canonical? q = none →
    q.components ≠ straight place

/-- Relative paths are fair, since a straight way starts from the root. -/
theorem fair_of_relative {M : Path → Prop} (relative : ∀ p, M p → p.components.head? ≠ some .root) :
    Fair fs M := by
  intro p q place _ hq _ _ hsame
  refine relative q hq ?_
  rw [hsame]
  rfl

/-- Keys tell fair paths apart as their places do. -/
theorem alike_of_fair {M : Path → Prop} (fair : Fair fs M) :
    Alike fs fs.key fs.canonical? M := by
  intro p q hp hq hpresent
  obtain ⟨place, hplace⟩ := canonical?_of_present hpresent
  cases hq' : fs.canonical? q with
  | none =>
    have hne := fair p q place hp hq hplace hq'
    simp only [FileSystem.key, hplace, hq']
    exact ⟨fun h => absurd h.symm hne, fun h => by cases h⟩
  | some place' =>
    simp only [FileSystem.key, hplace, hq', Option.some.injEq]
    exact ⟨straight_inj, fun h => h ▸ rfl⟩

/-! ## The roots of a class path -/

theorem key_eq_of_components {p q : Path} (h : p.components = q.components)
    (hp : fs.isFile p = true) (hq : fs.isFile q = true) : fs.key p = fs.key q := by
  have hfind : fs.find p = fs.find q := Path.find_eq_of_twin (Path.twin_of_isFile h hp hq)
  simp only [key, canonical?, hfind, h]

/-- A memo from which the files that are still to be visited are listed as from another one. -/
def Keeps (fs : FileSystem) (memo₀ : Memo) (seen : List (List Path.Component)) (memo : Memo) :
    Prop :=
  ∀ p, fs.isFile p = true → fs.key p ∉ seen → Memo.get? memo p = Memo.get? memo₀ p

theorem Keeps.cons {memo₀ : Memo} {seen : List (List Path.Component)} (h : Keeps fs memo₀ seen memo)
    (k : List Path.Component) : Keeps fs memo₀ (k :: seen) memo :=
  fun p hp hk => h p hp fun hmem => hk (List.mem_cons_of_mem _ hmem)

section Roots

variable [ArchiveLibrary]

/-- What listing an archive gives on a class path as it stands. -/
def reading (c : ClassPath) (fs : FileSystem) (path : Path) : Except String ArchiveListing :=
  (listing fs c.memo path).1

/-- An archive is visited once, so that its own listing is never looked up in the same visit. -/
theorem Keeps.listing {memo₀ : Memo} {seen : List (List Path.Component)} {path : Path}
    (h : Keeps fs memo₀ seen memo) (hpath : fs.isFile path = true) :
    Keeps fs memo₀ (fs.key path :: seen) (listing fs memo path).2.1 := by
  intro p hp hk
  have hkept := h.cons (fs.key path) p hp hk
  have hlists := listing_lists fs memo path
  generalize ClassPath.listing fs memo path = listed at hlists
  cases hlists with
  | absent | remembered | unreadable => exact hkept
  | read =>
    rw [Memo.get?_put, if_neg, hkept]
    intro hsame
    exact hk (key_eq_of_components hsame hpath hp ▸ List.mem_cons_self)

theorem expand_visit (memo₀ : Memo) (x : Expansion) (stack : List Path)
    (keeps : Keeps fs memo₀ x.seen x.memo) :
    ∃ roots, (expand fs x stack).roots = roots.reverse ++ x.roots ∧
      Visit fs fs.key (fun p => (listing fs memo₀ p).1) x.seen stack roots
        (expand fs x stack).seen := by
  fun_induction expand fs x stack with
  | case1 x => exact ⟨[], rfl, .done⟩
  | case2 x path rest key known ih =>
    obtain ⟨roots, hroots, hvisit⟩ := ih keeps
    exact ⟨roots, hroots, .again (List.contains_iff_mem.mp known) hvisit⟩
  | case3 x path rest key new found ih =>
    obtain ⟨roots, hroots, hvisit⟩ := ih (keeps.cons key)
    refine ⟨.directory path :: roots, by simpa using hroots, ?_⟩
    exact .directory (fun h => new (List.contains_iff_mem.mpr h)) found hvisit
  | case4 x path rest key new notDir found listed events l hl ih =>
    have hnew : fs.key path ∉ x.seen := fun h => new (List.contains_iff_mem.mpr h)
    have hread : (listing fs memo₀ path).1 = .ok l := by
      rw [← hl]
      exact listing_congr (keeps path found hnew).symm
    obtain ⟨roots, hroots, hvisit⟩ := ih (keeps.listing found)
    obtain ⟨within, later, middle, rfl, hinner, hnext⟩ := hvisit.split
    refine ⟨.archive path l :: (within ++ later), by simpa using hroots, ?_⟩
    exact .archive hnew found hread hinner hnext
  | case5 x path rest key new notDir found listed events reason hl ih =>
    have hnew : fs.key path ∉ x.seen := fun h => new (List.contains_iff_mem.mpr h)
    have hread : (listing fs memo₀ path).1 = .error reason := by
      rw [← hl]
      exact listing_congr (keeps path found hnew).symm
    obtain ⟨roots, hroots, hvisit⟩ := ih (keeps.listing found)
    refine ⟨.broken path reason :: roots, by simpa using hroots, ?_⟩
    exact .broken hnew found hread hvisit
  | case6 x path rest key new notDir notFile ih =>
    obtain ⟨roots, hroots, hvisit⟩ := ih (keeps.cons key)
    refine ⟨roots, hroots, ?_⟩
    exact .missing (fun h => new (List.contains_iff_mem.mpr h)) (fun h => h.elim notDir notFile)
      hvisit

/-- The roots of a class path are visited in preorder, paths being told apart by their keys. -/
theorem roots_visit (c : ClassPath) (fs : FileSystem) :
    ∃ seen, Visit fs fs.key (c.reading fs) [] c.entries (c.roots fs).1 seen := by
  obtain ⟨roots, hroots, hvisit⟩ := expand_visit c.memo ⟨[], c.memo, [], []⟩ c.entries
    (fun _ _ _ => rfl)
  have hsame : (c.roots fs).1 = roots := by
    show (expand fs ⟨[], c.memo, [], []⟩ c.entries).roots.reverse = roots
    rw [hroots]
    simp
  rw [hsame]
  exact ⟨_, hvisit⟩

theorem roots_eq_of_visit {c : ClassPath} {roots : List Root} {seen : List (List Path.Component)}
    (h : Visit fs fs.key (c.reading fs) [] c.entries roots seen) : (c.roots fs).1 = roots := by
  obtain ⟨_, hvisit⟩ := roots_visit c fs
  exact (h.unique hvisit).1

/-- If the paths met are fair, then the roots of a class path are those of the recursion that tells
paths apart by their places; each of them is met, and what is met is found there once. -/
theorem roots_eq_preorder (c : ClassPath) (fs : FileSystem)
    (fair : Fair fs (Met c.entries (c.roots fs).1)) :
    (∃ seen, Visit fs fs.canonical? (c.reading fs) [] c.entries (c.roots fs).1 seen) ∧
    (∀ roots seen, Visit fs fs.canonical? (c.reading fs) [] c.entries roots seen →
      roots = (c.roots fs).1) ∧
    (∀ p, Met c.entries (c.roots fs).1 p → fs.Present p →
      ((c.roots fs).1.map fun r => fs.canonical? r.path).count (fs.canonical? p) = 1) ∧
    (∀ r ∈ (c.roots fs).1, Met c.entries (c.roots fs).1 r.path ∧ fs.Present r.path) := by
  obtain ⟨_, hkeyed⟩ := roots_visit c fs
  obtain ⟨seen, hvisit, _⟩ := hkeyed.rekey (alike_of_fair fair) (fun _ h => h)
    [] (fun _ _ _ => by simp)
  refine ⟨⟨seen, hvisit⟩, ?_, ?_, fun r hr => hvisit.met_of_mem hr⟩
  · intro roots seen' h
    exact (hvisit.unique h).1
  · intro p hmet hpresent
    refine List.count_eq_one_of_mem hvisit.nodup ?_
    rcases hvisit.root_of_key_mem (hvisit.key_mem_of_met hmet) with hnil | ⟨r, hr, hsame⟩ |
      ⟨q, habsent, hsame⟩
    · cases hnil
    · exact List.mem_map.mpr ⟨r, hr, hsame⟩
    · exact absurd (present_congr hsame.symm hpresent) habsent

end Roots

/-- The manifests of two archives that refer to each other, the first one also to itself and to one
that is missing. -/
def ringManifest : List UInt8 := "Class-Path: a.jar l/../b.jar c.jar\n".toList.map Char.toUInt8

def ringManifest' : List UInt8 := "Class-Path: a.jar\n".toList.map Char.toUInt8

/-- The first archive is reached through a link, and the second one on a way that turns back. -/
def ring : FileSystem :=
  ⟨[([], .directory), (["work"], .directory), (["work", "l"], .directory),
    (["work", "a.jar"], .file (manifestArchive 0x5e74e645 ringManifest) 1),
    (["work", "b.jar"], .file (manifestArchive 0x003a26c5 ringManifest') 1),
    (["work", "s"], .link "a.jar")]⟩

def ringPath : ClassPath := (new ["s", "a.jar", "l"]).withName "ring"

set_option maxRecDepth 4000 in
theorem opens_ring : Opens 0x5e74e645 ringManifest ∧ Opens 0x003a26c5 ringManifest' := by
  refine ⟨⟨(rfl), (rfl), ?_⟩, ⟨(rfl), (rfl), ?_⟩⟩ <;> rw [Archive.checksum_eq] <;> decide +kernel

theorem find_ring :
    (∀ text ∈ ["s", "a.jar", "l/../a.jar"], ring.find ⟨text⟩ =
      .ok (["work", "a.jar"], .file (manifestArchive 0x5e74e645 ringManifest) 1)) ∧
    ring.find ⟨"l/../b.jar"⟩ =
      .ok (["work", "b.jar"], .file (manifestArchive 0x003a26c5 ringManifest') 1) ∧
    ring.find ⟨"l"⟩ = .ok (["work", "l"], .directory) ∧
    ring.find ⟨"c.jar"⟩ = .error .notFound := by
  have atWork : ring.item? ["work"] = some .directory := rfl
  have atL : ring.item? ["work", "l"] = some .directory := rfl
  have atA : ring.item? ["work", "a.jar"] =
      some (.file (manifestArchive 0x5e74e645 ringManifest) 1) := rfl
  have atB : ring.item? ["work", "b.jar"] =
      some (.file (manifestArchive 0x003a26c5 ringManifest') 1) := rfl
  have atC : ring.item? ["work", "c.jar"] = none := rfl
  have atS : ring.item? ["work", "s"] = some (.link "a.jar") := rfl
  simp [find, stepsOf, piecesOf, piecesOf.ofSegment, Text.segments, placeOf, walk,
    workingDirectory, linkLimit, bind, Except.bind, pure, Except.pure, atWork, atL, atA, atB, atC,
    atS]

theorem roots_ring : ∃ l l', l.references = [⟨"a.jar"⟩, ⟨"l/../b.jar"⟩, ⟨"c.jar"⟩] ∧
    l'.references = [⟨"l/../a.jar"⟩] ∧ (ringPath.roots ring).1 =
      [.archive ⟨"s"⟩ l, .archive ⟨"l/../b.jar"⟩ l', .directory ⟨"l"⟩] := by
  obtain ⟨hfirst, hsecond, hdir, hnone⟩ := find_ring
  have hs := hfirst "s" (by decide)
  obtain ⟨l, hlisted, hread⟩ := opens_ring.1.exists_listing hs
    ⟨(manifestArchive 0x5e74e645 ringManifest).length, 1⟩
  obtain ⟨l', hlisted', hread'⟩ := opens_ring.2.exists_listing hsecond
    ⟨(manifestArchive 0x003a26c5 ringManifest').length, 1⟩
  have hreferences : l.references = [⟨"a.jar"⟩, ⟨"l/../b.jar"⟩, ⟨"c.jar"⟩] := by
    rw [references_of_read hlisted hread]
    decide +kernel
  have hreferences' : l'.references = [⟨"l/../a.jar"⟩] := by
    have hclassPath : Manifest.classPath (Text.Utf8.decodeLossy ringManifest') =
        ["a.jar".toList] := by decide +kernel
    rw [references_of_read hlisted' hread', hclassPath]
    rfl
  refine ⟨l, l', hreferences, hreferences', ?_⟩
  -- the first archive is known when it is met again, by whatever path
  have hkey : ∀ text ∈ ["s", "a.jar", "l/../a.jar"],
      ring.key ⟨text⟩ = straight ["work", "a.jar"] := by
    intro text htext
    simp only [FileSystem.key, canonical?, hfirst text htext]
  have keyS := hkey "s" (by decide)
  have keyA := hkey "a.jar" (by decide)
  have keyA' := hkey "l/../a.jar" (by decide)
  have keyB : ring.key ⟨"l/../b.jar"⟩ = straight ["work", "b.jar"] := by
    simp only [FileSystem.key, canonical?, hsecond]
  have keyL : ring.key ⟨"l"⟩ = straight ["work", "l"] := by
    simp only [FileSystem.key, canonical?, hdir]
  have keyC : ring.key ⟨"c.jar"⟩ = [.name "c.jar"] := by
    simp only [FileSystem.key, canonical?, hnone]
    rfl
  have behind' : Visit ring ring.key (ringPath.reading ring)
      [ring.key ⟨"l/../b.jar"⟩, ring.key ⟨"s"⟩] l'.references []
      [ring.key ⟨"l/../b.jar"⟩, ring.key ⟨"s"⟩] := by
    rw [hreferences']
    exact .again (by simp [keyS, keyA']) .done
  have behind : Visit ring ring.key (ringPath.reading ring) [ring.key ⟨"s"⟩] l.references
      [.archive ⟨"l/../b.jar"⟩ l']
      [ring.key ⟨"c.jar"⟩, ring.key ⟨"l/../b.jar"⟩, ring.key ⟨"s"⟩] := by
    rw [hreferences]
    refine .again (by simp [keyS, keyA]) (.archive ?_ (by simp [isFile, hsecond])
      ((listing_nil (stampOf_file hsecond)).trans hlisted') behind' (.missing ?_ ?_ .done))
    · simp [keyS, keyB, straight]
    · simp [keyS, keyB, keyC, straight]
    · simp [Present, isDirectory, isFile, hnone]
  refine roots_eq_of_visit (.archive List.not_mem_nil (by simp [isFile, hs])
    ((listing_nil (stampOf_file hs)).trans hlisted) behind
    (.again ?_ (.directory ?_ (by simp [isDirectory, hdir]) .done)))
  · simp [keyS, keyA]
  · simp [keyS, keyB, keyC, keyL, straight]

/-- The ring has its first archive once, for all that leads to it. -/
theorem roots_eq_preorder_ring :
    Fair ring (Met ringPath.entries (ringPath.roots ring).1) ∧
    ((ringPath.roots ring).1.map fun r => ring.canonical? r.path).count
      (ring.canonical? ⟨"s"⟩) = 1 := by
  obtain ⟨l, l', hreferences, hreferences', hroots⟩ := roots_ring
  have fair : Fair ring (Met ringPath.entries (ringPath.roots ring).1) := by
    refine fair_of_relative ?_
    rintro p (hentry | ⟨q, listed, hroot, href⟩)
    · simp only [ringPath, new, withName, List.map_cons, List.map_nil, List.mem_cons,
        List.not_mem_nil, or_false] at hentry
      rcases hentry with rfl | rfl | rfl <;> decide
    · simp only [hroots, List.mem_cons, List.not_mem_nil, or_false, reduceCtorEq,
        Root.archive.injEq] at hroot
      rcases hroot with ⟨_, rfl⟩ | ⟨_, rfl⟩
      · simp only [hreferences, List.mem_cons, List.not_mem_nil, or_false] at href
        rcases href with rfl | rfl | rfl <;> decide
      · obtain rfl := List.mem_singleton.mp (hreferences' ▸ href)
        decide
  refine ⟨fair, (roots_eq_preorder ringPath ring fair).2.2.1 _ (.inl List.mem_cons_self) (.inr ?_)⟩
  simp [isFile, find_ring.1 "s" (by decide)]

/-- An archive that holds one class. -/
def shelfArchive : List UInt8 :=
  [0x50, 0x4b, 0x03, 0x04, 0x14, 0x00, 0x00, 0x00, 0x00, 0x00, 0x00, 0x00, 0x21, 0x50, 0x31, 0xcf,
    0xd0, 0x4a, 0x01, 0x00, 0x00, 0x00, 0x01, 0x00, 0x00, 0x00, 0x09, 0x00, 0x00, 0x00, 0x61, 0x2f,
    0x42, 0x2e, 0x63, 0x6c, 0x61, 0x73, 0x73, 0x42, 0x50, 0x4b, 0x01, 0x02, 0x14, 0x03, 0x14, 0x00,
    0x00, 0x00, 0x00, 0x00, 0x00, 0x00, 0x21, 0x50, 0x31, 0xcf, 0xd0, 0x4a, 0x01, 0x00, 0x00, 0x00,
    0x01, 0x00, 0x00, 0x00, 0x09, 0x00, 0x00, 0x00, 0x00, 0x00, 0x00, 0x00, 0x00, 0x00, 0x00, 0x00,
    0xa4, 0x01, 0x00, 0x00, 0x00, 0x00, 0x61, 0x2f, 0x42, 0x2e, 0x63, 0x6c, 0x61, 0x73, 0x73, 0x50,
    0x4b, 0x05, 0x06, 0x00, 0x00, 0x00, 0x00, 0x01, 0x00, 0x01, 0x00, 0x37, 0x00, 0x00, 0x00, 0x28,
    0x00, 0x00, 0x00, 0x00, 0x00]

def shelf : FileSystem :=
  ⟨[([], .directory), (["work"], .directory), (["tmp"], .directory), (["tmp", "shelf"], .directory),
    (["tmp", "shelf", "a.jar"], .file shelfArchive 1000000000)]⟩

theorem find_shelf :
    shelf.find ⟨"/tmp/shelf/a.jar"⟩ =
      .ok (["tmp", "shelf", "a.jar"], .file shelfArchive 1000000000) ∧
    shelf.find ⟨"/tmp/shelf/a.jar/"⟩ = .error .notDirectory := by
  have atRoot : shelf.item? [] = some .directory := rfl
  have atTmp : shelf.item? ["tmp"] = some .directory := rfl
  have atShelf : shelf.item? ["tmp", "shelf"] = some .directory := rfl
  have atArchive : shelf.item? ["tmp", "shelf", "a.jar"] =
      some (.file shelfArchive 1000000000) := rfl
  constructor <;>
    simp [find, stepsOf, piecesOf, piecesOf.ofSegment, Text.segments, placeOf, walk,
      bind, Except.bind, pure, Except.pure, atRoot, atTmp, atShelf, atArchive]

/-- Visited under its own components, the path with the slash takes the key of the archive. -/
theorem roots_shelf_slash (name : String) :
    (((new ["/tmp/shelf/a.jar/", "/tmp/shelf/a.jar"]).withName name).roots shelf).1 = [] := by
  obtain ⟨hfile, hslash⟩ := find_shelf
  have hkey : shelf.key ⟨"/tmp/shelf/a.jar/"⟩ = shelf.key ⟨"/tmp/shelf/a.jar"⟩ := by
    simp only [FileSystem.key, canonical?, hfile, hslash]
    rfl
  show (expand shelf ⟨[], [], [], []⟩
    [⟨"/tmp/shelf/a.jar/"⟩, ⟨"/tmp/shelf/a.jar"⟩]).roots.reverse = []
  simp [expand, hkey, isDirectory, isFile, hslash]

/-- A path to an archive with a slash at the end leads nowhere, and yet the archive counts as
visited after it: the recursion has it as a root, the class path does not. -/
theorem roots_shelf_not_preorder :
    let c := ClassPath.new ["/tmp/shelf/a.jar/", "/tmp/shelf/a.jar"]
    shelf.Present ⟨"/tmp/shelf/a.jar"⟩ ∧ (c.roots shelf).1 = [] ∧
    ¬∃ seen, Visit shelf shelf.canonical? (c.reading shelf) [] c.entries (c.roots shelf).1
      seen := by
  intro c
  have hpresent : shelf.Present ⟨"/tmp/shelf/a.jar"⟩ := by
    right
    simp [isFile, find_shelf]
  have hroots : (c.roots shelf).1 = [] := roots_shelf_slash c.name
  refine ⟨hpresent, hroots, ?_⟩
  rintro ⟨seen, hvisit⟩
  rw [hroots] at hvisit
  have hseen : shelf.canonical? ⟨"/tmp/shelf/a.jar"⟩ ∈ seen :=
    hvisit.key_mem_of_mem (List.mem_cons_of_mem _ List.mem_cons_self)
  rcases hvisit.root_of_key_mem hseen with hnil | ⟨r, hr, _⟩ | ⟨q, habsent, hsame⟩
  · cases hnil
  · cases hr
  · exact habsent (present_congr hsame.symm hpresent)

end ClassPath

end TypeDiscovery
