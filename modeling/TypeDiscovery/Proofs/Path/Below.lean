import Mathlib.Data.List.Perm.Basic
import TypeDiscovery.Proofs.Path.Spelling

/-!
# Files below a directory

A file below a directory is listed under the names on the way to it with slashes between them. In a
file system that is a tree, the path put together from the directory and that text leads to the file
again (`find_relative`), and the listing has each file once (`filesBelow_perm`).
-/

namespace TypeDiscovery.FileSystem

open Text

variable {fs : FileSystem} {names : List String} {place : Place} {dir : Path}
  {bytes : List UInt8} {modified : Nat}

/-- A name that can stand between the slashes of a path. -/
structure Plain (n : String) : Prop where
  nonempty : n ≠ ""
  notStay : n ≠ "."
  notUp : n ≠ ".."
  noSlash : '/' ∉ n.toList
  noNul : '\x00' ∉ n.toList

instance (n : String) : Decidable (Plain n) :=
  decidable_of_iff (n ≠ "" ∧ n ≠ "." ∧ n ≠ ".." ∧ '/' ∉ n.toList ∧ '\x00' ∉ n.toList)
    ⟨fun ⟨h₁, h₂, h₃, h₄, h₅⟩ => ⟨h₁, h₂, h₃, h₄, h₅⟩,
      fun h => ⟨h.nonempty, h.notStay, h.notUp, h.noSlash, h.noNul⟩⟩

/-- Every place has one item, and on the way to each place there are directories. -/
structure Tree (fs : FileSystem) : Prop where
  once : fs.places.Nodup
  below : ∀ p ∈ fs.places, ∀ k < p.length, fs.item? (p.take k) = some .directory

/-- The text of a path that leads over some names. -/
def relative (names : List String) : String := "/".intercalate names

/-! ## Names and steps -/

theorem ofSegment_plain {n : String} (h : Plain n) : piecesOf.ofSegment n.toList = .name n := by
  have hname : ∀ cs : List Char, cs ≠ [] → cs ≠ ['.'] → cs ≠ ['.', '.'] →
      piecesOf.ofSegment cs = .name (String.ofList cs) := by
    intro cs hempty hstay hup
    unfold piecesOf.ofSegment
    split <;> first | contradiction | rfl
  have hne : ∀ m : String, n ≠ m → n.toList ≠ m.toList := fun m hm h => hm (String.toList_inj.mp h)
  rw [hname _ (hne "" h.nonempty) (hne "." h.notStay) (hne ".." h.notUp), String.ofList_toList]

theorem segments_relative (hne : names ≠ []) (plain : ∀ n ∈ names, Plain n) :
    segments '/' (relative names).toList = names.map String.toList := by
  rw [relative, String.toList_intercalate]
  refine segments_intercalate (by simpa using hne) fun piece hpiece => ?_
  obtain ⟨n, hn, rfl⟩ := List.mem_map.mp hpiece
  exact (plain n hn).noSlash

theorem stepsAfterSlash_relative (hne : names ≠ []) (plain : ∀ n ∈ names, Plain n) :
    stepsAfterSlash (relative names).toList = names.map .name := by
  rw [stepsAfterSlash, segments_relative hne plain, List.map_map]
  exact List.map_congr_left fun n hn => ofSegment_plain (plain n hn)

/-- No two ways have one text. -/
theorem relative_inj {others : List String} (hne : names ≠ []) (plain : ∀ n ∈ names, Plain n)
    (hne' : others ≠ []) (plain' : ∀ n ∈ others, Plain n) (h : relative names = relative others) :
    names = others := by
  have hsegments := segments_relative hne plain
  rw [h, segments_relative hne' plain'] at hsegments
  exact ((List.map_inj_right fun _ _ => String.toList_inj.mp).mp hsegments).symm

theorem stay_not_mem_names (names : List String) : Piece.stay ∉ names.map Piece.name := by
  intro h
  obtain ⟨n, _, hn⟩ := List.mem_map.mp h
  cases hn

theorem head?_relative (hne : names ≠ []) (plain : ∀ n ∈ names, Plain n) :
    (relative names).toList.head? ≠ some '/' := by
  intro h
  obtain ⟨rest, hrest⟩ := List.head?_eq_some_iff.mp h
  have hsteps := stepsAfterSlash_relative hne plain
  rw [hrest] at hsteps
  refine stay_not_mem_names names (hsteps ▸ ?_)
  simp [stepsAfterSlash, segments, piecesOf.ofSegment]

theorem getLast?_relative (hne : names ≠ []) (plain : ∀ n ∈ names, Plain n) :
    (relative names).toList.getLast? ≠ some '/' := by
  intro h
  obtain ⟨start, hstart⟩ := List.getLast?_eq_some_iff.mp h
  have hsteps := stepsAfterSlash_relative hne plain
  rw [hstart] at hsteps
  refine stay_not_mem_names names (hsteps ▸ ?_)
  simp [stepsAfterSlash, segments_append, segments, piecesOf.ofSegment]

/-! ## Walking -/

/-- On the way to something there are directories. -/
theorem Tree.directory (tree : fs.Tree) {item : Item} (hne : names ≠ [])
    (h : fs.item? (place ++ names) = some item) : fs.item? place = some .directory := by
  have hlength : place.length < (place ++ names).length := by
    have hpos := List.length_pos_iff.mpr hne
    rw [List.length_append]
    omega
  have hbelow := tree.below _ (mem_places_of_item?_eq_some h) place.length hlength
  rwa [List.take_left] at hbelow

/-- Steps after those that lead to a directory are taken from there. -/
theorem walk_append (links : Nat) (here : Place) {before : List Piece}
    (h : fs.walk true links here before = .ok place) (hdir : fs.item? place = some .directory)
    (after : List Piece) : ∃ left, fs.walk true links here (before ++ after) =
      fs.walk true left place after := by
  induction links using Nat.strongRecOn generalizing before here with
  | ind links fewer =>
    induction before generalizing here with
    | nil =>
      rw [walk, Except.ok.injEq] at h
      exact ⟨links, by rw [List.nil_append, h]⟩
    | cons first rest ih =>
      rw [List.cons_append]
      cases first with
      | root =>
        rw [walk] at h ⊢
        exact ih _ h
      | stay | up =>
        rw [walk] at h ⊢
        split at h
        · rename_i hhere
          rw [if_pos hhere]
          exact ih _ h
        · cases h
      | name n =>
        simp only [walk] at h ⊢
        split at h
        · rename_i hhere
          rw [if_pos hhere]
          cases hitem : fs.item? (here ++ [n]) with
          | none =>
            -- what the last step leads to is there, as it is a directory
            rw [hitem] at h
            simp only at h
            split at h
            · cases h
              rw [hitem] at hdir
              cases hdir
            · cases h
          | some item =>
            rw [hitem] at h
            cases item with
            | file bytes modified | directory => exact ih _ h
            | link target =>
              simp only [Bool.not_true, Bool.and_false, Bool.false_eq_true, if_false] at h ⊢
              cases links with
              | zero => cases h
              | succ links =>
                have hfewer := fewer links (Nat.lt_succ_self links) here h
                simpa only [List.append_assoc] using hfewer
        · cases h

/-- Before other steps, those that stay do not count, but for the first one. -/
theorem walk_eq_of_stripped {links : Nat} {here : Place} {before before' after : List Piece}
    (hbefore : before ≠ []) (h : stripped before = stripped before') (hafter : after ≠ [])
    (noRoot : ∀ p ∈ before.tail ++ after, p ≠ .root)
    (noRoot' : ∀ p ∈ before'.tail ++ after, p ≠ .root) :
    fs.walk true links here (before ++ after) = fs.walk true links here (before' ++ after) := by
  cases before with
  | nil => exact absurd rfl hbefore
  | cons first rest =>
    cases before' with
    | nil => cases h
    | cons first' rest' =>
      obtain ⟨rfl, hmoves⟩ := List.cons.inj h
      have hsettled : settled (rest ++ after) = settled (rest' ++ after) := by
        rw [settled, settled, moves_append, moves_append, hmoves,
          List.getLast?_append_of_ne_nil _ hafter, List.getLast?_append_of_ne_nil _ hafter]
      have hleft := @walk_settled fs true links here [first] _ noRoot
      have hright := @walk_settled fs true links here [first] _ noRoot'
      simp only [List.tail_cons, List.singleton_append] at hleft hright
      rw [List.cons_append, List.cons_append, ← hleft, ← hright, hsettled]

/-- Names lead from a directory to a file below it. -/
theorem walk_names (tree : fs.Tree) (links : Nat) (hdir : fs.item? place = some .directory)
    (h : fs.item? (place ++ names) = some (.file bytes modified)) :
    fs.walk true links place (names.map .name) = .ok (place ++ names) := by
  induction names generalizing place with
  | nil => simp [walk]
  | cons n rest ih =>
    have hsplit : place ++ n :: rest = (place ++ [n]) ++ rest := by simp
    rw [hsplit] at h ⊢
    rw [List.map_cons, walk, if_pos hdir]
    cases rest with
    | nil =>
      rw [List.append_nil] at h
      simp [h, walk]
    | cons next more =>
      have hnext := tree.directory (List.cons_ne_nil _ _) h
      simp only [hnext]
      exact ih hnext h

theorem nul_not_mem_of_find {path : Path} {item : Item} (h : fs.find path = .ok (place, item)) :
    '\x00' ∉ path.text.toList := by
  intro hnul
  rw [find, stepsOf, if_pos (List.contains_iff_mem.mpr hnul)] at h
  cases h

theorem find_eq_ok_of_walk {path : Path} {item : Item} (hnul : '\x00' ∉ path.text.toList)
    (hne : piecesOf path.text ≠ [])
    (hwalk : fs.walk true linkLimit workingDirectory (piecesOf path.text) = .ok place)
    (hitem : fs.item? place = some item) : fs.find path = .ok (place, item) := by
  have hcontains : path.text.toList.contains '\x00' = false := by simpa using hnul
  have hpieces : (piecesOf path.text).isEmpty = false := by simpa using hne
  simp [find, stepsOf, hnul, placeOf, hpieces, hwalk, hitem, bind, Except.bind, pure, Except.pure]

/-- A name leads to what has it in the working directory. -/
theorem find_name {n : String} {item : Item} (plain : Plain n)
    (hwork : fs.item? workingDirectory = some .directory)
    (h : fs.item? (workingDirectory ++ [n]) = some item) (noLink : ∀ target, item ≠ .link target) :
    fs.find ⟨n⟩ = .ok (workingDirectory ++ [n], item) := by
  have hpieces : piecesOf n = [.name n] := by
    have hne : n.toList ≠ [] := fun hempty => plain.nonempty (String.toList_inj.mp hempty)
    rw [piecesOf, segments_eq_singleton plain.noSlash]
    split
    · rename_i hsegments
      cases (List.cons.inj hsegments).2
    · rename_i hsegments
      exact absurd (List.cons.inj hsegments).1 hne
    · rw [List.map_cons, List.map_nil, ofSegment_plain plain]
  refine find_eq_ok_of_walk plain.noNul ?_ ?_ h
  · rw [hpieces]
    exact List.cons_ne_nil _ _
  · rw [hpieces, walk, if_pos hwork]
    cases item with
    | link target => exact absurd rfl (noLink target)
    | file bytes modified | directory => simp [h, walk]

/-- The path put together from a directory and the way to a file below leads to the file. -/
theorem find_relative (tree : fs.Tree) (hdir : fs.find dir = .ok (place, .directory))
    (plain : ∀ n ∈ names, Plain n)
    (h : fs.item? (place ++ names) = some (.file bytes modified)) :
    fs.find (dir.join (relative names)) = .ok (place ++ names, .file bytes modified) := by
  have hitem := item?_of_find_eq_ok hdir
  have hne : names ≠ [] := by
    rintro rfl
    rw [List.append_nil, hitem] at h
    cases h
  have htext : dir.text ≠ "" := by
    intro hempty
    rw [find, hempty] at hdir
    cases hdir
  obtain ⟨before, hbefore, hstripped, hpieces⟩ :=
    Path.piecesOf_join (head?_relative hne plain) htext
  rw [stepsAfterSlash_relative hne plain] at hpieces
  have hnul : '\x00' ∉ (dir.join (relative names)).text.toList := by
    rw [nul_mem_iff]
    rintro ⟨n, hn, hnul⟩
    rw [Path.components_eq, hpieces, stripped_append hbefore, hstripped, List.map_append,
      ← Path.components_eq, List.mem_append] at hn
    rcases hn with hn | hn
    · exact nul_not_mem_of_find hdir ((nul_mem_iff dir).mpr ⟨n, hn, hnul⟩)
    · obtain ⟨piece, hpiece, hname⟩ := List.mem_map.mp hn
      obtain ⟨m, hm, rfl⟩ := List.mem_map.mp (List.mem_filter.mp hpiece).1
      cases hname
      exact (plain n hm).noNul hnul
  have hwalk : fs.walk true linkLimit workingDirectory (before ++ names.map .name) =
      fs.walk true linkLimit workingDirectory (piecesOf dir.text ++ names.map .name) := by
    have hroots := fun p hp => ne_root_of_mem_tail (dir.join (relative names)).text (p := p) hp
    rw [hpieces, List.tail_append_of_ne_nil hbefore] at hroots
    refine walk_eq_of_stripped hbefore hstripped (by simpa using hne) hroots fun p hp => ?_
    rcases List.mem_append.mp hp with hbase | hname
    · exact ne_root_of_mem_tail dir.text hbase
    · exact hroots p (List.mem_append_right _ hname)
  obtain ⟨left, hleft⟩ := walk_append linkLimit workingDirectory (walk_of_find_eq_ok hdir) hitem
    (names.map .name)
  refine find_eq_ok_of_walk hnul ?_ ?_ h
  · rw [hpieces]
    exact List.append_ne_nil_of_left_ne_nil hbefore _
  · rw [hpieces, hwalk, hleft]
    exact walk_names tree left hitem h

/-! ## Listing -/

theorem item?_eq_some_iff (once : fs.places.Nodup) {p : Place} {item : Item} :
    fs.item? p = some item ↔ (p, item) ∈ fs.items := by
  constructor
  · intro h
    obtain ⟨before, after, hitems, _⟩ := List.lookup_eq_some_iff.mp h
    rw [hitems]
    exact List.mem_append_right _ List.mem_cons_self
  intro h
  obtain ⟨items⟩ := fs
  simp only [item?, places] at *
  induction items with
  | nil => cases h
  | cons first rest ih =>
    obtain ⟨hnew, honce⟩ := List.nodup_cons.mp once
    rw [List.lookup_cons]
    rcases List.mem_cons.mp h with rfl | hrest
    · simp
    · have hne : (p == first.1) = false := by
        rw [beq_eq_false_iff_ne]
        exact fun hp => hnew (List.mem_map.mpr ⟨_, hrest, hp⟩)
      rw [hne]
      exact ih honce hrest

/-- The items that a listing of a directory is made of. -/
theorem below_eq_some_iff {p : Place} {item : Item} :
    (match item with
      | .file .. => if place.isPrefixOf p then some (p.drop place.length) else none
      | _ => none) = some names ↔
    p = place ++ names ∧ ∃ bytes modified, item = .file bytes modified := by
  cases item with
  | file bytes modified =>
    simp only [Option.ite_none_right_eq_some, Option.some.injEq, List.isPrefixOf_iff_prefix]
    constructor
    · rintro ⟨⟨rest, rfl⟩, rfl⟩
      exact ⟨by rw [List.drop_left], bytes, modified, rfl⟩
    · rintro ⟨rfl, _⟩
      exact ⟨List.prefix_append _ _, List.drop_left⟩
  | directory | link target => simp

/-- If some ways lead to the files below a directory, then these are what is listed there. -/
theorem filesBelow_perm (tree : fs.Tree) (hdir : fs.find dir = .ok (place, .directory))
    {ways : List Place} (once : ways.Nodup) (holds : ∀ names, names ∈ ways ↔
      ∃ bytes modified, fs.item? (place ++ names) = some (.file bytes modified)) :
    (fs.filesBelow dir).Perm
      (ways.map fun names => (relative names, dir.join (relative names))) := by
  have hplace : fs.canonical? dir = some place := by
    rw [canonical?, hdir]
  rw [filesBelow, hplace]
  refine List.Perm.map _ ((List.mergeSort_perm _ _).trans ?_)
  refine (List.perm_ext_iff_of_nodup ?_ once).mpr fun names => ?_
  · have hitems : fs.items.Pairwise fun a b => a.1 ≠ b.1 := List.pairwise_map.mp tree.once
    refine List.Pairwise.filterMap _ ?_ hitems
    rintro a b hne names hnames names' hnames' rfl
    exact hne ((below_eq_some_iff.mp hnames).1.trans (below_eq_some_iff.mp hnames').1.symm)
  · rw [holds, List.mem_filterMap]
    constructor
    · rintro ⟨⟨p, item⟩, hmem, hnames⟩
      obtain ⟨rfl, bytes, modified, rfl⟩ := below_eq_some_iff.mp hnames
      exact ⟨bytes, modified, (item?_eq_some_iff tree.once).mpr hmem⟩
    · rintro ⟨bytes, modified, hitem⟩
      exact ⟨_, (item?_eq_some_iff tree.once).mp hitem,
        below_eq_some_iff.mpr ⟨rfl, bytes, modified, rfl⟩⟩

end TypeDiscovery.FileSystem
