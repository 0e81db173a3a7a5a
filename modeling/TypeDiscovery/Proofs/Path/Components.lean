import TypeDiscovery.FileSystem

/-!
# Components and steps of a path

The components by which paths are compared are the steps that the file system takes, without those
that stay in place, except for a dot at the start (`components_eq`). A slash divides the steps of a
path, so that those of a reference follow those of its base (`piecesOf_join`); and the directory of
a path has all of its components but the last (`components_parent?`).
-/

namespace TypeDiscovery

open Text

namespace FileSystem

/-- The component that a step at the start of a path stands for. -/
def Piece.component : Piece → Path.Component
  | .root => .root
  | .stay => .current
  | .up => .parent
  | .name n => .name n

theorem Piece.eq_of_component_eq {a b : Piece} (h : a.component = b.component) : a = b := by
  cases a <;> cases b <;> simp_all [Piece.component]

/-- Steps without those that stay. -/
def moves (pieces : List Piece) : List Piece := pieces.filter (· ≠ .stay)

/-- Steps without those that stay, but for the first one. -/
def stripped : List Piece → List Piece
  | [] => []
  | first :: rest => first :: moves rest

@[simp] theorem moves_append (xs ys : List Piece) : moves (xs ++ ys) = moves xs ++ moves ys :=
  List.filter_append xs ys

theorem stripped_append {xs : List Piece} (h : xs ≠ []) (ys : List Piece) :
    stripped (xs ++ ys) = stripped xs ++ moves ys := by
  cases xs with
  | nil => exact absurd rfl h
  | cons first rest => simp [stripped]

/-! ## Components and steps -/

/-- The steps that the text after a slash stands for. -/
def stepsAfterSlash (cs : List Char) : List Piece := (segments '/' cs).map piecesOf.ofSegment

theorem stepsAfterSlash_ne_nil (cs : List Char) : stepsAfterSlash cs ≠ [] := by
  simpa [stepsAfterSlash] using segments_ne_nil '/' cs

theorem ofSegment_ne_root (piece : List Char) : piecesOf.ofSegment piece ≠ .root := by
  unfold piecesOf.ofSegment
  split <;> simp

theorem piecesOf_slash (cs : List Char) :
    piecesOf (String.ofList ('/' :: cs)) = .root :: stepsAfterSlash cs := by
  have hsegments : segments '/' ('/' :: cs) = [] :: segments '/' cs := by simp [segments]
  cases hs : segments '/' cs with
  | nil => exact absurd hs (segments_ne_nil '/' cs)
  | cons piece pieces =>
    simp [piecesOf, stepsAfterSlash, hsegments, hs]

theorem piecesOf_of_ne_slash {c : Char} (hc : c ≠ '/') (cs : List Char) :
    piecesOf (String.ofList (c :: cs)) = stepsAfterSlash (c :: cs) := by
  cases hs : segments '/' cs with
  | nil => exact absurd hs (segments_ne_nil '/' cs)
  | cons piece pieces => simp [piecesOf, stepsAfterSlash, segments, hc, hs]

theorem piecesOf_empty : piecesOf "" = [] := rfl

/-- The steps of a text up to a slash; the root if nothing stands before the slash. -/
def stepsToSlash (cs : List Char) : List Piece :=
  if cs = [] then [.root] else piecesOf (String.ofList cs)

theorem stepsToSlash_ne_nil (cs : List Char) : stepsToSlash cs ≠ [] := by
  unfold stepsToSlash
  split
  · simp
  · rename_i h
    cases cs with
    | nil => exact absurd rfl h
    | cons c rest =>
      by_cases hc : c = '/'
      · rw [hc, piecesOf_slash]
        exact List.cons_ne_nil _ _
      · rw [piecesOf_of_ne_slash hc]
        exact stepsAfterSlash_ne_nil _

/-- A slash in a path divides its steps. -/
theorem piecesOf_append_slash (xs ys : List Char) :
    piecesOf (String.ofList (xs ++ '/' :: ys)) = stepsToSlash xs ++ stepsAfterSlash ys := by
  have hsteps : ∀ cs, stepsAfterSlash (cs ++ '/' :: ys) =
      stepsAfterSlash cs ++ stepsAfterSlash ys := by
    intro cs
    rw [stepsAfterSlash, segments_append, List.map_append]
    rfl
  cases xs with
  | nil =>
    rw [List.nil_append, piecesOf_slash]
    rfl
  | cons c rest =>
    rw [stepsToSlash, if_neg (List.cons_ne_nil c rest)]
    by_cases hc : c = '/'
    · subst hc
      rw [List.cons_append, piecesOf_slash, piecesOf_slash, hsteps, List.cons_append]
    · rw [piecesOf_of_ne_slash hc, List.cons_append, piecesOf_of_ne_slash hc, ← List.cons_append,
        hsteps]

theorem ne_root_of_mem_tail (text : String) {p : Piece} (h : p ∈ (piecesOf text).tail) :
    p ≠ .root := by
  have hsteps : ∀ cs, p ∈ stepsAfterSlash cs → p ≠ .root := by
    intro cs hp
    obtain ⟨piece, _, rfl⟩ := List.mem_map.mp hp
    exact ofSegment_ne_root piece
  rw [← String.ofList_toList (s := text)] at h
  cases hcs : text.toList with
  | nil => simp [hcs, piecesOf_empty] at h
  | cons c rest =>
    rw [hcs] at h
    by_cases hc : c = '/'
    · rw [hc, piecesOf_slash] at h
      exact hsteps rest h
    · rw [piecesOf_of_ne_slash hc] at h
      exact hsteps _ (List.mem_of_mem_tail h)

end FileSystem

namespace Path

open FileSystem

theorem ofPiece?_false (piece : List Char) : Component.ofPiece? false piece =
    if piecesOf.ofSegment piece = .stay then none
    else some (piecesOf.ofSegment piece).component := by
  unfold Component.ofPiece? piecesOf.ofSegment
  split <;> simp_all [Piece.component]

theorem ofPiece?_true {piece : List Char} (h : piece ≠ []) :
    Component.ofPiece? true piece = some (piecesOf.ofSegment piece).component := by
  unfold Component.ofPiece? piecesOf.ofSegment
  split <;> simp_all [Piece.component]

theorem map_fst_pieces (start : Nat) (segs : List (List Char)) :
    (locatedComponents.pieces false start segs).map (·.1) =
      (moves (segs.map piecesOf.ofSegment)).map Piece.component := by
  induction segs generalizing start with
  | nil => rfl
  | cons piece rest ih =>
    simp only [locatedComponents.pieces, ofPiece?_false]
    by_cases hstay : piecesOf.ofSegment piece = .stay
    · simp [hstay, ih, moves]
    · simp [hstay, ih, moves]

/-- The components of a path are its steps without those that stay, but for the first one. -/
theorem components_eq (p : Path) :
    p.components = (stripped (piecesOf p.text)).map Piece.component := by
  obtain ⟨text⟩ := p
  rw [components, ← String.ofList_toList (s := text)]
  cases text.toList with
  | nil => rfl
  | cons c rest =>
    by_cases hc : c = '/'
    · subst hc
      rw [piecesOf_slash]
      simp [locatedComponents, map_fst_pieces, stripped, stepsAfterSlash, Piece.component]
    · rw [piecesOf_of_ne_slash hc, stepsAfterSlash]
      cases hs : segments '/' rest with
      | nil => exact absurd hs (segments_ne_nil '/' rest)
      | cons piece pieces =>
        simp [locatedComponents, hc, segments, hs, locatedComponents.pieces,
          ofPiece?_true (List.cons_ne_nil c piece), map_fst_pieces, stripped]

theorem components_eq_nil_iff {p : Path} : p.components = [] ↔ p.text = "" := by
  obtain ⟨text⟩ := p
  constructor
  · intro h
    rw [components_eq, ← String.ofList_toList (s := text)] at h
    cases hcs : text.toList with
    | nil => exact String.toList_eq_nil_iff.mp hcs
    | cons c rest =>
      rw [hcs] at h
      by_cases hc : c = '/'
      · rw [hc, piecesOf_slash] at h
        cases h
      · rw [piecesOf_of_ne_slash hc] at h
        cases hsteps : stepsAfterSlash (c :: rest) with
        | nil => exact absurd hsteps (stepsAfterSlash_ne_nil _)
        | cons first more =>
          rw [hsteps] at h
          cases h
  · rintro rfl
    rfl

/-! ## References -/

/-- A reference is read after the steps of the directory. -/
theorem piecesOf_join {base : Path} {reference : String}
    (relative : reference.toList.head? ≠ some '/') (nonempty : base.text ≠ "") :
    ∃ before, before ≠ [] ∧ stripped before = stripped (piecesOf base.text) ∧
      piecesOf (base.join reference).text = before ++ stepsAfterSlash reference.toList := by
  obtain ⟨text⟩ := base
  have hne : text.toList ≠ [] := fun h => nonempty (String.toList_eq_nil_iff.mp h)
  by_cases hlast : text.toList.getLast? = some '/'
  · obtain ⟨start, hstart⟩ := List.getLast?_eq_some_iff.mp hlast
    refine ⟨stepsToSlash start, stepsToSlash_ne_nil start, ?_, ?_⟩
    · rw [← String.ofList_toList (s := text), hstart, piecesOf_append_slash,
        stripped_append (stepsToSlash_ne_nil start)]
      simp [stepsAfterSlash, segments, piecesOf.ofSegment, moves]
    · have hjoin : (join ⟨text⟩ reference).text =
          String.ofList (start ++ '/' :: reference.toList) := by
        rw [← String.toList_inj]
        simp [join, relative, hstart]
      rw [hjoin, piecesOf_append_slash]
  · refine ⟨piecesOf text, ?_, rfl, ?_⟩
    · have hsteps := stepsToSlash_ne_nil text.toList
      rwa [stepsToSlash, if_neg hne, String.ofList_toList] at hsteps
    · have hjoin : (join ⟨text⟩ reference).text =
          String.ofList (text.toList ++ '/' :: reference.toList) := by
        rw [← String.toList_inj]
        simp [join, relative, hne, hlast]
      rw [hjoin, piecesOf_append_slash, stepsToSlash, if_neg hne, String.ofList_toList]

/-! ## Parents -/

/-- The text up to the end of one component has the components up to that one. -/
theorem pieces_take {first : Bool} {start : Nat} {segs : List (List Char)} {c : Component}
    {stop : Nat} {before after : List (Component × Nat)} (free : ∀ piece ∈ segs, '/' ∉ piece)
    (h : locatedComponents.pieces first start segs = before ++ (c, stop) :: after) :
    start ≤ stop ∧ locatedComponents.pieces first start
      (segments '/' ((Text.join ['/'] segs).take (stop - start))) = before ++ [(c, stop)] := by
  induction segs generalizing first start before with
  | nil => simp [locatedComponents.pieces] at h
  | cons piece rest ih =>
    have hpiece : '/' ∉ piece := free piece List.mem_cons_self
    have hfree : ∀ p ∈ rest, '/' ∉ p := fun p hp => free p (List.mem_cons_of_mem _ hp)
    -- what is left to say once the component, if any, lies behind this piece
    have later : ∀ before', locatedComponents.pieces false (start + piece.length + 1) rest =
        before' ++ (c, stop) :: after → start ≤ stop ∧
        ∃ more, segments '/' ((Text.join ['/'] (piece :: rest)).take (stop - start)) =
          piece :: more ∧ locatedComponents.pieces false (start + piece.length + 1) more =
            before' ++ [(c, stop)] := by
      intro before' hrest
      obtain ⟨hle, htake⟩ := ih hfree hrest
      cases rest with
      | nil => simp [locatedComponents.pieces] at hrest
      | cons next more =>
        refine ⟨by omega, _, ?_, htake⟩
        have hsplit : stop - start = piece.length + ((stop - (start + piece.length + 1)) + 1) := by
          omega
        rw [Text.join, hsplit, List.append_assoc, List.take_length_add_append]
        simp only [List.cons_append, List.nil_append, List.take_succ_cons]
        rw [segments_append, segments_eq_singleton hpiece]
        rfl
    simp only [locatedComponents.pieces] at h
    cases hc : Component.ofPiece? first piece with
    | none =>
      simp only [hc] at h
      obtain ⟨hle, more, hsegs, hmore⟩ := later before h
      exact ⟨hle, by simp [hsegs, locatedComponents.pieces, hc, hmore]⟩
    | some d =>
      simp only [hc] at h
      cases before with
      | nil =>
        simp only [List.nil_append, List.cons.injEq, Prod.mk.injEq] at h
        obtain ⟨⟨rfl, rfl⟩, _⟩ := h
        have htake : (Text.join ['/'] (piece :: rest)).take piece.length = piece := by
          cases rest <;> simp [Text.join]
        refine ⟨by omega, ?_⟩
        rw [Nat.add_sub_cancel_left, htake, segments_eq_singleton hpiece]
        simp [locatedComponents.pieces, hc]
      | cons b before' =>
        simp only [List.cons_append, List.cons.injEq] at h
        obtain ⟨rfl, h⟩ := h
        obtain ⟨hle, more, hsegs, hmore⟩ := later before' h
        exact ⟨hle, by simp [hsegs, locatedComponents.pieces, hc, hmore]⟩

theorem locatedComponents_take {cs : List Char} {c : Component} {stop : Nat}
    {before after : List (Component × Nat)}
    (h : locatedComponents cs = before ++ (c, stop) :: after) :
    locatedComponents (cs.take stop) = before ++ [(c, stop)] := by
  have free : ∀ rest : List Char, ∀ piece ∈ segments '/' rest, '/' ∉ piece :=
    fun rest piece hp => not_mem_of_mem_segments hp
  cases cs with
  | nil => cases before <;> simp [locatedComponents, locatedComponents.pieces, segments,
      Component.ofPiece?] at h
  | cons d rest =>
    by_cases hd : d = '/'
    · subst hd
      simp only [locatedComponents] at h
      cases before with
      | nil =>
        simp only [List.nil_append, List.cons.injEq, Prod.mk.injEq] at h
        obtain ⟨⟨rfl, rfl⟩, _⟩ := h
        rfl
      | cons b before' =>
        simp only [List.cons_append, List.cons.injEq] at h
        obtain ⟨rfl, h⟩ := h
        obtain ⟨hle, htake⟩ := pieces_take (free rest) h
        rw [join_segments] at htake
        obtain ⟨n, rfl⟩ : ∃ n, stop = n + 1 := ⟨stop - 1, by omega⟩
        simpa [locatedComponents] using htake
    · have hrelative : ∀ more, locatedComponents (d :: more) =
          locatedComponents.pieces true 0 (segments '/' (d :: more)) := by
        intro more
        simp [locatedComponents, hd]
      rw [hrelative] at h
      obtain ⟨_, htake⟩ := pieces_take (free _) h
      rw [join_segments, Nat.sub_zero] at htake
      cases stop with
      | zero =>
        cases before <;> simp [locatedComponents.pieces, segments, Component.ofPiece?] at htake
      | succ n =>
        rw [List.take_succ_cons] at htake ⊢
        rw [hrelative, htake]

theorem ne_root_of_mem_tail_components {p : Path} {c : Component} (h : c ∈ p.components.tail) :
    c ≠ .root := by
  rw [components_eq] at h
  cases hp : piecesOf p.text with
  | nil => simp [hp, stripped] at h
  | cons first rest =>
    rw [hp] at h
    obtain ⟨piece, hpiece, rfl⟩ := List.mem_map.mp (show c ∈ (moves rest).map _ from h)
    have hroot : piece ≠ .root := by
      refine ne_root_of_mem_tail p.text ?_
      rw [hp]
      exact (List.mem_filter.mp hpiece).1
    exact fun hc => hroot (Piece.eq_of_component_eq hc)

/-- The directory of a path has the components of the path but the last. -/
theorem components_parent? (p : Path) :
    ((p.parent?).getD ⟨""⟩).components = p.components.dropLast := by
  have hempty : (⟨""⟩ : Path).components = [] := rfl
  have hlist : locatedComponents p.text.toList =
      (locatedComponents p.text.toList).reverse.reverse := (List.reverse_reverse _).symm
  have hcomponents : p.components = (locatedComponents p.text.toList).map (·.1) := rfl
  unfold parent?
  cases hrev : (locatedComponents p.text.toList).reverse with
  | nil =>
    rw [hrev] at hlist
    simp [hempty, hcomponents, hlist]
  | cons last before =>
    obtain ⟨c, stop⟩ := last
    rw [hrev, List.reverse_cons] at hlist
    cases before with
    | nil =>
      rw [hcomponents, hlist]
      cases c <;> exact hempty
    | cons last' before' =>
      obtain ⟨c', stop'⟩ := last'
      have hroot : c ≠ .root := by
        refine ne_root_of_mem_tail_components (p := p) ?_
        rw [hcomponents, hlist, List.map_append, List.tail_append_of_ne_nil (by simp)]
        simp
      have htake : locatedComponents (p.text.toList.take stop') =
          before'.reverse ++ [(c', stop')] := by
        have hsplit : locatedComponents p.text.toList =
            before'.reverse ++ (c', stop') :: [(c, stop)] := by
          rw [hlist]
          simp
        exact locatedComponents_take hsplit
      have hparent : (⟨String.ofList (p.text.toList.take stop')⟩ : Path).components =
          p.components.dropLast := by
        rw [hcomponents, hlist, components, String.toList_ofList, htake]
        simp
      cases c with
      | root => exact absurd rfl hroot
      | current | parent | name n => exact hparent

end Path

end TypeDiscovery
