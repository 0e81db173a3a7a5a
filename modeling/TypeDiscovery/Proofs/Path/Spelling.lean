import TypeDiscovery.Proofs.Path.Components

/-!
# Spellings of one path

Texts with the same components need not be the same to a file system, since a slash at the end asks
for a directory. `Path.Twin` relates the spellings of a path that agree in this too. Twins lead to
the same item in every file system (`find_eq_of_twin`). Paths with the same components are twins if
both lead to files (`twin_of_isFile`), and a reference gives twins when it is read from directories
with the same components (`twin_join`).
-/

namespace TypeDiscovery

open Text

namespace Path

open FileSystem

/-! ## Twins -/

/-- A slash or a dot at the end of a path asks for a directory. -/
def AsksDirectory (p : Path) : Prop := (piecesOf p.text).tail.getLast? = some .stay

/-- Spellings with the same components, both or neither of which ask for a directory. -/
structure Twin (p q : Path) : Prop where
  components : p.components = q.components
  asks : p.AsksDirectory ↔ q.AsksDirectory

@[refl] theorem Twin.refl (p : Path) : Twin p p := ⟨rfl, Iff.rfl⟩

theorem same_iff {p q : Path} : p.same q = true ↔ p.components = q.components := by
  simp [same]

/-- A reference gives twins when it is read from directories with the same components. -/
theorem twin_join {a b : Path} (h : a.components = b.components) (reference : String) :
    Twin (a.join reference) (b.join reference) := by
  by_cases habs : reference.toList.head? = some '/'
  · simp [join, habs, Twin.refl]
  · by_cases hempty : a.text = ""
    · have hb : b.text = "" := by rw [← components_eq_nil_iff, ← h, components_eq_nil_iff, hempty]
      simp [join, hempty, hb, Twin.refl]
    · have hb : b.text ≠ "" := by
        rwa [Ne, ← components_eq_nil_iff, ← h, components_eq_nil_iff]
      obtain ⟨pa, hpa, hsa, hja⟩ := piecesOf_join habs hempty
      obtain ⟨pb, hpb, hsb, hjb⟩ := piecesOf_join habs hb
      have htail : ∀ before, before ≠ [] →
          (before ++ stepsAfterSlash reference.toList).tail.getLast? =
            (stepsAfterSlash reference.toList).getLast? := by
        intro before hbefore
        rw [List.tail_append_of_ne_nil hbefore, List.getLast?_append]
        cases hl : (stepsAfterSlash reference.toList).getLast? with
        | none => exact absurd (List.getLast?_eq_none_iff.mp hl) (stepsAfterSlash_ne_nil _)
        | some last => rfl
      constructor
      · rw [components_eq, components_eq] at h ⊢
        rw [hja, hjb, stripped_append hpa, stripped_append hpb, hsa, hsb, List.map_append,
          List.map_append, h]
      · rw [AsksDirectory, AsksDirectory, hja, hjb, htail pa hpa, htail pb hpb]

/-- References of archives with the same components are twins. -/
theorem twin_resolve {p q : Path} (h : p.components = q.components) (reference : String) :
    Twin (((p.parent?).getD ⟨""⟩).join reference) (((q.parent?).getD ⟨""⟩).join reference) :=
  twin_join (by rw [components_parent?, components_parent?, h]) reference

end Path

/-! ## Twins lead to the same item -/

namespace FileSystem

variable {fs : FileSystem}

/-- A step that stays changes nothing if another step follows. -/
theorem walk_stay (followLast : Bool) (links : Nat) (here : Place) (before : List Piece)
    {next : Piece} (after : List Piece) (hnext : next ≠ .root) :
    fs.walk followLast links here (before ++ .stay :: next :: after) =
      fs.walk followLast links here (before ++ next :: after) := by
  induction links using Nat.strongRecOn generalizing before here with
  | ind links fewer =>
    induction before generalizing here with
    | nil =>
      rw [List.nil_append, List.nil_append, walk]
      split
      · rfl
      · rename_i hdir
        cases next with
        | root => exact absurd rfl hnext
        | stay | up | name n => simp [walk, hdir]
    | cons first before ih =>
      have hleft : (before ++ .stay :: next :: after).isEmpty = false := by simp
      have hright : (before ++ next :: after).isEmpty = false := by simp
      rw [List.cons_append, List.cons_append]
      cases first with
      | root => simp only [walk, ih]
      | stay => simp only [walk, ih]
      | up => simp only [walk, ih]
      | name n =>
        simp only [walk, hleft, hright, Bool.false_and, Bool.false_eq_true, if_false]
        split
        · cases fs.item? (here ++ [n]) with
          | none => rfl
          | some item =>
            cases item with
            | file bytes modified => exact ih _
            | directory => exact ih _
            | link target =>
              cases links with
              | zero => rfl
              | succ links =>
                have hfewer := fewer links (Nat.lt_succ_self links) here (piecesOf target ++ before)
                simpa only [List.append_assoc] using hfewer
        · rfl

/-- Steps without those that stay, but for one at the end. -/
def settled (pieces : List Piece) : List Piece :=
  moves pieces ++ if pieces.getLast? = some .stay then [.stay] else []

theorem walk_settled (followLast : Bool) (links : Nat) (here : Place) (before : List Piece)
    {pieces : List Piece} (noRoot : ∀ p ∈ pieces, p ≠ .root) :
    fs.walk followLast links here (before ++ settled pieces) =
      fs.walk followLast links here (before ++ pieces) := by
  induction pieces generalizing before with
  | nil => rfl
  | cons first rest ih =>
    have hrest : ∀ p ∈ rest, p ≠ .root := fun p hp => noRoot p (List.mem_cons_of_mem _ hp)
    cases rest with
    | nil => by_cases hstay : first = .stay <;> simp [settled, moves, hstay]
    | cons next more =>
      have hlast : (first :: next :: more).getLast? = (next :: more).getLast? := by simp
      by_cases hstay : first = .stay
      · have hsettled : settled (first :: next :: more) = settled (next :: more) := by
          rw [settled, hlast, settled, moves, List.filter_cons_of_neg (by simp [hstay])]
          rfl
        rw [hsettled, ih before hrest, hstay,
          walk_stay followLast links here before more (hrest next List.mem_cons_self)]
      · have hsettled : settled (first :: next :: more) = first :: settled (next :: more) := by
          rw [settled, hlast, settled, moves, List.filter_cons_of_pos (by simp [hstay])]
          rfl
        have hmore := ih (before ++ [first]) hrest
        rw [hsettled]
        simpa using hmore

theorem walk_of_find_eq_ok {path : Path} {place : Place} {item : Item}
    (h : fs.find path = .ok (place, item)) :
    fs.walk true linkLimit workingDirectory (piecesOf path.text) = .ok place := by
  unfold find stepsOf at h
  split at h
  · cases h
  · simp only [bind, Except.bind] at h
    unfold placeOf at h
    by_cases hempty : (piecesOf path.text).isEmpty = true
    · simp [hempty] at h
    · rw [if_neg hempty] at h
      cases hw : fs.walk true linkLimit workingDirectory (piecesOf path.text) with
      | error e => simp [hw] at h
      | ok there =>
        simp only [hw] at h
        cases hi : fs.item? there with
        | none => simp [hi] at h
        | some found =>
          simp only [hi, pure, Except.pure, Except.ok.injEq, Prod.mk.injEq] at h
          rw [h.1]

/-- A path that asks for a directory leads to one. -/
theorem item?_of_walk_stay (followLast : Bool) (links : Nat) (here : Place) (before : List Piece)
    {place : Place} (h : fs.walk followLast links here (before ++ [.stay]) = .ok place) :
    fs.item? place = some .directory := by
  induction links using Nat.strongRecOn generalizing before here with
  | ind links fewer =>
    induction before generalizing here with
    | nil =>
      rw [List.nil_append, walk] at h
      split at h
      · rename_i hdir
        simp only [walk, Except.ok.injEq] at h
        exact h ▸ hdir
      · cases h
    | cons first before ih =>
      have hrest : (before ++ [Piece.stay]).isEmpty = false := by simp
      rw [List.cons_append] at h
      cases first with
      | root =>
        rw [walk] at h
        exact ih _ h
      | stay | up =>
        rw [walk] at h
        split at h
        · exact ih _ h
        · cases h
      | name n =>
        simp only [walk, hrest, Bool.false_and, Bool.false_eq_true, if_false] at h
        split at h
        · cases hi : fs.item? (here ++ [n]) with
          | none => simp [hi] at h
          | some item =>
            simp only [hi] at h
            cases item with
            | file bytes modified => exact ih _ h
            | directory => exact ih _ h
            | link target =>
              cases links with
              | zero => cases h
              | succ links =>
                refine fewer links (Nat.lt_succ_self links) here (piecesOf target ++ before) ?_
                rw [List.append_assoc]
                exact h
        · cases h

/-- The names with a forbidden character are seen in the components. -/
theorem nul_mem_iff (p : Path) :
    '\x00' ∈ p.text.toList ↔ ∃ n, Path.Component.name n ∈ p.components ∧ '\x00' ∈ n.toList := by
  have hsteps : ∀ cs : List Char, '\x00' ∈ cs ↔
      ∃ n, Piece.name n ∈ stepsAfterSlash cs ∧ '\x00' ∈ n.toList := by
    intro cs
    have hslash : '\x00' ≠ '/' := by decide
    rw [mem_iff_exists_mem_segments hslash]
    constructor
    · rintro ⟨piece, hpiece, hnul⟩
      refine ⟨String.ofList piece, List.mem_map.mpr ⟨piece, hpiece, ?_⟩, by simpa using hnul⟩
      unfold piecesOf.ofSegment
      split <;> simp_all
    · rintro ⟨n, hn, hnul⟩
      obtain ⟨piece, hpiece, hname⟩ := List.mem_map.mp hn
      refine ⟨piece, hpiece, ?_⟩
      unfold piecesOf.ofSegment at hname
      split at hname
      · cases hname
      · cases hname
      · cases hname
      · rw [← Piece.name.inj hname, String.toList_ofList] at hnul
        exact hnul
  have hpieces : '\x00' ∈ p.text.toList ↔
      ∃ n, Piece.name n ∈ piecesOf p.text ∧ '\x00' ∈ n.toList := by
    rw [← String.ofList_toList (s := p.text)]
    cases p.text.toList with
    | nil =>
      have hnone : piecesOf (String.ofList []) = [] := rfl
      simp only [hnone, String.toList_ofList, List.not_mem_nil, false_and, exists_false]
    | cons c rest =>
      rw [String.toList_ofList]
      by_cases hc : c = '/'
      · subst hc
        rw [piecesOf_slash, List.mem_cons, hsteps rest]
        simp
      · rw [piecesOf_of_ne_slash hc, ← hsteps]
  have hnames : ∀ n, Piece.name n ∈ piecesOf p.text ↔
      Path.Component.name n ∈ p.components := by
    intro n
    rw [Path.components_eq]
    have hmem : ∀ pieces : List Piece,
        Path.Component.name n ∈ pieces.map Piece.component ↔ Piece.name n ∈ pieces := by
      intro pieces
      constructor
      · intro h
        obtain ⟨piece, hpiece, hname⟩ := List.mem_map.mp h
        rwa [← Piece.eq_of_component_eq (b := .name n) hname]
      · exact fun h => List.mem_map.mpr ⟨_, h, rfl⟩
    rw [hmem]
    cases piecesOf p.text with
    | nil => rfl
    | cons first rest => simp [stripped, moves]
  simp only [hpieces, hnames]

end FileSystem

namespace Path

open FileSystem

variable {fs : FileSystem} {p q : Path}

theorem walk_eq_of_twin (h : Twin p q) (followLast : Bool) (links : Nat) (here : Place) :
    fs.walk followLast links here (piecesOf p.text) =
      fs.walk followLast links here (piecesOf q.text) := by
  have hcomponents := h.components
  have hasks := h.asks
  rw [components_eq, components_eq] at hcomponents
  unfold AsksDirectory at hasks
  have hrootp : ∀ piece ∈ (piecesOf p.text).tail, piece ≠ .root := fun _ => ne_root_of_mem_tail _
  have hrootq : ∀ piece ∈ (piecesOf q.text).tail, piece ≠ .root := fun _ => ne_root_of_mem_tail _
  cases hp : piecesOf p.text with
  | nil =>
    rw [hp] at hcomponents
    cases hq : piecesOf q.text with
    | nil => rfl
    | cons first rest => simp [hq, stripped] at hcomponents
  | cons a r =>
    cases hq : piecesOf q.text with
    | nil => simp [hp, hq, stripped] at hcomponents
    | cons b r' =>
      rw [hp, hq] at hcomponents hasks
      rw [hp] at hrootp
      rw [hq] at hrootq
      simp only [stripped, List.map_cons, List.cons.injEq] at hcomponents
      obtain ⟨hfirst, hmoves⟩ := hcomponents
      have hab : a = b := Piece.eq_of_component_eq hfirst
      have hmoves' : moves r = moves r' :=
        (List.map_inj_right fun _ _ => Piece.eq_of_component_eq).mp hmoves
      have hsettled : settled r = settled r' := by
        simp only [List.tail_cons] at hasks
        simp only [settled, hmoves', hasks]
      have hp' := @walk_settled fs followLast links here [a] _ hrootp
      have hq' := @walk_settled fs followLast links here [b] _ hrootq
      rw [List.tail_cons, hsettled] at hp'
      rw [List.tail_cons] at hq'
      rw [List.singleton_append] at hp' hq'
      rw [← List.singleton_append, ← hp', ← List.singleton_append (l := r'), ← hq', hab]

/-- Twins lead to the same item in every file system. -/
theorem find_eq_of_twin (h : Twin p q) : fs.find p = fs.find q := by
  have hnul : p.text.toList.contains '\x00' = q.text.toList.contains '\x00' := by
    rw [Bool.eq_iff_iff, List.contains_iff_mem, List.contains_iff_mem, nul_mem_iff, nul_mem_iff,
      h.components]
  have hempty : (piecesOf p.text).isEmpty = (piecesOf q.text).isEmpty := by
    have hcomponents := h.components
    rw [components_eq, components_eq] at hcomponents
    cases hp : piecesOf p.text <;> cases hq : piecesOf q.text <;>
      simp [hp, hq, stripped] at hcomponents ⊢
  have hplace : fs.placeOf true (piecesOf p.text) = fs.placeOf true (piecesOf q.text) := by
    rw [placeOf, placeOf, hempty, walk_eq_of_twin h]
  unfold find stepsOf
  rw [hnul]
  split
  · rfl
  · simp only [bind, Except.bind, hplace]

/-- A path that leads to a file does not ask for a directory. -/
theorem not_asksDirectory_of_isFile (h : fs.isFile p = true) : ¬p.AsksDirectory := by
  intro hasks
  obtain ⟨init, hinit⟩ := List.getLast?_eq_some_iff.mp hasks
  unfold isFile at h
  split at h
  · rename_i place bytes modified hfind
    have hitem := item?_of_find_eq_ok hfind
    have hwalk := walk_of_find_eq_ok hfind
    have hpieces : piecesOf p.text = (piecesOf p.text).take 1 ++ init ++ [.stay] := by
      rw [List.append_assoc, ← hinit]
      cases piecesOf p.text <;> rfl
    rw [hpieces] at hwalk
    rw [item?_of_walk_stay true linkLimit workingDirectory _ hwalk] at hitem
    cases hitem
  · cases h

/-- Paths with the same components that both lead to files are twins, be it in different file
systems. -/
theorem twin_of_isFile {fs' : FileSystem} (h : p.components = q.components)
    (hp : fs.isFile p = true) (hq : fs'.isFile q = true) : Twin p q :=
  ⟨h, iff_of_false (not_asksDirectory_of_isFile hp) (not_asksDirectory_of_isFile hq)⟩

end Path

end TypeDiscovery
