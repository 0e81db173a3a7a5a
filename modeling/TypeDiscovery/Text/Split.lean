/-!
# Cutting texts at single characters

Names and paths are cut at a separator: into all their segments, or at its last occurrence.
The functions work on lists of characters; `segments` loses nothing (`join_segments`), its
pieces are free of the separator (`not_mem_of_mem_segments`), and one text has the first pieces of
another one only up to a separator (`segments_prefix_iff`). A separator that is changed into a
character new to the text is one at which the text is cut as before (`splitLast?_replaceChar`).
-/

namespace TypeDiscovery.Text

/-- The pieces between the occurrences of a separator; one more than there are occurrences. -/
def segments (sep : Char) : List Char → List (List Char)
  | [] => [[]]
  | c :: rest =>
    if c = sep then [] :: segments sep rest
    else match segments sep rest with
      | [] => [[c]]
      | piece :: pieces => (c :: piece) :: pieces

/-- The pieces written one after the other with the separator between them. -/
def join (sep : List Char) : List (List Char) → List Char
  | [] => []
  | [piece] => piece
  | piece :: next :: pieces => piece ++ sep ++ join sep (next :: pieces)

theorem segments_ne_nil (sep : Char) (cs : List Char) : segments sep cs ≠ [] := by
  cases cs with
  | nil => simp [segments]
  | cons c rest =>
    simp only [segments]
    split
    · simp
    · split <;> simp

theorem join_segments (sep : Char) (cs : List Char) : join [sep] (segments sep cs) = cs := by
  induction cs with
  | nil => rfl
  | cons c rest ih =>
    have hne := segments_ne_nil sep rest
    simp only [segments]
    cases hs : segments sep rest with
    | nil => exact absurd hs hne
    | cons piece pieces =>
      rw [hs] at ih
      by_cases hc : c = sep
      · simp [hc, join, ih]
      · cases pieces with
        | nil => simpa [hc, join] using ih
        | cons next pieces => simpa [hc, join] using ih

theorem join_append {sep : List Char} {ps qs : List (List Char)} (hps : ps ≠ []) (hqs : qs ≠ []) :
    join sep (ps ++ qs) = join sep ps ++ sep ++ join sep qs := by
  induction ps with
  | nil => exact absurd rfl hps
  | cons p rest ih =>
    cases rest with
    | nil =>
      obtain ⟨q, more, rfl⟩ := List.exists_cons_of_ne_nil hqs
      rfl
    | cons next more =>
      have hrest := ih (List.cons_ne_nil _ _)
      simp only [List.cons_append, join, List.append_assoc] at hrest ⊢
      rw [hrest]

theorem not_mem_of_mem_segments {sep : Char} {cs piece : List Char}
    (h : piece ∈ segments sep cs) : sep ∉ piece := by
  induction cs generalizing piece with
  | nil => simp_all [segments]
  | cons c rest ih =>
    simp only [segments] at h
    split at h
    · rcases List.mem_cons.mp h with rfl | h
      · simp
      · exact ih h
    · rename_i hc
      cases hs : segments sep rest with
      | nil => exact absurd hs (segments_ne_nil sep rest)
      | cons p ps =>
        rw [hs] at h ih
        rcases List.mem_cons.mp h with rfl | h
        · have : sep ∉ p := ih (by simp)
          simp [this, Ne.symm hc]
        · exact ih (by simp [h])

theorem segments_append (sep : Char) (xs ys : List Char) :
    segments sep (xs ++ sep :: ys) = segments sep xs ++ segments sep ys := by
  induction xs with
  | nil => simp [segments]
  | cons c rest ih =>
    simp only [List.cons_append, segments, ih]
    split
    · rfl
    · cases hs : segments sep rest with
      | nil => exact absurd hs (segments_ne_nil sep rest)
      | cons piece pieces => rfl

/-- The pieces of one text come first among those of another one if that text is the same, or if it
goes on with the separator. -/
theorem segments_prefix_iff {sep : Char} {xs ys : List Char} :
    segments sep xs <+: segments sep ys ↔ xs = ys ∨ xs ++ [sep] <+: ys := by
  constructor
  · rintro ⟨more, hmore⟩
    have hys : ys = join [sep] (segments sep xs ++ more) := by rw [hmore, join_segments]
    by_cases hnil : more = []
    · left
      rw [hys, hnil, List.append_nil, join_segments]
    · right
      rw [join_append (segments_ne_nil sep xs) hnil, join_segments] at hys
      exact ⟨_, hys.symm⟩
  · rintro (rfl | ⟨rest, rfl⟩)
    · exact List.prefix_refl _
    · rw [List.append_assoc, List.singleton_append, segments_append]
      exact List.prefix_append _ _

theorem segments_eq_singleton {sep : Char} {cs : List Char} (h : sep ∉ cs) :
    segments sep cs = [cs] := by
  induction cs with
  | nil => rfl
  | cons c rest ih =>
    simp only [List.mem_cons, not_or] at h
    simp [segments, ih h.2, Ne.symm h.1]

/-- Pieces that are free of the separator are found again between its occurrences. -/
theorem segments_intercalate {sep : Char} {pieces : List (List Char)} (hne : pieces ≠ [])
    (free : ∀ piece ∈ pieces, sep ∉ piece) : segments sep ([sep].intercalate pieces) = pieces := by
  induction pieces with
  | nil => exact absurd rfl hne
  | cons piece rest ih =>
    have hpiece : segments sep piece = [piece] :=
      segments_eq_singleton (free piece List.mem_cons_self)
    cases rest with
    | nil => simpa [List.intercalate] using hpiece
    | cons next more =>
      rw [List.intercalate_cons_cons, List.append_assoc, List.singleton_append, segments_append,
        hpiece, ih (List.cons_ne_nil _ _) fun p hp => free p (List.mem_cons_of_mem _ hp)]
      rfl

/-- What stands between the separators is all that is in the text besides them. -/
theorem mem_iff_exists_mem_segments {sep c : Char} (hc : c ≠ sep) {cs : List Char} :
    c ∈ cs ↔ ∃ piece ∈ segments sep cs, c ∈ piece := by
  induction cs with
  | nil => simp [segments]
  | cons d rest ih =>
    rw [List.mem_cons, ih, segments]
    split
    · rename_i hd
      simp [hd, hc]
    · cases hs : segments sep rest with
      | nil => exact absurd hs (segments_ne_nil sep rest)
      | cons piece pieces => simp [or_assoc]

/-- The text before and the text after the last occurrence of a separator, if there is one. -/
def splitLast? (sep : Char) : List Char → Option (List Char × List Char)
  | [] => none
  | c :: rest =>
    match splitLast? sep rest with
    | some (before, after) => some (c :: before, after)
    | none => if c = sep then some ([], rest) else none

theorem splitLast?_eq_none_iff {sep : Char} {cs : List Char} :
    splitLast? sep cs = none ↔ sep ∉ cs := by
  induction cs with
  | nil => simp [splitLast?]
  | cons c rest ih =>
    simp only [splitLast?]
    cases hs : splitLast? sep rest with
    | some p =>
      have : sep ∈ rest := by simpa [hs] using ih
      simp [this]
    | none =>
      have : sep ∉ rest := ih.mp hs
      simp [this, eq_comm (a := sep)]

theorem splitLast?_eq_some {sep : Char} {cs before after : List Char}
    (h : splitLast? sep cs = some (before, after)) : cs = before ++ sep :: after ∧ sep ∉ after := by
  induction cs generalizing before with
  | nil => simp [splitLast?] at h
  | cons c rest ih =>
    simp only [splitLast?] at h
    cases hs : splitLast? sep rest with
    | some p =>
      obtain ⟨b, a⟩ := p
      simp only [hs, Option.some.injEq, Prod.mk.injEq] at h
      obtain ⟨rfl, rfl⟩ := h
      obtain ⟨h1, h2⟩ := ih hs
      exact ⟨by simp [h1], h2⟩
    | none =>
      simp only [hs] at h
      split at h
      · rename_i hc
        simp only [Option.some.injEq, Prod.mk.injEq] at h
        obtain ⟨rfl, rfl⟩ := h
        exact ⟨by simp [hc], splitLast?_eq_none_iff.mp hs⟩
      · simp at h

/-- The text after the last occurrence of a separator, or all of it. -/
def lastPiece (sep : Char) (cs : List Char) : List Char :=
  match splitLast? sep cs with
  | some (_, after) => after
  | none => cs

/-- The text without a given ending, if it has that ending. -/
def stripSuffix? (ending cs : List Char) : Option (List Char) :=
  if ending.isSuffixOf cs then some (cs.take (cs.length - ending.length)) else none

theorem stripSuffix?_eq_some_iff {ending cs stem : List Char} :
    stripSuffix? ending cs = some stem ↔ cs = stem ++ ending := by
  simp only [stripSuffix?, List.isSuffixOf_iff_suffix]
  constructor
  · intro h
    split at h
    · rename_i hs
      obtain ⟨t, rfl⟩ := hs
      simpa using h
    · simp at h
  · rintro rfl
    simp

/-- The text without the occurrences of a character at its end. -/
def trimEnd (sep : Char) : List Char → List Char
  | [] => []
  | c :: rest =>
    match trimEnd sep rest with
    | [] => if c = sep then [] else [c]
    | d :: kept => c :: d :: kept

/-- The text with every occurrence of one character changed to another. -/
def replaceChar (old new : Char) (cs : List Char) : List Char :=
  cs.map fun c => if c = old then new else c

section replaceChar

variable {old new : Char} {cs : List Char}

theorem mem_replaceChar {c : Char} :
    c ∈ replaceChar old new cs ↔ c ∈ cs ∧ c ≠ old ∨ old ∈ cs ∧ c = new := by
  rw [replaceChar, List.mem_map]
  constructor
  · rintro ⟨d, hd, rfl⟩
    by_cases heq : d = old
    · rw [if_pos heq]
      exact .inr ⟨heq ▸ hd, rfl⟩
    · rw [if_neg heq]
      exact .inl ⟨hd, heq⟩
  · rintro (⟨hc, hne⟩ | ⟨hold, rfl⟩)
    · exact ⟨c, hc, if_neg hne⟩
    · exact ⟨old, hold, if_pos rfl⟩

theorem replaceChar_of_not_mem (h : old ∉ cs) : replaceChar old new cs = cs := by
  refine (List.map_congr_left fun c hc => ?_).trans (List.map_id cs)
  exact if_neg fun (heq : c = old) => h (heq ▸ hc)

/-- Changing back loses the difference between the two characters, and nothing else. -/
theorem replaceChar_replaceChar :
    replaceChar new old (replaceChar old new cs) = replaceChar new old cs := by
  rw [replaceChar, replaceChar, replaceChar, List.map_map]
  refine List.map_congr_left fun c _ => ?_
  by_cases hc : c = old <;> simp [hc]

theorem head?_replaceChar_eq_some_iff (h : new ∉ cs) :
    (replaceChar old new cs).head? = some new ↔ cs.head? = some old := by
  cases cs with
  | nil => simp [replaceChar]
  | cons c rest =>
    have hc : c ≠ new := fun heq => h (heq ▸ List.mem_cons_self)
    by_cases hold : c = old <;> simp [replaceChar, hold, hc]

theorem splitLast?_replaceChar (h : new ∉ cs) :
    splitLast? new (replaceChar old new cs) =
      (splitLast? old cs).map fun (before, after) => (replaceChar old new before, after) := by
  unfold replaceChar
  induction cs with
  | nil => rfl
  | cons c rest ih =>
    rw [List.mem_cons, not_or] at h
    rw [List.map_cons, splitLast?, splitLast?, ih h.2]
    cases hsplit : splitLast? old rest with
    | some p => rfl
    | none =>
      have hfree : rest.map (fun c => if c = old then new else c) = rest :=
        replaceChar_of_not_mem (splitLast?_eq_none_iff.mp hsplit)
      by_cases hold : c = old
      · simp [hold, hfree]
      · simp [hold, Ne.symm h.1]

theorem lastPiece_replaceChar (h : new ∉ cs) :
    lastPiece new (replaceChar old new cs) = lastPiece old cs := by
  rw [lastPiece, lastPiece, splitLast?_replaceChar h]
  cases hsplit : splitLast? old cs with
  | some p => rfl
  | none => exact replaceChar_of_not_mem (splitLast?_eq_none_iff.mp hsplit)

end replaceChar

/-- The text with every occurrence, from left to right, of a non-empty word changed to another. -/
def replaceWord (old new : List Char) (cs : List Char) : List Char :=
  if old.isEmpty then cs else go cs 0
where
  /-- `skip` counts the characters of a matched word that are still to be passed over. -/
  go : List Char → Nat → List Char
    | [], _ => []
    | _ :: rest, skip + 1 => go rest skip
    | c :: rest, 0 =>
      if old.isPrefixOf (c :: rest) then new ++ go rest (old.length - 1) else c :: go rest 0

end TypeDiscovery.Text
