import Mathlib.Data.Option.Basic
import TypeDiscovery.Pattern.Escape

/-!
# Reading a text that goes on

What a text is read as stays the same when more characters come after it, as far as these do not
belong to what is read. Here they are what closes a pattern between anchors. Blanks and comments
are the difficulty: reading may pass over those at the end of the text, and then goes on to pass
over what follows.
-/

namespace TypeDiscovery.Pattern

/-- The end of an anchored pattern. -/
def Closing (w : List Char) : Prop := w = [')', '$'] ∨ w = ['\n', ')', '$']

/-- What is left of a text where reading has passed over blanks and comments, inside a comment
perhaps. -/
def Tail (verbose : Bool) (w t : List Char) : Prop :=
  t = skip verbose w ∨ verbose = true ∧ t = dropComments true w

/-- What is left to read of a text with more characters `w` after it, when `rest` is left of the
text itself. -/
def Follows (verbose : Bool) (w rest rest' : List Char) : Prop :=
  rest' = rest ++ w ∨ rest = [] ∧ Tail verbose w rest'

/-! ## Blanks and comments -/

section Comments

variable {v : Bool} {c : Char} {w t rest rest' tail : List Char}

theorem dropComments_append_of_cons {inComment : Bool}
    (h : dropComments inComment rest = c :: tail) :
    dropComments inComment (rest ++ w) = c :: (tail ++ w) := by
  fun_induction dropComments inComment rest with
  | case1 => cases h
  | case2 d rest ih => exact ih h
  | case3 inComment d rest hcomment hblank ih =>
    simpa [dropComments, hcomment, hblank] using ih h
  | case4 inComment d rest hcomment hblank hsign ih =>
    simpa [dropComments, hcomment, hblank, hsign] using ih h
  | case5 inComment d rest hcomment hblank hsign =>
    cases h
    simp [dropComments, hcomment, hblank, hsign]

theorem dropComments_append_of_nil {inComment : Bool} (h : dropComments inComment rest = []) :
    ∃ b, dropComments inComment (rest ++ w) = dropComments b w := by
  fun_induction dropComments inComment rest with
  | case1 inComment => exact ⟨inComment, rfl⟩
  | case2 d rest ih => exact ih h
  | case3 inComment d rest hcomment hblank ih =>
    simpa [dropComments, hcomment, hblank] using ih h
  | case4 inComment d rest hcomment hblank hsign ih =>
    simpa [dropComments, hcomment, hblank, hsign] using ih h
  | case5 => cases h

theorem dropComments_dropComments (inComment : Bool) (cs : List Char) :
    dropComments false (dropComments inComment cs) = dropComments inComment cs := by
  induction cs generalizing inComment with
  | nil => rfl
  | cons c rest ih =>
    simp only [dropComments]
    split
    · exact ih _
    · split
      · exact ih _
      · split
        · exact ih _
        · rename_i hblank hsign
          simp [dropComments, hblank, hsign]

theorem Tail.skip (h : Tail v w t) : skip v t = t := by
  cases v with
  | false => rfl
  | true =>
    rcases h with rfl | ⟨_, rfl⟩
    · exact dropComments_dropComments false w
    · exact dropComments_dropComments true w

theorem tail_dropComments (inComment : Bool) : Tail true w (dropComments inComment w) := by
  cases inComment with
  | false => exact .inl rfl
  | true => exact .inr ⟨rfl, rfl⟩

/-- What closes a pattern is left whole, or without its line feed, or it is part of a comment. -/
theorem Tail.cases (closing : Closing w) (h : Tail v w t) :
    t = [')', '$'] ∨ (v = false ∧ w = ['\n', ')', '$'] ∧ t = ['\n', ')', '$']) ∨
      (v = true ∧ w = [')', '$'] ∧ t = []) := by
  rcases h with rfl | ⟨rfl, rfl⟩
  · rcases closing with rfl | rfl <;> revert v <;> decide
  · rcases closing with rfl | rfl <;> decide

theorem Follows.refl : Follows v w rest (rest ++ w) := .inl rfl

theorem Follows.cons (h : Follows v w (c :: rest) rest') : rest' = c :: (rest ++ w) := by
  rcases h with rfl | ⟨h, _⟩
  · rfl
  · cases h

theorem skip_append_of_cons (h : skip v rest = c :: tail) :
    skip v (rest ++ w) = c :: (tail ++ w) := by
  cases v with
  | false =>
    obtain rfl : rest = c :: tail := h
    rfl
  | true => exact dropComments_append_of_cons h

theorem skip_append (h : skip v rest ≠ []) : skip v (rest ++ w) = skip v rest ++ w := by
  obtain ⟨c, tail, hskip⟩ := List.exists_cons_of_ne_nil h
  rw [skip_append_of_cons hskip, hskip, List.cons_append]

theorem Follows.skip_of_cons (h : Follows v w rest rest') (hskip : skip v rest = c :: tail) :
    skip v rest' = c :: (tail ++ w) := by
  rcases h with rfl | ⟨rfl, _⟩
  · exact skip_append_of_cons hskip
  · cases v <;> cases hskip

theorem Follows.skip_of_nil (h : Follows v w rest rest') (hskip : skip v rest = []) :
    Tail v w (skip v rest') := by
  rcases h with rfl | ⟨rfl, ht⟩
  · cases v with
    | false =>
      obtain rfl : rest = [] := hskip
      exact .inl rfl
    | true =>
      -- the text may end inside a comment, which then runs on
      obtain ⟨b, hb⟩ := dropComments_append_of_nil (w := w) hskip
      have hb : skip true (rest ++ w) = dropComments b w := hb
      rw [hb]
      exact tail_dropComments b
  · rwa [ht.skip]

theorem Follows.skip (h : Follows v w rest rest') :
    Follows v w (skip v rest) (skip v rest') := by
  cases hskip : Pattern.skip v rest with
  | nil => exact .inr ⟨rfl, h.skip_of_nil hskip⟩
  | cons c tail => exact .inl (h.skip_of_cons hskip)

theorem Follows.of_nil (closing : Closing w) (h : Follows v w [] t) :
    t = [')', '$'] ∨ t = ['\n', ')', '$'] ∨ t = [] := by
  rcases h with rfl | ⟨_, ht⟩
  · rcases closing with rfl | rfl
    · exact .inl rfl
    · exact .inr (.inl rfl)
  · rcases ht.cases closing with ht | ⟨_, _, ht⟩ | ⟨_, _, ht⟩
    · exact .inl ht
    · exact .inr (.inl ht)
    · exact .inr (.inr ht)

end Comments

/-- A reader takes characters as long as they pass a test, passing over blanks and comments between
them. -/
structure TakesWhile (verbose : Bool) (test : Char → Bool)
    (read : List Char → List Char × List Char) : Prop where
  nil : read [] = ([], [])
  cons : ∀ c rest, read (c :: rest) =
    if test c then (c :: (read (skip verbose rest)).1, (read (skip verbose rest)).2)
    else ([], c :: rest)

theorem TakesWhile.ne_nil {v : Bool} {test : Char → Bool}
    {read : List Char → List Char × List Char} (takes : TakesWhile v test read) {cs : List Char}
    (h : (read cs).2 ≠ []) : cs ≠ [] := by
  rintro rfl
  rw [takes.nil] at h
  exact h rfl

/-- If it stops at a character, it stops there in a text that goes on. -/
theorem TakesWhile.append {v : Bool} {w : List Char} {test : Char → Bool}
    {read : List Char → List Char × List Char} (takes : TakesWhile v test read)
    {cs taken after : List Char} (h : read cs = (taken, after)) (hafter : after ≠ []) :
    read (cs ++ w) = (taken, after ++ w) := by
  induction hlength : cs.length using Nat.strongRecOn generalizing cs taken with
  | _ n ih =>
    cases cs with
    | nil =>
      rw [takes.nil] at h
      cases h
      exact absurd rfl hafter
    | cons c rest =>
      rw [takes.cons] at h
      rw [List.cons_append, takes.cons]
      split at h
      · rename_i htest
        cases h
        have hskip := takes.ne_nil hafter
        have hshorter : (skip v rest).length < n := by
          have hle := skip_length_le v rest
          rw [← hlength, List.length_cons]
          omega
        rw [if_pos htest, skip_append hskip, ih _ hshorter rfl rfl]
      · rename_i htest
        cases h
        rw [if_neg htest]
        rfl

/-! ## Escapes -/

section Escapes

variable {v : Bool} {w : List Char}

end Escapes

end TypeDiscovery.Pattern
