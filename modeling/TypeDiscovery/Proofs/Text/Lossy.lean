import TypeDiscovery.Proofs.Text.Utf8

/-!
# Lenient decoding piece by piece

Lenient decoding of bytes cut at an ASCII character is decoding of the parts (`decodeLossy_append`).
Cut elsewhere, an encoding may come out otherwise; but as long as no replacement character comes,
what comes out is what was encoded (`eq_encode_append`).
-/

namespace TypeDiscovery.Text.Utf8

/-- The character that stands for bytes that are none. -/
def replacement : Char := '\uFFFD'

/-- What a chunk becomes when bytes follow that cannot complete it. -/
def Chunk.settled (size : Nat) : Chunk → Chunk
  | incomplete => invalid size
  | chunk => chunk

theorem chunk_append {a b : UInt8} (hb : b.toNat < 128) (rest more : List UInt8) :
    chunk a (rest ++ b :: more) = (chunk a rest).settled (rest.length + 1) := by
  have htail : isTail b = false := by
    rw [Bool.eq_false_iff, ne_eq, isTail_iff]
    omega
  have hsecond : secondAllowed a b = false := by
    rw [Bool.eq_false_iff, ne_eq, secondAllowed_iff]
    omega
  -- the chunk of the longer bytes takes the same branch, and breaks off only where `b` would come
  fun_cases chunk a rest <;>
    simp only [chunk, Chunk.settled, List.nil_append, List.cons_append, List.length_nil,
      List.length_cons, if_true, if_false, Bool.false_eq_true, *]

/-- A chunk that takes no more than the given number of bytes. -/
def Chunk.Within (size : Nat) : Chunk → Prop
  | char _ width | invalid width => width ≤ size
  | incomplete => True

theorem chunk_within (a : UInt8) (rest : List UInt8) : (chunk a rest).Within (rest.length + 1) := by
  fun_cases chunk a rest <;> simp [Chunk.Within]

theorem encodeChar_of_ascii {c : Char} (hc : c.toNat < 128) : encodeChar c = [c.toUInt8] := by
  rw [encodeChar, if_pos hc]
  rfl

theorem decodeLossy_cons_ascii {c : Char} (hc : c.toNat < 128) (rest : List UInt8) :
    decodeLossy (c.toUInt8 :: rest) = c :: decodeLossy rest := by
  have hchunk : chunk c.toUInt8 rest = .char c 1 := chunk_one hc rest
  rw [decodeLossy, hchunk]
  rfl

/-- An ASCII character divides what is decoded, whatever stands before it. -/
theorem decodeLossy_append {c : Char} (hc : c.toNat < 128) (bytes rest : List UInt8) :
    decodeLossy (bytes ++ c.toUInt8 :: rest) = decodeLossy bytes ++ c :: decodeLossy rest := by
  have hbyte : c.toUInt8.toNat < 128 := by
    have hsame : c.toUInt8.toNat = c.toNat := toNat_toUInt8 (n := c.toNat) (by omega)
    omega
  induction bytes using decodeLossy.induct with
  | case1 => rw [decodeLossy, List.nil_append, List.nil_append, decodeLossy_cons_ascii hc]
  | case2 first bytes d width hchunk ih =>
    have hwithin := chunk_within first bytes
    rw [hchunk, Chunk.Within] at hwithin
    rw [List.cons_append, decodeLossy, decodeLossy, chunk_append hbyte, hchunk]
    simp only [Chunk.settled]
    rw [List.drop_append_of_le_length (by omega), ih]
    rfl
  | case3 first bytes width hchunk ih =>
    have hwithin := chunk_within first bytes
    rw [hchunk, Chunk.Within] at hwithin
    rw [List.cons_append, decodeLossy, decodeLossy, chunk_append hbyte, hchunk]
    simp only [Chunk.settled]
    rw [List.drop_append_of_le_length (by omega), ih]
    rfl
  | case4 first bytes hchunk =>
    rw [List.cons_append, decodeLossy, decodeLossy, chunk_append hbyte, hchunk]
    simp only [Chunk.settled, Nat.add_sub_cancel, List.drop_left, decodeLossy_cons_ascii hc]
    rfl

theorem decodeLossy_encode_append (cs : List Char) (rest : List UInt8) :
    decodeLossy (cs.flatMap encodeChar ++ rest) = cs ++ decodeLossy rest := by
  induction cs with
  | nil => rfl
  | cons c cs ih =>
    obtain ⟨a, bytes, hc, hchunk⟩ := chunk_encodeChar c
    rw [List.flatMap_cons, hc, List.append_assoc, List.cons_append, decodeLossy, hchunk]
    simp only [Nat.add_sub_cancel, List.drop_left, ih]
    rfl

theorem decodeLossy_encode (cs : List Char) : decodeLossy (cs.flatMap encodeChar) = cs := by
  have happend := decodeLossy_encode_append cs []
  rwa [List.append_nil, decodeLossy, List.append_nil] at happend

/-- What is decoded without a replacement has been encoded there. -/
theorem eq_encode_append {bytes : List UInt8} {cs more : List Char}
    (h : decodeLossy bytes = cs ++ more) (kept : replacement ∉ cs) :
    ∃ rest, bytes = cs.flatMap encodeChar ++ rest ∧ decodeLossy rest = more := by
  induction cs generalizing bytes with
  | nil => exact ⟨bytes, rfl, h⟩
  | cons c cs ih =>
    rw [List.mem_cons, not_or] at kept
    cases bytes with
    | nil => simp [decodeLossy] at h
    | cons first bytes =>
      rw [decodeLossy] at h
      cases hchunk : chunk first bytes with
      | char d width =>
        simp only [hchunk, List.cons_append, List.cons.injEq] at h
        obtain ⟨rfl, htail⟩ := h
        obtain ⟨rest, hrest, hmore⟩ := ih htail kept.2
        refine ⟨rest, ?_, hmore⟩
        rw [chunk_sound hchunk, hrest, List.flatMap_cons, List.append_assoc]
      | invalid width =>
        simp only [hchunk, List.cons_append, List.cons.injEq] at h
        exact absurd h.1 kept.1
      | incomplete =>
        simp only [hchunk, List.cons_append, List.cons.injEq] at h
        exact absurd h.1 kept.1

/-- Leniently decoded bytes hold no ASCII character that is not among the bytes. -/
theorem mem_of_mem_decodeLossy {c : Char} (hc : c.toNat < 128) {bytes : List UInt8}
    (h : c ∈ decodeLossy bytes) : c.toUInt8 ∈ bytes := by
  have hkept : c ≠ replacement := by
    rintro rfl
    exact absurd hc (by decide)
  have hdrop : ∀ {first : UInt8} {bytes : List UInt8} {width : Nat},
      c.toUInt8 ∈ bytes.drop width → c.toUInt8 ∈ first :: bytes :=
    fun hmem => List.mem_cons_of_mem _ (List.mem_of_mem_drop hmem)
  induction bytes using decodeLossy.induct with
  | case1 => simp [decodeLossy] at h
  | case2 first bytes d width hchunk ih =>
    rw [decodeLossy, hchunk] at h
    rcases List.mem_cons.mp h with rfl | htail
    · rw [chunk_sound hchunk, encodeChar_of_ascii hc]
      exact List.mem_cons_self
    · exact hdrop (ih htail)
  | case3 first bytes width hchunk ih =>
    rw [decodeLossy, hchunk] at h
    exact hdrop (ih ((List.mem_cons.mp h).resolve_left hkept))
  | case4 first bytes hchunk =>
    rw [decodeLossy, hchunk] at h
    exact absurd (List.mem_singleton.mp h) hkept

/-- An encoding has no byte of an ASCII character that is not among the characters. -/
theorem mem_of_mem_encode {c : Char} (hc : c.toNat < 128) {cs : List Char}
    (h : c.toUInt8 ∈ cs.flatMap encodeChar) : c ∈ cs := by
  obtain ⟨before, after, hsplit⟩ := List.append_of_mem h
  have hdecode := congrArg decodeLossy hsplit
  rw [decodeLossy_encode, decodeLossy_append hc] at hdecode
  rw [hdecode]
  exact List.mem_append_right _ List.mem_cons_self

theorem decodeLossy_eq_nil_iff {bytes : List UInt8} : decodeLossy bytes = [] ↔ bytes = [] := by
  cases bytes with
  | nil => simp [decodeLossy]
  | cons first bytes =>
    rw [decodeLossy]
    cases chunk first bytes <;> simp

/-! ## Pieces -/

/-- What comes of pieces without a replacement has been encoded in the pieces put together. -/
theorem eq_encode_append_of_pieces {pieces : List (List UInt8)} {cs more : List Char}
    (h : pieces.flatMap decodeLossy = cs ++ more) (kept : replacement ∉ cs) :
    ∃ rest, pieces.flatten = cs.flatMap encodeChar ++ rest := by
  induction pieces generalizing cs with
  | nil =>
    obtain ⟨rfl, -⟩ := List.append_eq_nil_iff.mp h.symm
    exact ⟨[], rfl⟩
  | cons piece pieces ih =>
    rw [List.flatMap_cons, List.append_eq_append_iff] at h
    rcases h with ⟨after, rfl, hafter⟩ | ⟨after, hpiece, -⟩
    · rw [List.mem_append, not_or] at kept
      obtain ⟨rest, hpiece, hrest⟩ :=
        eq_encode_append (List.append_nil (decodeLossy piece)).symm kept.1
      obtain rfl := decodeLossy_eq_nil_iff.mp hrest
      obtain ⟨rest, hpieces⟩ := ih hafter kept.2
      refine ⟨rest, ?_⟩
      rw [List.append_nil] at hpiece
      rw [List.flatten_cons, hpieces, List.flatMap_append, ← hpiece, List.append_assoc]
    · obtain ⟨rest, hrest, -⟩ := eq_encode_append hpiece kept
      exact ⟨rest ++ pieces.flatten, by rw [List.flatten_cons, hrest, List.append_assoc]⟩

/-- Pieces that are encodings may be decoded one by one. -/
theorem flatMap_decodeLossy {pieces : List (List UInt8)}
    (encoded : ∀ piece ∈ pieces, ∃ cs : List Char, piece = cs.flatMap encodeChar) :
    pieces.flatMap decodeLossy = decodeLossy pieces.flatten := by
  induction pieces with
  | nil => simp [decodeLossy]
  | cons piece pieces ih =>
    obtain ⟨⟨cs, rfl⟩, hrest⟩ := List.forall_mem_cons.mp encoded
    rw [List.flatMap_cons, List.flatten_cons, decodeLossy_encode_append, decodeLossy_encode,
      ih hrest]

end TypeDiscovery.Text.Utf8
