import TypeDiscovery.Text.Utf8
import Mathlib.Tactic.SplitIfs

/-!
# Strict decoding inverts encoding

A chunk that is a character consists of that character's encoding (`chunk_sound`), and an encoding
at the front of the input is found as a chunk (`chunk_encodeChar`). So strict decoding succeeds
exactly on encodings (`decode_eq_ok_iff`), which are the bytes that strings have.
-/

namespace TypeDiscovery.Text.Utf8

theorem toNat_ofNat {n : Nat} (h : n.isValidChar) : (Char.ofNat n).toNat = n := by
  rw [Char.ofNat, dif_pos h]
  rfl

theorem ofNat_eq_of_toNat {n : Nat} {c : Char} (h : c.toNat = n) : Char.ofNat n = c := by
  rw [← h, Char.ofNat_toNat]

theorem toUInt8_eq_of_toNat {n : Nat} {b : UInt8} (h : b.toNat = n) : n.toUInt8 = b := by
  rw [← UInt8.toNat_inj, ← h]
  simp

theorem toNat_toUInt8 {n : Nat} (h : n < 256) : n.toUInt8.toNat = n := by
  rw [Nat.toUInt8, UInt8.toNat_ofNat', Nat.mod_eq_of_lt h]

theorem tailBits_lt (b : UInt8) : tailBits b < 64 := by
  simp only [tailBits]
  omega

theorem isTail_iff {b : UInt8} : isTail b = true ↔ b.toNat = 128 + tailBits b := by
  have hlt := b.toNat_lt
  simp only [isTail, tailBits, Bool.and_eq_true, decide_eq_true_eq, UInt8.le_iff_toNat_le,
    UInt8.reduceToNat]
  omega

/-- A second byte is a tail, and the bounds beyond that depend on the first byte. -/
theorem secondAllowed_iff {a b : UInt8} : secondAllowed a b = true ↔
    b.toNat = 128 + tailBits b ∧ (a.toNat = 224 → 32 ≤ tailBits b) ∧
      (a.toNat = 237 → tailBits b < 32) ∧ (a.toNat = 240 → 16 ≤ tailBits b) ∧
      (a.toNat = 244 → tailBits b < 16) := by
  have hlt := b.toNat_lt
  simp only [secondAllowed, secondBounds, tailBits, Bool.and_eq_true, decide_eq_true_eq,
    UInt8.le_iff_toNat_le, ← UInt8.toNat_inj]
  split_ifs <;> simp_all <;> omega

/-! ## A chunk is an encoding -/

theorem encodeChar_one {a : UInt8} (ha : a.toNat < 128) :
    encodeChar (Char.ofNat a.toNat) = [a] := by
  have hn := toNat_ofNat (n := a.toNat) (Or.inl (by omega))
  simp only [encodeChar, hn]
  rw [if_pos ha, toUInt8_eq_of_toNat rfl]

theorem encodeChar_two {a b : UInt8} (ha : 194 ≤ a.toNat) (ha' : a.toNat < 224)
    (hb : isTail b = true) :
    encodeChar (Char.ofNat (a.toNat % 32 * 64 + tailBits b)) = [a, b] := by
  have hb := isTail_iff.mp hb
  have hlt := tailBits_lt b
  generalize tailBits b = t at hb hlt
  have hn := toNat_ofNat (n := a.toNat % 32 * 64 + t) (Or.inl (by omega))
  simp only [encodeChar, hn]
  rw [if_neg (by omega), if_pos (by omega), toUInt8_eq_of_toNat (b := a) (by omega),
    toUInt8_eq_of_toNat (b := b) (by omega)]

theorem encodeChar_three {a b c : UInt8} (ha : 224 ≤ a.toNat) (ha' : a.toNat < 240)
    (hb : secondAllowed a b = true) (hc : isTail c = true) :
    encodeChar (Char.ofNat (a.toNat % 16 * 4096 + tailBits b * 64 + tailBits c)) = [a, b, c] := by
  have hb := secondAllowed_iff.mp hb
  have hc := isTail_iff.mp hc
  have hltb := tailBits_lt b
  have hltc := tailBits_lt c
  generalize tailBits b = s at hb hltb
  generalize tailBits c = t at hc hltc
  have hn := toNat_ofNat (n := a.toNat % 16 * 4096 + s * 64 + t)
    (by simp only [Nat.isValidChar]; omega)
  simp only [encodeChar, hn]
  rw [if_neg (by omega), if_neg (by omega), if_pos (by omega),
    toUInt8_eq_of_toNat (b := a) (by omega), toUInt8_eq_of_toNat (b := b) (by omega),
    toUInt8_eq_of_toNat (b := c) (by omega)]

theorem encodeChar_four {a b c d : UInt8} (ha : 240 ≤ a.toNat) (ha' : a.toNat < 245)
    (hb : secondAllowed a b = true) (hc : isTail c = true) (hd : isTail d = true) :
    encodeChar (Char.ofNat (a.toNat % 8 * 262144 + tailBits b * 4096 + tailBits c * 64
      + tailBits d)) = [a, b, c, d] := by
  have hb := secondAllowed_iff.mp hb
  have hc := isTail_iff.mp hc
  have hd := isTail_iff.mp hd
  have hltb := tailBits_lt b
  have hltc := tailBits_lt c
  have hltd := tailBits_lt d
  generalize tailBits b = s at hb hltb
  generalize tailBits c = t at hc hltc
  generalize tailBits d = u at hd hltd
  have hn := toNat_ofNat (n := a.toNat % 8 * 262144 + s * 4096 + t * 64 + u)
    (by simp only [Nat.isValidChar]; omega)
  simp only [encodeChar, hn]
  rw [if_neg (by omega), if_neg (by omega), if_neg (by omega),
    toUInt8_eq_of_toNat (b := a) (by omega), toUInt8_eq_of_toNat (b := b) (by omega),
    toUInt8_eq_of_toNat (b := c) (by omega), toUInt8_eq_of_toNat (b := d) (by omega)]

theorem chunk_sound {a : UInt8} {rest : List UInt8} {c : Char} {width : Nat}
    (h : chunk a rest = .char c width) :
    a :: rest = encodeChar c ++ rest.drop (width - 1) := by
  -- the tests of `chunk` in their order; the branches that end in a character have one width each
  unfold chunk at h
  simp only [UInt8.lt_iff_toNat_lt] at h
  split at h
  next ha =>
    cases h
    rw [encodeChar_one ha]
    simp
  split at h
  next => cases h
  split at h
  next ha ha' =>
    split at h
    next => cases h
    next b rest =>
      split at h
      next hb =>
        cases h
        rw [encodeChar_two (by simpa using ha) ha' hb]
        simp
      next => cases h
  split at h
  next ha ha' =>
    split at h
    next => cases h
    next b rest =>
      split at h
      next hb =>
        split at h
        next => cases h
        next c rest =>
          split at h
          next hc =>
            cases h
            rw [encodeChar_three (by simpa using ha) ha' hb hc]
            simp
          next => cases h
      next => cases h
  split at h
  next ha ha' =>
    split at h
    next => cases h
    next b rest =>
      split at h
      next hb =>
        split at h
        next => cases h
        next c rest =>
          split at h
          next hc =>
            split at h
            next => cases h
            next d rest =>
              split at h
              next hd =>
                cases h
                rw [encodeChar_four (by simpa using ha) ha' hb hc hd]
                simp
              next => cases h
          next => cases h
      next => cases h
  next => cases h

/-! ## An encoding is found -/

/-- The bytes that `encodeChar` makes of six bits each. -/
theorem tailBits_add {n : Nat} (h : n < 64) : tailBits (128 + n).toUInt8 = n := by
  rw [tailBits, toNat_toUInt8 (by omega)]
  omega

theorem isTail_add {n : Nat} (h : n < 64) : isTail (128 + n).toUInt8 = true := by
  rw [isTail_iff, tailBits_add h, toNat_toUInt8 (by omega)]

theorem chunk_one {c : Char} (hc : c.toNat < 128) (rest : List UInt8) :
    chunk c.toNat.toUInt8 rest = .char c 1 := by
  have ha := toNat_toUInt8 (n := c.toNat) (by omega)
  simp only [chunk, UInt8.lt_iff_toNat_lt, ha]
  rw [if_pos (by simpa using hc), ofNat_eq_of_toNat rfl]

theorem chunk_two {c : Char} (hc : 128 ≤ c.toNat) (hc' : c.toNat < 2048) (rest : List UInt8) :
    chunk (192 + c.toNat / 64).toUInt8 ((128 + c.toNat % 64).toUInt8 :: rest) = .char c 2 := by
  have ha := toNat_toUInt8 (n := 192 + c.toNat / 64) (by omega)
  have hb := Nat.mod_lt c.toNat (y := 64) (by omega)
  simp only [chunk, UInt8.lt_iff_toNat_lt, ha, UInt8.reduceToNat]
  rw [if_neg (by omega), if_neg (by omega), if_pos (by omega), if_pos (isTail_add hb),
    tailBits_add hb, ofNat_eq_of_toNat (c := c) (by omega)]

theorem chunk_three {c : Char} (hc : 2048 ≤ c.toNat) (hc' : c.toNat < 65536)
    (rest : List UInt8) :
    chunk (224 + c.toNat / 4096).toUInt8
      ((128 + c.toNat / 64 % 64).toUInt8 :: (128 + c.toNat % 64).toUInt8 :: rest) = .char c 3 := by
  have ha := toNat_toUInt8 (n := 224 + c.toNat / 4096) (by omega)
  have hb := Nat.mod_lt (c.toNat / 64) (y := 64) (by omega)
  have hd := Nat.mod_lt c.toNat (y := 64) (by omega)
  have hsecond : secondAllowed (224 + c.toNat / 4096).toUInt8
      (128 + c.toNat / 64 % 64).toUInt8 := by
    have hvalid : c.toNat.isValidChar := c.valid
    simp only [Nat.isValidChar] at hvalid
    rw [secondAllowed_iff, tailBits_add hb, toNat_toUInt8 (by omega), ha]
    omega
  simp only [chunk, UInt8.lt_iff_toNat_lt, ha, UInt8.reduceToNat]
  rw [if_neg (by omega), if_neg (by omega), if_neg (by omega), if_pos (by omega), if_pos hsecond,
    if_pos (isTail_add hd), tailBits_add hb, tailBits_add hd, ofNat_eq_of_toNat (c := c) (by omega)]

theorem chunk_four {c : Char} (hc : 65536 ≤ c.toNat) (rest : List UInt8) :
    chunk (240 + c.toNat / 262144).toUInt8
      ((128 + c.toNat / 4096 % 64).toUInt8 :: (128 + c.toNat / 64 % 64).toUInt8
        :: (128 + c.toNat % 64).toUInt8 :: rest) = .char c 4 := by
  have hvalid : c.toNat.isValidChar := c.valid
  simp only [Nat.isValidChar] at hvalid
  have ha := toNat_toUInt8 (n := 240 + c.toNat / 262144) (by omega)
  have hb := Nat.mod_lt (c.toNat / 4096) (y := 64) (by omega)
  have hd := Nat.mod_lt (c.toNat / 64) (y := 64) (by omega)
  have he := Nat.mod_lt c.toNat (y := 64) (by omega)
  have hsecond : secondAllowed (240 + c.toNat / 262144).toUInt8
      (128 + c.toNat / 4096 % 64).toUInt8 := by
    rw [secondAllowed_iff, tailBits_add hb, toNat_toUInt8 (by omega), ha]
    omega
  simp only [chunk, UInt8.lt_iff_toNat_lt, ha, UInt8.reduceToNat]
  rw [if_neg (by omega), if_neg (by omega), if_neg (by omega), if_neg (by omega),
    if_pos (by omega), if_pos hsecond, if_pos (isTail_add hd), if_pos (isTail_add he),
    tailBits_add hb, tailBits_add hd, tailBits_add he, ofNat_eq_of_toNat (c := c) (by omega)]

theorem chunk_encodeChar (c : Char) : ∃ a bytes, encodeChar c = a :: bytes ∧
    ∀ rest, chunk a (bytes ++ rest) = .char c (bytes.length + 1) := by
  simp only [encodeChar]
  split
  next h => exact ⟨_, _, rfl, fun rest => chunk_one h rest⟩
  split
  next h h' => exact ⟨_, _, rfl, fun rest => chunk_two (by omega) h' rest⟩
  split
  next h h' => exact ⟨_, _, rfl, fun rest => chunk_three (by omega) h' rest⟩
  next h => exact ⟨_, _, rfl, fun rest => chunk_four (by omega) rest⟩

/-! ## Strict decoding -/

theorem decodeFrom_sound {index : Nat} {bytes : List UInt8} {cs : List Char}
    (h : decodeFrom index bytes = .ok cs) : bytes = cs.flatMap encodeChar := by
  induction index, bytes using decodeFrom.induct generalizing cs with
  | case1 index =>
    simp only [decodeFrom, Except.ok.injEq] at h
    simp [← h]
  | case2 index first rest c width hchunk tail htail ih =>
    simp only [decodeFrom, hchunk, htail, Except.ok.injEq] at h
    rw [chunk_sound hchunk, ← h, ih htail]
    rfl
  | case3 index first rest c width hchunk e htail => simp [decodeFrom, hchunk, htail] at h
  | case4 index first rest width hchunk => simp [decodeFrom, hchunk] at h
  | case5 index first rest hchunk => simp [decodeFrom, hchunk] at h

theorem decodeFrom_encode (index : Nat) (cs : List Char) :
    decodeFrom index (cs.flatMap encodeChar) = .ok cs := by
  induction cs generalizing index with
  | nil => simp [decodeFrom]
  | cons c cs ih =>
    obtain ⟨a, bytes, hc, hchunk⟩ := chunk_encodeChar c
    have hdrop : (bytes ++ cs.flatMap encodeChar).drop (bytes.length + 1 - 1)
        = cs.flatMap encodeChar := by simp
    rw [List.flatMap_cons, hc, List.cons_append, decodeFrom, hchunk]
    simp only [hdrop, ih]

theorem encodeChar_eq_utf8EncodeChar (c : Char) : encodeChar c = String.utf8EncodeChar c := by
  have hvalid : c.toNat.isValidChar := c.valid
  simp only [Nat.isValidChar] at hvalid
  have hn : c.val.toNat = c.toNat := rfl
  simp only [encodeChar, String.utf8EncodeChar, Nat.toUInt8, hn]
  split
  next h => rw [if_pos (by omega)]
  split
  next h h' =>
    rw [if_neg (by omega), if_pos (by omega), Nat.mod_eq_of_lt (a := c.toNat / 64) (by omega),
      Nat.add_comm 192, Nat.add_comm 128]
  split
  next h h' =>
    rw [if_neg (by omega), if_neg (by omega), if_pos (by omega),
      Nat.mod_eq_of_lt (a := c.toNat / 4096) (by omega),
      Nat.add_comm 224, Nat.add_comm 128, Nat.add_comm 128]
  next h =>
    rw [if_neg (by omega), if_neg (by omega), if_neg (by omega),
      Nat.mod_eq_of_lt (a := c.toNat / 262144) (by omega),
      Nat.add_comm 240, Nat.add_comm 128, Nat.add_comm 128, Nat.add_comm 128]

/-- The bytes of a string in memory are its encoding. -/
theorem encode_eq_toUTF8 (s : String) : encode s = s.toUTF8.data.toList := by
  have hbytes : s.toUTF8 = s.toList.utf8Encode := String.utf8Encode_toList.symm
  have hchar : encodeChar = String.utf8EncodeChar := funext encodeChar_eq_utf8EncodeChar
  rw [hbytes, encode, hchar, List.utf8Encode, List.data_toByteArray]

/-- Strict decoding gives a string exactly when the bytes are those of that string. -/
theorem decode_eq_ok_iff {bytes : List UInt8} {s : String} :
    decode bytes = .ok s ↔ bytes = s.toUTF8.data.toList := by
  rw [← encode_eq_toUTF8]
  constructor
  · intro h
    cases hcs : decodeFrom 0 bytes with
    | error e => simp [decode, hcs, Except.map] at h
    | ok cs =>
      simp only [decode, hcs, Except.map, Except.ok.injEq] at h
      rw [encode, ← h, String.toList_ofList]
      exact decodeFrom_sound hcs
  · rintro rfl
    simp [decode, encode, decodeFrom_encode, Except.map]

end TypeDiscovery.Text.Utf8
