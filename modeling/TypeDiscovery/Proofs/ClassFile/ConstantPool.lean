import TypeDiscovery.Proofs.ClassFile.Reads
import TypeDiscovery.Proofs.Text.Utf8

/-!
# The constant pool is read as it is written

The parser counts numbers where the format counts constants. `Fills n` is what a list of constants
must satisfy to be read when `n` numbers are still announced; reading one constant takes it apart
(`fills_cons_narrow`, `fills_cons_wide`). The pool in hand then answers at every index what the list
of constants does.
-/

namespace TypeDiscovery.ClassFile

open Format

/-! ## One constant -/

theorem Constant.otherSize?_eq_some_iff {tag size : Nat} : otherSize? tag = some size ↔
    ∃ t : UInt8, t.toNat = tag ∧ (t, size) ∈ payloadSizes := by
  constructor
  · intro h
    refine ⟨UInt8.ofNat tag, ?_⟩
    unfold otherSize? at h
    split at h <;> cases h <;> decide
  · rintro ⟨t, rfl, h⟩
    have hall : ∀ entry ∈ payloadSizes, otherSize? entry.1.toNat = some entry.2 := by decide
    exact hall (t, size) h

/-- What the pool keeps of a constant. -/
def Format.PoolEntry.value : PoolEntry → Constant
  | .text bytes _ => .text bytes
  | .classRef nameIndex => .classRef nameIndex.toNat
  | .other .. => .other

theorem Format.PoolEntry.tag_other_ne {tag : UInt8} {size : Nat} (h : (tag, size) ∈ payloadSizes) :
    tag.toNat ≠ 1 ∧ tag.toNat ≠ 7 := by
  have hall : ∀ entry ∈ payloadSizes, entry.1.toNat ≠ 1 ∧ entry.1.toNat ≠ 7 := by decide
  exact hall (tag, size) h

theorem text_reads : Parser.Reads (do return Constant.text (← Parser.take (← Parser.u2)))
    (fun c : { bytes : List UInt8 // bytes.length < 65536 } => (PoolEntry.text c.1 c.2).payload)
    (fun c k => k = Constant.text c.1) := by
  refine (Parser.u2_reads.bind fun n => (Parser.take_reads n).bind fun bytes =>
    Parser.Reads.pure (Constant.text bytes)).congr ?_ ?_
  · rintro ⟨n, _, _⟩ k ⟨_, rfl, bytes, ⟨hlen, rfl⟩, rfl⟩
    have hlen : bytes.length = n.toNat := hlen
    exact ⟨⟨bytes, hlen ▸ n.toNat_lt⟩, by simp [PoolEntry.payload, hlen], rfl⟩
  · rintro ⟨bytes, hbound⟩ k rfl
    refine ⟨(UInt16.ofNat bytes.length, bytes, ()), by simp [PoolEntry.payload], _, rfl, _,
      ⟨?_, rfl⟩, rfl⟩
    rw [UInt16.toNat_ofNat', Nat.mod_eq_of_lt hbound]

theorem body_reads (tag : Nat) : Parser.Reads (Constant.body tag) PoolEntry.payload
    (fun c k => c.tag.toNat = tag ∧ k = c.value) := by
  unfold Constant.body
  split
  next htag =>
    refine text_reads.congr ?_ ?_
    · rintro ⟨bytes, hbound⟩ k rfl
      exact ⟨.text bytes hbound, rfl, htag.symm, rfl⟩
    · rintro c k ⟨hc, rfl⟩
      cases c with
      | text bytes hbound => exact ⟨⟨bytes, hbound⟩, rfl, rfl⟩
      | classRef nameIndex => exact absurd (hc.trans htag) (by simp [PoolEntry.tag])
      | other t payload sized => exact absurd (hc.trans htag) (PoolEntry.tag_other_ne sized).1
  split
  next htag =>
    refine (Parser.u2_reads.bind fun n => Parser.Reads.pure (Constant.classRef n)).congr ?_ ?_
    · rintro ⟨n, _⟩ k ⟨_, rfl, rfl⟩
      exact ⟨.classRef n, by simp [PoolEntry.payload], htag.symm, rfl⟩
    · rintro c k ⟨hc, rfl⟩
      cases c with
      | text bytes hbound => exact absurd (hc.trans htag) (by simp [PoolEntry.tag])
      | classRef nameIndex => exact ⟨(nameIndex, ()), by simp [PoolEntry.payload], _, rfl, rfl⟩
      | other t payload sized => exact absurd (hc.trans htag) (PoolEntry.tag_other_ne sized).2
  next hne hne' =>
    split
    next size hsize =>
      obtain ⟨t, rfl, hmem⟩ := Constant.otherSize?_eq_some_iff.mp hsize
      refine ((Parser.skip_reads size).bind fun _ => Parser.Reads.pure Constant.other).congr ?_ ?_
      · rintro ⟨payload, _⟩ k ⟨_, hlen, rfl⟩
        have hlen : payload.length = size := hlen
        exact ⟨.other t payload (hlen ▸ hmem), by simp [PoolEntry.payload], rfl, rfl⟩
      · rintro c k ⟨hc, rfl⟩
        cases c with
        | text bytes hbound => exact absurd hc.symm hne
        | classRef nameIndex => exact absurd hc.symm hne'
        | other t' payload sized =>
          have ht : t' = t := UInt8.toNat_inj.mp hc
          have hsized := Constant.otherSize?_eq_some_iff.mpr ⟨t', rfl, sized⟩
          rw [ht, hsize, Option.some.injEq] at hsized
          exact ⟨(payload, ()), by simp [PoolEntry.payload], (), hsized.symm, rfl⟩
    next hsize =>
      refine (Parser.Reads.throw PoolEntry.payload _).congr ?_ ?_
      · rintro c k ⟨⟩
      · rintro c k ⟨hc, rfl⟩
        cases c with
        | text bytes hbound => exact absurd hc.symm hne
        | classRef nameIndex => exact absurd hc.symm hne'
        | other t payload sized =>
          have hsized := Constant.otherSize?_eq_some_iff.mpr ⟨t, rfl, sized⟩
          rw [show t.toNat = tag from hc, hsize] at hsized
          cases hsized

/-! ## Announced numbers -/

namespace Format

theorem PoolEntry.slots_pos (c : PoolEntry) : 0 < c.slots := by
  unfold slots
  split <;> omega

@[simp] theorem slots_nil : slots [] = 0 := rfl

@[simp] theorem slots_cons (c : PoolEntry) (cs : List PoolEntry) :
    slots (c :: cs) = c.slots + slots cs := rfl

@[simp] theorem slots_append (cs ds : List PoolEntry) : slots (cs ++ ds) = slots cs + slots ds := by
  induction cs with
  | nil => simp
  | cons c cs ih => rw [List.cons_append, slots_cons, slots_cons, ih, Nat.add_assoc]

theorem slots_eq_zero_iff {cs : List PoolEntry} : slots cs = 0 ↔ cs = [] := by
  cases cs with
  | nil => simp
  | cons c cs =>
    have hpos := c.slots_pos
    simp only [slots_cons, reduceCtorEq, iff_false]
    omega

/-- Read while `n` numbers are announced: the last constant may take one number more. -/
def Fills (n : Nat) (cs : List PoolEntry) : Prop :=
  n = slots cs ∨ n + 1 = slots cs ∧ ∃ c ∈ cs.getLast?, c.Wide

theorem two_le_slots_of_getLast? {c : PoolEntry} {cs : List PoolEntry} (h : c ∈ cs.getLast?)
    (hwide : c.Wide) : 2 ≤ slots cs := by
  have hmem := List.mem_of_getLast? h
  obtain ⟨before, after, rfl⟩ := List.append_of_mem hmem
  have hslots : c.slots = 2 := if_pos hwide
  simp only [slots_append, slots_cons, hslots]
  omega

theorem fills_zero {cs : List PoolEntry} : Fills 0 cs ↔ cs = [] := by
  constructor
  · rintro (h | ⟨h, c, hc, hwide⟩)
    · exact slots_eq_zero_iff.mp h.symm
    · have := two_le_slots_of_getLast? hc hwide
      omega
  · rintro rfl
    exact .inl rfl

/-- What follows a constant decides whether the last one is wide, unless nothing follows. -/
theorem fills_cons {n : Nat} {c : PoolEntry} {cs : List PoolEntry} (hcs : cs ≠ []) :
    Fills (n + c.slots) (c :: cs) ↔ Fills n cs := by
  obtain ⟨d, ds, rfl⟩ := List.exists_cons_of_ne_nil hcs
  simp only [Fills, slots_cons, List.getLast?_cons_cons]
  constructor
  · rintro (h | ⟨h, hlast⟩)
    · exact .inl (by omega)
    · exact .inr ⟨by omega, hlast⟩
  · rintro (h | ⟨h, hlast⟩)
    · exact .inl (by omega)
    · exact .inr ⟨by omega, hlast⟩

theorem fills_cons_narrow {n : Nat} {c : PoolEntry} {cs : List PoolEntry} (hc : ¬c.Wide) :
    Fills (n + 1) (c :: cs) ↔ Fills n cs := by
  have hslots : c.slots = 1 := if_neg hc
  by_cases hcs : cs = []
  · subst hcs
    simp [Fills, hslots, hc]
  · rw [← fills_cons (c := c) hcs, hslots]

theorem fills_cons_wide {n : Nat} {c : PoolEntry} {cs : List PoolEntry} (hc : c.Wide) :
    Fills (n + 1) (c :: cs) ↔ Fills (n - 1) cs := by
  have hslots : c.slots = 2 := if_pos hc
  by_cases hcs : cs = []
  · subst hcs
    have hlast : ∃ d ∈ [c].getLast?, d.Wide := ⟨c, rfl, hc⟩
    simp only [Fills, slots_cons, slots_nil, hslots, hlast, and_true, List.getLast?_nil,
      Option.not_mem_none, false_and, exists_false, and_false, or_false]
    omega
  · cases n with
    | zero =>
      rw [fills_zero]
      refine ⟨?_, fun h => absurd h hcs⟩
      rintro (h | ⟨h, _⟩)
      · simp only [slots_cons, hslots] at h
        omega
      · simp only [slots_cons, hslots] at h
        exact slots_eq_zero_iff.mp (by omega)
    | succ n => rw [show n + 1 + 1 = n + c.slots by rw [hslots], fills_cons hcs, Nat.add_sub_cancel]

theorem announces_iff {count : Nat} {cs : List PoolEntry} :
    Announces count cs ↔ Fills (count - 1) cs := by
  cases count with
  | zero =>
    rw [fills_zero]
    refine ⟨?_, fun h => .inr (.inl ⟨rfl, h⟩)⟩
    rintro (h | ⟨_, h⟩ | ⟨h, _⟩)
    · omega
    · exact h
    · exact slots_eq_zero_iff.mp h.symm
  | succ n =>
    simp only [Announces, Fills, Nat.add_sub_cancel]
    constructor
    · rintro (h | ⟨h, _⟩ | h)
      · exact .inl (by omega)
      · omega
      · exact .inr h
    · rintro (h | h)
      · exact .inl (by omega)
      · exact .inr (.inr h)

end Format

/-! ## The pool -/

/-- What the pool keeps of constants, one after the other. -/
def Format.values (cs : List PoolEntry) : List Constant :=
  cs.flatMap fun c => c.value :: if c.Wide then [.unusable] else []

theorem isWideTag_iff (c : PoolEntry) : Constant.isWideTag c.tag.toNat = true ↔ c.Wide := by
  simp [Constant.isWideTag, PoolEntry.Wide, ← UInt8.toNat_inj]

namespace ConstantPool

/-- The tag and what follows it. -/
def entry : Parser (Nat × Constant) := do
  let tag ← Parser.u1
  let constant ← Constant.body tag
  return (tag, constant)

theorem entry_reads : Parser.Reads entry PoolEntry.encode
    (fun c r => r = (c.tag.toNat, c.value)) := by
  refine (Parser.u1_reads.bind fun tag => (body_reads tag).bind fun constant =>
    Parser.Reads.pure (tag, constant)).congr ?_ ?_
  · rintro ⟨tag, c, _⟩ r ⟨_, rfl, _, ⟨htag, rfl⟩, rfl⟩
    have htag : c.tag = tag := UInt8.toNat_inj.mp htag
    exact ⟨c, by simp [PoolEntry.encode, htag], by simp [htag]⟩
  · rintro c r rfl
    exact ⟨(c.tag, c, ()), by simp [PoolEntry.encode], _, rfl, _, ⟨rfl, rfl⟩, rfl⟩

theorem constants_succ (pool : ConstantPool) (n : Nat) :
    constants pool (n + 1) = entry >>= fun (tag, constant) =>
      if Constant.isWideTag tag then constants ((pool.push constant).push .unusable) (n - 1)
      else constants (pool.push constant) n := by
  cases n <;> simp [constants, entry]

theorem constants_reads (n : Nat) (pool : ConstantPool) : Parser.Reads (constants pool n)
    (fun cs : List PoolEntry => cs.flatMap PoolEntry.encode)
    (fun cs pool' => Fills n cs ∧ pool' = pool ++ values cs) := by
  induction n using Nat.strongRecOn generalizing pool with
  | ind n ih =>
    cases n with
    | zero =>
      rw [constants]
      refine (Parser.Reads.pure pool).congr ?_ ?_
      · rintro _ pool' rfl
        exact ⟨[], rfl, fills_zero.mpr rfl, by simp [values]⟩
      · rintro cs pool' ⟨hcs, rfl⟩
        obtain rfl := fills_zero.mp hcs
        exact ⟨(), rfl, by simp [values]⟩
    | succ n =>
      have hrest : ∀ (c : PoolEntry) (r : Nat × Constant), r = (c.tag.toNat, c.value) →
          Parser.Reads (if Constant.isWideTag r.1 then
              constants ((pool.push r.2).push .unusable) (n - 1) else constants (pool.push r.2) n)
            (fun cs : List PoolEntry => cs.flatMap PoolEntry.encode)
            (fun cs pool' => Fills (n + 1) (c :: cs) ∧ pool' = pool ++ values (c :: cs)) := by
        rintro c _ rfl
        by_cases hc : c.Wide
        · rw [if_pos ((isWideTag_iff c).mpr hc)]
          have hvalues : ∀ cs, pool ++ values (c :: cs) =
              (pool.push c.value).push .unusable ++ values cs := by
            intro cs
            simp [values, hc]
          simpa only [fills_cons_wide hc, hvalues] using ih (n - 1) (by omega) _
        · rw [if_neg (mt (isWideTag_iff c).mp hc)]
          have hvalues : ∀ cs, pool ++ values (c :: cs) = pool.push c.value ++ values cs := by
            intro cs
            simp [values, hc]
          simpa only [fills_cons_narrow hc, hvalues] using ih n (by omega) _
      rw [constants_succ]
      refine (entry_reads.bind_of hrest).congr ?_ ?_
      · rintro ⟨c, cs⟩ pool' ⟨r, _, hfills, rfl⟩
        exact ⟨c :: cs, by simp, hfills, rfl⟩
      · rintro cs pool' ⟨hfills, rfl⟩
        cases cs with
        | nil =>
          rcases hfills with h | ⟨h, _⟩ <;> simp at h
        | cons c cs => exact ⟨(c, cs), by simp, _, rfl, hfills, rfl⟩

/-- The pool that is read from constants. -/
def ofEntries (cs : List PoolEntry) : ConstantPool := #[Constant.unusable] ++ values cs

theorem parse_reads : Parser.Reads parse
    (fun x : UInt16 × List PoolEntry => u2 x.1 ++ x.2.flatMap PoolEntry.encode)
    (fun x pool => Announces x.1.toNat x.2 ∧ pool = ofEntries x.2) := by
  refine (Parser.u2_reads.bind fun count =>
    constants_reads (count - 1) #[Constant.unusable]).congr ?_ ?_
  · rintro ⟨count, cs⟩ pool ⟨_, rfl, hfills, rfl⟩
    exact ⟨(count, cs), rfl, announces_iff.mpr hfills, rfl⟩
  · rintro ⟨count, cs⟩ pool ⟨hcount, rfl⟩
    exact ⟨(count, cs), rfl, _, rfl, announces_iff.mp hcount, rfl⟩

/-! ## Looking up -/

theorem length_values (cs : List PoolEntry) : (values cs).length = slots cs := by
  induction cs with
  | nil => rfl
  | cons c cs ih =>
    have hcons : values (c :: cs) =
        c.value :: (if c.Wide then [.unusable] else []) ++ values cs := by simp [values]
    rw [hcons, slots_cons, ← ih, PoolEntry.slots]
    split <;> simp <;> omega

theorem getElem?_values {before after : List PoolEntry} {c : PoolEntry} :
    (values (before ++ c :: after))[slots before]? = some c.value := by
  have hsplit : values (before ++ c :: after) = values before ++ c.value ::
      ((if c.Wide then [.unusable] else []) ++ values after) := by simp [values]
  rw [hsplit, ← length_values, List.getElem?_append_right (Nat.le_refl _), Nat.sub_self]
  rfl

theorem exists_of_getElem?_values {cs : List PoolEntry} {n : Nat} {k : Constant}
    (h : (values cs)[n]? = some k) (hk : k ≠ .unusable) :
    ∃ before c after, cs = before ++ c :: after ∧ n = slots before ∧ k = c.value := by
  induction cs generalizing n with
  | nil => simp [values] at h
  | cons c cs ih =>
    -- past the numbers of `c` the index is one into the values of the others
    have hlater : ∀ m, n = m + c.slots → (values (c :: cs))[n]? = (values cs)[m]? := by
      rintro m rfl
      have hcons : values (c :: cs) = values [c] ++ values cs := by simp [values]
      have hlength : (values [c]).length = c.slots := by simp [length_values]
      rw [hcons, List.getElem?_append_right (by omega), hlength, Nat.add_sub_cancel]
    by_cases hn : c.slots ≤ n
    · rw [hlater (n - c.slots) (by omega)] at h
      obtain ⟨before, d, after, rfl, hbefore, hd⟩ := ih h
      exact ⟨c :: before, d, after, rfl, by rw [slots_cons]; omega, hd⟩
    · match n with
      | 0 =>
        have hhead : k = c.value := by simpa [values, eq_comm] using h
        exact ⟨[], c, cs, rfl, rfl, hhead⟩
      | 1 =>
        have hwide : c.Wide := by
          by_contra hnarrow
          simp [PoolEntry.slots, hnarrow] at hn
        simp [values, hwide] at h
        exact absurd h.symm hk
      | n + 2 =>
        have hslots : c.slots ≤ 2 := by unfold PoolEntry.slots; split <;> omega
        omega

/-- The pool answers at an index what the constants have there. -/
theorem getElem?_eq_some_iff {cs : List PoolEntry} {index : UInt16} {k : Constant}
    (hk : k ≠ .unusable) :
    (ofEntries cs)[index.toNat]? = some k ↔ ∃ c, At cs index c ∧ c.value = k := by
  have hlist : (ofEntries cs)[index.toNat]? = (Constant.unusable :: values cs)[index.toNat]? := by
    rw [← Array.getElem?_toList, ofEntries]
    simp
  rw [hlist]
  constructor
  · intro h
    cases hindex : index.toNat with
    | zero =>
      rw [hindex, List.getElem?_cons_zero, Option.some.injEq] at h
      exact absurd h.symm hk
    | succ n =>
      rw [hindex, List.getElem?_cons_succ] at h
      obtain ⟨before, c, after, hsplit, hn, rfl⟩ := exists_of_getElem?_values h hk
      exact ⟨c, ⟨before, after, hsplit, by omega⟩, rfl⟩
  · rintro ⟨c, ⟨before, after, rfl, hindex⟩, rfl⟩
    rw [hindex, List.getElem?_cons_succ, getElem?_values]

theorem text_eq_ok_iff {cs : List PoolEntry} {index : UInt16} {s : String} :
    text (ofEntries cs) index.toNat = .ok s ↔ TextAt cs index s := by
  constructor
  · intro h
    unfold text at h
    split at h
    next bytes hbytes =>
      split at h
      next s' hs =>
        cases h
        obtain ⟨c, hat, hc⟩ := (getElem?_eq_some_iff Constant.noConfusion).mp hbytes
        cases c with
        | text bytes' hbound =>
          obtain rfl : bytes' = bytes := by simpa [PoolEntry.value] using hc
          obtain rfl := Text.Utf8.decode_eq_ok_iff.mp hs
          exact ⟨hbound, hat⟩
        | classRef nameIndex => cases hc
        | other tag payload sized => cases hc
      next => cases h
    next => cases h
  · rintro ⟨hbound, hat⟩
    have hbytes := (getElem?_eq_some_iff (k := .text s.toUTF8.data.toList) Constant.noConfusion).mpr
      ⟨_, hat, rfl⟩
    have hs := Text.Utf8.decode_eq_ok_iff.mpr (rfl : s.toUTF8.data.toList = _)
    unfold text
    rw [hbytes]
    simp only [hs]

theorem dotted_eq (name : String) : dotted name = Format.dotted name := by
  rw [← String.toList_inj, Format.dotted, String.toList_map, dotted, String.toList_ofList]
  rfl

theorem className_eq_ok_iff {cs : List PoolEntry} {index : UInt16} {name : String} :
    className (ofEntries cs) index.toNat = .ok name ↔ ClassAt cs index name := by
  constructor
  · intro h
    unfold className at h
    split at h
    next nameIndex hclass =>
      obtain ⟨c, hat, hc⟩ := (getElem?_eq_some_iff Constant.noConfusion).mp hclass
      cases c with
      | text bytes hbound => cases hc
      | classRef nameIndex' =>
        obtain rfl : nameIndex'.toNat = nameIndex := by simpa [PoolEntry.value] using hc
        cases hs : text (ofEntries cs) nameIndex'.toNat with
        | error e =>
          rw [hs] at h
          cases h
        | ok s =>
          rw [hs] at h
          cases h
          exact ⟨nameIndex', s, hat, text_eq_ok_iff.mp hs, dotted_eq s⟩
      | other tag payload sized => cases hc
    next => cases h
  · rintro ⟨nameIndex, s, hat, htext, rfl⟩
    have hclass := (getElem?_eq_some_iff (k := .classRef nameIndex.toNat) Constant.noConfusion).mpr
      ⟨_, hat, rfl⟩
    have hs := text_eq_ok_iff.mpr htext
    unfold className
    rw [hclass]
    simp only [hs, Except.map, dotted_eq]

end ConstantPool

end TypeDiscovery.ClassFile
