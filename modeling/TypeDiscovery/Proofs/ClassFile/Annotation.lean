import TypeDiscovery.Proofs.ClassFile.ConstantPool

/-!
# Annotations are read as they are written

A value is passed over when it nests at most as deep as the parser goes (`skip_reads`), and no value
nests deeper than its bytes are many (`fits_of_length_le`), so the bound on depth that the body of
an attribute gives refuses nothing.
-/

namespace TypeDiscovery.ClassFile

open Format

/-! ## Counted functions -/

/-- The table of a count and an item for each number below it. -/
def Format.Table.ofFn {X : Type} (count : UInt16) (f : Fin count.toNat → X) : Table X :=
  ⟨List.ofFn f, by simpa using count.toNat_lt⟩

theorem Format.Table.encode_ofFn {X : Type} (write : X → List UInt8) (count : UInt16)
    (f : Fin count.toNat → X) :
    (Table.ofFn count f).encode write = u2 count ++ (List.ofFn fun i => write (f i)).flatten := by
  rw [Table.encode, Table.ofFn, List.flatMap_def, List.map_ofFn, List.length_ofFn,
    UInt16.ofNat_toNat]
  rfl

theorem Format.Table.eq_ofFn {X : Type} (t : Table X) :
    ∃ (count : UInt16) (f : Fin count.toNat → X), t = Table.ofFn count f := by
  obtain ⟨xs, hbound⟩ := t
  have hcount : (UInt16.ofNat xs.length).toNat = xs.length := by
    rw [UInt16.toNat_ofNat', Nat.mod_eq_of_lt hbound]
  refine ⟨UInt16.ofNat xs.length, fun i => xs.get (i.cast hcount), Subtype.ext ?_⟩
  refine List.ext_getElem (by simp [Table.ofFn, hcount]) fun i h h' => ?_
  simp [Table.ofFn]

/-! ## Element values -/

/-- Nests at most so many levels. -/
def Format.ElementValue.Fits : Nat → ElementValue → Prop
  | 0, _ => False
  | depth + 1, .nested _ _ _ values => ∀ i, Fits depth (values i)
  | depth + 1, .array _ values => ∀ i, Fits depth (values i)
  | _ + 1, _ => True

theorem length_le_flatten_ofFn {n : Nat} (f : Fin n → List UInt8) (i : Fin n) :
    (f i).length ≤ (List.ofFn f).flatten.length :=
  (List.sublist_flatten_of_mem (List.mem_ofFn.mpr ⟨i, rfl⟩)).length_le

theorem Format.length_le_elements (count : UInt16) (names : Fin count.toNat → UInt16)
    (values : Fin count.toNat → List UInt8) (i : Fin count.toNat) :
    (values i).length ≤ (elements count names values).length := by
  have := length_le_flatten_ofFn (fun i => u2 (names i) ++ values i) i
  simp only [elements, List.length_append] at *
  omega

theorem Format.ElementValue.fits_of_length_le {depth : Nat} {v : ElementValue}
    (h : v.encode.length ≤ depth) : v.Fits depth := by
  induction depth generalizing v with
  | zero => cases v <;> simp [encode] at h
  | succ depth ih =>
    cases v with
    | scalar tag known index => trivial
    | enum type name => trivial
    | nested type count names values =>
      intro i
      have hi := length_le_elements count names (fun i => (values i).encode) i
      simp only [encode, List.length_cons, List.length_append] at h
      exact ih (by omega)
    | array count values =>
      intro i
      have hi := length_le_flatten_ofFn (fun i => (values i).encode) i
      simp only [encode, List.length_cons, List.length_append] at h
      exact ih (by omega)

/-! ## Tags -/

theorem ofNat_toNat_eq_iff {b : UInt8} {c : Char} (hc : c.toNat < 256) :
    Char.ofNat b.toNat = c ↔ b = UInt8.ofNat c.toNat := by
  have hb := Text.Utf8.toNat_ofNat (n := b.toNat) (.inl (by have := b.toNat_lt; omega))
  rw [← Char.toNat_inj, hb, ← UInt8.toNat_inj, UInt8.toNat_ofNat', Nat.mod_eq_of_lt hc]

theorem mem_indexTags_iff {b : UInt8} :
    Char.ofNat b.toNat ∈ ElementValue.indexTags ↔ b ∈ Format.indexTags := by
  have hsmall : ∀ c ∈ ElementValue.indexTags, c.toNat < 256 := by simp [ElementValue.indexTags]
  have hmap : Format.indexTags = ElementValue.indexTags.map fun c => UInt8.ofNat c.toNat := rfl
  rw [hmap, List.mem_map]
  constructor
  · intro h
    exact ⟨_, h, ((ofNat_toNat_eq_iff (hsmall _ h)).mp rfl).symm⟩
  · rintro ⟨c, hc, rfl⟩
    rw [(ofNat_toNat_eq_iff (hsmall c hc)).mpr rfl]
    exact hc

/-! ## Element values -/

def Format.ElementValue.tag : ElementValue → UInt8
  | .scalar tag .. => tag
  | .enum .. => 0x65
  | .nested .. => 0x40
  | .array .. => 0x5B

/-- What follows the tag. -/
def Format.ElementValue.payload (v : ElementValue) : List UInt8 := v.encode.tail

theorem Format.ElementValue.encode_eq (v : ElementValue) : v.encode = v.tag :: v.payload := by
  cases v <;> rfl

namespace Format.ElementValue

theorem enum_of_tag {v : ElementValue} (h : v.tag = 0x65) : ∃ type name, v = .enum type name := by
  cases v with
  | scalar tag known index =>
    obtain rfl : tag = 0x65 := h
    exact absurd known (by decide)
  | enum type name => exact ⟨type, name, rfl⟩
  | nested => exact absurd h (by simp [tag])
  | array => exact absurd h (by simp [tag])

theorem nested_of_tag {v : ElementValue} (h : v.tag = 0x40) :
    ∃ type count names values, v = .nested type count names values := by
  cases v with
  | scalar tag known index =>
    obtain rfl : tag = 0x40 := h
    exact absurd known (by decide)
  | enum => exact absurd h (by simp [tag])
  | nested type count names values => exact ⟨type, count, names, values, rfl⟩
  | array => exact absurd h (by simp [tag])

theorem array_of_tag {v : ElementValue} (h : v.tag = 0x5B) :
    ∃ count values, v = .array count values := by
  cases v with
  | scalar tag known index =>
    obtain rfl : tag = 0x5B := h
    exact absurd known (by decide)
  | enum => exact absurd h (by simp [tag])
  | nested => exact absurd h (by simp [tag])
  | array count values => exact ⟨count, values, rfl⟩

theorem scalar_of_tag {v : ElementValue} (h : v.tag ∈ Format.indexTags) :
    ∃ index, v = .scalar v.tag h index := by
  cases v with
  | scalar tag known index => exact ⟨index, rfl⟩
  | enum => exact absurd h (by simp [tag, Format.indexTags])
  | nested => exact absurd h (by simp [tag, Format.indexTags])
  | array => exact absurd h (by simp [tag, Format.indexTags])

end Format.ElementValue

/-- The elements of an annotation as a table. -/
def writePair (pair : UInt16 × ElementValue) : List UInt8 := u2 pair.1 ++ pair.2.encode

theorem encode_pairs (count : UInt16) (names : Fin count.toNat → UInt16)
    (values : Fin count.toNat → ElementValue) :
    (Table.ofFn count fun i => (names i, values i)).encode writePair =
      elements count names fun i => (values i).encode :=
  Table.encode_ofFn ..

namespace ElementValue

theorem skipPairs_reads {value : Parser Unit} {Fits : Format.ElementValue → Prop}
    (hvalue : Parser.Reads value Format.ElementValue.encode fun v _ => Fits v) :
    Parser.Reads (skipPairs value) (Table.encode writePair)
      (fun pairs _ => ∀ pair ∈ pairs.val, Fits pair.2) := by
  refine Parser.Reads.skippedTable ?_
  refine (Parser.skipNumber_reads.bind fun _ => hvalue).congr ?_ ?_
  · rintro ⟨name, v⟩ a ⟨_, _, hv⟩
    exact ⟨(name, v), rfl, hv⟩
  · rintro ⟨name, v⟩ a hv
    exact ⟨(name, v), rfl, (), trivial, hv⟩

/-- Passes over what follows a tag. -/
def skipPayload (depth : Nat) (tag : Char) : Parser Unit :=
  if tag ∈ indexTags then Parser.skip 2
  else if tag = 'e' then Parser.skip 4
  else if tag = '@' then do
    Parser.skip 2
    skipPairs (skip depth)
  else if tag = '[' then do
    let values ← Parser.u2
    Parser.repeatedly (skip depth) values
  else throw (.malformedDescriptor s!"unknown element value tag {tag}")

theorem skip_succ (depth : Nat) :
    skip (depth + 1) = (do skipPayload depth (Char.ofNat (← Parser.u1))) := rfl

theorem skipPayload_reads {depth : Nat}
    (hvalue : Parser.Reads (skip depth) Format.ElementValue.encode fun v _ => v.Fits depth)
    (tag : UInt8) : Parser.Reads (skipPayload depth (Char.ofNat tag.toNat))
      Format.ElementValue.payload (fun v _ => v.tag = tag ∧ v.Fits (depth + 1)) := by
  have henumTag : Char.ofNat tag.toNat = 'e' ↔ tag = 0x65 := ofNat_toNat_eq_iff (by decide)
  have hnestedTag : Char.ofNat tag.toNat = '@' ↔ tag = 0x40 := ofNat_toNat_eq_iff (by decide)
  have harrayTag : Char.ofNat tag.toNat = '[' ↔ tag = 0x5B := ofNat_toNat_eq_iff (by decide)
  simp only [skipPayload, mem_indexTags_iff, henumTag, hnestedTag, harrayTag]
  by_cases hscalar : tag ∈ Format.indexTags
  · rw [if_pos hscalar]
    refine Parser.skipNumber_reads.congr ?_ ?_
    · intro index a _
      exact ⟨.scalar tag hscalar index, rfl, rfl, trivial⟩
    · rintro v a ⟨rfl, _⟩
      obtain ⟨index, hv⟩ := Format.ElementValue.scalar_of_tag hscalar
      exact ⟨index, by rw [hv]; rfl, trivial⟩
  rw [if_neg hscalar]
  by_cases henum : tag = 0x65
  · rw [if_pos henum]
    refine Parser.skipNumbers_reads.congr ?_ ?_
    · rintro ⟨type, name⟩ a _
      exact ⟨.enum type name, rfl, henum.symm, trivial⟩
    · rintro v a ⟨hv, _⟩
      obtain ⟨type, name, rfl⟩ := Format.ElementValue.enum_of_tag (hv.trans henum)
      exact ⟨(type, name), rfl, trivial⟩
  rw [if_neg henum]
  by_cases hnested : tag = 0x40
  · rw [if_pos hnested]
    refine (Parser.skipNumber_reads.bind fun _ => skipPairs_reads hvalue).congr ?_ ?_
    · rintro ⟨type, pairs⟩ a ⟨_, _, hpairs⟩
      obtain ⟨count, f, rfl⟩ := pairs.eq_ofFn
      refine ⟨.nested type count (fun i => (f i).1) (fun i => (f i).2), ?_, hnested.symm, ?_⟩
      · exact congrArg (u2 type ++ ·) (encode_pairs count (fun i => (f i).1) fun i => (f i).2)
      · exact fun i => hpairs (f i) (List.mem_ofFn.mpr ⟨i, rfl⟩)
    · rintro v a ⟨hv, hfits⟩
      obtain ⟨type, count, names, values, rfl⟩ :=
        Format.ElementValue.nested_of_tag (hv.trans hnested)
      refine ⟨(type, Table.ofFn count fun i => (names i, values i)), ?_, (), trivial, ?_⟩
      · exact congrArg (u2 type ++ ·) (encode_pairs count names values).symm
      · intro pair hpair
        obtain ⟨i, rfl⟩ := List.mem_ofFn.mp hpair
        exact hfits i
  rw [if_neg hnested]
  by_cases harray : tag = 0x5B
  · rw [if_pos harray]
    refine (Parser.Reads.skippedTable hvalue).congr ?_ ?_
    · intro values a hvalues
      obtain ⟨count, f, rfl⟩ := values.eq_ofFn
      refine ⟨.array count f, Table.encode_ofFn _ count f, harray.symm, ?_⟩
      exact fun i => hvalues (f i) (List.mem_ofFn.mpr ⟨i, rfl⟩)
    · rintro v a ⟨hv, hfits⟩
      obtain ⟨count, values, rfl⟩ := Format.ElementValue.array_of_tag (hv.trans harray)
      refine ⟨Table.ofFn count values, (Table.encode_ofFn _ count values).symm, ?_⟩
      intro v hv
      obtain ⟨i, rfl⟩ := List.mem_ofFn.mp hv
      exact hfits i
  rw [if_neg harray]
  refine (Parser.Reads.throw Format.ElementValue.payload _).congr ?_ ?_
  · rintro v a ⟨⟩
  · rintro v a ⟨rfl, _⟩
    cases v with
    | scalar tag known index => exact absurd known hscalar
    | enum type name => exact absurd rfl henum
    | nested type count names values => exact absurd rfl hnested
    | array count values => exact absurd rfl harray

theorem skip_reads (depth : Nat) :
    Parser.Reads (skip depth) Format.ElementValue.encode fun v _ => v.Fits depth := by
  induction depth with
  | zero =>
    refine (Parser.Reads.throw Format.ElementValue.encode _).congr ?_ ?_
    · rintro v a ⟨⟩
    · rintro v a ⟨⟩
  | succ depth ih =>
    rw [skip_succ]
    have hpayload : ∀ (tag : UInt8) n, n = tag.toNat →
        Parser.Reads (skipPayload depth (Char.ofNat n)) Format.ElementValue.payload
          (fun v _ => v.tag = tag ∧ v.Fits (depth + 1)) := by
      rintro tag _ rfl
      exact skipPayload_reads ih tag
    refine (Parser.u1_reads.bind_of hpayload).congr ?_ ?_
    · rintro ⟨tag, v⟩ a ⟨_, _, htag, hfits⟩
      have htag : v.tag = tag := htag
      exact ⟨v, by rw [v.encode_eq, htag]; rfl, hfits⟩
    · intro v a hfits
      exact ⟨(v.tag, v), v.encode_eq, _, rfl, rfl, hfits⟩

end ElementValue

/-! ## Annotations -/

theorem annotationType_eq_ok_iff {descriptor type : String} :
    annotationType descriptor = .ok type ↔
      ∃ name, name ≠ "" ∧ descriptor = "L" ++ name ++ ";" ∧ type = Format.dotted name := by
  constructor
  · intro h
    unfold annotationType at h
    split at h
    next rest hrest =>
      split at h
      next c name hname =>
        cases h
        refine ⟨String.ofList (c :: name), by simp [← String.toList_inj], ?_,
          ConstantPool.dotted_eq _⟩
        rw [← String.toList_inj, hrest, Text.stripSuffix?_eq_some_iff.mp hname]
        simp
      next => cases h
    next => cases h
  · rintro ⟨name, hne, rfl, rfl⟩
    have hlist : ("L" ++ name ++ ";").toList = 'L' :: (name.toList ++ [';']) := by simp
    obtain ⟨c, cs, hcs⟩ := List.exists_cons_of_ne_nil (mt String.toList_eq_nil_iff.mp hne)
    have hstrip : Text.stripSuffix? [';'] (name.toList ++ [';']) = some (c :: cs) := by
      rw [Text.stripSuffix?_eq_some_iff, hcs]
    unfold annotationType
    rw [hlist]
    simp only [hstrip]
    rw [← hcs, String.ofList_toList, ConstantPool.dotted_eq]

theorem annotatedType_reads (cs : List PoolEntry) (depth : Nat) :
    Parser.Reads (annotatedType (.ofEntries cs) depth) Marker.encode
      (fun m type => (∀ i, (m.values i).Fits depth) ∧ m.Named cs type) := by
  have hpairs := ElementValue.skipPairs_reads (ElementValue.skip_reads depth)
  refine (Parser.u2_reads.bind fun index =>
    (Parser.Reads.lift (ConstantPool.text (.ofEntries cs) index)).bind fun descriptor =>
      (Parser.Reads.lift (annotationType descriptor)).bind fun type =>
        hpairs.bind fun _ => Parser.Reads.pure type).congr ?_ ?_
  · rintro ⟨index, _, _, pairs, _⟩ t ⟨_, rfl, descriptor, htext, type, htype, _, hfits, rfl⟩
    obtain ⟨count, f, rfl⟩ := pairs.eq_ofFn
    obtain ⟨name, hne, rfl, rfl⟩ := annotationType_eq_ok_iff.mp htype
    refine ⟨⟨index, count, fun i => (f i).1, fun i => (f i).2⟩, ?_, ?_,
      name, hne, ConstantPool.text_eq_ok_iff.mp htext, rfl⟩
    · simp [Marker.encode, ← encode_pairs]
    · exact fun i => hfits (f i) (List.mem_ofFn.mpr ⟨i, rfl⟩)
  · rintro ⟨index, count, names, values⟩ t ⟨hfits, name, hne, htext, rfl⟩
    refine ⟨(index, (), (), Table.ofFn count fun i => (names i, values i), ()), ?_, _, rfl, _,
      ConstantPool.text_eq_ok_iff.mpr htext, _, annotationType_eq_ok_iff.mpr ⟨name, hne, rfl, rfl⟩,
      (), ?_, rfl⟩
    · simp [Marker.encode, encode_pairs]
    · intro pair hpair
      obtain ⟨i, rfl⟩ := List.mem_ofFn.mp hpair
      exact hfits i

/-- In a body as long as the bound on depth every value fits. -/
theorem Format.Marker.fits_of_mem {markers : Table Marker} {m : Marker} {rest : List UInt8}
    (hm : m ∈ markers.val) (i : Fin m.count.toNat) :
    (m.values i).Fits (markers.encode Marker.encode ++ rest).length := by
  refine ElementValue.fits_of_length_le ?_
  have hvalue := length_le_elements m.count m.names (fun i => (m.values i).encode) i
  have hmarker : m.encode.length ≤ (markers.val.flatMap Marker.encode).length :=
    (List.sublist_flatten_of_mem (List.mem_map_of_mem hm)).length_le
  simp only [Marker.encode, List.length_append] at hmarker
  simp only [Table.encode, List.length_append]
  omega

theorem annotationsOfBody_eq_ok_iff {cs : List PoolEntry} {body : List UInt8}
    {types : List String} : annotationsOfBody (.ofEntries cs) body = .ok types ↔
      ∃ (markers : Table Marker) (rest : List UInt8), body = markers.encode Marker.encode ++ rest ∧
        List.Forall₂ (Marker.Named cs) markers.val types := by
  have hreads := (annotatedType_reads cs body.length).table
  rw [annotationsOfBody, Parser.run'_eq_ok_iff]
  constructor
  · rintro ⟨rest, h⟩
    obtain ⟨markers, hbody, hmarkers⟩ := (hreads body types rest).mp h
    exact ⟨markers, rest, hbody, hmarkers.imp fun _ _ h => h.2⟩
  · rintro ⟨markers, rest, rfl, hmarkers⟩
    refine ⟨rest, (hreads _ types rest).mpr ⟨markers, rfl, ?_⟩⟩
    refine (List.forall₂_and_left _ _).mpr ⟨?_, hmarkers⟩
    exact fun m hm i => Marker.fits_of_mem hm i

end TypeDiscovery.ClassFile
