import TypeDiscovery.Proofs.ClassFile.Annotation

/-!
# Header parsing accepts the class file format

Attributes and members are passed over as they are written, class attributes contribute their
annotation types, and every name is resolved in the pool that was read before. Together the parser
of headers reads class files: it succeeds exactly on inputs that begin with the encoding of a class
file that denotes a header, and that header is its answer.
-/

namespace TypeDiscovery.ClassFile.Header

open Format

/-! ## Attributes and members -/

/-- A length of four bytes and a body of that length. -/
theorem sized_reads {α : Type} {read : Nat → Parser α} {Means : List UInt8 → α → Prop}
    (hread : ∀ n, Parser.Reads (read n) id fun body a => body.length = n ∧ Means body a) :
    Parser.Reads (Parser.u4 >>= read)
      (fun body : { body : List UInt8 // body.length < 4294967296 } =>
        u4 (UInt32.ofNat body.val.length) ++ body.val) (fun body a => Means body.val a) := by
  refine (Parser.u4_reads.bind hread).congr ?_ ?_
  · rintro ⟨length, body⟩ a ⟨_, rfl, hlen, hbody⟩
    have hlen : body.length = length.toNat := hlen
    exact ⟨⟨body, hlen ▸ length.toNat_lt⟩, by simp [hlen], hbody⟩
  · rintro ⟨body, hbound⟩ a hbody
    refine ⟨(UInt32.ofNat body.length, body), rfl, _, rfl, ?_, hbody⟩
    rw [UInt32.toNat_ofNat', Nat.mod_eq_of_lt hbound]

theorem skipAttribute_reads :
    Parser.Reads skipAttribute Attribute.encode (fun _ _ => True) := by
  have hbody := sized_reads fun n => (Parser.skip_reads n).congr
    (fun body _ h => ⟨body, rfl, h, trivial⟩) (fun body _ h => ⟨body, rfl, h.1⟩)
  refine (Parser.skipNumber_reads.bind fun _ => hbody).congr ?_ ?_
  · rintro ⟨name, body, hbound⟩ a _
    exact ⟨⟨name, body, hbound⟩, by simp [Attribute.encode], trivial⟩
  · rintro ⟨name, body, hbound⟩ a _
    exact ⟨(name, ⟨body, hbound⟩), by simp [Attribute.encode], (), trivial, trivial⟩

theorem skipMember_reads : Parser.Reads skipMember Member.encode (fun _ _ => True) := by
  refine (Parser.skipNumber_reads.bind fun _ => Parser.skipNumber_reads.bind fun _ =>
    Parser.skipNumber_reads.bind fun _ => skipAttribute_reads.skippedTable).congr ?_ ?_
  · rintro ⟨accessFlags, name, descriptor, attributes⟩ a _
    exact ⟨⟨accessFlags, name, descriptor, attributes⟩, by simp [Member.encode], trivial⟩
  · rintro ⟨accessFlags, name, descriptor, attributes⟩ a _
    exact ⟨(accessFlags, name, descriptor, attributes), by simp [Member.encode], (), trivial, (),
      trivial, (), trivial, fun _ _ => trivial⟩

/-! ## Class attributes -/

theorem wants_iff {invisible : Bool} {name : String} :
    wants invisible name = true ↔ Wanted invisible name := by
  simp [wants, Wanted]

/-- What the name of an attribute decides about its body. -/
def attributeBody (invisible : Bool) (pool : ConstantPool) (name : String) (length : Nat) :
    Parser (List String) :=
  if wants invisible name then do
    let body ← Parser.take length
    annotationsOfBody pool body
  else do
    Parser.skip length
    return []

theorem classAttribute_eq (invisible : Bool) (pool : ConstantPool) :
    classAttribute invisible pool = (do
      let nameIndex ← Parser.u2
      let length ← Parser.u4
      let name ← pool.text nameIndex
      attributeBody invisible pool name length) := rfl

theorem attributeBody_reads (invisible : Bool) (cs : List PoolEntry) (name : String)
    (length : Nat) : Parser.Reads (attributeBody invisible (.ofEntries cs) name length) id
      (fun body types => body.length = length ∧ (¬Wanted invisible name ∧ types = [] ∨
        Wanted invisible name ∧ ∃ (markers : Table Marker) (rest : List UInt8),
          body = markers.encode Marker.encode ++ rest ∧
            List.Forall₂ (Marker.Named cs) markers.val types)) := by
  rw [attributeBody]
  by_cases hname : Wanted invisible name
  · rw [if_pos (wants_iff.mpr hname)]
    refine ((Parser.take_reads length).bind fun body =>
      Parser.Reads.lift (annotationsOfBody (.ofEntries cs) body)).congr ?_ ?_
    · rintro ⟨_, _⟩ types ⟨body, ⟨hlen, rfl⟩, htypes⟩
      exact ⟨body, by simp, hlen, .inr ⟨hname, annotationsOfBody_eq_ok_iff.mp htypes⟩⟩
    · rintro body types ⟨hlen, ⟨hn, _⟩ | ⟨_, hmarkers⟩⟩
      · exact absurd hname hn
      · exact ⟨(body, ()), by simp, body, ⟨hlen, rfl⟩, annotationsOfBody_eq_ok_iff.mpr hmarkers⟩
  · rw [if_neg (mt wants_iff.mp hname)]
    refine ((Parser.skip_reads length).bind fun _ => Parser.Reads.pure []).congr ?_ ?_
    · rintro ⟨body, _⟩ types ⟨_, hlen, rfl⟩
      exact ⟨body, by simp, hlen, .inl ⟨hname, rfl⟩⟩
    · rintro body types ⟨hlen, ⟨_, rfl⟩ | ⟨hwanted, _⟩⟩
      · exact ⟨(body, ()), by simp, (), hlen, rfl⟩
      · exact absurd hwanted hname

theorem classAttribute_reads (invisible : Bool) (cs : List PoolEntry) :
    Parser.Reads (classAttribute invisible (.ofEntries cs)) Attribute.encode
      (fun a types => a.Contributes cs invisible types) := by
  rw [classAttribute_eq]
  have hbody : ∀ index n, Parser.Reads (do
        let name ← ConstantPool.text (.ofEntries cs) index
        attributeBody invisible (.ofEntries cs) name n) id
      (fun body types => body.length = n ∧ ∃ name,
        ConstantPool.text (.ofEntries cs) index = .ok name ∧ (¬Wanted invisible name ∧ types = [] ∨
          Wanted invisible name ∧ ∃ (markers : Table Marker) (rest : List UInt8),
            body = markers.encode Marker.encode ++ rest ∧
              List.Forall₂ (Marker.Named cs) markers.val types)) := by
    intro index n
    refine ((Parser.Reads.lift _).bind fun name =>
      attributeBody_reads invisible cs name n).congr ?_ ?_
    · rintro ⟨_, body⟩ types ⟨name, hname, hlen, hbody⟩
      exact ⟨body, rfl, hlen, name, hname, hbody⟩
    · rintro body types ⟨hlen, name, hname, hbody⟩
      exact ⟨((), body), rfl, name, hname, hlen, hbody⟩
  refine (Parser.u2_reads.bind fun index => sized_reads (hbody index)).congr ?_ ?_
  · rintro ⟨index, body, hbound⟩ types ⟨_, rfl, name, hname, hbody⟩
    exact ⟨⟨index, body, hbound⟩, by simp [Attribute.encode], name,
      ConstantPool.text_eq_ok_iff.mp hname, hbody⟩
  · rintro ⟨index, body, hbound⟩ types ⟨name, hname, hbody⟩
    exact ⟨(index, ⟨body, hbound⟩), by simp [Attribute.encode], _, rfl, name,
      ConstantPool.text_eq_ok_iff.mpr hname, hbody⟩

/-! ## The header -/

theorem version_eq : version = (do
    let magic ← Parser.u4
    if magic ≠ magicNumber then throw .invalidMagic else do
      Parser.skip 2
      let major ← Parser.u2
      if !isSupported major then throw (.unsupportedVersion major) else return major) := rfl

theorem isSupported_iff {major : Nat} : isSupported major = true ↔ 45 ≤ major ∧ major ≤ 69 := by
  simp [isSupported]

theorem version_reads : Parser.Reads version
    (fun x : UInt16 × UInt16 => u4 0xCAFEBABE ++ u2 x.1 ++ u2 x.2)
    (fun x n => (45 ≤ x.2.toNat ∧ x.2.toNat ≤ 69) ∧ n = x.2.toNat) := by
  rw [version_eq]
  refine (Parser.u4_reads.bind fun magic => Parser.Reads.refusing
    (Parser.skipNumber_reads.bind fun _ => Parser.u2_reads.bind fun major =>
      (Parser.Reads.pure major).refusing (!isSupported major) (.unsupportedVersion major))
    (magic ≠ magicNumber) .invalidMagic).congr ?_ ?_
  · rintro ⟨magic, minor, major, _⟩ n ⟨_, rfl, hmagic, _, _, _, rfl, hmajor, rfl⟩
    have hmagic : magic = 0xCAFEBABE := UInt32.toNat_inj.mp (not_not.mp hmagic)
    have hmajor : isSupported major.toNat = true := by simpa using hmajor
    exact ⟨(minor, major), by simp [hmagic], isSupported_iff.mp hmajor, rfl⟩
  · rintro ⟨minor, major⟩ n ⟨hmajor, rfl⟩
    have hmajor := isSupported_iff.mpr hmajor
    exact ⟨(0xCAFEBABE, minor, major, ()), by simp, _, rfl, not_not.mpr rfl, (), trivial, _, rfl,
      by simpa using hmajor, rfl⟩

theorem superName_eq_ok_iff {cs : List PoolEntry} {b : Body} {name : Option String} :
    superName (.ofEntries cs) b.superClass.toNat = .ok name ↔ b.Super cs name := by
  rw [superName, Body.Super]
  by_cases hzero : b.superClass = 0
  · simp [hzero, eq_comm]
  · have hindex : b.superClass.toNat ≠ 0 := fun h => hzero (UInt16.toNat_inj.mp h)
    rw [if_neg hindex]
    constructor
    · intro h
      cases hclass : ConstantPool.className (.ofEntries cs) b.superClass.toNat with
      | error e =>
        rw [hclass] at h
        cases h
      | ok super =>
        rw [hclass] at h
        cases h
        exact .inr ⟨hzero, super, ConstantPool.className_eq_ok_iff.mp hclass, rfl⟩
    · rintro (⟨h, _⟩ | ⟨_, super, hclass, rfl⟩)
      · exact absurd h hzero
      · rw [ConstantPool.className_eq_ok_iff.mpr hclass]
        rfl

/-- What follows the constants. -/
def bodyParser (invisible : Bool) (major : Nat) (pool : ConstantPool) : Parser Header := do
  let accessFlags ← Parser.u2
  let thisIndex ← Parser.u2
  let superIndex ← Parser.u2
  let interfaces ← Parser.times (← Parser.u2) (do pool.className (← Parser.u2))
  Parser.repeatedly skipMember (← Parser.u2)
  Parser.repeatedly skipMember (← Parser.u2)
  let annotations ← Parser.times (← Parser.u2) (classAttribute invisible pool)
  let superClass ← superName pool superIndex
  let name ← pool.className thisIndex
  return ⟨name, major, accessFlags, superClass, interfaces, annotations.flatten⟩

theorem parser_eq (invisible : Bool) : parser invisible = (do
    let major ← version
    let pool ← ConstantPool.parse
    bodyParser invisible major pool) := rfl

theorem interface_reads (cs : List PoolEntry) : Parser.Reads
    (do ConstantPool.className (.ofEntries cs) (← Parser.u2)) u2 (ClassAt cs) := by
  refine (Parser.u2_reads.bind fun index => Parser.Reads.lift
    (ConstantPool.className (.ofEntries cs) index)).congr ?_ ?_
  · rintro ⟨index, _⟩ name ⟨_, rfl, hname⟩
    exact ⟨index, by simp, ConstantPool.className_eq_ok_iff.mp hname⟩
  · rintro index name hname
    exact ⟨(index, ()), by simp, _, rfl, ConstantPool.className_eq_ok_iff.mpr hname⟩

theorem bodyParser_reads (invisible : Bool) (major : Nat) (cs : List PoolEntry) :
    Parser.Reads (bodyParser invisible major (.ofEntries cs)) Body.encode
      (fun b h => h.majorVersion = major ∧ b.Denotes cs invisible h) := by
  refine (Parser.u2_reads.bind fun accessFlags => Parser.u2_reads.bind fun thisIndex =>
    Parser.u2_reads.bind fun superIndex => (interface_reads cs).bindTable fun interfaces =>
      skipMember_reads.bindSkipped fun _ => skipMember_reads.bindSkipped fun _ =>
        (classAttribute_reads invisible cs).bindTable fun annotations =>
          (Parser.Reads.lift (superName (.ofEntries cs) superIndex)).bind fun superClass =>
            (Parser.Reads.lift (ConstantPool.className (.ofEntries cs) thisIndex)).bind fun name =>
              Parser.Reads.pure (Header.mk name major accessFlags superClass interfaces
                annotations.flatten)).congr ?_ ?_
  · rintro ⟨accessFlags, thisClass, superClass, interfaces, fields, methods, attributes, _⟩ h
      ⟨_, rfl, _, rfl, _, rfl, names, hnames, _, _, types, htypes, super, hsuper, name, hname, rfl⟩
    refine ⟨⟨accessFlags, thisClass, superClass, interfaces, fields, methods, attributes⟩, ?_, rfl,
      ⟨ConstantPool.className_eq_ok_iff.mp hname, rfl, ?_, hnames, types, rfl, htypes⟩⟩
    · simp [Body.encode]
    · exact superName_eq_ok_iff.mp hsuper
  · rintro ⟨accessFlags, thisClass, superClass, interfaces, fields, methods, attributes⟩
      ⟨name, _, _, super, names, _⟩ ⟨rfl, hname, rfl, hsuper, hnames, types, rfl, htypes⟩
    refine ⟨(accessFlags, thisClass, superClass, interfaces, fields, methods, attributes, (), (),
      ()), ?_, _, rfl, _, rfl, _, rfl, names, hnames, fun _ _ => trivial, fun _ _ => trivial, types,
      htypes, super, superName_eq_ok_iff.mpr hsuper, name,
      ConstantPool.className_eq_ok_iff.mpr hname, rfl⟩
    simp [Body.encode]

theorem parser_reads (invisible : Bool) :
    Parser.Reads (parser invisible) File.encode (fun f h => f.Denotes invisible h) := by
  have hrest : ∀ major (x : UInt16 × List PoolEntry) pool,
      Announces x.1.toNat x.2 ∧ pool = .ofEntries x.2 →
        Parser.Reads (bodyParser invisible major pool) Body.encode
          (fun b h => h.majorVersion = major ∧ b.Denotes x.2 invisible h) := by
    rintro major x _ ⟨_, rfl⟩
    exact bodyParser_reads invisible major x.2
  rw [parser_eq]
  refine (version_reads.bind fun major =>
    ConstantPool.parse_reads.bind_of (hrest major)).congr ?_ ?_
  · rintro ⟨⟨minor, major⟩, ⟨count, constants⟩, body⟩ h
      ⟨_, ⟨hmajor, rfl⟩, _, ⟨hcount, _⟩, hversion, hbody⟩
    refine ⟨⟨body, minor, major, hmajor, count, constants, hcount⟩, ?_, hversion, hbody⟩
    simp [File.encode]
  · rintro ⟨body, minor, major, hmajor, count, constants, hcount⟩ h ⟨hversion, hbody⟩
    refine ⟨((minor, major), (count, constants), body), ?_, _, ⟨hmajor, rfl⟩, _, ⟨hcount, rfl⟩,
      hversion, hbody⟩
    simp [File.encode]

/-- Headers are parsed from exactly the inputs that begin with a class file that denotes one. -/
theorem parse_eq_ok_iff (invisible : Bool) (bytes : List UInt8) (h : Header) :
    parse invisible bytes = .ok h ↔
      ∃ (f : File) (rest : List UInt8), bytes = f.encode ++ rest ∧ f.Denotes invisible h := by
  rw [parse, Parser.run'_eq_ok_iff]
  constructor
  · rintro ⟨rest, hparse⟩
    obtain ⟨f, hbytes, hf⟩ := (parser_reads invisible bytes h rest).mp hparse
    exact ⟨f, rest, hbytes, hf⟩
  · rintro ⟨f, rest, hbytes, hf⟩
    exact ⟨rest, (parser_reads invisible bytes h rest).mpr ⟨f, hbytes, hf⟩⟩

end TypeDiscovery.ClassFile.Header
