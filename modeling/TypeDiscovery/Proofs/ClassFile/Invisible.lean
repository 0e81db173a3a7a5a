import TypeDiscovery.Proofs.ClassFile.Extension

/-!
# Invisible annotations only add markers

Two runs of the parser on the same bytes are compared, one of which passes over the bodies of
attributes that the other reads. An attribute contributes no less to the second run, unless its
body is faulty (`classAttribute_encode`); the first attribute of that kind ends the second run with
the fault in its body, which the first run never looks at.
-/

namespace TypeDiscovery.ClassFile

open Format

namespace Parser

variable {α β X : Type}

theorem bind_of_ok {p : Parser α} {s mid : List UInt8} {a : α} (h : p s = .ok (a, mid))
    (q : α → Parser β) : (p >>= q) s = q a mid := by
  change Except.bind (p s) (fun r => q r.1 r.2) = _
  rw [h]
  rfl

theorem bind_of_error {p : Parser α} {s : List UInt8} {e : ParseError} (h : p s = .error e)
    (q : α → Parser β) : (p >>= q) s = .error e := by
  change Except.bind (p s) (fun r => q r.1 r.2) = _
  rw [h]
  rfl

theorem Reads.run {p : Parser α} {write : X → List UInt8} {Means : X → α → Prop}
    (hp : Reads p write Means) {x : X} {a : α} (hx : Means x a) (rest : List UInt8) :
    p (write x ++ rest) = .ok (a, rest) :=
  (hp _ a rest).mpr ⟨x, rfl, hx⟩

/-- Of written items that are read or refused each on its own, either all are read, or the first
one refused gives the fault. -/
theorem times_ok_or_refused {p : Parser α} {write : X → List UInt8} {Means : X → α → Prop}
    {Refused : X → ParseError → Prop} {xs : List X} (rest : List UInt8)
    (hp : ∀ x ∈ xs, ∀ more, (∃ a, Means x a ∧ p (write x ++ more) = .ok (a, more)) ∨
      ∃ e, Refused x e ∧ p (write x ++ more) = .error e) :
    (∃ as, List.Forall₂ Means xs as) ∨
      ∃ before x after as e, xs = before ++ x :: after ∧ List.Forall₂ Means before as ∧
        Refused x e ∧ times xs.length p (xs.flatMap write ++ rest) = .error e := by
  -- the results so far do not matter for what the remaining items give
  suffices hgo : ∀ results, (∃ as, List.Forall₂ Means xs as) ∨
      ∃ before x after as e, xs = before ++ x :: after ∧ List.Forall₂ Means before as ∧
        Refused x e ∧ times.go p xs.length results (xs.flatMap write ++ rest) = .error e from
    hgo []
  induction xs with
  | nil => exact fun _ => .inl ⟨[], .nil⟩
  | cons x xs ih =>
    intro results
    have hstep : ∀ s, times.go p (x :: xs).length results s =
        (p >>= fun a => times.go p xs.length (a :: results)) s := fun _ => rfl
    rw [hstep, List.flatMap_cons, List.append_assoc]
    rcases hp x List.mem_cons_self (xs.flatMap write ++ rest) with ⟨a, hx, hrun⟩ | ⟨e, hx, hrun⟩
    · rw [bind_of_ok hrun]
      rcases ih (fun y hy => hp y (List.mem_cons_of_mem x hy)) (a :: results) with
        ⟨as, has⟩ | ⟨before, y, after, as, e, rfl, has, hy, hfault⟩
      · exact .inl ⟨a :: as, .cons hx has⟩
      · exact .inr ⟨x :: before, y, after, a :: as, e, rfl, .cons hx has, hy, hfault⟩
    · exact .inr ⟨[], x, xs, [], e, rfl, .nil, hx, bind_of_error hrun _⟩

end Parser

/-! ## What attributes contribute -/

namespace Format

theorem Wanted.invisible {name : String} (h : Wanted false name) : Wanted true name := by
  rcases h with h | ⟨h, _⟩
  · exact .inl h
  · cases h

theorem Wanted.eq_of_not_visible {name : String} (h : Wanted true name)
    (hvisible : ¬Wanted false name) : name = "RuntimeInvisibleAnnotations" := by
  rcases h with h | ⟨_, h⟩
  · exact absurd (.inl h) hvisible
  · exact h

/-- Without the invisible annotations an attribute contributes what it does with them, or
nothing. -/
theorem Attribute.Contributes.visible {cs : List PoolEntry} {a : Attribute} {types : List String}
    (h : a.Contributes cs true types) :
    ∃ visible, visible.Sublist types ∧ a.Contributes cs false visible := by
  obtain ⟨name, hname, h⟩ := h
  by_cases hvisible : Wanted false name
  · rcases h with ⟨hunwanted, _⟩ | ⟨_, hmarkers⟩
    · exact absurd hvisible.invisible hunwanted
    · exact ⟨types, .refl types, name, hname, .inr ⟨hvisible, hmarkers⟩⟩
  · exact ⟨[], List.nil_sublist types, name, hname, .inl ⟨hvisible, rfl⟩⟩

theorem contributes_visible {cs : List PoolEntry} {as : List Attribute}
    {types : List (List String)} (h : List.Forall₂ (Attribute.Contributes cs true) as types) :
    ∃ visible, visible.flatten.Sublist types.flatten ∧
      List.Forall₂ (Attribute.Contributes cs false) as visible := by
  induction h with
  | nil => exact ⟨[], .refl _, .nil⟩
  | cons ha _ ih =>
    obtain ⟨first, hfirst, ha⟩ := ha.visible
    obtain ⟨others, hothers, has⟩ := ih
    refine ⟨first :: others, ?_, .cons ha has⟩
    rw [List.flatten_cons, List.flatten_cons]
    exact hfirst.append hothers

theorem File.Denotes.visible {f : File} {h : Header} (hf : f.Denotes true h) :
    ∃ visible, visible.Sublist h.annotations ∧
      f.Denotes false { h with annotations := visible } := by
  obtain ⟨hversion, hname, haccess, hsuper, hinterfaces, types, htypes, hattributes⟩ := hf
  obtain ⟨visible, hsub, hvisible⟩ := contributes_visible hattributes
  refine ⟨visible.flatten, ?_, hversion, hname, haccess, hsuper, hinterfaces, visible, rfl,
    hvisible⟩
  rw [htypes]
  exact hsub

/-- The annotations in an attribute's body cannot be read. -/
def Attribute.Faulty (cs : List PoolEntry) (a : Attribute) (e : ParseError) : Prop :=
  TextAt cs a.name "RuntimeInvisibleAnnotations" ∧
    annotationsOfBody (.ofEntries cs) a.body = .error e

end Format

/-! ## The two runs -/

namespace Header

theorem classAttribute_encode {cs : List PoolEntry} {a : Attribute} {name : String}
    (hname : TextAt cs a.name name) (invisible : Bool) (more : List UInt8) :
    classAttribute invisible (.ofEntries cs) (a.encode ++ more) =
      attributeBody invisible (.ofEntries cs) name a.body.length (a.body ++ more) := by
  have hlength : (UInt32.ofNat a.body.length).toNat = a.body.length := by
    rw [UInt32.toNat_ofNat', Nat.mod_eq_of_lt a.bounded]
  have htext := ConstantPool.text_eq_ok_iff.mpr hname
  rw [classAttribute_eq, Attribute.encode, List.append_assoc, List.append_assoc,
    Parser.bind_of_ok (Parser.u2_reads.run rfl _), Parser.bind_of_ok (Parser.u4_reads.run rfl _),
    htext, hlength]
  rfl

/-- What the default run accepts contributes to the other one too, or has a fault in a body that
the default run passes over. -/
theorem classAttribute_ok_or_faulty {cs : List PoolEntry} {a : Attribute} {types : List String}
    (h : a.Contributes cs false types) (more : List UInt8) :
    (∃ types, a.Contributes cs true types ∧
      classAttribute true (.ofEntries cs) (a.encode ++ more) = .ok (types, more)) ∨
    ∃ e, a.Faulty cs e ∧
      classAttribute true (.ofEntries cs) (a.encode ++ more) = .error e := by
  obtain ⟨name, hname, h⟩ := h
  rcases h with ⟨hunwanted, _⟩ | ⟨hwanted, hmarkers⟩
  · by_cases hinvisible : Wanted true name
    · obtain rfl := hinvisible.eq_of_not_visible hunwanted
      have htake : Parser.take a.body.length (a.body ++ more) = .ok (a.body, more) :=
        (Parser.take_reads _).run ⟨rfl, rfl⟩ more
      rw [classAttribute_encode hname, attributeBody, if_pos (wants_iff.mpr hinvisible),
        Parser.bind_of_ok htake]
      cases hbody : annotationsOfBody (.ofEntries cs) a.body with
      | ok types =>
        refine .inl ⟨types, ⟨_, hname, .inr ⟨hinvisible, ?_⟩⟩, rfl⟩
        exact annotationsOfBody_eq_ok_iff.mp hbody
      | error e => exact .inr ⟨e, ⟨hname, hbody⟩, rfl⟩
    · have hcontributes : a.Contributes cs true [] := ⟨name, hname, .inl ⟨hinvisible, rfl⟩⟩
      exact .inl ⟨[], hcontributes, (classAttribute_reads true cs).run hcontributes more⟩
  · have hcontributes : a.Contributes cs true types :=
      ⟨name, hname, .inr ⟨hwanted.invisible, hmarkers⟩⟩
    exact .inl ⟨types, hcontributes, (classAttribute_reads true cs).run hcontributes more⟩

theorem u2_encode_length {X : Type} (table : Table X) (s : List UInt8) :
    Parser.u2 (u2 (UInt16.ofNat table.val.length) ++ s) = .ok (table.val.length, s) := by
  refine Parser.u2_reads.run ?_ s
  rw [UInt16.toNat_ofNat', Nat.mod_eq_of_lt table.property]

/-- A fault in the attributes of a class file is the fault of the file, if all names before the
attributes resolve. -/
theorem parser_eq_error {f : File} {names : List String} {invisible : Bool} {rest : List UInt8}
    {e : ParseError} (hnames : List.Forall₂ (ClassAt f.constants) f.interfaces.val names)
    (hfault : Parser.times f.attributes.val.length
      (classAttribute invisible (.ofEntries f.constants))
      (f.attributes.val.flatMap Attribute.encode ++ rest) = .error e) :
    parser invisible (f.encode ++ rest) = .error e := by
  have hversion : ∀ more, version (u4 0xCAFEBABE ++ u2 f.minor ++ u2 f.major ++ more) =
      .ok (f.major.toNat, more) :=
    version_reads.run (x := (f.minor, f.major)) ⟨f.supported, rfl⟩
  have hpool : ∀ more, ConstantPool.parse
      (u2 f.count ++ f.constants.flatMap PoolEntry.encode ++ more) =
        .ok (.ofEntries f.constants, more) :=
    ConstantPool.parse_reads.run (x := (f.count, f.constants)) ⟨f.announced, rfl⟩
  have hinterfaces : ∀ more, Parser.times f.interfaces.val.length
      (do ConstantPool.className (.ofEntries f.constants) (← Parser.u2))
      (f.interfaces.val.flatMap u2 ++ more) = .ok (names, more) :=
    ((interface_reads f.constants).times _).run ⟨rfl, hnames⟩
  have hmembers : ∀ (members : Table Member) more,
      Parser.repeatedly skipMember members.val.length (members.val.flatMap Member.encode ++ more) =
        .ok ((), more) :=
    fun members => (skipMember_reads.repeatedly _).run ⟨rfl, fun _ _ => trivial⟩
  rw [parser_eq, File.encode]
  simp only [List.append_assoc] at hversion hpool ⊢
  rw [Parser.bind_of_ok (hversion _), Parser.bind_of_ok (hpool _), bodyParser, Body.encode]
  simp only [Table.encode, List.append_assoc]
  rw [Parser.bind_of_ok (Parser.u2_reads.run rfl _), Parser.bind_of_ok (Parser.u2_reads.run rfl _),
    Parser.bind_of_ok (Parser.u2_reads.run rfl _),
    Parser.bind_of_ok (u2_encode_length f.interfaces _), Parser.bind_of_ok (hinterfaces _),
    Parser.bind_of_ok (u2_encode_length f.fields _), Parser.bind_of_ok (hmembers f.fields _),
    Parser.bind_of_ok (u2_encode_length f.methods _), Parser.bind_of_ok (hmembers f.methods _),
    Parser.bind_of_ok (u2_encode_length f.attributes _), Parser.bind_of_error hfault]

/-- What the default run denotes the other run denotes with more markers, or it ends with the
fault of the first attribute whose body is faulty. -/
theorem parse_invisible_of_denotes {f : File} {h : Header} (hf : f.Denotes false h)
    (rest : List UInt8) :
    (∃ h, parse true (f.encode ++ rest) = .ok h) ∨
    ∃ before a after e, f.attributes.val = before ++ a :: after ∧
      (∃ types, List.Forall₂ (Attribute.Contributes f.constants true) before types) ∧
      a.Faulty f.constants e ∧ parse true (f.encode ++ rest) = .error e := by
  obtain ⟨hversion, hname, haccess, hsuper, hinterfaces, types, htypes, hattributes⟩ := hf
  have hcontribute : ∀ a ∈ f.attributes.val, ∃ types, a.Contributes f.constants false types :=
    ((List.forall₂_and_left _ _).mp (hattributes.imp fun _ types h => ⟨⟨types, h⟩, h⟩)).1
  have hruns : ∀ a ∈ f.attributes.val, ∀ more,
      (∃ types, a.Contributes f.constants true types ∧
        classAttribute true (.ofEntries f.constants) (a.encode ++ more) = .ok (types, more)) ∨
      ∃ e, a.Faulty f.constants e ∧
        classAttribute true (.ofEntries f.constants) (a.encode ++ more) = .error e := by
    intro a ha more
    obtain ⟨types, hcontributes⟩ := hcontribute a ha
    exact classAttribute_ok_or_faulty hcontributes more
  rcases Parser.times_ok_or_refused rest hruns with ⟨all, hall⟩ |
    ⟨before, a, after, types, e, hsplit, hbefore, hfaulty, hfault⟩
  · refine .inl ⟨⟨h.name, h.majorVersion, h.accessFlags, h.superClass, h.interfaces, all.flatten⟩,
      Parser.run'_eq_ok_iff.mpr ⟨rest, (parser_reads true).run ?_ rest⟩⟩
    exact ⟨hversion, hname, haccess, hsuper, hinterfaces, all, rfl, hall⟩
  · refine .inr ⟨before, a, after, e, hsplit, ⟨types, hbefore⟩, hfaulty, ?_⟩
    have hparser := parser_eq_error hinterfaces hfault
    change Except.map Prod.fst (parser true (f.encode ++ rest)) = _
    rw [hparser]
    rfl

/-- With invisible annotations no less is read than without, but for markers. An input that is read
without them only has a fault in the body of an attribute for invisible annotations, the first
such body with a fault. -/
theorem parse_invisible (bytes : List UInt8) :
    (∀ h, parse true bytes = .ok h → ∃ visible, visible.Sublist h.annotations ∧
      parse false bytes = .ok { h with annotations := visible }) ∧
    ∀ h e, parse false bytes = .ok h → parse true bytes = .error e →
      ∃ (f : File) (rest : List UInt8) (before : List Attribute) (a : Attribute)
        (after : List Attribute), bytes = f.encode ++ rest ∧ f.Denotes false h ∧
        f.attributes.val = before ++ a :: after ∧
        (∃ types, List.Forall₂ (Attribute.Contributes f.constants true) before types) ∧
        TextAt f.constants a.name "RuntimeInvisibleAnnotations" ∧
        annotationsOfBody (.ofEntries f.constants) a.body = .error e := by
  constructor
  · intro h hparse
    obtain ⟨rest, hrun⟩ := Parser.run'_eq_ok_iff.mp hparse
    obtain ⟨f, rfl, hf⟩ := (parser_reads true bytes h rest).mp hrun
    obtain ⟨visible, hsub, hvisible⟩ := hf.visible
    refine ⟨visible, hsub, ?_⟩
    exact Parser.run'_eq_ok_iff.mpr ⟨rest, (parser_reads false).run hvisible rest⟩
  · intro h e hvisible hinvisible
    obtain ⟨rest, hrun⟩ := Parser.run'_eq_ok_iff.mp hvisible
    obtain ⟨f, rfl, hf⟩ := (parser_reads false bytes h rest).mp hrun
    rcases parse_invisible_of_denotes hf rest with ⟨h', hparse⟩ |
      ⟨before, a, after, e', hsplit, hbefore, ⟨hname, hbody⟩, hfault⟩
    · rw [hparse] at hinvisible
      cases hinvisible
    · rw [hfault] at hinvisible
      cases hinvisible
      exact ⟨f, rest, before, a, after, rfl, hf, hsplit, hbefore, hname, hbody⟩

/-- The marked class as it should be, and with a body that ends before its second annotation. -/
theorem parse_invisible_markedClass :
    (parse true (markedClass 1) = .ok ⟨"A", 52, 33, none, [], ["B"]⟩ ∧
      ∃ visible, visible.Sublist ["B"] ∧
        parse false (markedClass 1) = .ok ⟨"A", 52, 33, none, [], visible⟩) ∧
    parse false (markedClass 2) = .ok ⟨"A", 52, 33, none, [], []⟩ ∧
    parse true (markedClass 2) = .error .unexpectedEnd ∧
    ∃ (f : File) (rest : List UInt8) (a : Attribute), markedClass 2 = f.encode ++ rest ∧
      a ∈ f.attributes.val ∧ TextAt f.constants a.name "RuntimeInvisibleAnnotations" ∧
      annotationsOfBody (.ofEntries f.constants) a.body = .error .unexpectedEnd := by
  have hvisible : parse false (markedClass 2) = .ok ⟨"A", 52, 33, none, [], []⟩ := by
    decide +kernel
  have hfault : parse true (markedClass 2) = .error .unexpectedEnd := by decide +kernel
  refine ⟨⟨parse_markedClass, (parse_invisible (markedClass 1)).1 _ parse_markedClass⟩, hvisible,
    hfault, ?_⟩
  obtain ⟨f, rest, before, a, after, hbytes, _, hsplit, _, hname, hbody⟩ :=
    (parse_invisible (markedClass 2)).2 _ _ hvisible hfault
  exact ⟨f, rest, a, hbytes, by simp [hsplit], hname, hbody⟩

end Header

end TypeDiscovery.ClassFile
