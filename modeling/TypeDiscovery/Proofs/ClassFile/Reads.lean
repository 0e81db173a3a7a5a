import TypeDiscovery.Proofs.ClassFile.Format

/-!
# Parsers that read a format

`Reads p write Means` says at once that `p` accepts nothing else than what `write` writes and that
it accepts all of it: its successes are the inputs that begin with some `write x`, and `Means`
relates `x` to the result. A parser built from such parsers reads the juxtaposed format.
-/

namespace TypeDiscovery.ClassFile.Parser

open Format

variable {α β X Y : Type}

def Reads (p : Parser α) (write : X → List UInt8) (Means : X → α → Prop) : Prop :=
  ∀ s a rest, p s = .ok (a, rest) ↔ ∃ x, s = write x ++ rest ∧ Means x a

theorem bind_eq_ok_iff {p : Parser α} {q : α → Parser β} {s rest : List UInt8} {b : β} :
    (p >>= q) s = .ok (b, rest) ↔ ∃ a mid, p s = .ok (a, mid) ∧ q a mid = .ok (b, rest) := by
  change Except.bind (p s) (fun r => q r.1 r.2) = _ ↔ _
  cases p s with
  | error e => simp [Except.bind]
  | ok r =>
    obtain ⟨a, mid⟩ := r
    simp [Except.bind]

theorem run'_eq_ok_iff {p : Parser α} {s : List UInt8} {a : α} :
    StateT.run' p s = .ok a ↔ ∃ rest, p s = .ok (a, rest) := by
  change Except.map Prod.fst (p s) = .ok a ↔ _
  cases p s with
  | error e => simp [Except.map]
  | ok r => simp [Except.map, Prod.ext_iff]

namespace Reads

variable {p : Parser α} {q : α → Parser β} {write : X → List UInt8} {write' : Y → List UInt8}
  {Means : X → α → Prop} {Means' : Y → α → Prop}

/-- Another description of the same format. -/
theorem congr (hp : Reads p write Means)
    (hto : ∀ x a, Means x a → ∃ y, write x = write' y ∧ Means' y a)
    (hof : ∀ y a, Means' y a → ∃ x, write' y = write x ∧ Means x a) : Reads p write' Means' := by
  intro s a rest
  rw [hp s a rest]
  constructor
  · rintro ⟨x, rfl, hx⟩
    obtain ⟨y, hxy, hy⟩ := hto x a hx
    exact ⟨y, by rw [hxy], hy⟩
  · rintro ⟨y, rfl, hy⟩
    obtain ⟨x, hyx, hx⟩ := hof y a hy
    exact ⟨x, by rw [hyx], hx⟩

theorem pure (a : α) : Reads (pure a) (fun _ : Unit => []) (fun _ b => b = a) := by
  intro s b rest
  change Except.ok (a, s) = .ok (b, rest) ↔ _
  simp [eq_comm, and_comm]

theorem throw (write : X → List UInt8) (e : ParseError) :
    Reads (throw e : Parser α) write (fun _ _ => False) := by
  intro s a rest
  change Except.error e = .ok (a, rest) ↔ _
  simp

/-- Only what is not refused is read. -/
theorem refusing (hp : Reads p write Means) (c : Prop) [Decidable c] (e : ParseError) :
    Reads (if c then MonadExcept.throw e else p) write (fun x a => ¬c ∧ Means x a) := by
  by_cases hc : c
  · rw [if_pos hc]
    refine (throw write e).congr ?_ ?_
    · rintro x a ⟨⟩
    · rintro x a ⟨hn, _⟩
      exact absurd hc hn
  · rw [if_neg hc]
    simpa only [hc, not_false_eq_true, true_and] using hp

/-- A fallible computation takes no input. -/
theorem lift (e : Except ParseError α) :
    Reads (liftM e) (fun _ : Unit => []) (fun _ a => e = .ok a) := by
  intro s a rest
  change Except.bind e (fun b => Except.ok (b, s)) = .ok (a, rest) ↔ _
  cases e <;> simp [Except.bind, eq_comm, and_comm]

/-- The second parser need only read after results that the first can give, and what it reads may
depend on what was written for the first. -/
theorem bind_of {Means' : X → α → Y → β → Prop} (hp : Reads p write Means)
    (hq : ∀ x a, Means x a → Reads (q a) write' (Means' x a)) :
    Reads (p >>= q) (fun x : X × Y => write x.1 ++ write' x.2)
      (fun x b => ∃ a, Means x.1 a ∧ Means' x.1 a x.2 b) := by
  intro s b rest
  rw [bind_eq_ok_iff]
  constructor
  · rintro ⟨a, mid, ha, hb⟩
    obtain ⟨x, rfl, hx⟩ := (hp s a mid).mp ha
    obtain ⟨y, rfl, hy⟩ := (hq x a hx mid b rest).mp hb
    exact ⟨(x, y), by simp, a, hx, hy⟩
  · rintro ⟨⟨x, y⟩, rfl, a, hx, hy⟩
    refine ⟨a, write' y ++ rest, (hp _ _ _).mpr ⟨x, by simp, hx⟩, ?_⟩
    exact (hq x a hx _ _ _).mpr ⟨y, rfl, hy⟩

theorem bind {Means' : α → Y → β → Prop} (hp : Reads p write Means)
    (hq : ∀ a, Reads (q a) write' (Means' a)) :
    Reads (p >>= q) (fun x : X × Y => write x.1 ++ write' x.2)
      (fun x b => ∃ a, Means x.1 a ∧ Means' a x.2 b) :=
  bind_of hp fun _ a _ => hq a

end Reads

/-! ## Numbers and bytes -/

theorem u1_reads : Reads u1 (fun b : UInt8 => [b]) (fun b n => n = b.toNat) := by
  intro s n rest
  cases s with
  | nil => simp [u1]
  | cons b s => simp [u1, eq_comm, and_comm]

theorem u2_reads : Reads u2 Format.u2 (fun x n => n = x.toNat) := by
  intro s n rest
  constructor
  · intro h
    match s, h with
    | a :: b :: s, h =>
      simp only [u2, Except.ok.injEq, Prod.mk.injEq] at h
      obtain ⟨rfl, rfl⟩ := h
      have ha := a.toNat_lt
      have hb := b.toNat_lt
      have hn : (UInt16.ofNat (a.toNat * 256 + b.toNat)).toNat = a.toNat * 256 + b.toNat := by
        rw [UInt16.toNat_ofNat']
        omega
      refine ⟨UInt16.ofNat (a.toNat * 256 + b.toNat), ?_, hn.symm⟩
      simp only [Format.u2, hn, List.cons_append, List.nil_append, List.cons.injEq, and_true,
        ← UInt8.toNat_inj, UInt8.toNat_ofNat']
      omega
  · rintro ⟨x, rfl, rfl⟩
    have hx := x.toNat_lt
    simp only [Format.u2, List.cons_append, List.nil_append, u2, UInt8.toNat_ofNat']
    congr 2
    omega

theorem u4_reads : Reads u4 Format.u4 (fun x n => n = x.toNat) := by
  intro s n rest
  constructor
  · intro h
    match s, h with
    | a :: b :: c :: d :: s, h =>
      simp only [u4, Except.ok.injEq, Prod.mk.injEq] at h
      obtain ⟨rfl, rfl⟩ := h
      have ha := a.toNat_lt
      have hb := b.toNat_lt
      have hc := c.toNat_lt
      have hd := d.toNat_lt
      have hn : (UInt32.ofNat (((a.toNat * 256 + b.toNat) * 256 + c.toNat) * 256 + d.toNat)).toNat
          = ((a.toNat * 256 + b.toNat) * 256 + c.toNat) * 256 + d.toNat := by
        rw [UInt32.toNat_ofNat']
        omega
      refine ⟨_, ?_, hn.symm⟩
      simp only [Format.u4, hn, List.cons_append, List.nil_append, List.cons.injEq, and_true,
        ← UInt8.toNat_inj, UInt8.toNat_ofNat']
      omega
  · rintro ⟨x, rfl, rfl⟩
    have hx := x.toNat_lt
    simp only [Format.u4, List.cons_append, List.nil_append, u4, UInt8.toNat_ofNat']
    congr 2
    omega

theorem take_reads (n : Nat) : Reads (take n) id (fun bytes b => bytes.length = n ∧ b = bytes) := by
  intro s b rest
  rw [take, splitExact?_eq]
  constructor
  · intro h
    by_cases hn : n ≤ s.length
    · simp only [if_pos hn, Except.ok.injEq, Prod.mk.injEq] at h
      obtain ⟨rfl, rfl⟩ := h
      exact ⟨s.take n, by simp, List.length_take_of_le hn, rfl⟩
    · simp [if_neg hn] at h
  · rintro ⟨bytes, rfl, rfl, rfl⟩
    simp

theorem skip_reads (n : Nat) : Reads (skip n) id (fun bytes _ => bytes.length = n) := by
  refine Reads.congr ((take_reads n).bind fun _ => Reads.pure ()) ?_ ?_
  · rintro ⟨bytes, _⟩ a ⟨_, ⟨hn, _⟩, _⟩
    exact ⟨bytes, by simp, hn⟩
  · intro bytes a hn
    exact ⟨(bytes, ()), by simp, bytes, ⟨hn, rfl⟩, rfl⟩

theorem length_u2 (n : UInt16) : (Format.u2 n).length = 2 := rfl

/-- Two bytes that are passed over are a number that nothing asks for. -/
theorem skipNumber_reads : Reads (skip 2) Format.u2 (fun _ _ => True) := by
  refine (skip_reads 2).congr ?_ ?_
  · intro bytes a hlen
    match bytes, hlen with
    | [a, b], _ =>
      obtain ⟨n, hn, _⟩ := (u2_reads [a, b] _ []).mp rfl
      exact ⟨n, by simpa using hn, trivial⟩
  · intro n a _
    exact ⟨Format.u2 n, rfl, length_u2 n⟩

theorem skipNumbers_reads : Reads (skip 4)
    (fun x : UInt16 × UInt16 => Format.u2 x.1 ++ Format.u2 x.2) (fun _ _ => True) := by
  refine (skip_reads 4).congr ?_ ?_
  · intro bytes a hlen
    match bytes, hlen with
    | [a, b, c, d], _ =>
      obtain ⟨m, hm, _⟩ := (u2_reads [a, b] _ []).mp rfl
      obtain ⟨n, hn, _⟩ := (u2_reads [c, d] _ []).mp rfl
      refine ⟨(m, n), ?_, trivial⟩
      rw [List.append_nil] at hm hn
      rw [← hm, ← hn]
      rfl
  · rintro ⟨m, n⟩ a _
    exact ⟨_, rfl, rfl⟩

/-! ## Repetition -/

namespace Reads

variable {p : Parser α} {write : X → List UInt8} {Means : X → α → Prop}

theorem times_go (hp : Reads p write Means) (n : Nat) (results : List α) :
    Reads (times.go p n results) (fun xs : List X => xs.flatMap write)
      (fun xs as => xs.length = n ∧
        ∃ bs, List.Forall₂ Means xs bs ∧ as = results.reverse ++ bs) := by
  induction n generalizing results with
  | zero =>
    refine (Reads.pure results.reverse).congr ?_ ?_
    · rintro _ as rfl
      exact ⟨[], rfl, rfl, [], .nil, by simp⟩
    · rintro xs as ⟨hlen, bs, hbs, rfl⟩
      obtain rfl := List.eq_nil_of_length_eq_zero hlen
      cases hbs
      exact ⟨(), rfl, by simp⟩
  | succ n ih =>
    refine (hp.bind fun a => ih (a :: results)).congr ?_ ?_
    · rintro ⟨x, xs⟩ as ⟨a, hx, hlen, bs, hbs, rfl⟩
      exact ⟨x :: xs, rfl, by simp [hlen], a :: bs, .cons hx hbs, by simp⟩
    · rintro xs as ⟨hlen, bs, hbs, rfl⟩
      cases hbs with
      | nil => cases hlen
      | cons hx hxs =>
        refine ⟨(_, _), rfl, _, hx, ?_, _, hxs, by simp⟩
        simpa using hlen

theorem times (hp : Reads p write Means) (n : Nat) :
    Reads (times n p) (fun xs : List X => xs.flatMap write)
      (fun xs as => xs.length = n ∧ List.Forall₂ Means xs as) := by
  refine (hp.times_go n []).congr ?_ ?_
  · rintro xs as ⟨hlen, bs, hbs, rfl⟩
    exact ⟨xs, rfl, hlen, hbs⟩
  · rintro xs as ⟨hlen, hxs⟩
    exact ⟨xs, rfl, hlen, as, hxs, rfl⟩

theorem repeatedly {p : Parser Unit} {Fits : X → Prop} (hp : Reads p write fun x _ => Fits x)
    (n : Nat) : Reads (repeatedly p n) (fun xs : List X => xs.flatMap write)
      (fun xs _ => xs.length = n ∧ ∀ x ∈ xs, Fits x) := by
  induction n with
  | zero =>
    refine (Reads.pure ()).congr ?_ ?_
    · rintro _ a _
      exact ⟨[], rfl, rfl, by simp⟩
    · rintro xs a ⟨hlen, _⟩
      obtain rfl := List.eq_nil_of_length_eq_zero hlen
      exact ⟨(), rfl, rfl⟩
  | succ n ih =>
    refine (hp.bind fun _ => ih).congr ?_ ?_
    · rintro ⟨x, xs⟩ a ⟨_, hx, hlen, hxs⟩
      exact ⟨x :: xs, rfl, by simp [hlen], by simpa using ⟨hx, hxs⟩⟩
    · rintro xs a ⟨hlen, hxs⟩
      cases xs with
      | nil => cases hlen
      | cons x xs =>
        refine ⟨(x, xs), rfl, (), hxs x (by simp), by simpa using hlen, ?_⟩
        exact fun y hy => hxs y (by simp [hy])

/-- A count of two bytes and as many items as it says are a table. -/
theorem counted {read : Nat → Parser β} {Items : List X → β → Prop}
    (hread : ∀ n, Reads (read n) (fun xs : List X => xs.flatMap write)
      (fun xs b => xs.length = n ∧ Items xs b)) :
    Reads (u2 >>= read) (Table.encode write) (fun table b => Items table.val b) := by
  refine (u2_reads.bind hread).congr ?_ ?_
  · rintro ⟨count, xs⟩ b ⟨_, rfl, hlen, hxs⟩
    have hcount : xs.length < 65536 := hlen ▸ count.toNat_lt
    refine ⟨⟨xs, hcount⟩, ?_, hxs⟩
    simp [Table.encode, hlen]
  · rintro ⟨xs, hbound⟩ b hxs
    refine ⟨(UInt16.ofNat xs.length, xs), rfl, _, rfl, ?_, hxs⟩
    rw [UInt16.toNat_ofNat', Nat.mod_eq_of_lt hbound]

theorem table (hp : Reads p write Means) :
    Reads (u2 >>= fun n => Parser.times n p) (Table.encode write)
      (fun table as => List.Forall₂ Means table.val as) :=
  counted fun n => hp.times n

theorem skippedTable {p : Parser Unit} {Fits : X → Prop} (hp : Reads p write fun x _ => Fits x) :
    Reads (u2 >>= Parser.repeatedly p) (Table.encode write)
      (fun table _ => ∀ x ∈ table.val, Fits x) :=
  counted fun n => hp.repeatedly n

theorem bindTable {q : List α → Parser β} {write' : Y → List UInt8}
    {Means' : List α → Y → β → Prop} (hp : Reads p write Means)
    (hq : ∀ as, Reads (q as) write' (Means' as)) :
    Reads (u2 >>= fun n => Parser.times n p >>= q)
      (fun x : Table X × Y => x.1.encode write ++ write' x.2)
      (fun x b => ∃ as, List.Forall₂ Means x.1.val as ∧ Means' as x.2 b) := by
  have hassoc : (u2 >>= fun n => Parser.times n p >>= q) =
      (u2 >>= fun n => Parser.times n p) >>= q := (bind_assoc ..).symm
  rw [hassoc]
  exact hp.table.bind hq

theorem bindSkipped {p : Parser Unit} {q : Unit → Parser β} {write' : Y → List UInt8}
    {Fits : X → Prop} {Means' : Y → β → Prop} (hp : Reads p write fun x _ => Fits x)
    (hq : ∀ a, Reads (q a) write' Means') :
    Reads (u2 >>= fun n => Parser.repeatedly p n >>= q)
      (fun x : Table X × Y => x.1.encode write ++ write' x.2)
      (fun x b => (∀ item ∈ x.1.val, Fits item) ∧ Means' x.2 b) := by
  have hassoc : (u2 >>= fun n => Parser.repeatedly p n >>= q) =
      (u2 >>= Parser.repeatedly p) >>= q := (bind_assoc ..).symm
  rw [hassoc]
  refine (hp.skippedTable.bind hq).congr ?_ ?_
  · rintro x b ⟨_, hx, hb⟩
    exact ⟨x, rfl, hx, hb⟩
  · rintro x b ⟨hx, hb⟩
    exact ⟨x, rfl, (), hx, hb⟩

end Reads

end TypeDiscovery.ClassFile.Parser
