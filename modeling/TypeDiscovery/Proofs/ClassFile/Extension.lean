import TypeDiscovery.Proofs.ClassFile.Header
import Mathlib.Order.Nat

/-!
# Parsing is stable under more input

A parser takes its bytes from the front and never asks how many there are, except to find that they
do not suffice. So a longer input gives the same result or the same fault, unless the shorter one
ended too early (`Parser.Stable`). Of the beginnings of an accepted file those from some length on
are accepted, with one header, and all shorter ones end too early.
-/

namespace TypeDiscovery.ClassFile

namespace Parser

variable {α β : Type}

/-- More input changes neither the result nor the fault of a parser that did not run out of it. -/
def Stable (p : Parser α) : Prop :=
  ∀ s more, p s = .error .unexpectedEnd ∨
    p (s ++ more) = (p s).map fun (a, rest) => (a, rest ++ more)

namespace Stable

theorem of_ok {p : Parser α} (hp : Stable p) {s rest : List UInt8} {a : α}
    (h : p s = .ok (a, rest)) (more : List UInt8) : p (s ++ more) = .ok (a, rest ++ more) := by
  rcases hp s more with hend | hmore
  · rw [h] at hend
    cases hend
  · rw [hmore, h]
    rfl

theorem pure (a : α) : Stable (pure a) := fun _ _ => .inr rfl

theorem throw (e : ParseError) : Stable (throw e : Parser α) := fun _ _ => .inr rfl

theorem lift (e : Except ParseError α) : Stable (liftM e) := by
  intro s more
  cases e with
  | ok a => exact .inr rfl
  | error e => exact .inr rfl

theorem bind {p : Parser α} {q : α → Parser β} (hp : Stable p) (hq : ∀ a, Stable (q a)) :
    Stable (p >>= q) := by
  intro s more
  have hrun : ∀ s, (p >>= q) s = Except.bind (p s) fun r => q r.1 r.2 := fun _ => rfl
  rw [hrun, hrun]
  cases hps : p s with
  | ok r =>
    obtain ⟨a, rest⟩ := r
    rw [hp.of_ok hps more]
    exact hq a rest more
  | error e =>
    rcases hp s more with hend | hmore
    · rw [hps] at hend
      cases hend
      exact .inl rfl
    · rw [hmore, hps]
      exact .inr rfl

theorem ite {p q : Parser α} (c : Prop) [Decidable c] (hp : Stable p) (hq : Stable q) :
    Stable (if c then p else q) := by
  by_cases hc : c
  · rw [if_pos hc]
    exact hp
  · rw [if_neg hc]
    exact hq

theorem times {p : Parser α} (hp : Stable p) (n : Nat) : Stable (times n p) := by
  have hgo : ∀ n results, Stable (times.go p n results) := by
    intro n
    induction n with
    | zero => exact fun results => .pure results.reverse
    | succ n ih => exact fun results => hp.bind fun a => ih (a :: results)
  exact hgo n []

theorem repeatedly {p : Parser Unit} (hp : Stable p) (n : Nat) : Stable (repeatedly p n) := by
  induction n with
  | zero => exact .pure ()
  | succ n ih => exact hp.bind fun _ => ih

end Stable

theorem take_stable (n : Nat) : Stable (take n) := by
  intro s more
  simp only [take, splitExact?_eq, List.length_append]
  by_cases hn : n ≤ s.length
  · refine .inr ?_
    rw [if_pos hn, if_pos (by omega), List.take_append_of_le_length hn,
      List.drop_append_of_le_length hn]
    rfl
  · refine .inl ?_
    rw [if_neg hn]

theorem skip_stable (n : Nat) : Stable (skip n) := (take_stable n).bind fun _ => .pure ()

theorem u1_stable : Stable u1 := by
  intro s more
  match s with
  | [] => exact .inl rfl
  | a :: s => exact .inr rfl

theorem u2_stable : Stable u2 := by
  intro s more
  match s with
  | [] | [_] => exact .inl rfl
  | a :: b :: s => exact .inr rfl

theorem u4_stable : Stable u4 := by
  intro s more
  match s with
  | [] | [_] | [_, _] | [_, _, _] => exact .inl rfl
  | a :: b :: c :: d :: s => exact .inr rfl

end Parser

open TypeDiscovery.ClassFile.Parser

/-! ## The constant pool -/

theorem Constant.body_stable (tag : Nat) : Stable (Constant.body tag) := by
  refine .ite _ ?_ (.ite _ ?_ ?_)
  · exact u2_stable.bind fun length => (take_stable length).bind fun _ => .pure _
  · exact u2_stable.bind fun _ => .pure _
  · cases otherSize? tag with
    | some size => exact (skip_stable size).bind fun _ => .pure _
    | none => exact .throw _

namespace ConstantPool

theorem entry_stable : Stable entry :=
  u1_stable.bind fun tag => (Constant.body_stable tag).bind fun _ => .pure _

theorem constants_stable (n : Nat) (pool : ConstantPool) : Stable (constants pool n) := by
  induction n using Nat.strongRecOn generalizing pool with
  | ind n ih =>
    cases n with
    | zero => exact .pure pool
    | succ n =>
      rw [constants_succ]
      exact entry_stable.bind fun (tag, constant) =>
        .ite _ (ih (n - 1) (by omega) _) (ih n (by omega) _)

theorem parse_stable : Stable parse :=
  u2_stable.bind fun count => constants_stable (count - 1) #[.unusable]

end ConstantPool

/-! ## The header -/

namespace Header

theorem version_stable : Stable version := by
  rw [version_eq]
  exact u4_stable.bind fun _ => .ite _ (.throw _) ((skip_stable 2).bind fun _ =>
    u2_stable.bind fun _ => .ite _ (.throw _) (.pure _))

theorem skipAttribute_stable : Stable skipAttribute :=
  (skip_stable 2).bind fun _ => u4_stable.bind fun length => skip_stable length

theorem skipMember_stable : Stable skipMember :=
  (skip_stable 2).bind fun _ => (skip_stable 2).bind fun _ => (skip_stable 2).bind fun _ =>
    u2_stable.bind fun attributes => skipAttribute_stable.repeatedly attributes

/-- The body of an attribute is cut out before its annotations are read, so whatever they lack is
not what follows the attribute. -/
theorem attributeBody_stable (invisible : Bool) (pool : ConstantPool) (name : String)
    (length : Nat) : Stable (attributeBody invisible pool name length) :=
  .ite _ ((take_stable length).bind fun body => .lift (annotationsOfBody pool body))
    ((skip_stable length).bind fun _ => .pure [])

theorem classAttribute_stable (invisible : Bool) (pool : ConstantPool) :
    Stable (classAttribute invisible pool) := by
  rw [classAttribute_eq]
  exact u2_stable.bind fun index => u4_stable.bind fun length =>
    (Stable.lift (pool.text index)).bind fun name => attributeBody_stable invisible pool name length

theorem bodyParser_stable (invisible : Bool) (major : Nat) (pool : ConstantPool) :
    Stable (bodyParser invisible major pool) := by
  have hinterface : Stable (do pool.className (← Parser.u2)) :=
    u2_stable.bind fun index => .lift (pool.className index)
  exact u2_stable.bind fun _ => u2_stable.bind fun thisIndex => u2_stable.bind fun superIndex =>
    u2_stable.bind fun interfaces => (hinterface.times interfaces).bind fun _ =>
    u2_stable.bind fun fields => (skipMember_stable.repeatedly fields).bind fun _ =>
    u2_stable.bind fun methods => (skipMember_stable.repeatedly methods).bind fun _ =>
    u2_stable.bind fun attributes =>
      ((classAttribute_stable invisible pool).times attributes).bind fun _ =>
        (Stable.lift (superName pool superIndex)).bind fun _ =>
          (Stable.lift (pool.className thisIndex)).bind fun _ => .pure _

theorem parser_stable (invisible : Bool) : Stable (parser invisible) := by
  rw [parser_eq]
  exact version_stable.bind fun major => ConstantPool.parse_stable.bind fun pool =>
    bodyParser_stable invisible major pool

theorem parse_unexpectedEnd_or_append (invisible : Bool) (bytes more : List UInt8) :
    parse invisible bytes = .error .unexpectedEnd ∨
      parse invisible (bytes ++ more) = parse invisible bytes := by
  have hparse : ∀ bytes, parse invisible bytes = (parser invisible bytes).map Prod.fst :=
    fun _ => rfl
  rw [hparse, hparse]
  rcases parser_stable invisible bytes more with hend | hmore
  · rw [hend]
    exact .inl rfl
  · rw [hmore]
    cases parser invisible bytes with
    | ok r => exact .inr rfl
    | error e => exact .inr rfl

/-- A longer input is parsed like a shorter one, unless that ended too early. Of the beginnings of
an accepted input those from some length on are accepted, all with the same header, and the others
end too early. -/
theorem parse_append (invisible : Bool) (bytes : List UInt8) :
    (∀ more, parse invisible bytes = .error .unexpectedEnd ∨
      parse invisible (bytes ++ more) = parse invisible bytes) ∧
    ∀ h, parse invisible bytes = .ok h → ∃ enough ≤ bytes.length, ∀ n,
      parse invisible (bytes.take n) =
        if enough ≤ n then .ok h else .error .unexpectedEnd := by
  refine ⟨parse_unexpectedEnd_or_append invisible bytes, ?_⟩
  intro h hbytes
  classical
  have hsome : ∃ n, parse invisible (bytes.take n) = .ok h :=
    ⟨bytes.length, by rw [List.take_length, hbytes]⟩
  refine ⟨Nat.find hsome, Nat.find_min' hsome (by rw [List.take_length, hbytes]), ?_⟩
  intro n
  by_cases hn : Nat.find hsome ≤ n
  · rw [if_pos hn]
    have hfound := Nat.find_spec hsome
    have hsplit : bytes.take n =
        bytes.take (Nat.find hsome) ++ (bytes.drop (Nat.find hsome)).take (n - Nat.find hsome) := by
      rw [← List.take_add, Nat.add_sub_cancel' hn]
    rcases parse_unexpectedEnd_or_append invisible (bytes.take (Nat.find hsome))
      ((bytes.drop (Nat.find hsome)).take (n - Nat.find hsome)) with hend | hmore
    · rw [hfound] at hend
      cases hend
    · rw [hsplit, hmore, hfound]
  · rw [if_neg hn]
    rcases parse_unexpectedEnd_or_append invisible (bytes.take n) (bytes.drop n) with hend | hmore
    · exact hend
    · rw [List.take_append_drop, hbytes] at hmore
      exact absurd (Nat.find_min' hsome hmore.symm) hn

/-- A class `A` with one attribute for invisible annotations. Its body announces so many of them
and holds one, of type `B`. -/
def markedClass (announced : UInt8) : List UInt8 :=
  [0xCA, 0xFE, 0xBA, 0xBE, 0, 0, 0, 52, 0, 5, 1, 0, 1, 65, 7, 0, 1, 1, 0, 27]
    ++ "RuntimeInvisibleAnnotations".toList.map (fun c => c.toNat.toUInt8)
    ++ [1, 0, 3, 76, 66, 59, 0, 33, 0, 2, 0, 0, 0, 0, 0, 0, 0, 0, 0, 1, 0, 3, 0, 0, 0, 6]
    ++ [0, announced, 0, 4, 0, 0]

theorem parse_markedClass :
    parse true (markedClass 1) = .ok ⟨"A", 52, 33, none, [], ["B"]⟩ := by
  decide +kernel

/-- The beginnings of the marked class. -/
theorem parse_append_markedClass :
    parse true (markedClass 1) = .ok ⟨"A", 52, 33, none, [], ["B"]⟩ ∧
    ∃ enough ≤ (markedClass 1).length, ∀ n, parse true ((markedClass 1).take n) =
      if enough ≤ n then .ok ⟨"A", 52, 33, none, [], ["B"]⟩ else .error .unexpectedEnd :=
  ⟨parse_markedClass, (parse_append true (markedClass 1)).2 _ parse_markedClass⟩

end Header

end TypeDiscovery.ClassFile
