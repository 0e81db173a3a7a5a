import TypeDiscovery.Pattern
import TypeDiscovery.Pattern.Regex
import TypeDiscovery.Proofs.Pattern.Bounds
import TypeDiscovery.Proofs.Pattern.Readings

/-!
# Matching a whole text

The text of a pattern is put between anchors, with a line feed before the closing one if the text
does not compile without it. Without the line feed the closing anchor may be taken in by a comment,
and then the text is no pattern. With it a pattern that has no comment at its end asks for a line
feed, but then the text is a pattern without it already. So where an engine keeps to what is
documented, the whole text is matched by the pattern's own expression (`isMatch_whole_iff`), unless
the text without the line feed is refused for its size, and with it is not: then the line feed
counts (`isMatch_whole_lifted`).
-/

namespace TypeDiscovery.Pattern

/-! ## Depth -/

namespace Tree

theorem ofBranches_append (first last : Tree) (rest : List Tree) :
    ofBranches (first :: rest ++ [last]) = alternatives (first :: rest ++ [last]) := by
  cases rest <;> rfl

end Tree

namespace Reading

end Reading

/-! ## A line feed that counts -/

section Meaning

variable [UnicodeTables]

/-- Where one expression spans a stretch, the other spans one that starts at the same place. -/
def Expr.Prolongs (longer e : Expr) : Prop :=
  ∀ text i k, longer.Spans text i k → ∃ j, e.Spans text i j

namespace Expr

theorem Prolongs.seq {a b : Expr} (h : b.Prolongs a) (first : Expr) :
    (Expr.seq first b).Prolongs (Expr.seq first a) := by
  intro text i k hspan
  obtain ⟨m, hfirst, hb⟩ := spans_seq_iff.mp hspan
  obtain ⟨j, ha⟩ := h text m k hb
  exact ⟨j, .seq hfirst ha⟩

theorem Prolongs.choice {a b : Expr} (h : b.Prolongs a) (first : Expr) :
    (Expr.choice first b).Prolongs (Expr.choice first a) := by
  intro text i k hspan
  cases hspan with
  | choiceFirst hfirst => exact ⟨k, .choiceFirst hfirst⟩
  | choiceSecond hb =>
    obtain ⟨j, ha⟩ := h text i k hb
    exact ⟨j, .choiceSecond ha⟩

end Expr

/-- The meaning of one tree is prolonged by that of the other, and the flags after both are the
same. -/
def Tree.ProlongedBy (a b : Tree) : Prop :=
  ∀ flags e after, Expr.ofTree? flags a = some (e, after) →
    ∃ longer, Expr.ofTree? flags b = some (longer, after) ∧ longer.Prolongs e

namespace Tree

open TypeDiscovery.Pattern.Expr (ofTree? ofSequence? ofBranches?)

theorem ofBranches?_cons_append (flags : Flags) (branch last : Tree) (rest : List Tree) :
    ofBranches? flags (branch :: rest ++ [last]) =
      (ofTree? flags branch).bind fun (e, between) =>
        (ofBranches? between (rest ++ [last])).bind fun (f, after) =>
          some (.choice e f, after) := by
  cases rest <;> rfl

theorem ProlongedBy.ofBranches? {a b : Tree} (h : a.ProlongedBy b) {flags after : Flags}
    {branches : List Tree} {e : Expr}
    (hbranches : Expr.ofBranches? flags (branches ++ [a]) = some (e, after)) :
    ∃ longer, Expr.ofBranches? flags (branches ++ [b]) = some (longer, after) ∧
      longer.Prolongs e := by
  induction branches generalizing flags e with
  | nil => exact h flags e after hbranches
  | cons branch rest ih =>
    simp only [ofBranches?_cons_append, Option.bind_eq_some_iff] at hbranches ⊢
    obtain ⟨⟨f, between⟩, hbranch, ⟨g, last⟩, hrest, heq⟩ := hbranches
    cases heq
    obtain ⟨longer, hlonger, hprolongs⟩ := ih hrest
    exact ⟨.choice f longer, ⟨_, hbranch, _, hlonger, rfl⟩, hprolongs.choice f⟩

theorem ProlongedBy.ofBranches {a b : Tree} (h : a.ProlongedBy b) (branches : List Tree) :
    (Tree.ofBranches (branches ++ [a])).ProlongedBy (Tree.ofBranches (branches ++ [b])) := by
  cases branches with
  | nil => exact h
  | cons first rest =>
    rw [ofBranches_append, ofBranches_append]
    exact fun flags e after hmeaning => h.ofBranches? hmeaning

end Tree

namespace Expr

end Expr

end Meaning

/-! ## Compiled patterns -/

section Compiled

variable [Engine] {source : String} {p : Pattern} {e : Expr}

variable [UnicodeTables]

end Compiled

/-! ## The engine of this library -/

theorem compileText_cases (text : String) :
    (Expr.ofText? text.toList = none ∧ compileText text = .error .malformed) ∨
    (∃ e, Expr.ofText? text.toList = some e ∧
      (compileText text = .error .tooLarge ∨
        compileText text = .ok fun subject => e.isMatch subject.toList)) := by
  unfold compileText Expr.ofText?
  cases Tree.ofText? text.toList with
  | none => exact .inl ⟨rfl, rfl⟩
  | some tree =>
    simp only [Option.bind_eq_bind, Option.bind_some]
    cases Expr.ofTree? .default tree with
    | none => exact .inl ⟨rfl, rfl⟩
    | some meaning =>
      right
      refine ⟨meaning.1, rfl, ?_⟩
      cases htoo : tree.isTooLarge
      · exact .inr rfl
      · exact .inl rfl

/-- The engine of this library keeps to what is documented for every text. -/
theorem Engine.documented (text : String) : Engine.Documented text := by
  constructor
  · intro test h
    have hcompile : compileText text = .ok test := h
    rcases compileText_cases text with ⟨_, hrefused⟩ | ⟨e, hdenotes, hrefused | haccepted⟩
    · cases hrefused.symm.trans hcompile
    · cases hrefused.symm.trans hcompile
    · cases haccepted.symm.trans hcompile
      exact ⟨e, hdenotes, fun _ => Expr.isMatch_iff_of_ofText? hdenotes⟩
  · intro h
    have hcompile : compileText text = .error .malformed := h
    rcases compileText_cases text with ⟨hnone, _⟩ | ⟨e, _, hrefused | haccepted⟩
    · exact hnone
    · cases hrefused.symm.trans hcompile
    · cases haccepted.symm.trans hcompile

end TypeDiscovery.Pattern
