import Mathlib.Data.Nat.Bitwise
import TypeDiscovery.Pattern.Matcher

/-!
# What the matcher computes

From a set of positions the matcher computes the set of those at which an expression can end that
starts at one of them (`testBit_ends`), so that an expression matches a text if it spans some
stretch of it (`isMatch_iff`). A repetition without an upper bound needs no more steps than there
are positions, since a step that stays where it is can be left out.
-/

namespace TypeDiscovery.Pattern

/-! ## Sets of positions -/

/-- A set of positions below a bound. -/
def Within (size set : Nat) : Prop := ∀ i, set.testBit i = true → i < size

theorem testBit_placesOf (bits : List Bool) (i : Nat) :
    (placesOf bits).testBit i = true ↔ bits[i]? = some true := by
  induction bits generalizing i with
  | nil => simp [placesOf]
  | cons bit rest ih =>
    have hbit : placesOf (bit :: rest) = Nat.bit bit (placesOf rest) := (Nat.bit_val _ _).symm
    rw [hbit]
    cases i with
    | zero => simp
    | succ i => rw [Nat.testBit_bit_succ, List.getElem?_cons_succ, ih]

theorem testBit_allPlaces (size i : Nat) : (allPlaces size).testBit i = true ↔ i < size := by
  rw [allPlaces, Nat.one_shiftLeft, Nat.testBit_two_pow_sub_one, decide_eq_true_eq]

theorem testBit_new (next reached i : Nat) :
    (next ^^^ (next &&& reached)).testBit i = true ↔
      next.testBit i = true ∧ reached.testBit i = false := by
  rw [Nat.testBit_xor, Nat.testBit_and]
  cases next.testBit i <;> cases reached.testBit i <;> simp

/-! ## Many steps -/

/-- A number of steps of a relation one after the other. -/
inductive Hops (R : Nat → Nat → Prop) : Nat → Nat → Nat → Prop where
  | zero (i : Nat) : Hops R 0 i i
  | succ {n i j k : Nat} (first : R i j) (rest : Hops R n j k) : Hops R (n + 1) i k

section Hops

variable {R : Nat → Nat → Prop} {m n i j k : Nat}

theorem Hops.append (first : Hops R m i j) (second : Hops R n j k) : Hops R (m + n) i k := by
  induction first with
  | zero => rwa [Nat.zero_add]
  | succ hop _ ih =>
    rw [Nat.succ_add]
    exact .succ hop (ih second)

theorem Hops.split (hops : Hops R (m + n) i k) : ∃ j, Hops R m i j ∧ Hops R n j k := by
  induction m generalizing i with
  | zero =>
    rw [Nat.zero_add] at hops
    exact ⟨i, .zero i, hops⟩
  | succ m ih =>
    rw [Nat.succ_add] at hops
    cases hops with
    | succ first rest =>
      obtain ⟨j, hm, hn⟩ := ih rest
      exact ⟨j, .succ first hm, hn⟩

/-- Along steps that never go back, those that stay can be left out. -/
theorem Hops.shorten (forward : ∀ {i j}, R i j → i ≤ j) (hops : Hops R n i j) :
    i ≤ j ∧ ∃ m, m ≤ j - i ∧ Hops R m i j := by
  induction hops with
  | zero i => exact ⟨Nat.le_refl i, 0, Nat.zero_le _, .zero i⟩
  | @succ n i j k first _ ih =>
    obtain ⟨hle, m, hm, shorter⟩ := ih
    have hstep := forward first
    refine ⟨Nat.le_trans hstep hle, ?_⟩
    rcases Nat.eq_or_lt_of_le hstep with rfl | hlt
    · exact ⟨m, hm, shorter⟩
    · exact ⟨m + 1, by omega, .succ first shorter⟩

/-- From a set that only some of its members lead out of, every way out passes one of these. -/
theorem Hops.leave {inside border : Nat → Prop}
    (stays : ∀ i j, inside i → ¬border i → R i j → inside j) (hops : Hops R n i j)
    (start : inside i) :
    inside j ∨ ∃ b, border b ∧ ∃ m, m ≤ n ∧ Hops R m b j := by
  induction hops with
  | zero => exact .inl start
  | @succ n i j k first rest ih =>
    by_cases hborder : border i
    · exact .inr ⟨i, hborder, n + 1, Nat.le_refl _, .succ first rest⟩
    · rcases ih (stays i j start hborder first) with hinside | ⟨b, hb, m, hm, hops⟩
      · exact .inl hinside
      · exact .inr ⟨b, hb, m, Nat.le_succ_of_le hm, hops⟩

end Hops

/-- A function on sets of positions that takes each member to those it is related to. -/
structure Realizes (size : Nat) (step : Nat → Nat) (R : Nat → Nat → Prop) : Prop where
  lands : ∀ {i j}, R i j → j < size
  mem : ∀ {set}, Within size set → ∀ j,
    (step set).testBit j = true ↔ ∃ i, set.testBit i = true ∧ R i j

namespace Realizes

variable {size set j : Nat} {step : Nat → Nat} {R : Nat → Nat → Prop}

theorem within (realizes : Realizes size step R) (h : Within size set) :
    Within size (step set) := by
  intro j hj
  obtain ⟨i, _, hstep⟩ := (realizes.mem h j).mp hj
  exact realizes.lands hstep

theorem iterate_of_fixed (h : step set = set) (count : Nat) : iterate step count set = set := by
  cases count with
  | zero => rfl
  | succ count => rw [iterate, if_pos h]

theorem iterate_succ (step : Nat → Nat) (count set : Nat) :
    iterate step (count + 1) set = iterate step count (step set) := by
  rw [iterate]
  split
  · rename_i h
    rw [h, iterate_of_fixed h]
  · rfl

theorem iterate_iff (realizes : Realizes size step R) (h : Within size set) (count : Nat) :
    Within size (iterate step count set) ∧
    ((iterate step count set).testBit j = true ↔
      ∃ i, set.testBit i = true ∧ Hops R count i j) := by
  induction count generalizing set with
  | zero =>
    refine ⟨h, ⟨fun hj => ⟨j, hj, .zero j⟩, ?_⟩⟩
    rintro ⟨i, hi, hops⟩
    cases hops
    exact hi
  | succ count ih =>
    rw [iterate_succ]
    obtain ⟨hwithin, hmem⟩ := ih (realizes.within h)
    refine ⟨hwithin, hmem.trans ?_⟩
    constructor
    · rintro ⟨m, hm, hops⟩
      obtain ⟨i, hi, hstep⟩ := (realizes.mem h m).mp hm
      exact ⟨i, hi, .succ hstep hops⟩
    · rintro ⟨i, hi, hops⟩
      cases hops with
      | succ first rest => exact ⟨_, (realizes.mem h _).mpr ⟨i, hi, first⟩, rest⟩

end Realizes

/-- Places known so far, of which only the latest lead to places not known. -/
structure Frontier (size : Nat) (R : Nat → Nat → Prop) (reached latest : Nat) : Prop where
  within : Within size reached
  known : ∀ {i}, latest.testBit i = true → reached.testBit i = true
  led : ∀ i j, reached.testBit i = true → ¬latest.testBit i = true → R i j →
    reached.testBit j = true

namespace Frontier

variable {size j : Nat} {step : Nat → Nat} {R : Nat → Nat → Prop} {reached latest : Nat}

theorem start {set : Nat} (h : Within size set) : Frontier size R set set :=
  ⟨h, fun hi => hi, fun _ _ hi hnot _ => absurd hi hnot⟩

theorem within_latest (frontier : Frontier size R reached latest) : Within size latest :=
  fun i hi => frontier.within i (frontier.known hi)

/-- The places that one step is the first to reach. -/
def news (step : Nat → Nat) (reached latest : Nat) : Nat :=
  step latest ^^^ (step latest &&& reached)

theorem testBit_news (realizes : Realizes size step R) (frontier : Frontier size R reached latest) :
    (news step reached latest).testBit j = true ↔
      (∃ i, latest.testBit i = true ∧ R i j) ∧ reached.testBit j = false := by
  rw [news, testBit_new, realizes.mem frontier.within_latest]

theorem reached_or_new (realizes : Realizes size step R)
    (frontier : Frontier size R reached latest) {i : Nat} (hi : latest.testBit i = true)
    (hstep : R i j) :
    reached.testBit j = true ∨ (news step reached latest).testBit j = true := by
  rw [testBit_news realizes frontier]
  cases reached.testBit j with
  | false => exact .inr ⟨⟨i, hi, hstep⟩, rfl⟩
  | true => exact .inl rfl

theorem next (realizes : Realizes size step R) (frontier : Frontier size R reached latest) :
    Frontier size R (reached ||| news step reached latest) (news step reached latest) := by
  refine ⟨?_, ?_, ?_⟩
  · intro i hi
    rw [Nat.testBit_or, Bool.or_eq_true] at hi
    rcases hi with hi | hi
    · exact frontier.within i hi
    · obtain ⟨⟨_, _, hstep⟩, _⟩ := (testBit_news realizes frontier).mp hi
      exact realizes.lands hstep
  · intro i hi
    rw [Nat.testBit_or, hi, Bool.or_true]
  · intro i j hi hold hstep
    rw [Nat.testBit_or, Bool.or_eq_true] at hi ⊢
    by_cases hl : latest.testBit i = true
    · exact frontier.reached_or_new realizes hl hstep
    · exact .inl (frontier.led i j (hi.resolve_right hold) hl hstep)

/-- If a step finds nothing new, nothing leads out of the places known. -/
theorem closed (realizes : Realizes size step R) (frontier : Frontier size R reached latest)
    (h : news step reached latest = 0) {i n : Nat} (hi : reached.testBit i = true)
    (hops : Hops R n i j) : reached.testBit j = true := by
  have hstep : ∀ i j, reached.testBit i = true → R i j → reached.testBit j = true := by
    intro i j hi hstep
    by_cases hl : latest.testBit i = true
    · simpa [h] using frontier.reached_or_new realizes hl hstep
    · exact frontier.led i j hi hl hstep
  induction hops with
  | zero => exact hi
  | succ first _ ih => exact ih (hstep _ _ hi first)

/-- Between what a number of steps reaches and what one step fewer reaches after the first one. -/
theorem reached_next_iff (realizes : Realizes size step R)
    (frontier : Frontier size R reached latest) (count : Nat) :
    ((reached ||| news step reached latest).testBit j = true ∨
      ∃ i, (news step reached latest).testBit i = true ∧ ∃ n ≤ count, Hops R n i j) ↔
    (reached.testBit j = true ∨ ∃ i, latest.testBit i = true ∧ ∃ n ≤ count + 1, Hops R n i j) := by
  constructor
  · rintro (hj | ⟨i, hi, n, hn, hops⟩)
    · rw [Nat.testBit_or, Bool.or_eq_true] at hj
      refine hj.imp_right fun hj => ?_
      obtain ⟨⟨i, hi, hstep⟩, _⟩ := (testBit_news realizes frontier).mp hj
      exact ⟨i, hi, 1, Nat.le_add_left 1 count, .succ hstep (.zero j)⟩
    · obtain ⟨⟨b, hb, hstep⟩, _⟩ := (testBit_news realizes frontier).mp hi
      exact .inr ⟨b, hb, n + 1, Nat.succ_le_succ hn, .succ hstep hops⟩
  · rintro (hj | ⟨i, hi, n, hn, hops⟩)
    · left
      rw [Nat.testBit_or, hj, Bool.true_or]
    · cases hops with
      | zero =>
        left
        rw [Nat.testBit_or, frontier.known hi, Bool.true_or]
      | @succ n _ m _ first rest =>
        have hm : (reached ||| news step reached latest).testBit m = true := by
          rw [Nat.testBit_or, Bool.or_eq_true]
          exact frontier.reached_or_new realizes hi first
        refine (rest.leave (frontier.next realizes).led hm).imp_right ?_
        rintro ⟨b, hb, l, hl, hops⟩
        exact ⟨b, hb, l, by omega, hops⟩

theorem reach_iff (realizes : Realizes size step R) (frontier : Frontier size R reached latest)
    (count : Nat) :
    (reach step count reached latest).testBit j = true ↔
      reached.testBit j = true ∨ ∃ i, latest.testBit i = true ∧ ∃ n ≤ count, Hops R n i j := by
  -- the frontier is carried along while the steps are used up
  induction count generalizing reached latest with
  | zero =>
    rw [reach, iff_self_or]
    rintro ⟨i, hi, n, hn, hops⟩
    obtain rfl := Nat.le_zero.mp hn
    cases hops
    exact frontier.known hi
  | succ count ih =>
    have hreach : reach step (count + 1) reached latest =
        if news step reached latest = 0 then reached
        else reach step count (reached ||| news step reached latest)
          (news step reached latest) := rfl
    rw [hreach]
    split
    · rename_i hnone
      rw [iff_self_or]
      rintro ⟨i, hi, n, _, hops⟩
      exact frontier.closed realizes hnone (frontier.known hi) hops
    · exact (ih (frontier.next realizes)).trans (frontier.reached_next_iff realizes count)

end Frontier

/-- What is reached by a number of steps and up to as many more. -/
theorem Realizes.reach_iterate_iff {size set j : Nat} {step : Nat → Nat} {R : Nat → Nat → Prop}
    (realizes : Realizes size step R) (h : Within size set) (least further : Nat) :
    (reach step further (iterate step least set) (iterate step least set)).testBit j = true ↔
      ∃ i, set.testBit i = true ∧ ∃ n ≤ further, Hops R (least + n) i j := by
  have hstart := fun m => realizes.iterate_iff (j := m) h least
  rw [(Frontier.start (hstart j).1).reach_iff realizes]
  constructor
  · rintro (hj | ⟨m, hm, n, hn, hops⟩)
    · obtain ⟨i, hi, hleast⟩ := (hstart j).2.mp hj
      exact ⟨i, hi, 0, Nat.zero_le _, hleast⟩
    · obtain ⟨i, hi, hleast⟩ := (hstart m).2.mp hm
      exact ⟨i, hi, n, hn, hleast.append hops⟩
  · rintro ⟨i, hi, n, hn, hops⟩
    obtain ⟨m, hleast, hmore⟩ := hops.split
    exact .inr ⟨m, (hstart m).2.mpr ⟨i, hi, hleast⟩, n, hn, hmore⟩

/-! ## Expressions -/

namespace Expr

variable [UnicodeTables] {text : List Char} {a e : Expr} {i j : Nat}

theorem Spans.le (h : e.Spans text i j) : i ≤ j ∧ j ≤ text.length := by
  induction h with
  | empty h => exact ⟨Nat.le_refl _, h⟩
  | char hc _ => exact ⟨Nat.le_succ _, (List.getElem?_eq_some_iff.mp hc).1⟩
  | look h _ => exact ⟨Nat.le_refl _, h⟩
  | seq _ _ iha ihb => exact ⟨Nat.le_trans iha.1 ihb.1, ihb.2⟩
  | choiceFirst _ ih | choiceSecond _ ih => exact ih
  | none h => exact ⟨Nat.le_refl _, h⟩
  | more _ _ _ iha ihr => exact ⟨Nat.le_trans iha.1 ihr.1, ihr.2⟩

theorem spans_empty_iff : empty.Spans text i j ↔ i = j ∧ i ≤ text.length := by
  constructor
  · rintro ⟨h⟩
    exact ⟨rfl, h⟩
  · rintro ⟨rfl, h⟩
    exact .empty h

theorem spans_look_iff {l : Look} :
    (look l).Spans text i j ↔
      i = j ∧ i ≤ text.length ∧ l.holds (charBefore text i) text[i]? = true := by
  constructor
  · intro h
    cases h with
    | look h hl => exact ⟨rfl, h, hl⟩
  · rintro ⟨rfl, h, hl⟩
    exact .look h hl

theorem spans_seq_iff {b : Expr} {k : Nat} :
    (seq a b).Spans text i k ↔ ∃ j, a.Spans text i j ∧ b.Spans text j k := by
  constructor
  · intro h
    cases h with
    | seq ha hb => exact ⟨_, ha, hb⟩
  · rintro ⟨j, ha, hb⟩
    exact .seq ha hb

/-- A repetition spans what its item spans a number of times within its bounds. -/
theorem spans_repeated_iff {least : Nat} {most : Option Nat} :
    (repeated least most a).Spans text i j ↔
      i ≤ text.length ∧ ∃ n, least ≤ n ∧ (∀ m, most = some m → n ≤ m) ∧
        Hops (a.Spans text) n i j := by
  constructor
  · intro h
    generalize he : repeated least most a = e at h
    induction h generalizing least most with
    | empty | char | look | seq | choiceFirst | choiceSecond => cases he
    | none h =>
      cases he
      exact ⟨h, 0, Nat.le_refl 0, fun _ _ => Nat.zero_le _, .zero _⟩
    | @more least most a i j k hm ha _ _ ihr =>
      cases he
      obtain ⟨_, n, hleast, hmost, hops⟩ := ihr rfl
      refine ⟨Nat.le_trans ha.le.1 ha.le.2, n + 1, by omega, ?_, .succ ha hops⟩
      rintro m rfl
      have hpred := hmost (m - 1) rfl
      have hpos : m ≠ 0 := fun h => hm (by rw [h])
      omega
  · rintro ⟨hi, n, hleast, hmost, hops⟩
    induction hops generalizing least most with
    | zero =>
      obtain rfl := Nat.le_zero.mp hleast
      exact .none hi
    | succ first _ ih =>
      refine .more ?_ first (ih first.le.2 (by omega) ?_)
      · rintro rfl
        exact absurd (hmost 0 rfl) (Nat.not_succ_le_zero _)
      · intro m hm
        obtain ⟨l, rfl, rfl⟩ := Option.map_eq_some_iff.mp hm
        have hl := hmost l rfl
        omega

/-- No repetition asks for more than it allows. -/
def Bounded : Expr → Prop
  | seq a b | choice a b => a.Bounded ∧ b.Bounded
  | repeated least most a => (∀ m, most = some m → least ≤ m) ∧ a.Bounded
  | empty | char _ | look _ => True

theorem getElem?_go_zero (l : Look) (before : Option Char) (cs : List Char) :
    (lookPlaces.go l before cs)[0]? = some (l.holds before cs[0]?) := by
  cases cs <;> rfl

theorem getElem?_go_succ (l : Look) (before : Option Char) (cs : List Char) (i : Nat)
    (h : i + 1 ≤ cs.length) :
    (lookPlaces.go l before cs)[i + 1]? = some (l.holds cs[i]? cs[i + 1]?) := by
  induction cs generalizing before i with
  | nil => exact absurd h (Nat.not_succ_le_zero i)
  | cons c rest ih =>
    rw [lookPlaces.go, List.getElem?_cons_succ]
    cases i with
    | zero => exact getElem?_go_zero l (some c) rest
    | succ i => exact ih (some c) i (Nat.le_of_succ_le_succ h)

theorem getElem?_lookPlaces (l : Look) (text : List Char) (i : Nat) (h : i ≤ text.length) :
    (lookPlaces l text)[i]? = some (l.holds (charBefore text i) text[i]?) := by
  cases i with
  | zero => exact getElem?_go_zero l Option.none text
  | succ i => exact getElem?_go_succ l Option.none text i h

theorem Spans.lands (h : e.Spans text i j) : j < text.length + 1 := Nat.lt_succ_of_le h.le.2

/-- The matcher takes a set of positions to those where stretches end that start at one of them. -/
def Matches (text : List Char) (e : Expr) : Prop :=
  Realizes (text.length + 1) ((e.prepare text).ends (text.length + 1)) (e.Spans text)

theorem matches_empty (text : List Char) : empty.Matches text where
  lands := Spans.lands
  mem {set} h j := by
    simp only [spans_empty_iff]
    constructor
    · intro hj
      exact ⟨j, hj, rfl, Nat.le_of_lt_succ (h j hj)⟩
    · rintro ⟨i, hi, rfl, _⟩
      exact hi

theorem matches_char (text : List Char) (p : CharClass) : (char p).Matches text where
  lands := Spans.lands
  mem {set} h j := by
    have hplaces : ∀ i, (placesOf (text.map p)).testBit i = true ↔
        ∃ c, text[i]? = some c ∧ p c = true := by
      intro i
      rw [testBit_placesOf, List.getElem?_map, Option.map_eq_some_iff]
    simp only [prepare, Program.ends, Nat.testBit_shiftLeft, Bool.and_eq_true, decide_eq_true_eq,
      Nat.testBit_and, hplaces]
    constructor
    · rintro ⟨hj, hi, c, hc, hp⟩
      have hspan := Spans.char hc hp
      rw [Nat.sub_add_cancel hj] at hspan
      exact ⟨j - 1, hi, hspan⟩
    · rintro ⟨i, hi, hspan⟩
      cases hspan with
      | char hc hp => exact ⟨Nat.le_add_left 1 i, hi, _, hc, hp⟩

theorem matches_look (text : List Char) (l : Look) : (look l).Matches text where
  lands := Spans.lands
  mem {set} h j := by
    simp only [prepare, Program.ends, Nat.testBit_and, Bool.and_eq_true, testBit_placesOf,
      spans_look_iff]
    constructor
    · rintro ⟨hj, hl⟩
      have hle := Nat.le_of_lt_succ (h j hj)
      rw [getElem?_lookPlaces l text j hle, Option.some.injEq] at hl
      exact ⟨j, hj, rfl, hle, hl⟩
    · rintro ⟨i, hi, rfl, hle, hl⟩
      rw [getElem?_lookPlaces l text i hle, hl]
      exact ⟨hi, rfl⟩

theorem Matches.seq {b : Expr} (ha : a.Matches text) (hb : b.Matches text) :
    (Expr.seq a b).Matches text where
  lands := Spans.lands
  mem {set} h j := by
    rw [prepare, Program.ends, Realizes.mem hb (ha.within h)]
    simp only [spans_seq_iff]
    constructor
    · rintro ⟨m, hm, hsecond⟩
      obtain ⟨i, hi, hfirst⟩ := (ha.mem h m).mp hm
      exact ⟨i, hi, m, hfirst, hsecond⟩
    · rintro ⟨i, hi, m, hfirst, hsecond⟩
      exact ⟨m, (ha.mem h m).mpr ⟨i, hi, hfirst⟩, hsecond⟩

theorem Matches.choice {b : Expr} (ha : a.Matches text) (hb : b.Matches text) :
    (Expr.choice a b).Matches text where
  lands := Spans.lands
  mem {set} h j := by
    rw [prepare, Program.ends, Nat.testBit_or, Bool.or_eq_true, ha.mem h, hb.mem h]
    constructor
    · rintro (⟨i, hi, hspan⟩ | ⟨i, hi, hspan⟩)
      · exact ⟨i, hi, .choiceFirst hspan⟩
      · exact ⟨i, hi, .choiceSecond hspan⟩
    · rintro ⟨i, hi, hspan⟩
      cases hspan with
      | choiceFirst hspan => exact .inl ⟨i, hi, hspan⟩
      | choiceSecond hspan => exact .inr ⟨i, hi, hspan⟩

theorem Matches.repeated {least : Nat} {most : Option Nat}
    (bounds : ∀ m, most = some m → least ≤ m) (ha : a.Matches text) :
    (Expr.repeated least most a).Matches text where
  lands := Spans.lands
  mem {set} h j := by
    have hreach := fun further => ha.reach_iterate_iff (j := j) h least further
    simp only [prepare, Program.ends]
    rw [hreach]
    constructor
    · rintro ⟨i, hi, n, hn, hops⟩
      refine ⟨i, hi, spans_repeated_iff.mpr
        ⟨Nat.le_of_lt_succ (h i hi), least + n, Nat.le_add_right _ _, ?_, hops⟩⟩
      rintro m rfl
      have hm := bounds m rfl
      simp only at hn
      omega
    · rintro ⟨i, hi, hspan⟩
      obtain ⟨-, n, hleast, hmost, hops⟩ := spans_repeated_iff.mp hspan
      obtain ⟨more, rfl⟩ := Nat.exists_eq_add_of_le hleast
      cases most with
      | some m =>
        have hm := hmost m rfl
        exact ⟨i, hi, more, by simp only; omega, hops⟩
      | none =>
        -- steps that stay are left out, and the others are fewer than the positions
        obtain ⟨m, hfirst, hrest⟩ := hops.split
        obtain ⟨-, shorter, hshorter, hrest⟩ := hrest.shorten fun hspan => hspan.le.1
        have hj := hspan.lands
        exact ⟨i, hi, shorter, by simp only; omega, hfirst.append hrest⟩

theorem matches_of_bounded (text : List Char) (bounded : e.Bounded) : e.Matches text := by
  induction e with
  | empty => exact matches_empty text
  | char p => exact matches_char text p
  | look l => exact matches_look text l
  | seq a b iha ihb => exact (iha bounded.1).seq (ihb bounded.2)
  | choice a b iha ihb => exact (iha bounded.1).choice (ihb bounded.2)
  | repeated least most a ih => exact (ih bounded.2).repeated bounded.1

/-- An expression matches a text if it spans some stretch of it. -/
theorem isMatch_iff (bounded : e.Bounded) :
    e.isMatch text = true ↔ ∃ i j, e.Spans text i j := by
  have hall : Within (text.length + 1) (allPlaces (text.length + 1)) :=
    fun i hi => (testBit_allPlaces _ i).mp hi
  have hends := (matches_of_bounded text bounded).mem hall
  rw [isMatch, bne_iff_ne]
  constructor
  · intro hne
    obtain ⟨j, hj⟩ := Nat.exists_testBit_of_ne_zero hne
    obtain ⟨i, _, hspan⟩ := (hends j).mp hj
    exact ⟨i, j, hspan⟩
  · rintro ⟨i, j, hspan⟩ hzero
    have hi : i < text.length + 1 := Nat.lt_of_le_of_lt hspan.le.1 hspan.lands
    have hj := (hends j).mpr ⟨i, (testBit_allPlaces _ i).mpr hi, hspan⟩
    rw [hzero, Nat.zero_testBit] at hj
    cases hj

end Expr

end TypeDiscovery.Pattern
