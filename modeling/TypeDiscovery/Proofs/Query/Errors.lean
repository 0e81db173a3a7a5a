import TypeDiscovery.Proofs.Query.Results
import TypeDiscovery.Query.Building

/-!
# Errors of type queries

What ends a query is found out in a fixed order: that it asks for all types without a marker, that a
pattern does not compile, that the scope cannot be listed. In the first two cases nothing has been
asked of the scope or the reader. What goes wrong with a single artifact ends no query: opening and
reading may fail or panic anywhere, and the query has an answer (`find_answer_iff`).
-/

namespace TypeDiscovery

namespace Pattern

variable [Engine]

/-- A text that does not compile. -/
def isInvalid (source : String) : Bool := (compile? source).isNone

/-- Texts compile up to the first one that does not. -/
theorem compileAll_eq_error_iff {sources : List String} {e : DiscoveryError} :
    compileAll sources = .error e ↔
      ∃ source, sources.find? isInvalid = some source ∧ e = .invalidPattern source := by
  induction sources with
  | nil => simp [compileAll]
  | cons source rest ih =>
    rw [compileAll]
    cases hsource : compile? source with
    | none => simp [isInvalid, hsource, eq_comm]
    | some p =>
      rw [List.find?_cons_of_neg (by simp [isInvalid, hsource]), ← ih]
      cases compileAll rest <;> simp [Except.map]

theorem find?_isInvalid_of_compileAll {sources : List String} {patterns : List Pattern}
    (h : compileAll sources = .ok patterns) : sources.find? isInvalid = none := by
  cases hfound : sources.find? isInvalid with
  | none => rfl
  | some source =>
    have herror := compileAll_eq_error_iff.mpr ⟨source, hfound, rfl⟩
    rw [h] at herror
    cases herror

end Pattern

namespace Distinct

/-- Without repeats, what is met first is the same. -/
theorem find?_foldl_addNew {α : Type} [DecidableEq α] (p : α → Bool) (xs ys : List α) :
    (ys.foldl addNew xs).find? p = (xs ++ ys).find? p := by
  induction ys generalizing xs with
  | nil => simp
  | cons y rest ih =>
    rw [List.foldl_cons, ih, addNew]
    split
    · rename_i hmem
      -- a repetition is no first match, as the element has been met before
      rw [List.find?_append, List.find?_append]
      cases hfound : xs.find? p with
      | some x => rfl
      | none =>
        have hy : p y = false := by simpa using List.find?_eq_none.mp hfound y hmem
        simp [hy]
    · rw [List.append_assoc, List.singleton_append]

end Distinct

namespace TypeFinder

open Scan

/-- A request for all types that requires no marker. -/
def Boundless (f : TypeFinder) : Prop := f.target = f.reader.root ∧ f.markers = []

theorem boundless_after_new {target : String} {scope : Scope} {reader : Reader} {config : Config}
    {calls : List Call} :
    ((new target scope reader config).after calls).Boundless ↔
      target = reader.root ∧ ∀ marker, Call.having marker ∉ calls := by
  obtain ⟨htarget, hreader⟩ := target_after (new target scope reader config) calls
  have hnone : ((new target scope reader config).after calls).markers = [] ↔
      ∀ marker, Call.having marker ∉ calls := by
    rw [markers_after, List.eq_nil_iff_forall_not_mem]
    refine forall_congr' fun marker => not_congr ?_
    simp only [Distinct.mem_foldl_addNew, List.mem_filterMap, new, List.not_mem_nil, false_or]
    constructor
    · rintro ⟨c, hc, hmarker⟩
      cases c <;> cases hmarker
      exact hc
    · exact fun h => ⟨_, h, rfl⟩
  rw [Boundless, htarget, hreader, hnone]
  rfl

section Find

variable [Pattern.Engine]

/-- What comes of a request, and what it says about the request. -/
inductive Verdict (f : TypeFinder) : Except DiscoveryError (List Handle) → Trace → Prop where
  | boundless (all : f.Boundless) : Verdict f
    (.error (.invalidQuery s!"querying {f.target} needs at least one capability marker")) #[]
  | invalid {source : String} (bounded : ¬f.Boundless)
    (first : f.locations.find? Pattern.isInvalid = some source) :
    Verdict f (.error (.invalidPattern source)) #[]
  | unlisted {reason : String} {t : Trace} (bounded : ¬f.Boundless)
    (valid : f.locations.find? Pattern.isInvalid = none)
    (listing : f.scope.artifacts.answer = .error reason) :
    Verdict f (.error (.enumeration s!"scope {f.scope.name}: {reason}")) t
  | answered {entries : List Entry} {handles : List Handle} {t : Trace} (bounded : ¬f.Boundless)
    (valid : f.locations.find? Pattern.isInvalid = none)
    (listed : f.scope.artifacts.answer = .ok entries) : Verdict f (.ok handles) t

theorem find_eq_of_spec {f : TypeFinder} {e : DiscoveryError} (h : f.spec = .error e) :
    f.find = ⟨.error e, #[]⟩ := by
  rw [find, h]

theorem verdict_find (f : TypeFinder) : f.Verdict f.find.answer f.find.trace := by
  by_cases all : f.Boundless
  · rw [find_eq_of_spec (if_pos all)]
    exact .boundless all
  · cases compiled : Pattern.compileAll f.locations with
    | error e =>
      obtain ⟨source, first, rfl⟩ := Pattern.compileAll_eq_error_iff.mp compiled
      rw [find_eq_of_spec (spec_eq_error all compiled)]
      exact .invalid all first
    | ok patterns =>
      have valid := Pattern.find?_isInvalid_of_compileAll compiled
      cases listed : f.scope.artifacts.answer with
      | error reason =>
        rw [(Fails.unlisted (spec_eq_ok all compiled) listed).find]
        exact .unlisted all valid listed
      | ok entries =>
        obtain ⟨handles, hfind, _⟩ := Answerable.find ⟨all, compiled, listed⟩
        rw [hfind]
        exact .answered all valid listed

/-- However a request came about, it is refused as boundless exactly if it is for all types and no
call required a marker; else for the first of the patterns, in the order of the calls, that does not
compile; else it fails exactly if the scope cannot be listed; else it is answered. A request that is
refused has asked nothing of scope and reader, and no error is that of a single artifact: what is
listed, located and opened stands in the trace, and nothing is read that has not been opened. -/
theorem find_answer_iff (target : String) (scope : Scope) (reader : Reader) (config : Config)
    (calls : List Call) :
    let f := (new target scope reader config).after calls
    let boundless := target = reader.root ∧ ∀ marker, Call.having marker ∉ calls
    let invalid := (calls.filterMap Call.pattern?).find? Pattern.isInvalid
    let asked := (calls.filterMap Call.scope?).getLastD scope
    ((∃ reason, f.find.answer = .error (.invalidQuery reason)) ↔ boundless) ∧
    (∀ source, f.find.answer = .error (.invalidPattern source) ↔
      ¬boundless ∧ invalid = some source) ∧
    ((∃ reason, f.find.answer = .error (.enumeration reason)) ↔
      ¬boundless ∧ invalid = none ∧ ∃ reason, asked.artifacts.answer = .error reason) ∧
    ((∃ handles, f.find.answer = .ok handles) ↔
      ¬boundless ∧ invalid = none ∧ ∃ entries, asked.artifacts.answer = .ok entries) ∧
    (boundless ∨ invalid.isSome = true → f.find.trace = #[]) ∧
    (∀ e, f.find.answer = .error e → e.isLocal = false ∧ ∀ reason, e ≠ .internal reason) := by
  intro f boundless invalid asked
  have hboundless : f.Boundless ↔ boundless := boundless_after_new
  have hinvalid : f.locations.find? Pattern.isInvalid = invalid := by
    rw [locations_after, Distinct.find?_foldl_addNew]
    rfl
  have hscope : f.scope = asked := scope_after _ _
  have hverdict := f.verdict_find
  rw [← hboundless, ← hinvalid, ← hscope]
  generalize f.find.answer = answer, f.find.trace = t at hverdict ⊢
  cases hverdict with
  | boundless all => simp [all, DiscoveryError.isLocal]
  | invalid bounded first => simp [bounded, first, DiscoveryError.isLocal]
  | unlisted bounded valid listing => simp [bounded, valid, listing, DiscoveryError.isLocal]
  | answered bounded valid listed => simp [bounded, valid, listed]

end Find

/-- A request for all types of the knot whose second and third patterns do not compile. -/
theorem find_answer_iff_knot :
    let f := (new "lang.Object" knot.scope knot.reader .default).after
      [.byUrl "a", .byUrl "(", .having "m.M", .byUrl "["]
    f.find.answer = .error (.invalidPattern "(") ∧ f.find.trace = #[] := by
  intro f
  have marked : ¬("lang.Object" = knot.reader.root ∧ ∀ marker, Call.having marker ∉
      [.byUrl "a", .byUrl "(", .having "m.M", .byUrl "["]) :=
    fun h => h.2 "m.M" (by simp)
  have first : ["a", "(", "["].find? Pattern.isInvalid = some "(" := by decide +kernel
  obtain ⟨_, named, _, _, untouched, _⟩ := find_answer_iff "lang.Object" knot.scope knot.reader
    .default [.byUrl "a", .byUrl "(", .having "m.M", .byUrl "["]
  exact ⟨(named "(").mpr ⟨marked, first⟩, untouched (.inr (Option.isSome_of_eq_some first))⟩

end TypeFinder

end TypeDiscovery
