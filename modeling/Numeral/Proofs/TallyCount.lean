import Mathlib.Data.List.Dedup
import Numeral.Benchmark.Tally
import Numeral.Proofs.DeclarationOrder

/-!
# What a tally counts

Which line of several with one name is accepted depends on their order. How many lines are accepted
does not: it is the number of names that the lines declare on their own. The malformed lines are
counted by themselves, and all others are the rest. So a tally can be told without an order, and it
is that of the results in a session.

- `declaredNames`: the names that some lines declare on their own.
- `Benchmark.outcomes_eq_map_runsOf`: the outcomes of some lines are those of a session.
- `Benchmark.count_accepted`, `Benchmark.count_rejectedGrammar`, `Benchmark.Tally.sum_ofOutcomes`:
  how many lines have each outcome.
- `tally_told_by_names`: the tally of some lines, of the same lines in another order, and of a
  session.
-/

namespace Numeral

variable {scope : Scope} {lines more : List String} {line name : String}

/-! ## Declared names -/

/-- The names that `lines` declare on their own, each of them once. -/
def declaredNames (lines : List String) : List String :=
  ((lines.filterMap declaredAlone).map (·.1)).dedup

private theorem mem_declaredNames :
    name ∈ declaredNames lines ↔ ∃ line ∈ lines, ∃ b, declaredAlone line = some (name, b) := by
  simp only [declaredNames, List.mem_dedup, List.mem_map, List.mem_filterMap]
  constructor
  · rintro ⟨⟨_, b⟩, ⟨line, hline, halone⟩, rfl⟩
    exact ⟨line, hline, b, halone⟩
  · rintro ⟨line, hline, b, halone⟩
    exact ⟨(name, b), ⟨line, hline, halone⟩, rfl⟩

/-- These are the names of the scope behind the lines, in some order. -/
theorem names_scopeAfter_perm (lines : List String) :
    (scopeAfter .empty lines).names.Perm (declaredNames lines) := by
  refine (List.perm_ext_iff_of_nodup (Scope.nodup _) (List.nodup_dedup _)).mpr fun name => ?_
  change name ∈ scopeAfter .empty lines ↔ name ∈ declaredNames lines
  rw [mem_scopeAfter_iff, mem_declaredNames]
  exact or_iff_right (Scope.not_mem_empty name)

private theorem declaredNames_perm (h : lines.Perm more) :
    (declaredNames lines).Perm (declaredNames more) :=
  ((h.filterMap declaredAlone).map Prod.fst).dedup

namespace Benchmark

/-! ## Outcomes in a session -/

theorem outcomes_cons :
    outcomes scope (line :: lines) =
      (Declaration.judge (tokensOf line) scope).1.outcome ::
        outcomes (Declaration.judge (tokensOf line) scope).2 lines :=
  rfl

theorem outcomes_append :
    outcomes scope (lines ++ more) =
      outcomes scope lines ++ outcomes (scopeAfter scope lines) more := by
  induction lines generalizing scope with
  | nil => rfl
  | cons line lines ih =>
    rw [List.cons_append, outcomes_cons, outcomes_cons, ih, scopeAfter_cons, List.cons_append]

/-- A benchmark and a session judge lines alike. -/
theorem outcomes_eq_map_runsOf (lines : List String) :
    outcomes .empty lines = (runsOf lines).map (·.verdict.outcome) := by
  induction lines using List.reverseRecOn with
  | nil => rfl
  | append_singleton lines line ih =>
    rw [outcomes_append, ih, runsOf_concat, List.map_append]
    rfl

theorem length_outcomes (scope : Scope) (lines : List String) :
    (outcomes scope lines).length = lines.length := by
  induction lines generalizing scope with
  | nil => rfl
  | cons line lines ih => rw [outcomes_cons, List.length_cons, List.length_cons, ih]

/-! ## How many lines have each outcome -/

/-- As many lines are accepted as names are declared. -/
theorem count_accepted (lines : List String) :
    (outcomes .empty lines).count .accepted = (declaredNames lines).length := by
  have hdeclared (v : Declaration.Verdict) :
      v.declared?.isSome = (v.outcome == .accepted) := by
    cases v <;> rfl
  have hcount : (outcomes .empty lines).count .accepted =
      (acceptedEntries (runsOf lines)).length := by
    rw [outcomes_eq_map_runsOf, List.count, List.countP_map, acceptedEntries,
      List.length_filterMap_eq_countP]
    exact List.countP_congr fun run _ => by rw [hdeclared]; rfl
  rw [hcount, ← (names_scopeAfter_perm lines).length_eq, ← map_acceptedEntries_runsOf,
    List.length_map]

theorem outcome_judge_eq_rejectedGrammar (tokens : List Token) (scope : Scope) :
    ((Declaration.judge tokens scope).1.outcome == .rejectedGrammar) =
      !Declaration.matchesGrammar tokens := by
  rw [Declaration.matchesGrammar, ← Declaration.declaration?_judge tokens scope]
  cases (Declaration.judge tokens scope).1 <;> rfl

/-- A malformed line is so wherever it stands. -/
theorem count_rejectedGrammar (scope : Scope) (lines : List String) :
    (outcomes scope lines).count .rejectedGrammar =
      lines.countP fun line => !Declaration.matchesGrammar (tokensOf line) := by
  induction lines generalizing scope with
  | nil => rfl
  | cons line lines ih =>
    rw [outcomes_cons, List.count_cons, List.countP_cons, ih, outcome_judge_eq_rejectedGrammar]

namespace Tally

/-- Every line has one of the outcomes. -/
theorem sum_ofOutcomes (os : List Outcome) :
    (ofOutcomes os).accepted + (ofOutcomes os).rejectedGrammar +
      (ofOutcomes os).rejectedNameOrValue = os.length := by
  induction os with
  | nil => rfl
  | cons o os ih =>
    rw [List.length_cons, ← ih]
    cases o <;> simp [ofOutcomes] <;> omega

theorem ofLines_accepted (lines : List String) :
    (ofLines lines).accepted = (declaredNames lines).length := by
  rw [ofLines_eq]
  exact count_accepted lines

theorem ofLines_rejectedGrammar (lines : List String) :
    (ofLines lines).rejectedGrammar =
      lines.countP fun line => !Declaration.matchesGrammar (tokensOf line) := by
  rw [ofLines_eq]
  exact count_rejectedGrammar .empty lines

theorem sum_ofLines (lines : List String) :
    (ofLines lines).accepted + (ofLines lines).rejectedGrammar +
      (ofLines lines).rejectedNameOrValue = lines.length := by
  rw [ofLines_eq, sum_ofOutcomes, length_outcomes]

/-- Lines in another order have the same tally. -/
theorem ofLines_perm (h : lines.Perm more) : ofLines lines = ofLines more := by
  have haccepted : (ofLines lines).accepted = (ofLines more).accepted := by
    rw [ofLines_accepted, ofLines_accepted, (declaredNames_perm h).length_eq]
  have hgrammar : (ofLines lines).rejectedGrammar = (ofLines more).rejectedGrammar := by
    rw [ofLines_rejectedGrammar, ofLines_rejectedGrammar, h.countP_eq]
  -- The rest is what the other two leave of the number of lines.
  have hrest : (ofLines lines).rejectedNameOrValue = (ofLines more).rejectedNameOrValue := by
    have hsum := sum_ofLines lines
    have hsum' := sum_ofLines more
    rw [h.length_eq, ← hsum', haccepted, hgrammar] at hsum
    exact Nat.add_left_cancel hsum
  cases hlines : ofLines lines
  cases hmore : ofLines more
  rw [hlines, hmore] at haccepted hgrammar hrest
  simp_all

/-- The tally of a session that takes the lines. -/
theorem ofOutcomes_of_hasTaken {s : Session} {settings : Session.Settings}
    (h : s.HasTaken settings lines) :
    ofOutcomes (s.declarations.map (·.verdict.outcome)) = ofLines lines := by
  rw [h.declarations_eq, ← outcomes_eq_map_runsOf, ofLines_eq]

end Tally

end Benchmark

open Benchmark in
/-- **A tally told by names.** The accepted lines are as many as the names that the lines declare on
their own, the malformed ones are counted line by line, and all others are the rest: every line has
one of the outcomes. The lines in another order have the same tally. And where no line is the
sentinel, a session takes them all for declarations, and its results have the same tally. -/
theorem tally_told_by_names (lines : List String) :
    (Tally.ofLines lines).accepted =
        ((lines.filterMap declaredAlone).map (·.1)).dedup.length ∧
      (Tally.ofLines lines).rejectedGrammar =
        lines.countP (fun line => !Declaration.matchesGrammar (tokensOf line)) ∧
      (Tally.ofLines lines).accepted + (Tally.ofLines lines).rejectedGrammar +
        (Tally.ofLines lines).rejectedNameOrValue = lines.length ∧
      (∀ other : List String, other.Perm lines → Tally.ofLines other = Tally.ofLines lines) ∧
      ∀ settings : Session.Settings, settings.sentinel ∉ lines →
        ∃ s, (Session.ofSettings settings).feedEach lines = .ok s ∧
          Tally.ofOutcomes (s.declarations.map (·.verdict.outcome)) = Tally.ofLines lines := by
  refine ⟨Tally.ofLines_accepted lines, Tally.ofLines_rejectedGrammar lines,
    Tally.sum_ofLines lines, fun other hother => Tally.ofLines_perm hother, ?_⟩
  intro settings hlines
  obtain ⟨s, hs, htaken⟩ := (Session.hasTaken_ofSettings settings).feedEach hlines
  exact ⟨s, hs, Tally.ofOutcomes_of_hasTaken htaken⟩

/-- Three lines with one name, the first of them with a wrong value. -/
theorem tally_told_by_names_duplicates :
    let lines := ["bin x 2;", "hex x 1F;", "oct x 7;", "x"]
    let other := ["oct x 7;", "x", "hex x 1F;", "bin x 2;"]
    Benchmark.Tally.ofLines other = ⟨1, 1, 2⟩ ∧
      ∃ s, (Session.ofSettings {}).feedEach lines = .ok s ∧
        Benchmark.Tally.ofOutcomes (s.declarations.map (·.verdict.outcome)) = ⟨1, 1, 2⟩ := by
  intro lines other
  have htally : Benchmark.Tally.ofLines lines = ⟨1, 1, 2⟩ := by decide +kernel
  have hperm : other.Perm lines := by decide
  obtain ⟨-, -, -, hother, hsession⟩ := tally_told_by_names lines
  obtain ⟨s, hs, hcount⟩ := hsession {} (by decide)
  exact ⟨(hother other hperm).trans htally, s, hs, hcount.trans htally⟩

end Numeral
