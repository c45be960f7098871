import Numeral.Declaration
import Std.Data.TreeSet.Lemmas

/-!
# Tallies

How many lines of declarations have each outcome when they are judged one after the other in a
scope that is empty at first.

- `ofLines_eq`: the tally is counted with the set of names alone, each line being judged by itself;
  it is that of the outcomes.
-/

namespace Numeral.Benchmark

/-- The outcomes of `lines`, judged one after the other. -/
def outcomes (scope : Scope) : List String → List Outcome
  | [] => []
  | line :: lines =>
    let (verdict, scope) := Declaration.judge (tokensOf line) scope
    verdict.outcome :: outcomes scope lines

/-- The number of lines of each outcome. -/
structure Tally where
  accepted : Nat
  rejectedGrammar : Nat
  rejectedNameOrValue : Nat
  deriving DecidableEq, Repr

namespace Tally

/-- The number of lines of one outcome. -/
def count (t : Tally) : Outcome → Nat
  | .accepted => t.accepted
  | .rejectedGrammar => t.rejectedGrammar
  | .rejectedNameOrValue => t.rejectedNameOrValue

/-- The tally of no lines. -/
def zero : Tally := ⟨0, 0, 0⟩

/-- The tally with one more line. -/
def add (t : Tally) : Outcome → Tally
  | .accepted => { t with accepted := t.accepted + 1 }
  | .rejectedGrammar => { t with rejectedGrammar := t.rejectedGrammar + 1 }
  | .rejectedNameOrValue => { t with rejectedNameOrValue := t.rejectedNameOrValue + 1 }

/-- The tally of a list of outcomes. -/
def ofOutcomes (outcomes : List Outcome) : Tally where
  accepted := outcomes.count .accepted
  rejectedGrammar := outcomes.count .rejectedGrammar
  rejectedNameOrValue := outcomes.count .rejectedNameOrValue

/-- Adds `lines` to a tally, behind lines that declare `names`. -/
def addLines (names : Std.TreeSet String) (t : Tally) : List String → Tally
  | [] => t
  | line :: lines =>
    match Declaration.alone line with
    | .accepted d =>
      if d.name.text ∈ names then addLines names (t.add .rejectedNameOrValue) lines
      else addLines (names.insert d.name.text) (t.add .accepted) lines
    | verdict => addLines names (t.add verdict.outcome) lines

/-- The tally of `lines`. -/
def ofLines (lines : List String) : Tally :=
  zero.addLines ∅ lines

/-! ## Counting by names -/

theorem foldl_add_eq (t : Tally) (os : List Outcome) :
    os.foldl add t =
      ⟨t.accepted + os.count .accepted, t.rejectedGrammar + os.count .rejectedGrammar,
        t.rejectedNameOrValue + os.count .rejectedNameOrValue⟩ := by
  induction os generalizing t with
  | nil => rfl
  | cons o os ih =>
    rw [List.foldl_cons, ih]
    cases o <;> simp [add] <;> omega

/-- Counting goes on with the outcomes in any scope that declares the same names. -/
theorem addLines_eq_foldl {names : Std.TreeSet String} {scope : Scope}
    (h : ∀ name, name ∈ names ↔ name ∈ scope) (t : Tally) (lines : List String) :
    addLines names t lines = (outcomes scope lines).foldl add t := by
  induction lines generalizing names scope t with
  | nil => rfl
  | cons line lines ih =>
    unfold addLines outcomes
    split
    · rename_i d hd
      rw [Declaration.judge_of_alone_accepted hd]
      by_cases hn : d.name.text ∈ scope
      · simp only [(h _).mpr hn, hn, if_true, dite_true]
        exact ih h _
      · simp only [mt (h _).mp hn, hn, if_false, dite_false]
        refine ih (fun name => ?_) _
        rw [Std.TreeSet.mem_insert, Std.LawfulEqCmp.compare_eq_iff_eq, h, Scope.mem_iff,
          Scope.mem_iff, Scope.names, Scope.names, Scope.entries_insert]
        simp [eq_comm, or_comm]
    · rename_i hv
      obtain ⟨ho, hs⟩ := Declaration.judge_of_alone_rejected hv scope
      simp only [List.foldl_cons, ho, hs]
      exact ih h _

theorem ofLines_eq (lines : List String) : ofLines lines = ofOutcomes (outcomes .empty lines) := by
  have h : ∀ name, name ∈ (∅ : Std.TreeSet String) ↔ name ∈ Scope.empty := by simp
  rw [ofLines, addLines_eq_foldl h, foldl_add_eq]
  simp [zero, ofOutcomes]

end Tally

end Numeral.Benchmark
