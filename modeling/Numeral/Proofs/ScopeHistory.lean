import Numeral.Proofs.LineFaults
import Numeral.Proofs.SessionHistory

/-!
# What a scope goes through

One scope can be handed to any number of checks, one after the other: tokens are judged as a
declaration or checked as an expression, wherever they come from, and so are lines, to which tokens
can be given. Here the checks are programs on the scope, which a program that stops on a fault
leaves as it has written it up to there. Whatever the checks are, the scope grows by the accepted
declarations at its end and is left alone otherwise.

- `Scope.Request`, `Scope.Answer`, `Scope.act`: what can be asked of a scope, what it answers, and
  the programs.
- `Scope.run_act`: a program does what the plain functions do, and stops only where they refuse.
- `Scope.Takes`, `Scope.takes`: what one request does to a scope, and what it answers.
- `Scope.entries_afterAll`: what a scope holds behind any requests.
- `Scope.Refuses`, `Scope.refuses_of_mem`: a name that is declared is refused from then on.
- `declarations_permanent`: what any sequence of requests keeps.
-/

namespace Numeral

namespace Scope

/-! ## Requests and answers -/

/-- What can be asked of a scope: to judge tokens as a declaration, to check them as an expression,
and the same of the line `text`, with the tokens that are `given`. -/
inductive Request where
  | judge (tokens : List Token)
  | check (tokens : List Token) (mode : Expression.Mode)
  | declare (text : String) (given : Option Line)
  | evaluate (text : String) (mode : Expression.Mode) (given : Option Line)

/-- What a request gives. -/
inductive Answer where
  | judged (verdict : Declaration.Verdict)
  | checked (verdict : Expression.Verdict)
  | declared (run : Declaration.Run)
  | evaluated (run : Expression.Run)

/-- The verdict on a declaration. -/
def Answer.verdict? : Answer → Option Declaration.Verdict
  | judged verdict => some verdict
  | declared run => some run.verdict
  | checked _ | evaluated _ => none

/-- What the answer says that was put into the scope. -/
def Answer.entry? (a : Answer) : Option (String × Base) :=
  a.verdict?.bind (·.declared?)

namespace Request

/-- Whether the tokens of another line are given. -/
def IsForeign : Request → Prop
  | declare text given | evaluate text _ given => ∃ line ∈ given, line.source ≠ text
  | judge _ | check _ _ => False

/-- The tokens that are judged as a declaration. -/
def judgedTokens? : Request → Option (List Token)
  | judge tokens => some tokens
  | declare text given => (Line.resolve text given).toOption.map (·.tokens)
  | check _ _ | evaluate _ _ _ => none

/-- The request without the tokens of its line. -/
def withoutLine : Request → Request
  | declare text _ => declare text none
  | evaluate text mode _ => evaluate text mode none
  | q => q

/-- The request with the tokens of its own line. -/
def withOwnLine : Request → Request
  | declare text _ => declare text (some (.ofText text))
  | evaluate text mode _ => evaluate text mode (some (.ofText text))
  | q => q

end Request

/-- The answer to a request and the scope behind it, or why the request is refused. -/
def perform (s : Scope) : Request → Except Line.Mismatch (Answer × Scope)
  | .judge tokens => .ok (.judged (Declaration.judge tokens s).1, (Declaration.judge tokens s).2)
  | .check tokens mode => .ok (.checked (Expression.check tokens s mode), s)
  | .declare text given => (Declaration.run text s given).map fun r => (.declared r.1, r.2)
  | .evaluate text mode given =>
    (Expression.run text s mode given).map fun run => (.evaluated run, s)

/-! ## The programs -/

/-- A program on a scope that stops at the first fault. -/
abbrev Act (α : Type) : Type := EStateM Fault Scope α

/-- Judges tokens as a declaration. -/
def judgeAct (tokens : List Token) : Act Declaration.Verdict := do
  let (verdict, after) ← ofExcept (Declaration.judgeChecked tokens (← get))
  set after
  return verdict

/-- Checks tokens as an expression. -/
def checkAct (tokens : List Token) (mode : Expression.Mode) : Act Expression.Verdict := do
  return Expression.check tokens (← get) mode

/-- Judges a line as a declaration. -/
def declareAct (text : String) (given : Option Line) : Act Declaration.Run := do
  let line ← ofExcept (Line.resolveChecked text given)
  let verdict ← judgeAct line.tokens
  return {
    line := line
    verdict := verdict
    diagnostics := line.diagnostics ++ verdict.diagnostics }

/-- Checks a line as an expression. -/
def evaluateAct (text : String) (mode : Expression.Mode) (given : Option Line) :
    Act Expression.Run := do
  let line ← ofExcept (Line.resolveChecked text given)
  let verdict ← checkAct line.tokens mode
  return {
    line := line
    verdict := verdict
    diagnostics := line.diagnostics ++ verdict.diagnostics }

/-- The program of a request. -/
def act : Request → Act Answer
  | .judge tokens => .judged <$> judgeAct tokens
  | .check tokens mode => .checked <$> checkAct tokens mode
  | .declare text given => .declared <$> declareAct text given
  | .evaluate text mode given => .evaluated <$> evaluateAct text mode given

/-- What the program of a request gives where the request itself gives `r`. -/
def outcome {α : Type} (s : Scope) (r : Except Line.Mismatch (α × Scope)) :
    EStateM.Result Fault Scope α :=
  match r with
  | .ok (a, after) => .ok a after
  | .error e => .error (.mismatch e) s

theorem run_ofExcept_ok {α : Type} (a : α) (s : Scope) :
    (ofExcept (.ok a) : Act α).run s = .ok a s :=
  rfl

theorem run_ofExcept_error {α : Type} (e : Fault) (s : Scope) :
    (ofExcept (.error e) : Act α).run s = .error e s :=
  rfl

theorem run_judgeAct (tokens : List Token) (s : Scope) :
    (judgeAct tokens).run s =
      .ok (Declaration.judge tokens s).1 (Declaration.judge tokens s).2 := by
  simp [judgeAct, Declaration.judgeChecked_eq, run_ofExcept_ok]

theorem run_checkAct (tokens : List Token) (mode : Expression.Mode) (s : Scope) :
    (checkAct tokens mode).run s = .ok (Expression.check tokens s mode) s :=
  rfl

theorem run_declareAct (text : String) (given : Option Line) (s : Scope) :
    (declareAct text given).run s = outcome s (Declaration.run text s given) := by
  rw [declareAct, Declaration.run, Line.resolveChecked_eq]
  cases Line.resolve text given with
  | ok line =>
    simp [Except.mapError, Except.map, run_ofExcept_ok, run_judgeAct, outcome, Declaration.runLine]
  | error e => simp [Except.mapError, Except.map, run_ofExcept_error, outcome]

theorem run_evaluateAct (text : String) (mode : Expression.Mode) (given : Option Line)
    (s : Scope) :
    (evaluateAct text mode given).run s =
      outcome s ((Expression.run text s mode given).map (·, s)) := by
  rw [evaluateAct, Expression.run, Line.resolveChecked_eq]
  cases Line.resolve text given with
  | ok line =>
    simp [Except.mapError, Except.map, run_ofExcept_ok, run_checkAct, outcome, Expression.runLine]
  | error e => simp [Except.mapError, Except.map, run_ofExcept_error, outcome]

/-- **Programs and functions.** Where a request gives an answer and a scope, its program gives the
answer and writes the scope. Where the request is refused, its program stops and has written
nothing. -/
theorem run_act (s : Scope) (q : Request) : (act q).run s = outcome s (s.perform q) := by
  cases q with
  | judge tokens => simp [act, run_judgeAct, perform, outcome]
  | check tokens mode => simp [act, run_checkAct, perform, outcome]
  | declare text given =>
    rw [act, EStateM.run_map, run_declareAct, perform]
    cases Declaration.run text s given <;> rfl
  | evaluate text mode given =>
    rw [act, EStateM.run_map, run_evaluateAct, perform]
    cases Expression.run text s mode given <;> rfl

/-! ## One request -/

/-- Nothing but the tokens of another line is refused. -/
theorem resolve_cases (text : String) (given : Option Line) :
    (∃ line, Line.resolve text given = .ok line ∧ ¬ ∃ l ∈ given, l.source ≠ text) ∨
      (Line.resolve text given = .error .otherText ∧ ∃ l ∈ given, l.source ≠ text) := by
  cases given with
  | none => exact .inl ⟨_, rfl, by simp⟩
  | some line =>
    by_cases hsource : line.source = text
    · exact .inl ⟨line, if_pos hsource, by simpa using hsource⟩
    · exact .inr ⟨if_neg hsource, line, rfl, hsource⟩

/-- All that a request can come to: tokens are judged as a declaration, or something is checked that
bears on no scope, or tokens of another line are refused. -/
theorem perform_cases (s : Scope) (q : Request) :
    (∃ tokens a, q.judgedTokens? = some tokens ∧ ¬ q.IsForeign ∧
      a.verdict? = some (Declaration.judge tokens s).1 ∧
      s.perform q = .ok (a, (Declaration.judge tokens s).2)) ∨
    (∃ a, q.judgedTokens? = none ∧ ¬ q.IsForeign ∧ a.verdict? = none ∧ s.perform q = .ok (a, s)) ∨
    (q.judgedTokens? = none ∧ q.IsForeign ∧ s.perform q = .error .otherText) := by
  -- A request can be refused only where a line is given with it.
  cases q with
  | judge tokens => exact .inl ⟨tokens, _, rfl, id, rfl, rfl⟩
  | check tokens mode => exact .inr (.inl ⟨_, rfl, id, rfl, rfl⟩)
  | declare text given =>
    rcases resolve_cases text given with ⟨line, hline, hown⟩ | ⟨hline, hforeign⟩
    · refine .inl ⟨line.tokens, .declared (Declaration.runLine line s).1, ?_, hown, rfl, ?_⟩
      · rw [Request.judgedTokens?, hline]
        rfl
      · rw [perform, Declaration.run, hline]
        rfl
    · refine .inr (.inr ⟨?_, hforeign, ?_⟩)
      · rw [Request.judgedTokens?, hline]
        rfl
      · rw [perform, Declaration.run, hline]
        rfl
  | evaluate text mode given =>
    rcases resolve_cases text given with ⟨line, hline, hown⟩ | ⟨hline, hforeign⟩
    · refine .inr (.inl ⟨.evaluated (Expression.runLine line s mode), rfl, hown, rfl, ?_⟩)
      rw [perform, Expression.run, hline]
      rfl
    · refine .inr (.inr ⟨rfl, hforeign, ?_⟩)
      rw [perform, Expression.run, hline]
      rfl

/-- The tokens of a line change no answer, if they are its own. -/
theorem perform_withOwnLine (s : Scope) (q : Request) :
    s.perform q.withOwnLine = s.perform q.withoutLine := by
  have hresolve (text : String) :
      Line.resolve text (some (.ofText text)) = Line.resolve text none := if_pos rfl
  cases q with
  | judge tokens | check tokens mode => rfl
  | declare text given =>
    simp only [Request.withOwnLine, Request.withoutLine, perform, Declaration.run, hresolve]
  | evaluate text mode given =>
    simp only [Request.withOwnLine, Request.withoutLine, perform, Expression.run, hresolve]

/-- A program stops on the tokens of another line and on nothing else. -/
theorem run_act_eq_error_iff {s t : Scope} {q : Request} {f : Fault} :
    (act q).run s = .error f t ↔ q.IsForeign ∧ f = .mismatch .otherText ∧ t = s := by
  rw [run_act]
  rcases s.perform_cases q with ⟨_, _, -, hown, -, hperform⟩ | ⟨_, -, hown, -, hperform⟩ |
    ⟨-, hforeign, hperform⟩
  · simp [hperform, outcome, hown]
  · simp [hperform, outcome, hown]
  · simp [hperform, outcome, hforeign, eq_comm]

/-- A program that returns has judged tokens as a declaration, or has left the scope alone. -/
theorem run_act_eq_ok {s t : Scope} {q : Request} {a : Answer} (h : (act q).run s = .ok a t) :
    (∃ tokens, a.verdict? = some (Declaration.judge tokens s).1 ∧
        t = (Declaration.judge tokens s).2) ∨
      (a.verdict? = none ∧ t = s) := by
  rw [run_act] at h
  rcases s.perform_cases q with ⟨tokens, b, -, -, hb, hperform⟩ | ⟨b, -, -, hb, hperform⟩ |
    ⟨-, -, hperform⟩
  all_goals
    rw [hperform] at h
    cases h
  · exact .inl ⟨tokens, hb, rfl⟩
  · exact .inr ⟨hb, rfl⟩

private theorem entries_judge_of_accepted {tokens : List Token} {s : Scope}
    (h : (Declaration.judge tokens s).1.outcome = .accepted) :
    ∃ name base, (Declaration.judge tokens s).1.name? = some name ∧
      (Declaration.judge tokens s).1.base? = some base ∧
      (Declaration.judge tokens s).2.entries = s.entries ++ [(name, base)] := by
  rw [Declaration.entries_judge]
  cases hv : (Declaration.judge tokens s).1 with
  | accepted d => exact ⟨d.name.text, d.base, rfl, rfl, rfl⟩
  | malformed | duplicate | invalidValue =>
    rw [hv] at h
    cases h

private theorem judge_eq_of_not_accepted {tokens : List Token} {s : Scope}
    (h : (Declaration.judge tokens s).1.outcome ≠ .accepted) :
    (Declaration.judge tokens s).2 = s := by
  refine Scope.ext ?_
  rw [Declaration.entries_judge]
  cases hv : (Declaration.judge tokens s).1 with
  | accepted d => exact absurd (by rw [hv]; rfl) h
  | malformed | duplicate | invalidValue => exact List.append_nil _

/-- How a scope takes a request. -/
structure Takes (s : Scope) (q : Request) : Prop where
  /-- The program does what the plain functions do. -/
  run_eq : (act q).run s = outcome s (s.perform q)
  /-- A program that stops has left the scope alone. -/
  stops_iff : ∀ f t, (act q).run s = .error f t ↔
    q.IsForeign ∧ f = .mismatch .otherText ∧ t = s
  /-- An accepted declaration puts its name and its base at the end of the scope. -/
  entries_of_accepted : ∀ a t v, (act q).run s = .ok a t → a.verdict? = some v →
    v.outcome = .accepted →
      ∃ name base, v.name? = some name ∧ v.base? = some base ∧
        t.entries = s.entries ++ [(name, base)]
  /-- Every other answer leaves the scope alone. -/
  eq_of_not_accepted : ∀ a t, (act q).run s = .ok a t →
    (∀ v, a.verdict? = some v → v.outcome ≠ .accepted) → t = s
  run_withOwnLine : (act q.withOwnLine).run s = (act q.withoutLine).run s

theorem takes (s : Scope) (q : Request) : s.Takes q where
  run_eq := run_act s q
  stops_iff _ _ := run_act_eq_error_iff
  entries_of_accepted a t v h ha hv := by
    rcases run_act_eq_ok h with ⟨tokens, hjudged, rfl⟩ | ⟨hnone, -⟩
    · cases hjudged.symm.trans ha
      exact entries_judge_of_accepted hv
    · cases hnone.symm.trans ha
  eq_of_not_accepted a t h hv := by
    rcases run_act_eq_ok h with ⟨tokens, hjudged, rfl⟩ | ⟨-, rfl⟩
    · exact judge_eq_of_not_accepted (hv _ hjudged)
    · rfl
  run_withOwnLine := by rw [run_act, run_act, perform_withOwnLine]

/-! ## Names that are taken -/

/-- Every request to declare `name` is refused as a duplicate, and for nothing else, whatever its
base and its value are. -/
def Refuses (s : Scope) (name : String) : Prop :=
  ∀ q tokens d, q.judgedTokens? = some tokens → Declaration.ofTokens? tokens = some d →
    d.name.text = name →
      ∃ a v, (act q).run s = .ok a s ∧ a.verdict? = some v ∧ v.declaration? = some d ∧
        v.outcome = .rejectedNameOrValue ∧
        v.diagnostics.map (·.code) = [Diagnostic.Code.duplicate.name]

theorem refuses_of_mem {s : Scope} {name : String} (h : name ∈ s) : s.Refuses name := by
  rintro q tokens d hq hd rfl
  rcases s.perform_cases q with ⟨tokens', a, hq', -, ha, hperform⟩ | ⟨-, hq', -⟩ | ⟨hq', -⟩
  · cases hq.symm.trans hq'
    rw [Declaration.judge_of_mem hd h] at ha hperform
    exact ⟨a, .duplicate d, by rw [run_act, hperform]; rfl, ha, rfl, rfl, rfl⟩
  · cases hq.symm.trans hq'
  · cases hq.symm.trans hq'

/-! ## Any requests -/

/-- The scope behind a request, whether its program returns or stops. -/
def after (s : Scope) (q : Request) : Scope :=
  match (act q).run s with
  | .ok _ t => t
  | .error _ t => t

/-- The answer to a request, if its program returns. -/
def answer? (s : Scope) (q : Request) : Option Answer :=
  match (act q).run s with
  | .ok a _ => some a
  | .error _ _ => none

/-- The scope behind requests, one after the other. -/
def afterAll (s : Scope) (requests : List Request) : Scope :=
  requests.foldl after s

/-- The answers to requests, one after the other. -/
def answers (s : Scope) : List Request → List Answer
  | [] => []
  | q :: requests => (s.answer? q).toList ++ (s.after q).answers requests

theorem after_eq (s : Scope) (q : Request) :
    s.after q = ((s.perform q).map (·.2)).toOption.getD s := by
  rw [after, run_act]
  cases s.perform q <;> rfl

theorem entries_after (s : Scope) (q : Request) :
    (s.after q).entries = s.entries ++ ((s.answer? q).bind Answer.entry?).toList := by
  rw [after, answer?, run_act]
  rcases s.perform_cases q with ⟨tokens, a, -, -, ha, hperform⟩ | ⟨a, -, -, ha, hperform⟩ |
    ⟨-, -, hperform⟩
  · simp [hperform, outcome, Declaration.entries_judge, Answer.entry?, ha]
  · simp [hperform, outcome, Answer.entry?, ha]
  · simp [hperform, outcome]

/-- Behind any requests a scope holds what it held before, and behind that what the answers have
accepted. -/
theorem entries_afterAll (s : Scope) (requests : List Request) :
    (s.afterAll requests).entries =
      s.entries ++ (s.answers requests).filterMap Answer.entry? := by
  induction requests generalizing s with
  | nil => simp [afterAll, answers]
  | cons q requests ih =>
    have hcons : s.afterAll (q :: requests) = (s.after q).afterAll requests := rfl
    have hentry : (s.answer? q).toList.filterMap Answer.entry? =
        ((s.answer? q).bind Answer.entry?).toList := by
      cases s.answer? q with
      | none => rfl
      | some a => cases ha : a.entry? <;> simp [ha]
    rw [hcons, ih, entries_after, answers, List.filterMap_append, hentry, List.append_assoc]

theorem mem_afterAll {s : Scope} {name : String} (h : name ∈ s) (requests : List Request) :
    name ∈ s.afterAll requests := by
  rw [mem_iff, names, entries_afterAll, List.map_append, List.mem_append]
  exact .inl h

theorem base?_afterAll {s : Scope} {name : String} {base : Base} (h : s.base? name = some base)
    (requests : List Request) : (s.afterAll requests).base? name = some base := by
  rw [base?, entries_afterAll, List.lookup_append, ← base?, h]
  rfl

end Scope

/-- **Declarations are permanent.** Behind any requests, refused ones among them, a scope holds what
it held before, every name at its place and with its base, and behind that what the answers have
accepted. It takes every further request in the same way: an accepted declaration comes to its
end, and nothing else changes it. Whatever it holds cannot be declared again. -/
theorem declarations_permanent (scope : Scope) (requests : List Scope.Request) :
    (scope.afterAll requests).entries =
        scope.entries ++ (scope.answers requests).filterMap Scope.Answer.entry? ∧
      (∀ i, i < scope.entries.length → (scope.afterAll requests).entries[i]? = scope.entries[i]?) ∧
      (∀ name base, scope.base? name = some base →
        (scope.afterAll requests).base? name = some base) ∧
      (∀ q, (scope.afterAll requests).Takes q) ∧
      ∀ name ∈ scope, (scope.afterAll requests).Refuses name := by
  have hentries := scope.entries_afterAll requests
  refine ⟨hentries, fun i hi => ?_, fun name base h => Scope.base?_afterAll h requests,
    Scope.takes _, fun name h => Scope.refuses_of_mem (Scope.mem_afterAll h requests)⟩
  rw [hentries, List.getElem?_append_left hi]

/-- Behind a check, a declaration that is refused, one that is accepted and a line with the tokens
of another, `x` is refused as a duplicate only, although `9` is no octal digit. -/
theorem declarations_permanent_invalid_value :
    let scope := (Declaration.judge (tokensOf "bin x 1;") .empty).2
    let requests : List Scope.Request := [.check (tokensOf "x + y") .all,
      .declare "oct x 7;" none, .declare "hex y 9;" (some (.ofText "hex y 9;")),
      .evaluate "x" .first (some (.ofText "y"))]
    (scope.afterAll requests).entries = [("x", .bin), ("y", .hex)] ∧
      ∃ a v, (Scope.act (.declare "oct x 9;" none)).run (scope.afterAll requests) =
          .ok a (scope.afterAll requests) ∧
        a.verdict? = some v ∧ v.outcome = .rejectedNameOrValue ∧
        v.diagnostics.map (·.code) = [Diagnostic.Code.duplicate.name] := by
  intro scope requests
  obtain ⟨-, -, -, -, hrefuses⟩ := declarations_permanent scope requests
  have hmem : "x" ∈ scope := by decide +kernel
  obtain ⟨a, v, hrun, ha, -, houtcome, hcodes⟩ :=
    hrefuses "x" hmem (.declare "oct x 9;" none) (tokensOf "oct x 9;")
      ⟨.oct, ⟨.identifier, "x", .ofLength 4 1⟩, ⟨.number .hex, "9", .ofLength 6 1⟩⟩
      rfl (by decide +kernel) rfl
  refine ⟨?_, a, v, hrun, ha, houtcome, hcodes⟩
  simp only [requests, Scope.afterAll, List.foldl_cons, List.foldl_nil, Scope.after_eq]
  decide +kernel

end Numeral
