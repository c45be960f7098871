import Numeral.Proofs.SessionMessages
import Numeral.Proofs.SessionResult
import Numeral.Proofs.UnreadLines

/-!
# The two modes of the expression check

All mode goes through the whole expression, first mode stops at the first undeclared name. So first
mode finds the front of what all mode finds, and a session in first mode says what it says in all
mode, up to its first message about an undeclared name.

- `upToFirst`: a list that is cut behind the first element of some sort.
- `Expression.check_first`: a check in the two modes.
- `Session.Notice.IsUndeclaredVariable`: the messages about undeclared names. No other message of a
  session is one (`Session.not_isUndeclaredVariable_of_mem_messages` and the lemmas before it).
- `Session.messages_cut`: the messages of a session in the two modes.
- `first_mode_cuts_all_mode`: tokens and sessions in the two modes.
-/

namespace Numeral

/-! ## Cuts -/

section Cut

variable {α : Type} {p : α → Bool} {l : List α}

/-- The list up to its first element with `p`, this one included. -/
def upToFirst (p : α → Bool) : List α → List α
  | [] => []
  | a :: l => if p a then [a] else a :: upToFirst p l

/-- The first element with `p` is not in a front without such elements. -/
theorem upToFirst_append (h : ∀ a ∈ l, p a = false) (m : List α) :
    upToFirst p (l ++ m) = l ++ upToFirst p m := by
  induction l with
  | nil => rfl
  | cons a l ih =>
    rw [List.forall_mem_cons] at h
    rw [List.cons_append, upToFirst, h.1, ih h.2]
    rfl

theorem upToFirst_singleton (p : α → Bool) (a : α) : upToFirst p [a] = [a] := by
  by_cases h : p a <;> simp [upToFirst, h]

private theorem upToFirst_of_forall (h : ∀ a ∈ l, p a = true) : upToFirst p l = l.take 1 := by
  cases l with
  | nil => rfl
  | cons a l => rw [upToFirst, if_pos (h a List.mem_cons_self), List.take_succ_cons, List.take_zero]

end Cut

namespace Expression

/-! ## Checks in the two modes -/

/-- A check in first mode reports the first of what it reports in all mode. -/
theorem check_first (tokens : List Token) (scope : Scope) :
    (check tokens scope .first).undeclared = (check tokens scope .all).undeclared.take 1 ∧
      (check tokens scope .first).diagnostics = (check tokens scope .all).diagnostics.take 1 := by
  unfold check
  rw [undeclared_first]
  exact ⟨List.map_take, List.map_take⟩

theorem isValid_check_first (tokens : List Token) (scope : Scope) :
    (check tokens scope .first).isValid = (check tokens scope .all).isValid := by
  rw [Verdict.isValid, (check_first tokens scope).1, Verdict.isValid]
  cases (check tokens scope .all).undeclared <;> rfl

end Expression

namespace Session

/-! ## The messages about undeclared names -/

namespace Notice

/-- Reports an undeclared name. -/
def undeclaredVariable (name : String) : String :=
  "Error: variable " ++ name ++ " was not declared."

/-- The message reports an undeclared name. -/
def IsUndeclaredVariable (message : String) : Prop :=
  ∃ name, message = undeclaredVariable name

/-- What stands in front of the name. -/
def beforeUndeclared : List Char := "Error: variable ".toList

/-- What stands behind the name. -/
def behindUndeclared : List Char := " was not declared.".toList

private theorem toList_undeclaredVariable (name : String) :
    (undeclaredVariable name).toList = beforeUndeclared ++ (name.toList ++ behindUndeclared) := by
  unfold undeclaredVariable
  rw [String.toList_append, String.toList_append, List.append_assoc]
  rfl

theorem isUndeclaredVariable_iff {message : String} :
    IsUndeclaredVariable message ↔ beforeUndeclared <+: message.toList ∧
      behindUndeclared <:+ message.toList.drop beforeUndeclared.length := by
  constructor
  · rintro ⟨name, rfl⟩
    rw [toList_undeclaredVariable, List.drop_left]
    exact ⟨List.prefix_append _ _, List.suffix_append _ _⟩
  · rintro ⟨⟨rest, hrest⟩, hbehind⟩
    rw [← hrest, List.drop_left] at hbehind
    obtain ⟨name, rfl⟩ := hbehind
    refine ⟨String.ofList name, String.toList_injective ?_⟩
    rw [toList_undeclaredVariable, String.toList_ofList, hrest]

instance : DecidablePred IsUndeclaredVariable := fun _ =>
  decidable_of_iff _ isUndeclaredVariable_iff.symm

/-- A message that begins differently is none of them. -/
theorem not_isUndeclaredVariable_of_front {front : String} (rest : String)
    (h : ¬ front.toList <+: beforeUndeclared) (h' : ¬ beforeUndeclared <+: front.toList) :
    ¬ IsUndeclaredVariable (front ++ rest) := by
  intro hmessage
  have hbefore := (isUndeclaredVariable_iff.mp hmessage).1
  rw [String.toList_append] at hbefore
  exact (List.prefix_or_prefix_of_prefix (List.prefix_append _ _) hbefore).elim h h'

/-- A message that ends differently is none of them. -/
private theorem not_isUndeclaredVariable_of_tail {tail : String} (rest : String)
    (h : ¬ tail.toList <:+ behindUndeclared) (h' : ¬ behindUndeclared <:+ tail.toList) :
    ¬ IsUndeclaredVariable (rest ++ tail) := by
  intro hmessage
  have hbehind := (isUndeclaredVariable_iff.mp hmessage).2.trans (List.drop_suffix _ _)
  rw [String.toList_append] at hbehind
  exact (List.suffix_or_suffix_of_suffix (List.suffix_append _ _) hbehind).elim h h'

end Notice

open Notice (IsUndeclaredVariable not_isUndeclaredVariable_of_front
  not_isUndeclaredVariable_of_tail)

/-! ## The other messages of a session -/

private theorem not_isUndeclaredVariable_declarationsPrompt (sentinel : String) :
    ¬ IsUndeclaredVariable (Notice.declarationsPrompt sentinel) := by
  unfold Notice.declarationsPrompt
  rw [String.append_assoc]
  exact not_isUndeclaredVariable_of_front _ (by decide +kernel) (by decide +kernel)

private theorem not_isUndeclaredVariable_of_mem_opening {settings : Settings} {message : String}
    (h : message ∈ (ofSettings settings).start.2) : ¬ IsUndeclaredVariable message := by
  have hopening : (ofSettings settings).start.2 =
      if settings.prompts then [Notice.declarationsPrompt settings.sentinel] else [] := rfl
  rw [hopening] at h
  by_cases hprompts : settings.prompts
  · rw [if_pos hprompts, List.mem_singleton] at h
    rw [h]
    exact not_isUndeclaredVariable_declarationsPrompt _
  · rw [if_neg hprompts] at h
    cases h

private theorem not_isUndeclaredVariable_of_mem_expressionPrompts {settings : Settings}
    {message : String} (h : message ∈ settings.expressionPrompts) : ¬ IsUndeclaredVariable message := by
  rw [Settings.expressionPrompts] at h
  by_cases hprompts : settings.prompts
  · rw [if_pos hprompts, List.mem_singleton] at h
    rw [h]
    decide +kernel
  · rw [if_neg hprompts] at h
    cases h

private theorem lowerFirst_val (rest : String) : lowerFirst ("Val" ++ rest) = "val" ++ rest := by
  have hlower : lower 'V' = ['v'] := by decide +kernel
  refine String.toList_injective ?_
  simp [lowerFirst, hlower]

/-- The report of a wrong value goes on with the word `value`. -/
private theorem not_isUndeclaredVariable_wrongValue (rest : String) :
    ¬ IsUndeclaredVariable ("Error: " ++ lowerFirst ("Val" ++ rest)) := by
  rw [lowerFirst_val, ← String.append_assoc]
  exact not_isUndeclaredVariable_of_front _ (by decide +kernel) (by decide +kernel)

/-- The report of a name that is taken begins like the one of an undeclared name, but ends
differently. -/
private theorem not_isUndeclaredVariable_rejected (name : String) : ¬ IsUndeclaredVariable
    ("Error: variable " ++ name ++ " was already declared or has an invalid value.") :=
  not_isUndeclaredVariable_of_tail _ (by decide +kernel) (by decide +kernel)

private theorem not_isUndeclaredVariable_accepted (name : String) :
    ¬ IsUndeclaredVariable ("Variable " ++ name ++ " declared successfully.") := by
  rw [String.append_assoc]
  exact not_isUndeclaredVariable_of_front _ (by decide +kernel) (by decide +kernel)

/-- No message about a declaration is one about an undeclared name. -/
theorem not_isUndeclaredVariable_of_mem_messages {run : Declaration.Run} {message : String}
    (h : message ∈ run.messages) : ¬ IsUndeclaredVariable message := by
  obtain ⟨_, verdict, _⟩ := run
  cases verdict with
  | accepted d =>
    rw [List.mem_singleton.mp h]
    exact not_isUndeclaredVariable_accepted _
  | malformed span =>
    rw [List.mem_singleton.mp h]
    decide +kernel
  | duplicate d =>
    rw [List.mem_singleton.mp h]
    exact not_isUndeclaredVariable_rejected _
  | invalidValue d =>
    rcases List.mem_cons.mp h with rfl | h
    · have hvalue : "Value '" = "Val" ++ "ue '" := by decide
      dsimp only [Diagnostic.Code.report, Option.getD]
      rw [hvalue, String.append_assoc, String.append_assoc, String.append_assoc,
        String.append_assoc]
      exact not_isUndeclaredVariable_wrongValue _
    · rw [List.mem_singleton.mp h]
      exact not_isUndeclaredVariable_rejected _

/-! ## The messages in the two modes -/

/-- The first of the undeclared names is reported by the first of their messages. -/
theorem expression_take_one (names : List String) :
    Notice.expression (names.take 1) =
      upToFirst (fun m => decide (IsUndeclaredVariable m)) (Notice.expression names) := by
  cases names with
  | nil => decide +kernel
  | cons name names =>
    have hnotices : ∀ m ∈ Notice.expression (name :: names),
        decide (IsUndeclaredVariable m) = true := by
      intro m hm
      obtain ⟨n, -, rfl⟩ := List.mem_map.mp hm
      exact decide_eq_true ⟨n, rfl⟩
    rw [upToFirst_of_forall hnotices]
    rfl

/-- The settings with that mode. -/
def Settings.withMode (settings : Settings) (mode : Expression.Mode) : Settings :=
  { settings with mode := mode }

theorem expression_findings_withMode (settings : Settings) (lines : List String)
    (mode : Expression.Mode) :
    ((settings.withMode mode).findings lines).expression =
      (settings.expressionLine? lines).map fun e =>
        Expression.runLine (.ofText e) (scopeAfter .empty (settings.linesBefore lines)) mode :=
  rfl

/-- What a session says in the end. -/
theorem lastMessages_findings (settings : Settings) (lines : List String) :
    ((settings.withMode .first).findings lines).lastMessages =
      upToFirst (fun m => decide (IsUndeclaredVariable m))
        ((settings.withMode .all).findings lines).lastMessages := by
  unfold Result.lastMessages
  rw [expression_findings_withMode, expression_findings_withMode]
  cases settings.expressionLine? lines with
  | none => exact (upToFirst_singleton _ _).symm
  | some e =>
    have hundeclared := (Expression.check_first (tokensOf e)
      (scopeAfter .empty (settings.linesBefore lines))).1
    exact (congrArg Notice.expression hundeclared).trans (expression_take_one _)

/-- **Messages in the two modes.** In first mode a session says what it says in all mode, up to the
first message about an undeclared name. -/
theorem messages_cut (settings : Settings) (lines : List String) :
    (transcript (settings.withMode .first) lines).messages =
      upToFirst (fun m => decide (IsUndeclaredVariable m))
        (transcript (settings.withMode .all) lines).messages := by
  have hopening : ∀ m ∈ (ofSettings settings).start.2,
      decide (IsUndeclaredVariable m) = false := fun m hm =>
    decide_eq_false (not_isUndeclaredVariable_of_mem_opening hm)
  have hdeclarations : ∀ m ∈ (runsOf (settings.linesBefore lines)).flatMap (·.messages),
      decide (IsUndeclaredVariable m) = false := by
    intro m hm
    obtain ⟨run, -, hm⟩ := List.mem_flatMap.mp hm
    exact decide_eq_false (not_isUndeclaredVariable_of_mem_messages hm)
  have hprompts : ∀ m ∈ if settings.sentinel ∈ lines then settings.expressionPrompts else [],
      decide (IsUndeclaredVariable m) = false := by
    intro m hm
    split at hm
    · exact decide_eq_false (not_isUndeclaredVariable_of_mem_expressionPrompts hm)
    · cases hm
  -- Only the last messages depend on the mode.
  have hmessages (mode : Expression.Mode) :
      (transcript (settings.withMode mode) lines).messages =
        (ofSettings settings).start.2 ++
          ((runsOf (settings.linesBefore lines)).flatMap (·.messages) ++
            ((if settings.sentinel ∈ lines then settings.expressionPrompts else []) ++
              ((settings.withMode mode).findings lines).lastMessages)) := by
    rw [messages_transcript, result_transcript_eq]
    rfl
  rw [hmessages, hmessages, upToFirst_append hopening, upToFirst_append hdeclarations,
    upToFirst_append hprompts, lastMessages_findings]

/-- The mode bears neither on what a session takes nor on whether it is valid. -/
theorem transcript_withMode (settings : Settings) (lines : List String) :
    let first := transcript (settings.withMode .first) lines
    let all := transcript (settings.withMode .all) lines
    first.result.scope = all.result.scope ∧
      first.result.declarations = all.result.declarations ∧
      first.result.isValid = all.result.isValid ∧
      first.exchanges.map (·.line) = all.exchanges.map (·.line) ∧ first.left = all.left := by
  intro first all
  have hresult : first.result = (settings.withMode .first).findings lines :=
    result_transcript_eq _ lines
  have hresult' : all.result = (settings.withMode .all).findings lines :=
    result_transcript_eq _ lines
  obtain ⟨htaken, hleft⟩ := lines_transcript (settings.withMode .first) lines
  obtain ⟨htaken', hleft'⟩ := lines_transcript (settings.withMode .all) lines
  refine ⟨?_, ?_, ?_, htaken.trans htaken'.symm, hleft.trans hleft'.symm⟩
  · rw [hresult, hresult']
    rfl
  · rw [hresult, hresult']
    rfl
  · rw [hresult, hresult', Result.isValid, Result.isValid, expression_findings_withMode,
      expression_findings_withMode]
    cases settings.expressionLine? lines with
    | none => rfl
    | some e => exact Expression.isValid_check_first _ _

end Session

/-- **First mode cuts all mode.** On any tokens, with any scope, all mode reports every identifier
that the scope does not hold, in order and as often as it stands there, each at its own span. First
mode reports the first of these, if there is one, so that the modes agree on validity. Sessions in
the two modes find the same declarations, agree on validity and take the same lines, and in first
mode a session says what it says in all mode, up to the first message about an undeclared name. -/
theorem first_mode_cuts_all_mode :
    (∀ (tokens : List Token) (scope : Scope),
      let unknown := tokens.filter fun t => t.kind = .identifier ∧ t.text ∉ scope
      let all := Expression.check tokens scope .all
      let first := Expression.check tokens scope .first
      all.undeclared = unknown.map (·.text) ∧
        all.diagnostics = unknown.map (fun t => Diagnostic.Code.undeclaredVariable.report t.span
          (some ("Variable " ++ t.text ++ " was not declared."))) ∧
        first.undeclared = all.undeclared.take 1 ∧
        first.diagnostics = all.diagnostics.take 1 ∧
        first.isValid = all.isValid) ∧
    ∀ (settings : Session.Settings) (lines : List String),
      let all := Session.transcript (settings.withMode .all) lines
      let first := Session.transcript (settings.withMode .first) lines
      first.result.scope = all.result.scope ∧
        first.result.declarations = all.result.declarations ∧
        first.result.isValid = all.result.isValid ∧
        first.exchanges.map (·.line) = all.exchanges.map (·.line) ∧
        first.left = all.left ∧
        first.messages =
          upToFirst (fun m => decide (Session.Notice.IsUndeclaredVariable m)) all.messages := by
  refine ⟨fun tokens scope => ?_, fun settings lines => ?_⟩
  · intro unknown all first
    have hunknown : Expression.undeclared scope .all tokens = unknown := by
      rw [Expression.undeclared_all]
      refine List.filter_congr fun t _ => ?_
      rw [Expression.isUndeclared, Bool.decide_and]
    obtain ⟨hundeclared, hdiagnostics⟩ := Expression.check_first tokens scope
    refine ⟨congrArg _ hunknown, congrArg _ hunknown, hundeclared, hdiagnostics, ?_⟩
    exact Expression.isValid_check_first tokens scope
  · intro all first
    obtain ⟨hscope, hdeclarations, hvalid, htaken, hleft⟩ :=
      Session.transcript_withMode settings lines
    exact ⟨hscope, hdeclarations, hvalid, htaken, hleft, Session.messages_cut settings lines⟩

end Numeral
