import Numeral.Proofs.DeclarationText
import Numeral.Proofs.LineDiagnostics
import Numeral.Proofs.Mention

/-!
# Undeclared names can be declared

Every name that an expression lacks can be declared by a line made for it: what is an identifier in
the middle of an expression is one between a keyword and a number, too. Behind such lines, one for
each name in any order, the expression is valid.

- `repairLine`: the line that declares a name.
- `judge_repairLine`: it declares every identifier that is new.
- `Declaration.entries_runEach_repairLine`: such lines one after the other declare all their names.
- `undeclared_repairable`: they repair every expression.
-/

namespace Numeral

/-- The line that declares `name` in the least base. -/
def repairLine (name : String) : String :=
  "bin " ++ name ++ " 1;"

/-! ## One line -/

/-- The line that declares an identifier, with its parts. -/
def DeclarationText.ofIdentifier (name : List Char) (h : kindOfWord name = .identifier) :
    DeclarationText where
  base := .bin
  indent := []
  keyword := ['b', 'i', 'n']
  keywordGap := [' ']
  name := name
  nameGap := [' ']
  value := ['1']
  valueGap := []
  rest := []
  isGap_indent := by decide
  isKeyword_keyword := by decide +kernel
  isGap_keywordGap := by decide +kernel
  keywordGap_ne_nil := by simp
  isName_name := (kindOfWord_eq_identifier_iff.mp h).1
  not_isKeyword_name := (kindOfWord_eq_identifier_iff.mp h).2
  isGap_nameGap := by decide +kernel
  nameGap_ne_nil := by simp
  isLiteral_value := by decide
  isGap_valueGap := by decide

section Judge

variable {scope : Scope} {name : String} {names : List String}

/-- The line made for an identifier has the form of a declaration. -/
theorem exists_toList_repairLine (h : kindOfWord name.toList = .identifier) :
    ∃ d : DeclarationText, (repairLine name).toList = d.chars ∧ String.ofList d.name = name ∧
      d.base = .bin ∧ ∀ c ∈ d.value, d.base.isDigit c = true := by
  refine ⟨.ofIdentifier name.toList h, ?_, String.ofList_toList, rfl, ?_⟩
  · simp [repairLine, DeclarationText.chars, DeclarationText.front, DeclarationText.ofIdentifier]
  · simp [DeclarationText.ofIdentifier, Base.isDigit]

/-- The line made for an identifier declares it where it is new. -/
theorem judge_repairLine (h : kindOfWord name.toList = .identifier) (hnew : name ∉ scope) :
    (Declaration.judge (tokensOf (repairLine name)) scope).1.outcome = .accepted ∧
      (Declaration.judge (tokensOf (repairLine name)) scope).1.name? = some name ∧
      (Declaration.judge (tokensOf (repairLine name)) scope).1.base? = some .bin ∧
      (Declaration.judge (tokensOf (repairLine name)) scope).2.entries =
        scope.entries ++ [(name, .bin)] := by
  obtain ⟨d, hd, hname, hbase, hdigits⟩ := exists_toList_repairLine h
  have hjudged := DeclarationText.isJudged_judge hd scope
  obtain ⟨houtcome, -, hentries⟩ := hjudged.accepted (by rwa [hname]) hdigits
  exact ⟨houtcome, by rw [hjudged.name?_eq, hname], by rw [hjudged.base?_eq, hbase],
    by rw [hentries, hname, hbase]⟩

/-! ## Several lines -/

/-- The scope behind `texts`, run as declarations one after the other. -/
def Declaration.runEach (texts : List String) (scope : Scope) : Except Line.Mismatch Scope :=
  texts.foldlM (fun scope text => (run text scope).map (·.2)) scope

theorem Declaration.runEach_cons (text : String) (texts : List String) (scope : Scope) :
    runEach (text :: texts) scope = runEach texts (judge (tokensOf text) scope).2 := by
  rw [runEach, List.foldlM_cons, run_eq, Except.map]
  rfl

/-- The lines made for new identifiers declare them in their order. -/
theorem Declaration.entries_runEach_repairLine (hnodup : names.Nodup)
    (hkind : ∀ name ∈ names, kindOfWord name.toList = .identifier)
    (hnew : ∀ name ∈ names, name ∉ scope) :
    ∃ after, runEach (names.map repairLine) scope = .ok after ∧
      after.entries = scope.entries ++ names.map (·, .bin) := by
  induction names generalizing scope with
  | nil => exact ⟨scope, rfl, by simp⟩
  | cons name names ih =>
    obtain ⟨hname, hnodup⟩ := List.nodup_cons.mp hnodup
    have hentries := (judge_repairLine (hkind name (by simp)) (hnew name (by simp))).2.2.2
    -- The other names are still new behind the first line, as they differ from its name.
    have hnew' : ∀ other ∈ names, other ∉ (judge (tokensOf (repairLine name)) scope).2 := by
      intro other hother
      rw [Scope.mem_iff, Scope.names, hentries, List.map_append, List.mem_append, not_or]
      refine ⟨hnew other (by simp [hother]), ?_⟩
      rw [List.map_singleton, List.mem_singleton]
      rintro rfl
      exact hname hother
    obtain ⟨after, hafter, he⟩ := ih hnodup (fun other h => hkind other (by simp [h])) hnew'
    refine ⟨after, by rw [List.map_cons, runEach_cons, hafter], ?_⟩
    rw [he, hentries, List.append_assoc, List.singleton_append, List.map_cons]

end Judge

/-- **Undeclared names can be declared.** Each name that all mode reports is declared by the line
made for it. The lines made for all of them, in any order, put the names at the end of the scope in
that order, and then the expression is valid in both modes and no diagnostic reports a name. -/
theorem undeclared_repairable (text : String) (scope : Scope) :
    ∃ r, Expression.run text scope .all = .ok r ∧
      (∀ name ∈ r.verdict.undeclared, ∃ d after,
        Declaration.run (repairLine name) scope = .ok (d, after) ∧
          d.verdict.outcome = .accepted ∧ d.verdict.name? = some name ∧
          d.verdict.base? = some .bin) ∧
      ∀ names : List String, names.Nodup →
        (∀ name, name ∈ names ↔ name ∈ r.verdict.undeclared) →
        ∃ after, Declaration.runEach (names.map repairLine) scope = .ok after ∧
          after.entries = scope.entries ++ names.map (·, .bin) ∧
          ∀ mode, ∃ r', Expression.run text after mode = .ok r' ∧ r'.isValid = true ∧
            ∀ d ∈ r'.diagnostics, d.code ≠ Diagnostic.Code.undeclaredVariable.name := by
  refine ⟨_, rfl, fun name hname => ?_, fun names hnodup hnames => ?_⟩
  · obtain ⟨hmentions, hnew⟩ := Expression.mem_undeclared_iff.mp hname
    obtain ⟨houtcome, hname?, hbase?, -⟩ := judge_repairLine hmentions.kindOfWord hnew
    refine ⟨_, _, Declaration.run_eq _ _, ?_⟩
    dsimp only
    exact ⟨houtcome, hname?, hbase?⟩
  · -- The names are those that the text mentions and the scope lacks.
    have hmissing (name : String) : name ∈ names ↔ Mentions text.toList name ∧ name ∉ scope :=
      (hnames name).trans Expression.mem_undeclared_iff
    obtain ⟨after, hafter, hentries⟩ := Declaration.entries_runEach_repairLine hnodup
      (fun name h => ((hmissing name).mp h).1.kindOfWord) (fun name h => ((hmissing name).mp h).2)
    refine ⟨after, hafter, hentries, fun mode => ⟨_, rfl, ?_⟩⟩
    have hmem (name : String) : name ∈ after ↔ name ∈ scope ∨ name ∈ names := by
      simp [Scope.mem_iff, Scope.names, hentries, Function.comp_def]
    have hvalid : (Expression.runLine (.ofText text) after mode).isValid = true := by
      rw [Expression.isValid_iff_mentions]
      intro name hname
      rw [hmem, hmissing]
      by_cases hscope : name ∈ scope
      · exact .inl hscope
      · exact .inr ⟨hname, hscope⟩
    refine ⟨hvalid, fun d hd => ?_⟩
    rw [Expression.diagnostics_of_isValid hvalid] at hd
    rw [code_of_mem_complaints hd]
    decide

theorem undeclared_repairable_other_order :
    (Expression.runLine (.ofText "éſa + Y*ſa bin") .empty .all).verdict.undeclared =
        ["ſa", "Y", "ſa"] ∧
      ∃ after, Declaration.runEach (["Y", "ſa"].map repairLine) .empty = .ok after ∧
        after.entries = [("Y", .bin), ("ſa", .bin)] ∧
        ∃ r, Expression.run "éſa + Y*ſa bin" after .first = .ok r ∧ r.isValid = true := by
  have hundeclared :
      (Expression.runLine (.ofText "éſa + Y*ſa bin") .empty .all).verdict.undeclared =
        ["ſa", "Y", "ſa"] := by decide +kernel
  obtain ⟨r, hr, -, hrepair⟩ := undeclared_repairable "éſa + Y*ſa bin" .empty
  cases hr
  have hnames : ∀ name, name ∈ ["Y", "ſa"] ↔
      name ∈ (Expression.runLine (.ofText "éſa + Y*ſa bin") .empty .all).verdict.undeclared := by
    simp [hundeclared, or_comm]
  obtain ⟨after, hafter, hentries, hvalid⟩ := hrepair ["Y", "ſa"] (by decide) hnames
  obtain ⟨r, hr, hr', -⟩ := hvalid .first
  exact ⟨hundeclared, after, hafter, hentries, r, hr, hr'⟩

end Numeral
