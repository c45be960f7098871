import Numeral.Proofs.SessionHistory
import Numeral.Proofs.SessionValidity

/-!
# The order of declarations

Which lines are accepted, and with which base, depends on their order. Which names they declare does
not: a name is declared iff one of the lines declares it on its own. So neither the order nor the
repetition of lines bears on the verdict, and further lines never spoil it.

- `mem_scopeAfter_mono`, `mem_scopeAfter_congr`: a declared name stays declared with further lines,
  and which names are declared depends only on which lines there are.
- `Expression.undeclared_sublist`: in a larger scope all mode reports a part of what it reported.
- `Expression.check_congr`: a check looks at the names of a scope, not at their bases and order.
- `Session.resultOf`: what a session finds that takes some lines, the sentinel and an expression.
- `declarations_order_free`: how the results of two such sessions compare.
-/

namespace Numeral

section Lines

variable {lines more : List String} {name : String}

/-! ## Scopes -/

theorem mem_scopeAfter_mono (h : lines ⊆ more) (hname : name ∈ scopeAfter .empty lines) :
    name ∈ scopeAfter .empty more := by
  rw [mem_scopeAfter_iff] at hname ⊢
  rcases hname with hname | ⟨line, hline, b, hb⟩
  · exact .inl hname
  · exact .inr ⟨line, h hline, b, hb⟩

/-- Lines that are the same up to order and repetition declare the same names. -/
theorem mem_scopeAfter_congr (h : lines ⊆ more) (h' : more ⊆ lines) :
    name ∈ scopeAfter .empty lines ↔ name ∈ scopeAfter .empty more :=
  ⟨mem_scopeAfter_mono h, mem_scopeAfter_mono h'⟩

theorem perm_names_scopeAfter (h : lines ⊆ more) (h' : more ⊆ lines) :
    (scopeAfter .empty lines).names.Perm (scopeAfter .empty more).names :=
  (List.perm_ext_iff_of_nodup (Scope.nodup _) (Scope.nodup _)).mpr fun _ =>
    mem_scopeAfter_congr h h'

/-- The names of the accepted lines are the names of the scope, each of them once. -/
theorem map_acceptedEntries_runsOf (lines : List String) :
    (acceptedEntries (runsOf lines)).map (·.1) = (scopeAfter .empty lines).names := by
  rw [← entries_scopeAfter_empty, Scope.names]

end Lines

namespace Expression

variable {s t : Scope}

/-! ## Checks in several scopes -/

/-- In a larger scope all mode reports a part of what it reported. -/
theorem undeclared_sublist (h : ∀ name ∈ s, name ∈ t) (tokens : List Token) :
    (undeclared t .all tokens).Sublist (undeclared s .all tokens) := by
  rw [undeclared_all, undeclared_all]
  refine List.monotone_filter_right tokens fun token htoken => ?_
  simp only [isUndeclared, Bool.and_eq_true, decide_eq_true_eq] at htoken ⊢
  exact ⟨htoken.1, fun hname => htoken.2 (h _ hname)⟩

/-- A check looks at the names of a scope, not at their bases and order. -/
theorem check_congr (h : ∀ name, name ∈ s ↔ name ∈ t) (tokens : List Token) (mode : Mode) :
    check tokens s mode = check tokens t mode := by
  have hundeclared : isUndeclared s = isUndeclared t := by
    funext token
    simp [isUndeclared, h]
  have hall : undeclared s .all tokens = undeclared t .all tokens := by
    rw [undeclared_all, undeclared_all, hundeclared]
  cases mode with
  | all => simp only [check, hall]
  | first => simp only [check, undeclared_first, hall]

private theorem runLine_congr (h : ∀ name, name ∈ s ↔ name ∈ t) (line : Line) (mode : Mode) :
    runLine line s mode = runLine line t mode := by
  rw [runLine, runLine, check_congr h]

end Expression

namespace Session

variable {lines : List String}

/-! ## Sessions -/

/-- What a session finds that takes `lines`, the sentinel and the expression `e`. -/
def resultOf (settings : Settings) (lines : List String) (e : String) : Result :=
  (transcript settings (lines ++ [settings.sentinel, e])).result

theorem scope_resultOf (settings : Settings) (h : settings.sentinel ∉ lines) (e : String) :
    (resultOf settings lines e).scope = scopeAfter .empty lines :=
  (result_transcript h e []).1

theorem declarations_resultOf (settings : Settings) (h : settings.sentinel ∉ lines) (e : String) :
    (resultOf settings lines e).declarations = runsOf lines :=
  (result_transcript h e []).2.1

theorem expression_resultOf (settings : Settings) (h : settings.sentinel ∉ lines) (e : String) :
    (resultOf settings lines e).expression =
      some (Expression.runLine (.ofText e) (scopeAfter .empty lines) settings.mode) :=
  (result_transcript h e []).2.2

end Session

/-- **The order of declarations does not matter.** Where all of `lines` are among `more`, the names
declared after `lines` are declared after `more`, what all mode reports after `more` it reports
after `lines`, in the same order, and the session is valid with `more` if it is with `lines`. Where
the lines are the same up to order and repetition, so are the verdict, the names, the number of
names accepted and the expression with all that is reported of it. -/
theorem declarations_order_free (settings : Session.Settings) {lines more : List String}
    (e : String) (hlines : settings.sentinel ∉ lines) (hmore : settings.sentinel ∉ more)
    (h : lines ⊆ more) :
    (∀ name ∈ (Session.resultOf settings lines e).scope,
      name ∈ (Session.resultOf settings more e).scope) ∧
    (∃ r r',
      (Session.resultOf { settings with mode := .all } lines e).expression = some r ∧
      (Session.resultOf { settings with mode := .all } more e).expression = some r' ∧
      r'.verdict.undeclared.Sublist r.verdict.undeclared) ∧
    ((Session.resultOf settings lines e).isValid = true →
      (Session.resultOf settings more e).isValid = true) ∧
    (more ⊆ lines →
      (Session.resultOf settings more e).isValid = (Session.resultOf settings lines e).isValid ∧
      (∀ name, name ∈ (Session.resultOf settings more e).scope ↔
        name ∈ (Session.resultOf settings lines e).scope) ∧
      ((acceptedEntries (Session.resultOf settings more e).declarations).map (·.1)).dedup.length =
        ((acceptedEntries (Session.resultOf settings lines e).declarations).map
          (·.1)).dedup.length ∧
      (Session.resultOf settings more e).expression =
        (Session.resultOf settings lines e).expression) := by
  -- With more lines more names are declared, and so fewer are undeclared.
  have hmono : ∀ name ∈ scopeAfter .empty lines, name ∈ scopeAfter .empty more := fun name =>
    mem_scopeAfter_mono h
  have hscope := Session.scope_resultOf settings hlines e
  have hscope' := Session.scope_resultOf settings hmore e
  have hexpression := Session.expression_resultOf settings hlines e
  have hexpression' := Session.expression_resultOf settings hmore e
  refine ⟨hscope ▸ hscope' ▸ hmono, ?_, ?_, fun h' => ?_⟩
  · refine ⟨_, _, Session.expression_resultOf { settings with mode := .all } hlines e,
      Session.expression_resultOf { settings with mode := .all } hmore e, ?_⟩
    exact (Expression.undeclared_sublist hmono (Line.ofText e).tokens).map _
  · rw [Session.Result.isValid, Session.Result.isValid, hexpression, hexpression',
      Option.any_some, Option.any_some, Expression.isValid_runLine_iff,
      Expression.isValid_runLine_iff]
    exact fun hvalid token htoken hkind => hmono _ (hvalid token htoken hkind)
  · have hsame : ∀ name, name ∈ scopeAfter .empty more ↔ name ∈ scopeAfter .empty lines :=
      fun name => mem_scopeAfter_congr h' h
    have hrun : (Session.resultOf settings more e).expression =
        (Session.resultOf settings lines e).expression := by
      rw [hexpression, hexpression', Expression.runLine_congr hsame]
    refine ⟨by rw [Session.Result.isValid, Session.Result.isValid, hrun], hscope ▸ hscope' ▸ hsame,
      ?_, hrun⟩
    rw [Session.declarations_resultOf settings hlines, Session.declarations_resultOf settings hmore,
      map_acceptedEntries_runsOf, map_acceptedEntries_runsOf]
    exact (perm_names_scopeAfter h' h).dedup.length_eq

/-- Of two lines for one name the first is accepted: with the lines the other way round, and one of
them repeated, `x` has another base. What is found of `x + y` is the same. -/
theorem declarations_order_free_permuted :
    (scopeAfter .empty ["bin x 1;", "hex x 1F;"]).entries = [("x", .bin)] ∧
      (scopeAfter .empty ["hex x 1F;", "bin x 1;", "hex x 1F;"]).entries = [("x", .hex)] ∧
      (Session.resultOf {} ["hex x 1F;", "bin x 1;", "hex x 1F;"] "x + y").isValid =
        (Session.resultOf {} ["bin x 1;", "hex x 1F;"] "x + y").isValid ∧
      (Session.resultOf {} ["hex x 1F;", "bin x 1;", "hex x 1F;"] "x + y").expression =
        (Session.resultOf {} ["bin x 1;", "hex x 1F;"] "x + y").expression := by
  have hlines : "END" ∉ ["bin x 1;", "hex x 1F;"] := by decide
  have hmore : "END" ∉ ["hex x 1F;", "bin x 1;", "hex x 1F;"] := by decide
  obtain ⟨-, -, -, hsame⟩ := declarations_order_free {} "x + y" hlines hmore (by decide)
  obtain ⟨hvalid, -, -, hexpression⟩ := hsame (by decide)
  exact ⟨by decide +kernel, by decide +kernel, hvalid, hexpression⟩

end Numeral
