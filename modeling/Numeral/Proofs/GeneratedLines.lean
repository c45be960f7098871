import Numeral.Benchmark.Generator
import Numeral.Benchmark.Tally
import Numeral.Proofs.DeclarationText
import Numeral.Proofs.FirstWins

/-!
# The lines of a benchmark

Whatever is drawn, the lines that a benchmark generates have the form of declarations, and their
values fit their bases. Each name is numbered by the line that declares it first, so that exactly
the lines which declare a name once more are rejected, and only for their names.

- `Generated.IsPossible`, `ArePossible`: what can be drawn, whichever numbers the stream holds.
- `arePossible_generate`: what is generated can be drawn.
- `Generated.IsPossible.exists_text`: the line of a declaration has the form of one.
- `Generated.IsPossible.judge`: one line, in a scope that declares the earlier names. The scope
  behind it declares the names up to it.
- `generated_lines_judged`: the verdicts on all lines, and their tally.
-/

namespace Numeral

/-! ## Characters and names -/

theorem Base.isDigit_of_mem_alphabet {b : Base} {c : Char} (h : c ∈ b.alphabet) :
    b.isDigit c = true := by
  have halphabet : b.alphabet.toList.all b.isDigit = true := by cases b <;> decide
  exact List.all_eq_true.mp halphabet c (Array.mem_toList_iff.mpr h)

/-- Every base has the digits that a value is drawn to start with. -/
theorem Base.isDigit_of_zero_or_one (b : Base) {c : Char} (h : c = '0' ∨ c = '1') :
    b.isDigit c = true := by
  rcases h with rfl | rfl <;> cases b <;> decide

namespace Benchmark

private theorem toList_freshName (index : Nat) :
    (freshName index).toList = 'v' :: Nat.toDigits 10 index := by
  rw [freshName, String.toList_append, Nat.toString_eq_repr, Nat.toList_repr]
  rfl

theorem freshName_injective {i j : Nat} (h : freshName i = freshName j) : i = j := by
  rw [freshName, freshName, String.append_right_inj] at h
  exact Nat.repr_inj.mp h

theorem isName_freshName (index : Nat) : isName (freshName index).toList = true := by
  have hrest : (Nat.toDigits 10 index).all isNameRest = true := by
    rw [List.all_eq_true]
    intro c hc
    rw [isNameRest, Nat.isDigit_of_mem_toDigits (by decide) (by decide) hc, Bool.or_true]
  rw [toList_freshName, isName, hrest]
  rfl

/-- No keyword starts like a fresh name. -/
theorem not_isKeyword_freshName (index : Nat) (b : Base) :
    ¬ IsKeyword b (freshName index).toList := by
  rw [isKeyword_iff, toList_freshName, List.map_cons]
  intro h
  have hmem : foldCase 'v' ∈ b.keyword.toList := h ▸ List.mem_cons_self
  revert hmem
  cases b <;> decide

/-! ## What can be drawn -/

/-- `g` can be drawn for line `index`, behind lines that declare `names`: it has the fresh name of
the line or one of the names, and its value is `0` or `1` and up to fifteen digits of its base. -/
structure Generated.IsPossible (g : Generated) (index : Nat) (names : List String) : Prop where
  name : g.isFresh = true ∧ g.name = freshName index ∨ g.isFresh = false ∧ g.name ∈ names
  value : ∃ first digits, g.value = first :: digits ∧ (first = '0' ∨ first = '1') ∧
    digits.length ≤ 15 ∧ ∀ c ∈ digits, c ∈ g.base.alphabet

/-- The names that are declared behind the line of `g`. -/
def namesBehind (names : List String) (g : Generated) : List String :=
  if g.isFresh then names ++ [g.name] else names

/-- The declarations can be drawn one after the other from line `index` on, behind lines that
declare `names`. -/
inductive ArePossible : Nat → List String → List Generated → Prop
  | nil (index : Nat) (names : List String) : ArePossible index names []
  | cons {index : Nat} {names : List String} {g : Generated} {gs : List Generated}
      (h : g.IsPossible index names) (hs : ArePossible (index + 1) (namesBehind names g) gs) :
      ArePossible index names (g :: gs)

section Drawing

variable {α : Type} {choices : Array α} {rate : Rate} {base : Base} {names : Array String}

theorem Draws.choose_mem (h : 0 < choices.size) (d : Draws) : (d.choose choices h).1 ∈ choices :=
  Array.getElem_mem _

private theorem Draws.below_lt {bound : Nat} (h : 0 < bound) (d : Draws) :
    (d.below bound).1 < bound :=
  Nat.mod_lt _ h

theorem drawDigits_spec (base : Base) (count : Nat) (d : Draws) :
    (drawDigits base count d).1.length = count ∧
      ∀ c ∈ (drawDigits base count d).1, c ∈ base.alphabet := by
  induction count generalizing d with
  | zero => exact ⟨rfl, by simp [drawDigits]⟩
  | succ count ih =>
    obtain ⟨hlength, hdigits⟩ := ih (d.choose base.alphabet base.alphabet_size_pos).2
    exact ⟨congrArg (· + 1) hlength,
      List.forall_mem_cons.mpr ⟨Draws.choose_mem base.alphabet_size_pos d, hdigits⟩⟩

theorem drawValue_spec (base : Base) (d : Draws) :
    ∃ first digits, (drawValue base d).1 = first :: digits ∧ (first = '0' ∨ first = '1') ∧
      digits.length ≤ 15 ∧ ∀ c ∈ digits, c ∈ base.alphabet := by
  obtain ⟨hlength, hdigits⟩ := drawDigits_spec base _ _
  refine ⟨(d.choose #['0', '1'] (by simp)).1, _, rfl, ?_, ?_, hdigits⟩
  · have hfirst : (d.choose #['0', '1'] (by simp)).1 ∈ #['0', '1'] := Draws.choose_mem _ d
    simpa using hfirst
  · rw [hlength]
    exact Nat.le_of_lt_succ (Draws.below_lt (by simp) _)

theorem drawName_spec (rate : Rate) (index : Nat) (names : Array String) (d : Draws) :
    let name := (drawName rate index names d).1
    name.2 = true ∧ name.1 = freshName index ∨ name.2 = false ∧ name.1 ∈ names.toList := by
  unfold drawName
  split
  · rename_i h
    dsimp only
    split
    · exact .inr ⟨rfl, Array.mem_toList_iff.mpr (Draws.choose_mem h _)⟩
    · exact .inl ⟨rfl, rfl⟩
  · exact .inl ⟨rfl, rfl⟩

theorem isPossible_drawDeclaration (rate : Rate) (index : Nat) (names : Array String) (d : Draws) :
    (drawDeclaration rate index names d).1.IsPossible index names.toList where
  name := drawName_spec rate index names _
  value := drawValue_spec _ _

theorem namesBehind_toList (names : Array String) (g : Generated) :
    namesBehind names.toList g = (if g.isFresh then names.push g.name else names).toList := by
  rw [namesBehind]
  split <;> simp

theorem arePossible_generateFrom (rate : Rate) (count index : Nat) (names : Array String)
    (d : Draws) : ArePossible index names.toList (generateFrom rate count index names d) := by
  induction count generalizing index names d with
  | zero => exact .nil index names.toList
  | succ count ih =>
    refine .cons (isPossible_drawDeclaration rate index names d) ?_
    rw [namesBehind_toList]
    exact ih _ _ _

/-- What is generated can be drawn. -/
theorem arePossible_generate (rate : Rate) (count : Nat) (d : Draws) :
    ArePossible 0 [] (generate rate count d) :=
  arePossible_generateFrom rate count 0 #[] d

theorem length_generateFrom (rate : Rate) (count index : Nat) (names : Array String) (d : Draws) :
    (generateFrom rate count index names d).length = count := by
  induction count generalizing index names d with
  | zero => rfl
  | succ count ih => exact congrArg (· + 1) (ih _ _ _)

end Drawing

/-! ## The text of a line -/

section Line

variable {g : Generated} {index : Nat} {names : List String} {scope : Scope}

/-- All of `names` are fresh names of lines before line `index`. -/
def AreFreshBefore (index : Nat) (names : List String) : Prop :=
  ∀ name ∈ names, ∃ i < index, name = freshName i

theorem Generated.IsPossible.exists_name (h : g.IsPossible index names)
    (hnames : AreFreshBefore index names) : ∃ i, g.name = freshName i := by
  rcases h.name with ⟨-, hname⟩ | ⟨-, hmem⟩
  · exact ⟨index, hname⟩
  · obtain ⟨i, -, hname⟩ := hnames g.name hmem
    exact ⟨i, hname⟩

/-- A drawn value is a literal of its base. -/
theorem Generated.IsPossible.isLiteral_value (h : g.IsPossible index names) :
    isLiteral g.value = true ∧ ∀ c ∈ g.value, g.base.isDigit c = true := by
  obtain ⟨first, digits, hvalue, hfirst, -, hdigits⟩ := h.value
  have hbase : ∀ c ∈ g.value, g.base.isDigit c = true := by
    rw [hvalue, List.forall_mem_cons]
    exact ⟨g.base.isDigit_of_zero_or_one hfirst,
      fun c hc => Base.isDigit_of_mem_alphabet (hdigits c hc)⟩
  refine ⟨?_, hbase⟩
  have hdecimal : first.isDigit = true := by
    rcases hfirst with rfl | rfl <;> rfl
  have hhex : digits.all Char.isHexDigit = true := by
    rw [List.all_eq_true]
    intro c hc
    rw [← isDigit_hex]
    exact Base.isDigit_mono (by cases g.base <;> decide) (hbase c (by simp [hvalue, hc]))
  rw [hvalue, isLiteral, hdecimal, hhex]
  rfl

private theorem isKeyword_of_case (b : Base) (isUpperCase : Bool) :
    IsKeyword b (if isUpperCase then b.name else b.keyword).toList := by
  cases b <;> cases isUpperCase <;> decide

/-- The line of a declaration that can be drawn has the form of a declaration. -/
theorem Generated.IsPossible.exists_text (h : g.IsPossible index names)
    (hnames : AreFreshBefore index names) :
    ∃ d : DeclarationText, g.line.toList = d.chars ∧ d.base = g.base ∧
      d.name = g.name.toList ∧ d.value = g.value := by
  obtain ⟨i, hname⟩ := h.exists_name hnames
  refine ⟨{
    base := g.base
    indent := []
    keyword := (if g.isUpperCase then g.base.name else g.base.keyword).toList
    keywordGap := [' ']
    name := g.name.toList
    nameGap := [' ']
    value := g.value
    valueGap := []
    rest := []
    isGap_indent := by decide
    isKeyword_keyword := isKeyword_of_case g.base g.isUpperCase
    isGap_keywordGap := by decide
    keywordGap_ne_nil := by decide
    isName_name := hname ▸ isName_freshName i
    not_isKeyword_name := hname ▸ not_isKeyword_freshName i
    isGap_nameGap := by decide
    nameGap_ne_nil := by decide
    isLiteral_value := h.isLiteral_value.1
    isGap_valueGap := by decide }, ?_, rfl, rfl, rfl⟩
  simp [Generated.line, DeclarationText.chars, DeclarationText.front]

/-! ## One line -/

/-- The scope declares `names`, fresh names of lines before line `index`. -/
structure DeclaresBefore (scope : Scope) (index : Nat) (names : List String) : Prop where
  names_eq : scope.names = names
  areFresh : AreFreshBefore index names

/-- What becomes of the declaration of line `index`, behind lines that declare `names`. If its name
is the fresh one of the line, then it is accepted with its base; otherwise the name is one of
`names`, and the declaration is rejected as a duplicate. -/
structure Generated.IsJudged (g : Generated) (index : Nat) (names : List String)
    (v : Declaration.Verdict) : Prop where
  name?_eq : v.name? = some g.name
  base?_eq : v.base? = some g.base
  value?_eq : v.value? = some (String.ofList g.value)
  ne_rejectedGrammar : v.outcome ≠ .rejectedGrammar
  no_invalidValue : ∀ d ∈ v.diagnostics, d.code ≠ Diagnostic.Code.invalidValue.name
  accepted_iff : v.outcome = .accepted ↔ g.isFresh = true
  fresh : g.isFresh = true → g.name = freshName index ∧ v.diagnostics = []
  duplicate : g.isFresh = false → g.name ∈ names ∧ v.outcome = .rejectedNameOrValue ∧
    v.diagnostics.map (·.code) = [Diagnostic.Code.duplicate.name]

private theorem namesBehind_of_fresh (h : g.isFresh = true) :
    namesBehind names g = names ++ [g.name] :=
  if_pos h

private theorem namesBehind_of_not_fresh (h : g.isFresh = false) : namesBehind names g = names :=
  if_neg (by simp [h])

theorem AreFreshBefore.freshName_not_mem (h : AreFreshBefore index names) :
    freshName index ∉ names := by
  intro hmem
  obtain ⟨i, hi, he⟩ := h _ hmem
  exact Nat.ne_of_gt hi (freshName_injective he)

/-- A line that can be drawn declares no name but its fresh one. -/
theorem AreFreshBefore.namesBehind (h : AreFreshBefore index names)
    (hg : g.IsPossible index names) : AreFreshBefore (index + 1) (namesBehind names g) := by
  have hearlier : AreFreshBefore (index + 1) names := by
    intro name hname
    obtain ⟨i, hi, he⟩ := h name hname
    exact ⟨i, Nat.lt_succ_of_lt hi, he⟩
  rcases hg.name with ⟨hfresh, hnew⟩ | ⟨hfresh, -⟩
  · rw [namesBehind_of_fresh hfresh, AreFreshBefore, List.forall_mem_append]
    refine ⟨hearlier, fun name hname => ⟨index, Nat.lt_succ_self _, ?_⟩⟩
    rw [List.mem_singleton.mp hname, hnew]
  · rwa [namesBehind_of_not_fresh hfresh]

/-- **One line.** A drawn line is judged by its name, and behind it the scope declares the names up
to it. -/
theorem Generated.IsPossible.judge (h : g.IsPossible index names)
    (hscope : DeclaresBefore scope index names) :
    g.IsJudged index names (Declaration.judge (tokensOf g.line) scope).1 ∧
      DeclaresBefore (Declaration.judge (tokensOf g.line) scope).2 (index + 1)
        (namesBehind names g) := by
  obtain ⟨d, hd, hbase, hname, hvalue⟩ := h.exists_text hscope.areFresh
  have hjudged := DeclarationText.isJudged_judge hd scope
  have hdigits : ∀ c ∈ d.value, d.base.isDigit c = true := by
    rw [hvalue, hbase]
    exact h.isLiteral_value.2
  have hofList : String.ofList d.name = g.name := by rw [hname, String.ofList_toList]
  have hmem : g.name ∈ scope ↔ g.name ∈ names := by rw [Scope.mem_iff, hscope.names_eq]
  have hname? := hjudged.name?_eq.trans (congrArg some hofList)
  have hbase? := hjudged.base?_eq.trans (congrArg some hbase)
  have hvalue? := hjudged.value?_eq.trans (congrArg (some <| String.ofList ·) hvalue)
  have hfreshBehind := hscope.areFresh.namesBehind h
  -- The value is never at fault, so that the name alone decides.
  rcases h.name with ⟨hfresh, hnew⟩ | ⟨hfresh, hold⟩
  · have hnot : g.name ∉ names := hnew ▸ hscope.areFresh.freshName_not_mem
    obtain ⟨houtcome, hdiagnostics, hentries⟩ :=
      hjudged.accepted (hofList ▸ mt hmem.mp hnot) hdigits
    refine ⟨?_, ?_, hfreshBehind⟩
    · exact ⟨hname?, hbase?, hvalue?, by simp [houtcome], by simp [hdiagnostics],
        by simp [houtcome, hfresh], fun _ => ⟨hnew, hdiagnostics⟩, by simp [hfresh]⟩
    · rw [Scope.names, hentries, List.map_append, ← Scope.names, hscope.names_eq,
        namesBehind_of_fresh hfresh, ← hofList]
      rfl
  · obtain ⟨houtcome, hcodes, hafter⟩ := hjudged.duplicate (hofList ▸ hmem.mpr hold)
    have hcode : ∀ r ∈ (Declaration.judge (tokensOf g.line) scope).1.diagnostics,
        r.code ≠ Diagnostic.Code.invalidValue.name := by
      intro r hr
      have hmem := List.mem_map_of_mem (f := Diagnostic.code) hr
      rw [hcodes] at hmem
      rw [List.mem_singleton.mp hmem]
      decide
    refine ⟨?_, ?_, hfreshBehind⟩
    · exact ⟨hname?, hbase?, hvalue?, by simp [houtcome], hcode, by simp [houtcome, hfresh],
        by simp [hfresh], fun _ => ⟨hold, houtcome, hcodes⟩⟩
    · rw [hafter, namesBehind_of_not_fresh hfresh, hscope.names_eq]

end Line

/-! ## All lines -/

section Lines

variable {gs : List Generated} {index : Nat} {names : List String} {scope : Scope}

/-- The names that the declarations declare for the first time. -/
def freshNames (gs : List Generated) : List String :=
  (gs.filter (·.isFresh)).map (·.name)

private theorem namesBehind_append_freshNames (names : List String) (g : Generated)
    (gs : List Generated) :
    namesBehind names g ++ freshNames gs = names ++ freshNames (g :: gs) := by
  rw [namesBehind, freshNames, freshNames, List.filter_cons]
  split <;> simp

/-- **All lines.** Each line is judged by its name, behind the lines before it. -/
theorem ArePossible.isJudged (h : ArePossible index names gs)
    (hscope : DeclaresBefore scope index names) (i : Nat) (hi : i < gs.length) :
    gs[i].IsJudged (index + i) (names ++ freshNames (gs.take i))
      (Declaration.judge (tokensOf gs[i].line)
        (scopeAfter scope ((gs.take i).map Generated.line))).1 := by
  induction h generalizing scope i with
  | nil => cases hi
  | @cons index names g gs hg _ ih =>
    obtain ⟨hjudged, hafter⟩ := hg.judge hscope
    cases i with
    | zero => simpa [freshNames] using hjudged
    | succ i =>
      have ih := ih hafter i (Nat.lt_of_succ_lt_succ hi)
      rw [namesBehind_append_freshNames, Nat.add_assoc, Nat.add_comm 1 i] at ih
      simpa only [List.getElem_cons_succ, List.take_succ_cons, List.map_cons, scopeAfter_cons]
        using ih

/-- The outcome of a declaration that was drawn. -/
def Generated.outcome (g : Generated) : Outcome :=
  if g.isFresh then .accepted else .rejectedNameOrValue

theorem Generated.IsJudged.outcome_eq {g : Generated} {v : Declaration.Verdict}
    (h : g.IsJudged index names v) : v.outcome = g.outcome := by
  rw [Generated.outcome]
  split
  · exact h.accepted_iff.mpr (by assumption)
  · exact (h.duplicate (by simp_all)).2.1

theorem ArePossible.outcomes_eq (h : ArePossible index names gs)
    (hscope : DeclaresBefore scope index names) :
    outcomes scope (gs.map Generated.line) = gs.map Generated.outcome := by
  induction h generalizing scope with
  | nil => rfl
  | cons hg _ ih =>
    obtain ⟨hjudged, hafter⟩ := hg.judge hscope
    rw [List.map_cons, List.map_cons, outcomes, ← hjudged.outcome_eq, ← ih hafter]

/-- Fresh names are accepted, the other names are rejected, and no line is malformed. -/
theorem Tally.ofOutcomes_map_outcome (gs : List Generated) :
    Tally.ofOutcomes (gs.map Generated.outcome) =
      ⟨gs.countP (·.isFresh), 0, gs.length - gs.countP (·.isFresh)⟩ := by
  have hcount (o : Outcome) : (gs.map Generated.outcome).count o =
      gs.countP fun g => (if g.isFresh then .accepted else .rejectedNameOrValue) == o := by
    rw [List.count, List.countP_map]
    rfl
  have hrejected : gs.countP (!·.isFresh) = gs.length - gs.countP (·.isFresh) := by
    have := gs.length_eq_countP_add_countP (·.isFresh)
    simp only [Bool.not_eq_true, Bool.decide_eq_false] at this
    omega
  rw [Tally.ofOutcomes, hcount, hcount, hcount, ← hrejected]
  congr 2
  · funext g
    cases g.isFresh <;> rfl
  · rw [List.countP_eq_zero]
    intro g _
    cases g.isFresh <;> decide
  · funext g
    cases g.isFresh <;> rfl

end Lines

/-- **Generated lines.** Whatever is drawn at whatever rate, as many lines are generated as asked
for, and each line is judged by its name alone, in the scope that the lines before it leave: it is
accepted with its base if it has its fresh name, and rejected as a duplicate if it has a name of a
line before. So the tally of the lines counts the fresh names as accepted, no line as malformed and
all others as rejected. If all names are fresh, then all lines are accepted. -/
theorem generated_lines_judged :
    (∀ (rate : Rate) (count : Nat) (d : Draws),
      ArePossible 0 [] (generate rate count d) ∧ (generate rate count d).length = count) ∧
    ∀ gs : List Generated, ArePossible 0 [] gs →
      (∀ i (hi : i < gs.length), gs[i].IsJudged i (freshNames (gs.take i))
        (Declaration.judge (tokensOf gs[i].line)
          (scopeAfter .empty ((gs.take i).map Generated.line))).1) ∧
      Tally.ofLines (gs.map Generated.line) =
        ⟨gs.countP (·.isFresh), 0, gs.length - gs.countP (·.isFresh)⟩ ∧
      ((∀ g ∈ gs, g.isFresh = true) →
        Tally.ofLines (gs.map Generated.line) = ⟨gs.length, 0, 0⟩) := by
  refine ⟨fun rate count d => ⟨arePossible_generate rate count d,
    length_generateFrom rate count 0 #[] d⟩, fun gs h => ?_⟩
  have hempty : DeclaresBefore .empty 0 [] := ⟨rfl, fun name hname => nomatch hname⟩
  have htally : Tally.ofLines (gs.map Generated.line) =
      ⟨gs.countP (·.isFresh), 0, gs.length - gs.countP (·.isFresh)⟩ := by
    rw [Tally.ofLines_eq, h.outcomes_eq hempty, Tally.ofOutcomes_map_outcome]
  refine ⟨fun i hi => ?_, htally, fun hfresh => ?_⟩
  · have hjudged := h.isJudged hempty i hi
    rwa [Nat.zero_add, List.nil_append] at hjudged
  · rw [htally, List.countP_eq_length.mpr hfresh, Nat.sub_self]

end Benchmark

end Numeral
