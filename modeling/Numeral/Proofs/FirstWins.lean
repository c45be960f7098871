import Mathlib.Data.List.Basic
import Numeral.Session

/-!
# The first declaration of a name wins

What lines declare one after the other, said with each line on its own: a scope depends on the lines
before only through the names that they declare.

- `declaredAlone`: what a line declares when it is judged on its own.
- `entries_scopeAfter`: the scope behind some lines holds what they declare on their own, each name
  with its first base.
- `Session.HasTaken`: an open session that took these lines as declarations.
- `feed_first_wins`: what a session holds that took lines without the sentinel among them.
-/

namespace Numeral

/-- What `line` declares when it is judged on its own. -/
def declaredAlone (line : String) : Option (String × Base) :=
  match Declaration.run line .empty with
  | .ok (⟨_, .accepted d, _⟩, _) => some (d.name.text, d.base)
  | _ => none

/-- The scope behind `lines`, if all of them are judged as declarations. -/
def scopeAfter (scope : Scope) (lines : List String) : Scope :=
  lines.foldl (fun scope line => (Declaration.judge (tokensOf line) scope).2) scope

/-- Each name of `entries` with its first base, in the order of the names. -/
def firstOfEachName (entries : List (String × Base)) : List (String × Base) :=
  entries.eraseDupsBy fun a b => a.1 == b.1

section Judge

variable {line name : String} {e : String × Base} {scope : Scope}

/-! ## One line -/

theorem declaredAlone_eq_some_iff :
    declaredAlone line = some e ↔
      ∃ d, Declaration.alone line = .accepted d ∧ (d.name.text, d.base) = e := by
  obtain ⟨diagnostics, after, hrun⟩ : ∃ diagnostics after, Declaration.run line .empty =
      .ok (⟨.ofText line, Declaration.alone line, diagnostics⟩, after) :=
    ⟨_, _, Declaration.run_eq line .empty⟩
  rw [declaredAlone, hrun]
  cases Declaration.alone line <;> simp

theorem judge_of_declaredAlone_none (h : declaredAlone line = none) (scope : Scope) :
    (Declaration.judge (tokensOf line) scope).1.isAccepted = false ∧
      (Declaration.judge (tokensOf line) scope).2 = scope := by
  have hrejected : ∀ d, Declaration.alone line ≠ .accepted d := fun d hd => by
    rw [declaredAlone_eq_some_iff.mpr ⟨d, hd, rfl⟩] at h
    cases h
  obtain ⟨houtcome, hscope⟩ := Declaration.judge_of_alone_rejected hrejected scope
  refine ⟨?_, hscope⟩
  rw [Declaration.Verdict.isAccepted, houtcome]
  cases hv : Declaration.alone line with
  | accepted d => exact absurd hv (hrejected d)
  | _ => rfl

theorem judge_of_declaredAlone_mem (h : declaredAlone line = some e) (he : e.1 ∈ scope) :
    (Declaration.judge (tokensOf line) scope).1.isAccepted = false ∧
      (Declaration.judge (tokensOf line) scope).2 = scope := by
  obtain ⟨d, hd, rfl⟩ := declaredAlone_eq_some_iff.mp h
  rw [Declaration.judge_of_alone_accepted hd, dif_pos he]
  exact ⟨rfl, rfl⟩

theorem judge_of_declaredAlone_not_mem (h : declaredAlone line = some e) (he : e.1 ∉ scope) :
    (Declaration.judge (tokensOf line) scope).1.isAccepted = true ∧
      (Declaration.judge (tokensOf line) scope).2.entries = scope.entries ++ [e] := by
  obtain ⟨d, hd, rfl⟩ := declaredAlone_eq_some_iff.mp h
  rw [Declaration.judge_of_alone_accepted hd, dif_neg he]
  exact ⟨rfl, rfl⟩

/-- A line is accepted iff it declares something on its own and the name is new. -/
theorem isAccepted_judge_iff :
    (Declaration.judge (tokensOf line) scope).1.isAccepted = true ↔
      ∃ e, declaredAlone line = some e ∧ e.1 ∉ scope := by
  cases h : declaredAlone line with
  | none => simp [judge_of_declaredAlone_none h]
  | some e =>
    by_cases he : e.1 ∈ scope
    · simp [judge_of_declaredAlone_mem h he, he]
    · simp [judge_of_declaredAlone_not_mem h he, he]

/-- Behind a line there are the names before it and the one that it declares on its own. -/
theorem mem_judge_iff :
    name ∈ (Declaration.judge (tokensOf line) scope).2 ↔
      name ∈ scope ∨ ∃ b, declaredAlone line = some (name, b) := by
  cases h : declaredAlone line with
  | none => simp [judge_of_declaredAlone_none h]
  | some e =>
    by_cases he : e.1 ∈ scope
    · rw [(judge_of_declaredAlone_mem h he).2]
      refine (or_iff_left_of_imp ?_).symm
      rintro ⟨b, hb⟩
      cases hb
      exact he
    · rw [Scope.mem_iff, Scope.names, (judge_of_declaredAlone_not_mem h he).2, List.map_append,
        List.mem_append, ← Scope.names, ← Scope.mem_iff]
      simp [Prod.ext_iff, eq_comm]

end Judge

section Lines

variable {scope : Scope} {lines : List String} {line name : String}

/-! ## Lines one after the other -/

@[simp]
theorem scopeAfter_nil : scopeAfter scope [] = scope :=
  rfl

@[simp]
theorem scopeAfter_cons :
    scopeAfter scope (line :: lines) =
      scopeAfter (Declaration.judge (tokensOf line) scope).2 lines :=
  rfl

theorem scopeAfter_concat :
    scopeAfter scope (lines ++ [line]) =
      (Declaration.judge (tokensOf line) (scopeAfter scope lines)).2 := by
  simp [scopeAfter, List.foldl_append]

theorem mem_scopeAfter_iff :
    name ∈ scopeAfter scope lines ↔
      name ∈ scope ∨ ∃ line ∈ lines, ∃ b, declaredAlone line = some (name, b) := by
  induction lines generalizing scope with
  | nil => simp
  | cons line lines ih => simp [ih, mem_judge_iff, or_assoc]

/-- Behind some lines there are the entries before them and what the lines declare on their own,
without the names that were taken before and each other name with its first base. -/
theorem entries_scopeAfter (scope : Scope) (lines : List String) :
    (scopeAfter scope lines).entries =
      scope.entries ++
        firstOfEachName ((lines.filterMap declaredAlone).filter fun e => e.1 ∉ scope) := by
  induction lines generalizing scope with
  | nil => simp [firstOfEachName]
  | cons line lines ih =>
    rw [scopeAfter_cons, ih]
    cases h : declaredAlone line with
    | none => rw [(judge_of_declaredAlone_none h scope).2, List.filterMap_cons_none h]
    | some e =>
      rw [List.filterMap_cons_some h]
      by_cases he : e.1 ∈ scope
      · rw [(judge_of_declaredAlone_mem h he).2, List.filter_cons_of_neg (by simpa using he)]
      · -- The name is new: from here on it is taken like the others.
        have hmem : ∀ name, name ∈ (Declaration.judge (tokensOf line) scope).2 ↔
            name ∈ scope ∨ name = e.1 := fun name => by
          simp [mem_judge_iff, h, Prod.ext_iff, eq_comm]
        rw [(judge_of_declaredAlone_not_mem h he).2, List.filter_cons_of_pos (by simpa using he),
          firstOfEachName, firstOfEachName, List.eraseDupsBy_cons, List.filter_filter,
          List.append_assoc, List.singleton_append]
        simp [hmem, Bool.and_comm]

end Lines

/-! ## Sessions that take declarations -/

/-- The results of `lines`, if all of them are judged as declarations in a new scope. -/
def runsOf (lines : List String) : List Declaration.Run :=
  lines.mapIdx fun i line =>
    (Declaration.runLine (.ofText line) (scopeAfter .empty (lines.take i))).1

theorem runsOf_concat (lines : List String) (line : String) :
    runsOf (lines ++ [line]) =
      runsOf lines ++ [(Declaration.runLine (.ofText line) (scopeAfter .empty lines)).1] := by
  rw [runsOf, runsOf, List.mapIdx_concat, List.take_left']
  · congr 1
    refine List.mapIdx_eq_mapIdx_iff.mpr fun i hi => ?_
    rw [List.take_append_of_le_length (Nat.le_of_lt hi)]
  · rfl

namespace Session

/-- An open session that took `lines` as declarations, and nothing else. -/
structure HasTaken (s : Session) (settings : Settings) (lines : List String) : Prop where
  settings_eq : s.settings = settings
  isOpen : s.phase = .unopened ∨ s.phase = .declarations
  scope_eq : s.scope = scopeAfter .empty lines
  declarations_eq : s.declarations = runsOf lines
  expression_eq : s.expression = none

variable {s : Session} {settings : Settings} {lines rest : List String} {line : String}

theorem hasTaken_ofSettings (settings : Settings) : (ofSettings settings).HasTaken settings [] :=
  ⟨rfl, .inl rfl, rfl, rfl, rfl⟩

/-- The opening takes no line. -/
theorem HasTaken.start (h : s.HasTaken settings lines) : s.start.1.HasTaken settings lines := by
  obtain ⟨hsettings, hphase, hscope, hdeclarations, hexpression⟩ := h
  unfold Session.start
  split
  · exact ⟨hsettings, .inr rfl, hscope, hdeclarations, hexpression⟩
  · exact ⟨hsettings, hphase, hscope, hdeclarations, hexpression⟩

theorem HasTaken.takeDeclaration (h : s.HasTaken settings lines) (line : String) :
    (s.takeDeclaration line).1.HasTaken settings (lines ++ [line]) where
  settings_eq := h.settings_eq
  isOpen := h.isOpen
  scope_eq := by
    rw [scopeAfter_concat, ← h.scope_eq]
    rfl
  declarations_eq := by
    rw [runsOf_concat, ← h.scope_eq, ← h.declarations_eq]
    rfl
  expression_eq := h.expression_eq

/-- An open session takes every line but the sentinel for a declaration. -/
theorem HasTaken.advance (h : s.HasTaken settings lines) (hline : line ≠ settings.sentinel) :
    ∃ s' messages, s.advance line = .ok (s', messages) ∧
      s'.HasTaken settings (lines ++ [line]) := by
  refine ⟨_, (s.takeDeclaration line).2, ?_, h.takeDeclaration line⟩
  rw [advance_of_open h.isOpen, h.settings_eq, if_neg hline]

theorem HasTaken.feed (h : s.HasTaken settings lines) (hline : line ≠ settings.sentinel) :
    ∃ s' messages, s.feed line = .ok (s', messages) ∧
      s'.HasTaken settings (lines ++ [line]) := by
  obtain ⟨s', messages, hadvance, hs'⟩ := h.start.advance hline
  exact ⟨s', s.start.2 ++ messages, by rw [feed_eq, hadvance, Except.map], hs'⟩

/-- A session fed with lines, its messages left aside. -/
def feedEach (s : Session) (lines : List String) : Except FeedError Session :=
  lines.foldlM (fun s line => (s.feed line).map (·.1)) s

theorem HasTaken.feedEach (h : s.HasTaken settings lines) (hrest : settings.sentinel ∉ rest) :
    ∃ s', s.feedEach rest = .ok s' ∧ s'.HasTaken settings (lines ++ rest) := by
  induction rest generalizing s lines with
  | nil => exact ⟨s, rfl, by simpa using h⟩
  | cons line rest ih =>
    rw [List.mem_cons, not_or] at hrest
    obtain ⟨next, messages, hfeed, hnext⟩ := h.feed (Ne.symm hrest.1)
    obtain ⟨s', hs', htaken⟩ := ih hnext hrest.2
    refine ⟨s', ?_, by simpa using htaken⟩
    rw [Session.feedEach, List.foldlM_cons, hfeed]
    exact hs'

end Session

/-- **The first declaration wins.** A session that is fed with lines, none of them the sentinel,
holds what they declare on their own, each name with its first base. A line is accepted iff it
declares a name on its own that no line before it does; a line that is rejected on its own takes no
name. -/
theorem feed_first_wins (settings : Session.Settings) (lines : List String)
    (h : settings.sentinel ∉ lines) :
    ∃ s, (Session.ofSettings settings).feedEach lines = .ok s ∧
      s.scope.entries = firstOfEachName (lines.filterMap declaredAlone) ∧
      s.declarations.length = lines.length ∧
      ∀ i (hi : i < lines.length), ∃ r, s.declarations[i]? = some r ∧
        r.line = Line.ofText lines[i] ∧
        (r.verdict.isAccepted = true ↔ ∃ name base, declaredAlone lines[i] = some (name, base) ∧
          ∀ line ∈ lines.take i, ∀ b, declaredAlone line ≠ some (name, b)) := by
  obtain ⟨s, hs, htaken⟩ := (Session.hasTaken_ofSettings settings).feedEach h
  rw [List.nil_append] at htaken
  refine ⟨s, hs, ?_, ?_, fun i hi => ?_⟩
  · rw [htaken.scope_eq, entries_scopeAfter, List.filter_eq_self.mpr (fun e _ => by simp)]
    rfl
  · rw [htaken.declarations_eq, runsOf, List.length_mapIdx]
  · refine ⟨(Declaration.runLine (.ofText lines[i]) (scopeAfter .empty (lines.take i))).1,
      by simp [htaken.declarations_eq, runsOf, hi], rfl, ?_⟩
    rw [Declaration.verdict_runLine, Line.tokens_ofText, isAccepted_judge_iff]
    simp [mem_scopeAfter_iff]

theorem feed_first_wins_duplicate :
    "END" ∉ ["bin x 2;", "hex x 1F;", "bin x 1;"] ∧
      ∃ s, (Session.ofSettings {}).feedEach ["bin x 2;", "hex x 1F;", "bin x 1;"] = .ok s ∧
        s.scope.entries = [("x", .hex)] ∧
        ∃ r, s.declarations[2]? = some r ∧ r.verdict.isAccepted = false := by
  have h : "END" ∉ ["bin x 2;", "hex x 1F;", "bin x 1;"] := by decide
  obtain ⟨s, hs, hentries, -, hruns⟩ := feed_first_wins {} _ h
  obtain ⟨r, hr, -, haccepted⟩ := hruns 2 (by decide)
  refine ⟨h, s, hs, hentries.trans (by decide +kernel), r, hr, Bool.eq_false_iff.mpr fun hr => ?_⟩
  obtain ⟨name, base, hthird, hnew⟩ := haccepted.mp hr
  have hx : declaredAlone "bin x 1;" = some ("x", .bin) := by decide +kernel
  cases hx.symm.trans hthird
  exact hnew "hex x 1F;" (by decide) .hex (by decide +kernel)

end Numeral
