import Mathlib.Data.List.Induction
import Numeral.Proofs.FirstWins

/-!
# Scopes that are called in any way

A caller can declare names in a scope and ask about it, in any order and as often as it likes. Here a
call is a program on bare entries, which nothing keeps from naming anything twice, and a program that
stops leaves them as it has written them up to there. Whatever is called, the entries are those of a
map that keeps its names in the order of their first declarations, each with its first base, and
every question is answered from them.

- `assign`, `Call.program`: how the entries are written, and what each call does with them.
- `run_program`: a program does what the plain functions of a scope do.
- `firstOfEachName_concat`: what one more declaration adds.
- `Keeps`: what holds of entries behind the declarations that were tried. Every call keeps it
  (`Keeps.behind`), so that it holds behind any calls (`keeps_foldl_behind`).
- `calls_keep_first_entries`: what any calls leave, and how every further call is answered.
-/

namespace Numeral

/-! ## The first entry of each name -/

section FirstEntries

variable {es : List (String × Base)} {e : String × Base}

theorem firstOfEachName_cons (e : String × Base) (es : List (String × Base)) :
    firstOfEachName (e :: es) = e :: firstOfEachName (es.filter fun d => d.1 ≠ e.1) := by
  rw [firstOfEachName, List.eraseDupsBy_cons, ← firstOfEachName]
  simp

/-- One more entry comes to the end if its name is new, and is left out otherwise. -/
theorem firstOfEachName_concat (es : List (String × Base)) (e : String × Base) :
    firstOfEachName (es ++ [e]) =
      firstOfEachName es ++ if e.1 ∈ es.map (·.1) then [] else [e] := by
  -- The entries behind the first one are looked at without those of its name.
  induction hn : es.length using Nat.strongRecOn generalizing es with
  | _ n ih =>
    cases es with
    | nil => simp [firstOfEachName, List.eraseDupsBy_cons]
    | cons d es =>
      have hlength : (es.filter fun f => f.1 ≠ d.1).length < n := by
        have hle := List.length_filter_le (fun f : String × Base => decide (f.1 ≠ d.1)) es
        rw [← hn, List.length_cons]
        omega
      rw [List.cons_append, firstOfEachName_cons, firstOfEachName_cons, List.filter_append]
      by_cases he : e.1 = d.1
      · simp [he]
      · have hkept : [e].filter (fun f => decide (f.1 ≠ d.1)) = [e] := by simp [he]
        have hmem : e.1 ∈ (es.filter fun f => f.1 ≠ d.1).map (·.1) ↔
            e.1 ∈ (d :: es).map (·.1) := by
          simp [he]
        rw [hkept, ih _ hlength _ rfl, List.cons_append]
        simp only [hmem]

private theorem mem_names_firstOfEachName {name : String} :
    name ∈ (firstOfEachName es).map (·.1) ↔ name ∈ es.map (·.1) := by
  induction es using List.reverseRecOn with
  | nil => simp [firstOfEachName]
  | append_singleton es e ih =>
    rw [firstOfEachName_concat, List.map_append, List.map_append, List.mem_append, List.mem_append,
      ih]
    by_cases he : e.1 ∈ es.map (·.1)
    · rw [if_pos he, List.map_nil, List.map_singleton, List.mem_singleton]
      constructor
      · rintro (h | h)
        · exact .inl h
        · cases h
      · rintro (h | rfl)
        · exact .inl h
        · exact .inl he
    · rw [if_neg he]

end FirstEntries

namespace Scope

/-! ## Calls and replies -/

/-- What can be called on a scope: to declare a name, and the questions. -/
inductive Call where
  | declare (name : String) (base : Base)
  | isDeclared (name : String)
  | contains (name : String)
  | baseOf (name : String)
  | names
  | iterate
  | entries
  | size
  | describe
  deriving DecidableEq, Repr

/-- What a call that returns gives. -/
inductive Reply where
  | done
  | truth (value : Bool)
  | base (base : Option Base)
  | names (names : List String)
  | entries (entries : List (String × Base))
  | size (size : Nat)
  | text (text : String)
  deriving DecidableEq, Repr

/-- The declaration that a call tries. -/
def Call.attempt? : Call → Option (String × Base)
  | declare name base => some (name, base)
  | _ => none

/-- What a scope replies to a call and the scope behind it, or why the call is refused. -/
def call (s : Scope) : Call → Except NameTaken (Reply × Scope)
  | .declare name base => (s.declare name base).map fun t => (.done, t)
  | .isDeclared name | .contains name => .ok (.truth (name ∈ s), s)
  | .baseOf name => .ok (.base (s.base? name), s)
  | .names | .iterate => .ok (.names s.names, s)
  | .entries => .ok (.entries s.entries, s)
  | .size => .ok (.size s.size, s)
  | .describe => .ok (.text s.describe, s)

/-! ## The programs -/

/-- Entries in the order in which their names came. A name can stand in more than one of them. -/
abbrev Entries : Type := List (String × Base)

namespace Entries

/-- Whether there is an entry of that name. -/
def holds (name : String) : Entries → Bool
  | [] => false
  | e :: es => e.1 == name || holds name es

/-- Gives a name its base: in its first entry if there is one, in a new entry at the end if not. -/
def assign (name : String) (base : Base) : Entries → Entries
  | [] => [(name, base)]
  | e :: es => if e.1 = name then (name, base) :: es else e :: assign name base es

variable {name : String} {es : Entries}

theorem holds_iff : holds name es = true ↔ name ∈ es.map (·.1) := by
  induction es with
  | nil => simp [holds]
  | cons e es ih =>
    rw [holds, List.map_cons, List.mem_cons, Bool.or_eq_true, ih, beq_iff_eq]
    exact or_congr_left eq_comm

/-- A new name is assigned at the end. -/
private theorem assign_of_not_mem (h : name ∉ es.map (·.1)) (base : Base) :
    assign name base es = es ++ [(name, base)] := by
  induction es with
  | nil => rfl
  | cons e es ih =>
    rw [List.map_cons, List.mem_cons, not_or] at h
    rw [assign, if_neg (Ne.symm h.1), ih h.2, List.cons_append]

end Entries

/-- A program that writes entries and stops at a name that is taken. -/
abbrev Program (α : Type) : Type := EStateM NameTaken Entries α

/-- Declares a name: looks it up, and assigns it if it is new. -/
def declareProgram (name : String) (base : Base) : Program Unit := do
  if Entries.holds name (← get) then throw ⟨name⟩
  modify (Entries.assign name base)

/-- The program of a call. -/
def Call.program : Call → Program Reply
  | declare name base => do
    declareProgram name base
    return .done
  | isDeclared name | contains name => return .truth (Entries.holds name (← get))
  | baseOf name => return .base ((← get).lookup name)
  | names | iterate => return .names ((← get).map (·.1))
  | entries => return .entries (← get)
  | size => return .size (← get).length
  | describe => return .text ("SymbolTable(" ++
      ", ".intercalate ((← get).map fun (name, base) => name ++ "=" ++ base.keyword) ++ ")")

/-- What the program of a call gives where the call itself gives `r`. -/
def replied (s : Scope) : Except NameTaken (Reply × Scope) → EStateM.Result NameTaken Entries Reply
  | .ok (reply, t) => .ok reply t.entries
  | .error e => .error e s.entries

theorem run_declareProgram_of_mem {es : Entries} {name : String} (h : name ∈ es.map (·.1))
    (base : Base) : (declareProgram name base).run es = .error ⟨name⟩ es := by
  rw [declareProgram, EStateM.run_bind, EStateM.run_get]
  simp only [Entries.holds_iff.mpr h, if_true]
  rfl

theorem run_declareProgram_of_not_mem {es : Entries} {name : String} (h : name ∉ es.map (·.1))
    (base : Base) : (declareProgram name base).run es = .ok () (es ++ [(name, base)]) := by
  have hholds : Entries.holds name es = false := by
    rw [Bool.eq_false_iff, ne_eq, Entries.holds_iff]
    exact h
  rw [declareProgram, EStateM.run_bind, EStateM.run_get]
  simp only [hholds, Bool.false_eq_true, if_false]
  rw [← Entries.assign_of_not_mem h]
  rfl

/-- **Programs and functions.** On the entries of a scope, the program of a call replies what the
plain functions of the scope reply, and leaves the entries that they leave. -/
theorem run_program (s : Scope) (c : Call) : c.program.run s.entries = s.replied (s.call c) := by
  cases c with
  | declare name base =>
    rw [Call.program, EStateM.run_bind, call]
    by_cases h : name ∈ s
    · rw [run_declareProgram_of_mem h, declare_eq_error_iff.mpr ⟨h, rfl⟩]
      rfl
    · rw [run_declareProgram_of_not_mem h, declare_eq_ok_iff.mpr ⟨h, entries_insert _ _ _ h⟩]
      rfl
  | isDeclared name | contains name =>
    have hholds : Entries.holds name s.entries = decide (name ∈ s) := by
      rw [Bool.eq_iff_iff, decide_eq_true_iff, Entries.holds_iff]
      rfl
    rw [call, ← hholds]
    rfl
  | _ => rfl

/-! ## Entries behind declarations -/

/-- The entries are those of a map that tried `attempts` before: they are the first ones of each
name, and every call is answered from them. -/
structure Keeps (es : Entries) (attempts : List (String × Base)) : Prop where
  entries_eq : es = firstOfEachName attempts
  nodup_names : (es.map (·.1)).Nodup
  /-- A name that was tried before is refused, and nothing is written. -/
  declare_of_mem : ∀ name base, name ∈ attempts.map (·.1) →
    (Call.declare name base).program.run es = .error ⟨name⟩ es
  /-- A name that was never tried comes to the end with its base. -/
  declare_of_not_mem : ∀ name base, name ∉ attempts.map (·.1) →
    (Call.declare name base).program.run es = .ok .done (es ++ [(name, base)])
  names : ∀ c ∈ [Call.names, .iterate], c.program.run es = .ok (.names (es.map (·.1))) es
  entries : Call.entries.program.run es = .ok (.entries es) es
  size : Call.size.program.run es = .ok (.size es.length) es
  /-- A name is declared iff it stands in an entry. -/
  truth : ∀ name, ∀ c ∈ [Call.isDeclared name, .contains name],
    ∃ t, c.program.run es = .ok (.truth t) es ∧ (t = true ↔ ∃ base, (name, base) ∈ es)
  /-- The base of a name is the one that it stands with. A name without an entry has none. -/
  baseOf : ∀ name, ∃ found, (Call.baseOf name).program.run es = .ok (.base found) es ∧
    (∀ base, found = some base ↔ (name, base) ∈ es) ∧
    (found = none ↔ ∀ base, (name, base) ∉ es)

/-- The scope that holds the first entries of the names that were tried answers every call from
them. -/
theorem keeps_entries {s : Scope} {attempts : List (String × Base)}
    (h : s.entries = firstOfEachName attempts) : Keeps s.entries attempts where
  entries_eq := h
  nodup_names := s.nodup
  declare_of_mem name base hmem := by
    rw [Call.program, EStateM.run_bind, run_declareProgram_of_mem]
    rwa [h, mem_names_firstOfEachName]
  declare_of_not_mem name base hmem := by
    rw [Call.program, EStateM.run_bind, run_declareProgram_of_not_mem]
    · rfl
    · rwa [h, mem_names_firstOfEachName]
  names c hc := by
    simp only [List.mem_cons, List.not_mem_nil, or_false] at hc
    rcases hc with rfl | rfl <;> rfl
  entries := rfl
  size := rfl
  truth name c hc := by
    refine ⟨name ∈ s, ?_, ?_⟩
    · simp only [List.mem_cons, List.not_mem_nil, or_false] at hc
      rcases hc with rfl | rfl <;> exact run_program s _
    · simp [mem_iff, Scope.names]
  baseOf name := by
    refine ⟨s.base? name, rfl, fun base => base?_eq_some_iff, ?_⟩
    simp only [← base?_eq_some_iff]
    exact Option.eq_none_iff_forall_ne_some

/-! ## Any calls -/

/-- The scope behind a call, whether it is answered or refused. -/
def behind (s : Scope) (c : Call) : Scope :=
  match s.call c with
  | .ok (_, t) => t
  | .error _ => s

/-- The entries behind the program of a call, whether it returns or stops. -/
def Entries.behind (es : Entries) (c : Call) : Entries :=
  match c.program.run es with
  | .ok _ es => es
  | .error _ es => es

theorem entries_behind (s : Scope) (c : Call) :
    Entries.behind s.entries c = (s.behind c).entries := by
  rw [Entries.behind, run_program, Scope.behind]
  cases s.call c <;> rfl

/-- **One call.** A call adds the declaration that it tries, unless the name was tried before. -/
theorem Keeps.behind {s : Scope} {attempts : List (String × Base)} (h : Keeps s.entries attempts)
    (c : Call) : Keeps (s.behind c).entries (attempts ++ c.attempt?.toList) := by
  apply keeps_entries
  rw [← entries_behind, Entries.behind]
  cases c with
  | declare name base =>
    rw [Call.attempt?, Option.toList_some, firstOfEachName_concat]
    by_cases hmem : name ∈ attempts.map (·.1)
    · rw [h.declare_of_mem name base hmem, if_pos hmem, List.append_nil]
      exact h.entries_eq
    · rw [h.declare_of_not_mem name base hmem, if_neg hmem, ← h.entries_eq]
  | _ => exact (List.append_nil attempts).symm ▸ h.entries_eq

theorem entries_foldl_behind (calls : List Call) :
    calls.foldl Entries.behind [] = (calls.foldl Scope.behind .empty).entries := by
  induction calls using List.reverseRecOn with
  | nil => rfl
  | append_singleton calls c ih =>
    rw [List.foldl_concat, List.foldl_concat, ih]
    exact entries_behind _ c

theorem keeps_foldl_behind (calls : List Call) :
    Keeps (calls.foldl Scope.behind .empty).entries (calls.filterMap Call.attempt?) := by
  induction calls using List.reverseRecOn with
  | nil => exact keeps_entries rfl
  | append_singleton calls c ih =>
    rw [List.foldl_concat, List.filterMap_append]
    have hlast : [c].filterMap Call.attempt? = c.attempt?.toList := by
      cases hc : c.attempt? <;> simp [hc]
    rw [hlast]
    exact ih.behind c

end Scope

open Scope in
/-- **Calls of a scope.** Whatever was called on a new scope, with what was refused among it, the
programs of the calls have left the entries that the plain functions leave. These are the
declarations that were tried, without all but the first of each name, in their order. Every further
call is answered from them: a declaration is refused iff its name was tried before, which changes
nothing, and no question changes anything. -/
theorem calls_keep_first_entries (calls : List Scope.Call) :
    let attempts := calls.filterMap Call.attempt?
    let s := calls.foldl Scope.behind .empty
    calls.foldl Entries.behind [] = s.entries ∧ Keeps s.entries attempts ∧
      ∀ c : Call, c.program.run s.entries = s.replied (s.call c) :=
  ⟨entries_foldl_behind calls, keeps_foldl_behind calls, run_program _⟩

/-- A name that is refused keeps its place and its first base. -/
example :
    [Scope.Call.declare "b" .oct, .size, .declare "a" .bin, .declare "b" .hex, .baseOf "b"].foldl
      Scope.Entries.behind [] = [("b", .oct), ("a", .bin)] := by
  decide +kernel

end Numeral
