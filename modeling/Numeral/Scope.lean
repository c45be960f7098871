import Numeral.Base

/-!
# Scopes

A scope holds the declared names in the order of their declarations, each with its base. No name is
declared twice, and the type carries the proof of it.

- `declare_eq_ok_iff`, `declare_eq_error_iff`: a declaration succeeds iff the name is new, and then
  puts it at the end.
- `base?_eq_some_iff`: the base of a name is the one it stands with.
-/

namespace Numeral

/-- The declared names with their bases, in the order of their declarations. -/
structure Scope where
  entries : List (String × Base)
  nodup : (entries.map (·.1)).Nodup

/-- A declaration of a name that is taken. -/
structure NameTaken where
  name : String
  deriving DecidableEq, Repr

/-- The sentence that reports a taken name. -/
def NameTaken.message (e : NameTaken) : String :=
  "Variable " ++ quote e.name ++ " is already declared"

namespace Scope

/-- The scope without names. -/
def empty : Scope where
  entries := []
  nodup := .nil

instance : Inhabited Scope := ⟨empty⟩

/-- The declared names. -/
def names (s : Scope) : List String :=
  s.entries.map (·.1)

/-- The number of declared names. -/
def size (s : Scope) : Nat :=
  s.entries.length

instance : Membership String Scope where
  mem s name := name ∈ s.names

instance (name : String) (s : Scope) : Decidable (name ∈ s) :=
  inferInstanceAs (Decidable (name ∈ s.names))

/-- The base of `name`, if it is declared. -/
def base? (s : Scope) (name : String) : Option Base :=
  s.entries.lookup name

/-- The scope with a new name at the end. -/
def insert (s : Scope) (name : String) (base : Base) (h : name ∉ s) : Scope where
  entries := s.entries ++ [(name, base)]
  nodup := by
    rw [List.map_append]
    refine List.nodup_append.mpr ⟨s.nodup, by simp, fun a ha b hb hab => h ?_⟩
    rw [List.map_cons, List.map_nil, List.mem_singleton] at hb
    subst hab hb
    exact ha

/-- Declares `name`, unless it is taken. -/
def declare (s : Scope) (name : String) (base : Base) : Except NameTaken Scope :=
  if h : name ∈ s then .error ⟨name⟩ else .ok (s.insert name base h)

/-- How a scope is shown. -/
def describe (s : Scope) : String :=
  "SymbolTable(" ++
    ", ".intercalate (s.entries.map fun (name, base) => name ++ "=" ++ base.keyword) ++ ")"

@[ext]
theorem ext {s t : Scope} (h : s.entries = t.entries) : s = t := by
  cases s
  cases t
  simp_all

theorem mem_iff {s : Scope} {name : String} : name ∈ s ↔ name ∈ s.names :=
  Iff.rfl

@[simp]
theorem not_mem_empty (name : String) : name ∉ empty := by
  simp [mem_iff, names, empty]

@[simp]
theorem entries_insert (s : Scope) (name : String) (base : Base) (h : name ∉ s) :
    (s.insert name base h).entries = s.entries ++ [(name, base)] :=
  rfl

theorem declare_eq_ok_iff {s t : Scope} {name : String} {base : Base} :
    s.declare name base = .ok t ↔ name ∉ s ∧ t.entries = s.entries ++ [(name, base)] := by
  unfold declare
  split
  · simp_all
  · rename_i h
    simp only [Except.ok.injEq, h, not_false_eq_true, true_and]
    constructor
    · rintro rfl
      rfl
    · intro ht
      exact Scope.ext ht.symm

theorem base?_eq_some_iff {s : Scope} {name : String} {base : Base} :
    s.base? name = some base ↔ (name, base) ∈ s.entries := by
  rw [base?, List.lookup_eq_some_iff]
  constructor
  · rintro ⟨l₁, l₂, he, -⟩
    rw [he]
    exact List.mem_append_right _ List.mem_cons_self
  · intro h
    obtain ⟨l₁, l₂, he⟩ := List.append_of_mem h
    refine ⟨l₁, l₂, he, fun e hmem => ?_⟩
    -- No entry in front has the name, as it would stand in two of them.
    have hnodup := s.nodup
    rw [he, List.map_append, List.map_cons] at hnodup
    have hdisjoint := (List.nodup_append.mp hnodup).2.2
    rw [bne_iff_ne]
    exact (hdisjoint e.1 (List.mem_map_of_mem hmem) name List.mem_cons_self).symm

theorem declare_eq_error_iff {s : Scope} {name : String} {base : Base} {e : NameTaken} :
    s.declare name base = .error e ↔ name ∈ s ∧ e = ⟨name⟩ := by
  unfold declare
  split
  · rename_i h
    simp [h, eq_comm]
  · simp_all

end Scope

end Numeral
