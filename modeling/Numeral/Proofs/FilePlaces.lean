import Mathlib.Data.List.Basic
import Numeral.Command.FileTree

/-!
# Places of a file tree

A path leads through directories to a place. New directories turn no path aside that led somewhere
before, and a file that is written at the end of a path is found there again. So an action that
makes a file either comes to its end, or leaves at most new directories behind.

- `node?_set`: what stands at a place after one place was changed.
- `locate_eq_of_directories`: a path leads where it led as long as its directories stay.
- `AddsDirectories`: a tree has some new directories and is otherwise the same.
- `AddsDirectories.read_eq`: every file that could be read can be read, and is the same.
- `read_set_of_locate`: a file that was written is read by the path that it was written to.
- `ensureDirectories_adds`: to make directories adds directories, whether it fails or not.
-/

namespace Numeral.FileTree

variable {t t' t'' : FileTree} {place other : List String} {p : Path} {bytes : List UInt8}

/-! ## Places -/

private theorem lookup_filter_ne (nodes : List (List String × FileNode)) (h : other ≠ place) :
    (nodes.filter (·.1 ≠ place)).lookup other = nodes.lookup other := by
  induction nodes with
  | nil => rfl
  | cons entry nodes ih =>
    obtain ⟨key, found⟩ := entry
    by_cases hkey : key = place
    · subst hkey
      rw [List.filter_cons_of_neg (by simp), List.lookup_cons, beq_false_of_ne h]
      exact ih
    · rw [List.filter_cons_of_pos (by simpa using hkey), List.lookup_cons, List.lookup_cons, ih]

theorem node?_nil (t : FileTree) : t.node? [] = some .directory :=
  if_pos rfl

theorem ne_nil_of_node?_ne_directory (h : t.node? place ≠ some .directory) : place ≠ [] := by
  rintro rfl
  exact h t.node?_nil

/-- What stands at a place after one place was changed. -/
theorem node?_set (h : place ≠ []) (node : FileNode) (other : List String) :
    (t.set place node).node? other = if other = place then some node else t.node? other := by
  by_cases hother : other = place
  · subst hother
    simp [node?, set, h]
  · rw [if_neg hother, node?, node?, set, List.lookup_cons, beq_false_of_ne hother,
      lookup_filter_ne _ hother]

@[simp]
theorem set_set (t : FileTree) (place : List String) (node node' : FileNode) :
    (t.set place node).set place node' = t.set place node' := by
  simp [set, List.filter_filter]

/-! ## Paths -/

/-- The names of a path lead through directories only. -/
theorem walk_eq_of_directories
    (h : ∀ q, t.node? q = some .directory → t'.node? q = some .directory) {start names}
    (hwalk : t.walk start names = .ok place) : t'.walk start names = .ok place := by
  induction names generalizing start with
  | nil => exact hwalk
  | cons name rest ih =>
    rw [walk] at hwalk ⊢
    by_cases hup : name = ".."
    · rw [if_pos hup] at hwalk ⊢
      exact ih hwalk
    by_cases hlong : nameLimit < name.utf8ByteSize
    · rw [if_neg hup, if_pos hlong] at hwalk
      cases hwalk
    rw [if_neg hup, if_neg hlong] at hwalk ⊢
    by_cases hlast : rest = []
    · rwa [if_pos hlast] at hwalk ⊢
    rw [if_neg hlast] at hwalk ⊢
    -- The walk goes on through a directory only, and directories are kept.
    cases hnode : t.node? (start ++ [name]) with
    | none =>
      rw [hnode] at hwalk
      cases hwalk
    | some node =>
      cases node with
      | file bytes =>
        rw [hnode] at hwalk
        cases hwalk
      | directory =>
        rw [hnode] at hwalk
        rw [h _ hnode]
        exact ih hwalk

/-- A path leads where it led as long as its directories stay. -/
theorem locate_eq_of_directories (hhome : t'.home = t.home)
    (h : ∀ q, t.node? q = some .directory → t'.node? q = some .directory)
    (hlocate : t.locate p = .ok place) : t'.locate p = .ok place := by
  rw [locate] at hlocate ⊢
  by_cases hzero : p.hasZeroByte = true
  · rw [if_pos hzero] at hlocate
    cases hlocate
  by_cases hlong : pathLimit < p.toString.utf8ByteSize
  · rw [if_neg hzero, if_pos hlong] at hlocate
    cases hlocate
  rw [if_neg hzero, if_neg hlong] at hlocate ⊢
  rw [hhome]
  cases hwalk : t.walk (if p.isAbsolute then [] else t.home) p.names with
  | error e =>
    rw [hwalk] at hlocate
    cases hlocate
  | ok q =>
    rw [hwalk] at hlocate
    cases hlocate
    rw [walk_eq_of_directories h hwalk]
    rfl

theorem read_eq_ok_iff :
    t.read p = .ok bytes ↔
      ∃ place, t.locate p = .ok place ∧ t.node? place = some (.file bytes) := by
  cases hlocate : t.locate p with
  | error e => simp [read, hlocate, bind, Except.bind]
  | ok place =>
    cases hnode : t.node? place with
    | none => simp [read, hlocate, hnode, bind, Except.bind]
    | some node => cases node <;> simp [read, hlocate, hnode, bind, Except.bind]

/-- A file that was written at the end of a path is read by that path. -/
theorem read_set_of_locate (hlocate : t.locate p = .ok place)
    (hplace : t.node? place ≠ some .directory) (bytes : List UInt8) :
    (t.set place (.file bytes)).read p = .ok bytes := by
  have hne := ne_nil_of_node?_ne_directory hplace
  have hkeeps (q : List String) (hq : t.node? q = some .directory) :
      (t.set place (.file bytes)).node? q = some .directory := by
    rw [node?_set hne, if_neg (by rintro rfl; exact hplace hq)]
    exact hq
  have hlocate' : (t.set place (.file bytes)).locate p = .ok place :=
    locate_eq_of_directories (t := t) rfl hkeeps hlocate
  exact read_eq_ok_iff.mpr ⟨place, hlocate', by rw [node?_set hne, if_pos rfl]⟩

/-! ## New directories -/

/-- The tree `t'` is `t`, but for new directories where nothing stood. -/
structure AddsDirectories (t t' : FileTree) : Prop where
  home_eq : t'.home = t.home
  node?_eq : ∀ place, t'.node? place = t.node? place ∨
    t.node? place = none ∧ t'.node? place = some .directory

namespace AddsDirectories

theorem refl (t : FileTree) : t.AddsDirectories t :=
  ⟨rfl, fun _ => .inl rfl⟩

theorem trans (h : t.AddsDirectories t') (h' : t'.AddsDirectories t'') :
    t.AddsDirectories t'' := by
  refine ⟨h'.home_eq.trans h.home_eq, fun place => ?_⟩
  rcases h'.node?_eq place with heq' | ⟨hnone, hnew⟩
  · rw [heq']
    exact h.node?_eq place
  · rcases h.node?_eq place with heq | ⟨-, hnew'⟩
    · exact .inr ⟨heq ▸ hnone, hnew⟩
    · cases hnone.symm.trans hnew'

private theorem node?_directory (h : t.AddsDirectories t')
    (hplace : t.node? place = some .directory) : t'.node? place = some .directory := by
  rcases h.node?_eq place with heq | ⟨-, hnew⟩
  · rw [heq, hplace]
  · exact hnew

/-- No file is lost, changed or new. -/
theorem node?_file_iff (h : t.AddsDirectories t') (place : List String) (bytes : List UInt8) :
    t'.node? place = some (.file bytes) ↔ t.node? place = some (.file bytes) := by
  rcases h.node?_eq place with heq | ⟨hnone, hnew⟩
  · rw [heq]
  · simp [hnone, hnew]

/-- Every file that could be read can be read, and is the same. -/
theorem read_eq (h : t.AddsDirectories t') (hread : t.read p = .ok bytes) :
    t'.read p = .ok bytes := by
  obtain ⟨place, hlocate, hplace⟩ := read_eq_ok_iff.mp hread
  exact read_eq_ok_iff.mpr ⟨place,
    locate_eq_of_directories h.home_eq (fun _ => h.node?_directory) hlocate,
    (h.node?_file_iff place bytes).mpr hplace⟩

end AddsDirectories

/-- The tree behind an action, whether it failed or not. -/
def behind {ε α : Type} : EStateM.Result ε FileTree α → FileTree
  | .ok _ t => t
  | .error _ t => t

theorem makeDirectory_adds (h : t.makeDirectory p = .ok t') : t.AddsDirectories t' := by
  rw [makeDirectory] at h
  cases hlocate : t.locate p with
  | error e =>
    rw [hlocate] at h
    cases h
  | ok place =>
    rw [hlocate] at h
    cases hplace : t.node? place with
    | some node => simp [bind, Except.bind, hplace] at h
    | none =>
      simp only [bind, Except.bind, hplace, Except.ok.injEq] at h
      subst h
      have hfree : t.node? place ≠ some .directory := by simp [hplace]
      have hne := ne_nil_of_node?_ne_directory hfree
      refine ⟨rfl, fun other => ?_⟩
      rw [node?_set hne]
      split
      · next hother => exact .inr ⟨hother ▸ hplace, rfl⟩
      · exact .inl rfl

theorem ensureDirectory_adds (p : Path) (t : FileTree) :
    t.AddsDirectories (behind (ensureDirectory p t)) := by
  rw [ensureDirectory]
  split
  · next hmade => exact makeDirectory_adds hmade
  · split <;> exact .refl t

/-- To make the directories on a path adds directories, however far it comes. -/
theorem ensureNames_adds (root : String) (names : List String) (t : FileTree) :
    t.AddsDirectories (behind (ensureNames root names t)) := by
  induction names generalizing t with
  | nil => exact ensureDirectory_adds _ t
  | cons name outer ih =>
    rw [ensureNames]
    dsimp only
    split
    · have houter := ih t
      simp only [bind, EStateM.bind]
      cases hresult : ensureNames root outer t with
      | error e t' =>
        rw [hresult] at houter
        exact houter
      | ok _ t' =>
        rw [hresult] at houter
        exact houter.trans (ensureDirectory_adds _ t')
    · exact ensureDirectory_adds _ t

theorem ensureDirectories_adds (p : Path) (t : FileTree) :
    t.AddsDirectories (behind (ensureDirectories p t)) :=
  ensureNames_adds p.root p.names.reverse t

end Numeral.FileTree
