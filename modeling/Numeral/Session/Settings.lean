import Numeral.Expression

/-!
# Session settings

The sentinel line, which is not empty, the mode of the expression check, and whether prompts are
given.
-/

namespace Numeral.Session

/-- What a session is for. -/
inductive Profile where
  | interactive
  | batch
  deriving DecidableEq, Repr

instance : Labelled Profile where
  vocabulary := "SessionMode"
  members := [.interactive, .batch]
  label
    | .interactive => "interactive"
    | .batch => "batch"

/-- The sentinel where none is chosen. -/
def defaultSentinel : String := "END"

/-- The settings of a session. -/
structure Settings where
  sentinel : String := defaultSentinel
  mode : Expression.Mode := .first
  prompts : Bool := true
  sentinel_ne_empty : sentinel ≠ "" := by decide

/-- Settings that no session can have. -/
inductive SettingsError where
  | emptySentinel
  deriving DecidableEq, Repr

/-- The sentence that reports impossible settings. -/
def SettingsError.message : SettingsError → String
  | emptySentinel => "Session sentinel cannot be empty"

namespace Settings

/-- The settings with these values. -/
def make (sentinel : String) (mode : Expression.Mode) (prompts : Bool) :
    Except SettingsError Settings :=
  if h : sentinel = "" then .error .emptySentinel
  else .ok { sentinel := sentinel, mode := mode, prompts := prompts, sentinel_ne_empty := h }

/-- The settings of a profile: an interactive session gives prompts, a batch none. -/
def forProfile (profile : Profile) (sentinel : String := defaultSentinel) :
    Except SettingsError Settings :=
  make sentinel .first (profile = .interactive)

end Settings

end Numeral.Session
