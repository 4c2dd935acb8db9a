import StageScript.Layout

/-!
Configuration of a machine: the layout of its scripts and the limits it runs under.
-/

namespace StageScript

structure Config where
  layout : Layout
  /-- How many diagnostics a run delivers before the rest are summed up. -/
  diagnosticBudget : Nat
  mainPoolBytes : Nat
  levelPoolBytes : Nat
  /-- How many commands a run may dispatch; zero means no limit. -/
  stepLimit : Nat
  deriving DecidableEq, Repr

/-- Why two settings do not go together. -/
inductive ConfigConflict where
  | emptyMainPool
  | levelPoolTooLarge (levelPool mainPool : Nat)
  deriving DecidableEq, Repr

def ConfigConflict.message : ConfigConflict → String
  | .emptyMainPool => "main_pool_bytes must be non-zero"
  | .levelPoolTooLarge levelPool mainPool =>
    s!"level_pool_bytes ({levelPool}) exceeds main_pool_bytes ({mainPool})"

namespace Config

def standard : Config where
  layout := .standard
  diagnosticBudget := 64
  mainPoolBytes := 0x400000
  levelPoolBytes := 0x20000
  stepLimit := 1000000

instance : Inhabited Config := ⟨standard⟩

def validate (config : Config) : Except ConfigConflict Unit :=
  if config.mainPoolBytes = 0 then .error .emptyMainPool
  else if config.mainPoolBytes < config.levelPoolBytes then
    .error (.levelPoolTooLarge config.levelPoolBytes config.mainPoolBytes)
  else .ok ()

end Config

end StageScript
