/-
The settings an engine currently runs with and the file they came from. Settings change only to
ones that pass the rules, and a change that fails leaves everything as it was. How a file turns
into settings is a parameter, so the manager's rules hold for any source.
-/

import RestrictedAccess.Notice
import RestrictedAccess.Settings

namespace RestrictedAccess

abbrev SettingsSource := String → Except Fault Settings

structure SettingsManager where
  settings : Settings
  path : Option String
  deriving DecidableEq

namespace SettingsManager

def new : SettingsManager :=
  ⟨.standard, none⟩

def ofSettings (settings : Settings) : SettingsManager :=
  ⟨settings, none⟩

def load (source : SettingsSource) (path : String) : Except Fault SettingsManager := do
  let settings ← source path
  settings.check
  return ⟨settings, some path⟩

/-- The warnings that loading a file gives rise to, also when the settings are then rejected. -/
def loadNotices (source : SettingsSource) (path : String) : List Notice :=
  match source path with
  | .ok settings => settings.warnings.map Notice.settings
  | .error _ => []

def update (manager : SettingsManager) (settings : Settings) : Except Fault SettingsManager := do
  settings.check
  return { manager with settings }

def reload (manager : SettingsManager) (source : SettingsSource) :
    Except Fault SettingsManager := do
  match manager.path with
  | none => throw (.config .noPath)
  | some path =>
      let loaded ← load source path
      manager.update loaded.settings

def reloadNotices (manager : SettingsManager) (source : SettingsSource) : List Notice :=
  match manager.path with
  | none => []
  | some path => loadNotices source path

end SettingsManager

end RestrictedAccess
