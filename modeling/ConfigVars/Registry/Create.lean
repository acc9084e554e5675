import ConfigVars.Registry.Report

/-!
# Making a registry

A registry is made from settings, or from options for them, or from both, in which case the options
go above (`Registry.create`).  Options that cannot be used are left out and reported (`start`).
-/

namespace ConfigVars

/-- What the settings of a new registry are made from, apart from options. -/
inductive SettingsBasis where
  | none
  | options (entries : List (Value × Value))
  | settings (s : Settings)

namespace SettingsBasis

/-- What a basis gives as options. -/
def entries : SettingsBasis → List (Value × Value)
  | none => []
  | options es => es
  | settings s => s.changes

/-- The settings that a basis makes with options above it. -/
def build (basis : SettingsBasis) (above : List (Value × Value)) : Settings × List Problem :=
  match basis, above with
  | settings s, [] => (s, [])
  | _, _ =>
    let given := (Table.ofList basis.entries).putAll above
    let (clean, problems) := SettingsField.model.canonical given.entries
    let (s, more) := Settings.build clean
    (s, problems ++ more)

end SettingsBasis

/-- A new registry, with a problem for every option that cannot be used. -/
def Registry.create (environment : Environment) (basis : SettingsBasis)
    (options : List (Value × Value)) : Registry × List Problem :=
  let (settings, problems) := basis.build options
  let (globals, more) :=
    VariableField.model.canonical (settings.globalOptions.entries.map fun (k, v) => (.text k, v))
  ({ settings, globals, environment }, problems ++ more)

/-- Starts with a new registry and reports its problems. -/
def start (call : Caller) (environment : Environment) (basis : SettingsBasis)
    (options : List (Value × Value)) : Run Unit := do
  let (r, problems) := Registry.create environment basis options
  Run.update fun _ => r
  reportAll call problems

end ConfigVars
