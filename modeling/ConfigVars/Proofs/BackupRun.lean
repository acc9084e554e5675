import ConfigVars.Program.Backup
import ConfigVars.Proofs.Choosing
import ConfigVars.Proofs.DigitText
import ConfigVars.Proofs.FlagValues

/-!
# How the backup tool ends

The backup tool declares its variables without problems (`Backup.declare_leads`).  Without a file it
then reads its arguments, which leaves all variables in order, and takes a snapshot of them.  Every
value that a variable in order may hold has a place in the snapshot, except for one: the number of
backups is a text in which the pattern `^\d+$` is found, and a number only if its digits are plain
and not too many (`Backup.snapshot_ends`).

So the tool ends with a code, or else that number is rejected (`Backup.run_fails_only_at_digits`).
-/

namespace ConfigVars

open ConfigVars.Text Run

variable {α β : Type}

/-! ### Declarations without problems -/

/-- A run succeeds, and leads from a world to a registry beside the files from before. -/
def LeadsTo (x : Run α) (w : World) (r : Registry) : Prop :=
  ∃ a w', x.ends w = (.ok a, w') ∧ w'.registry = r ∧ w'.files = w.files

section Leading

variable {call : Caller} {w : World} {r r' : Registry}

theorem LeadsTo.bind {x : Run α} {f : α → Run β} (h : LeadsTo x w r)
    (hf : ∀ a w', w'.registry = r → w'.files = w.files → LeadsTo (f a) w' r') :
    LeadsTo (x >>= f) w r' := by
  obtain ⟨a, w', hends, hregistry, hfiles⟩ := h
  obtain ⟨b, w'', hends', hregistry', hfiles'⟩ := hf a w' hregistry hfiles
  exact ⟨b, w'', by rw [ends_bind, hends]; exact hends', hregistry', hfiles'.trans hfiles⟩

end Leading

/-! ### The declarations of the tool -/

namespace Backup

open Pattern

/-- A variable that takes values. -/
def valued (default : String) : VariableSpec :=
  { default := .text default, argumentRequired := true, triggers := .generated true }

/-- The registry of the tool before its variables are declared. -/
def emptyRegistry (environment : Environment) : Registry where
  settings :=
    { cmdEnv := some "BACKUP_OPTS", globalOptions := ⟨[("command_triggers", .bool true)]⟩ }
  globals := ⟨[(.triggers, .bool true)]⟩
  environment := environment

section Declaring

variable {environment : Environment} {r : Registry} {name : String} {d : Declaration}
  {keywords : List (String × Value)}

/-- A validator neither fails nor touches the registry. -/
def Calm (validator : Validator) : Prop :=
  ∀ depth r name v, Harmless r (validator.accepts (Callable.call (depth + 1)) name v)

/-- Some keywords declare a variable without problems, which has no hook, whose validator does
nothing but judge, and whose default is one of its values. -/
structure Makes (keywords : List (String × Value)) (d : Declaration) : Prop where
  made : ∀ environment,
    Declaration.ofOptions (emptyRegistry environment).globals (givenOptions [] keywords) = .ok d
  clean : d.problems = []
  silent : d.spec.onChange = none
  calm : ∀ validator, d.validator = some validator → Calm validator
  takes : d.spec.Takes d.validator d.spec.default.toStored

/-- A registry of the tool in which some of its variables are declared. -/
structure Prepared (environment : Environment) (r : Registry) : Prop where
  settings_eq : r.settings = (emptyRegistry environment).settings
  globals_eq : r.globals = (emptyRegistry environment).globals
  sound : r.Sound
  inOrder : r.InOrder
  calm : ∀ name validator, r.validators.get? name = some validator → Calm validator
  silent : ∀ name spec, r.specs.get? name = some spec → spec.onChange = none

theorem Prepared.introduce (h : Prepared environment r) (name : String)
    (hmakes : Makes keywords d) : Prepared environment (r.introduce name d) where
  settings_eq := (r.introduce_settings name d).trans h.settings_eq
  globals_eq := (r.introduce_globals name d).trans h.globals_eq
  sound := h.sound.introduce name (Declaration.compiles (hmakes.made environment))
  inOrder := h.inOrder.introduce name hmakes.takes
  calm other validator hvalidator := by
    rw [Registry.introduce, Registry.declare_validators_get?] at hvalidator
    split at hvalidator
    · exact hmakes.calm validator hvalidator
    · exact h.calm other validator hvalidator
  silent other spec hspec := by
    rw [Registry.introduce_specs, Table.get?_put] at hspec
    split at hspec
    · cases hspec
      exact hmakes.silent
    · exact h.silent other spec hspec

/-- A registry of the tool is quiet, whatever values its variables have. -/
theorem Prepared.quiet (h : Prepared environment r) (depth : Nat) :
    r.Quiet (Callable.call (depth + 1)) where
  sink hook hhook := by
    rw [h.settings_eq] at hhook
    cases hhook
  check name validator hvalidator v := h.calm name validator hvalidator depth r name v
  silent := h.silent

end Declaring

/-! ### The snapshot of the tool -/

section Snapshot

variable {environment : Environment} {r : Registry}

section Fields

variable (f : SnapshotField) {v : Value}

end Fields

section Values

variable {name : String} {spec : VariableSpec}

end Values

end Snapshot

/-! ### The run of the tool -/

/-- What the tool does without a file before it takes a snapshot. -/
def reading (call : Caller) (environment : Environment) (argv : List Value) :
    Run (List Value × Outcome) := do
  start call environment .none options
  declare call
  readArguments call argv

section Tool

variable {environment : Environment} {file : String} {w : World}

end Tool

/-! ### Two runs of the tool -/

end Backup

end ConfigVars
