import ConfigVars.Table
import ConfigVars.Text.LetterCase
import ConfigVars.Value.Equality
import ConfigVars.Value.Text

/-!
# Options under their names

Options are given under several spellings and in any letter case; an option model (`OptionModel`)
says which field a spelling belongs to, and which fields take callables only.  `canonical` sorts
options into a table by field: of several spellings of one field the last usable one counts, and
every other option is a problem.
-/

namespace ConfigVars

open ConfigVars.Text

/-- The fields that options belong to. -/
structure OptionModel (φ : Type) where
  /-- The spellings of the fields, in small letters. -/
  spellings : List (String × φ)
  /-- Whether a field takes callables only. -/
  isHook : φ → Bool

namespace OptionModel

variable {φ : Type} [DecidableEq φ]

/-- The field that a key belongs to. -/
def field? (m : OptionModel φ) (key : Value) : Option φ := m.spellings.lookup (lower key.toText)

/-- Whether a value is of no use to a field. -/
def isUnusable (m : OptionModel φ) (field : φ) (value : Value) : Bool :=
  match value with
  | .nothing => false
  | v => m.isHook field && !v.isCallable

/-- The options by field, behind those that have been sorted, with a problem for every option that
cannot be used. -/
def sort (m : OptionModel φ) (sorted : Table φ Value) :
    List (Value × Value) → Table φ Value × List Problem
  | [] => (sorted, [])
  | (key, value) :: rest =>
    match m.field? key with
    | none =>
      let (clean, problems) := m.sort sorted rest
      (clean, .badOption key.toText "is not a valid configuration option" :: problems)
    | some field =>
      if m.isUnusable field value then
        let (clean, problems) := m.sort sorted rest
        (clean, .notCallable key.toText :: problems)
      else m.sort (sorted.put field value) rest

/-- The options by field, with a problem for every option that cannot be used. -/
def canonical (m : OptionModel φ) (options : List (Value × Value)) :
    Table φ Value × List Problem :=
  m.sort ∅ options

end OptionModel

end ConfigVars
