import ConfigVars.Registry
import ConfigVars.Text.WordChar

/-!
# Expansion

References in a text are replaced by what they refer to, in four passes (`expand`): a home directory
at the start, environment variables in braces, variables of the registry in brackets, and bare
names, which are looked up in the registry and then in the environment.  What a pass puts in is not
looked at again in the same pass, but the passes behind it see it.
-/

namespace ConfigVars

open ConfigVars.Text

/-- How a reference is written behind its dollar sign. -/
inductive ReferenceForm where
  | braces
  | brackets
  | bare
  deriving DecidableEq, Repr

namespace ReferenceForm

/-- The characters around a name. -/
def marks? : ReferenceForm → Option (Char × Char)
  | .braces => some ('\x7b', '\x7d')
  | .brackets => some ('(', ')')
  | .bare => none

/-- The name of a reference whose dollar sign is in front of some characters, and the number of
these that belong to it. -/
def read? (form : ReferenceForm) (cs : List Char) : Option (List Char × Nat) :=
  match form.marks?, cs with
  | none, cs =>
    let name := cs.takeWhile isWordChar
    if name.isEmpty then none else some (name, name.length)
  | some _, [] => none
  | some (opening, closing), c :: rest =>
    let name := rest.takeWhile isWordChar
    if c = opening && !name.isEmpty && (rest.drop name.length).head? = some closing then
      some (name, name.length + 2)
    else none

/-- Replaces the references in a text, of which the next `skip` characters belong to one that has
been replaced. -/
def substitute (form : ReferenceForm) (replacement : String → Option String) :
    Nat → List Char → List Char
  | _, [] => []
  | skip + 1, _ :: rest => form.substitute replacement skip rest
  | 0, c :: rest =>
    if c = '$' then
      match form.read? rest with
      | some (name, length) =>
        match replacement (String.ofList name) with
        | some text => text.toList ++ form.substitute replacement length rest
        | none => c :: form.substitute replacement 0 rest
      | none => c :: form.substitute replacement 0 rest
    else c :: form.substitute replacement 0 rest

end ReferenceForm

/-- The text of a variable that has a value. -/
def Registry.text? (r : Registry) (name : String) : Option String :=
  (r.value? name).map Value.toText

/-- What a bare name refers to: the first that is not empty. -/
def bareReplacement (r : Registry) (e : Environment) (name : String) : Option String :=
  (Environment.nonEmpty? (r.text? name)).or (Environment.nonEmpty? (e.get? name))

/-- Replaces a tilde and a user at the start of a text by the user's home, if there is one. -/
def expandHome (e : Environment) : List Char → Except Failure (List Char)
  | '~' :: rest =>
    let user := rest.takeWhile (· ≠ '/')
    (e.home? (some (String.ofList user))).map fun home =>
      match home with
      | some path => path.toList ++ rest.drop user.length
      | none => '~' :: rest
  | cs => .ok cs

/-- Replaces the references in a text behind its start. -/
def expandReferences (r : Registry) (e : Environment) (cs : List Char) : List Char :=
  let cs := ReferenceForm.braces.substitute (fun name => some ((e.get? name).getD "")) 0 cs
  let cs := ReferenceForm.brackets.substitute (fun name => some ((r.text? name).getD "")) 0 cs
  ReferenceForm.bare.substitute (bareReplacement r e) 0 cs

/-- Expands a text; other values stay as they are. -/
def expand (r : Registry) (e : Environment) : Value → Except Failure Value
  | .text s =>
    (expandHome e s.toList).map fun cs => .text (String.ofList (expandReferences r e cs))
  | v => .ok v

/-- What a text expands to is a text. -/
theorem expand_text {r : Registry} {e : Environment} {s : String} {v : Value}
    (h : expand r e (.text s) = .ok v) : ∃ t, v = .text t := by
  rw [expand] at h
  cases hhome : expandHome e s.toList with
  | error f => rw [hhome] at h; cases h
  | ok cs => rw [hhome] at h; cases h; exact ⟨_, rfl⟩

end ConfigVars
