import ConfigVars.Pattern.Matcher
import ConfigVars.Pattern.Reader.Whole
import ConfigVars.Text.Quoted

/-!
# Patterns

A pattern is a text with flags that says which texts it matches (`Pattern.ofText`).  Two patterns
are the same if their texts and their flags are, where flags at the start of the text count too.
-/

namespace ConfigVars

open ConfigVars.Text

/-- A pattern that has been read. -/
structure Pattern where
  text : String
  flags : Pattern.Flags
  node : Pattern.Node
  deriving Repr

namespace Pattern

/-- Reads a pattern, with flags from outside. -/
def ofText (text : String) (flags : Flags := {}) : Except Refusal Pattern := do
  let (node, s) ← Reader.wholePattern.run { tokens := Token.ofChars text.toList, flags }
  return ⟨text, s.flags, node⟩

instance : BEq Pattern := ⟨fun p q => p.text == q.text && p.flags == q.flags⟩

/-- Whether a pattern matches somewhere in a text. -/
def search (p : Pattern) (text : String) : Bool := p.node.search text.toList

/-- The names of flags, in the order in which they are written. -/
def Flags.names (f : Flags) : List String :=
  [(f.template, "re.TEMPLATE"), (f.ignoreCase, "re.IGNORECASE"), (f.multiLine, "re.MULTILINE"),
   (f.dotAll, "re.DOTALL"), (f.verbose, "re.VERBOSE"), (f.plainAlphabet, "re.ASCII")].filterMap
    fun (on, name) => if on then some name else none

/-- How a pattern is shown: with the start of its text, and its flags. -/
def render (p : Pattern) : String :=
  let shown := String.ofList ((quoted p.text).toList.take 200)
  let flags := p.flags.names
  "re.compile(" ++ shown ++ (if flags.isEmpty then "" else ", " ++ "|".intercalate flags) ++ ")"

end Pattern

end ConfigVars
