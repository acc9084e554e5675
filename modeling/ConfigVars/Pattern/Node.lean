import ConfigVars.Pattern.Letters
import ConfigVars.Text.Blank
import ConfigVars.Text.Digit
import ConfigVars.Text.WordChar

/-!
# The parts of a pattern

A pattern is built from sets of characters and anchors by sequence, alternative, repetition,
groups that are remembered, references to them, and looks ahead and behind (`Node`).  What the
flags of a pattern decide is written into its parts, so a part means the same wherever it stands.
The widths of the texts that a part matches (`Width`) bound how far a look behind goes back.
-/

namespace ConfigVars.Pattern

open ConfigVars.Text

/-- A class of characters with a name. -/
inductive Category where
  | digit
  | blank
  | word
  deriving DecidableEq, Repr

/-- Whether a code point is in a class.  A plain class has the characters up to `7f` only. -/
def Category.contains (k : Category) (plain : Bool) (code : Nat) : Bool :=
  let c := Char.ofNat code
  if plain && 0x7f < code then false
  else
    match k with
    | .digit => isDigit c
    | .blank => if plain then (9 ≤ code && code ≤ 13) || code = 32 else isBlank c
    | .word => isWordChar c

/-- A member of a character set. -/
inductive Member where
  | code (n : Nat)
  | span (first last : Nat)
  | category (k : Category) (plain negated : Bool)
  deriving DecidableEq, Repr

/-- Whether a member has one of the variants of a code point, which is its own first variant. -/
def Member.admits (variants : List Nat) (code : Nat) : Member → Bool
  | .code n => variants.contains n
  | .span first last => variants.any fun v => first ≤ v && v ≤ last
  | .category k plain negated => k.contains plain code != negated

/-- A set of characters. -/
structure CharSet where
  members : List Member
  negated : Bool
  deriving DecidableEq, Repr

/-- Whether a character is in a set. -/
def CharSet.admits (s : CharSet) (comparison : Comparison) (c : Char) : Bool :=
  s.members.any (Member.admits (comparison.variants c.toNat) (comparison.folded c.toNat)) !=
    s.negated

/-- A place in a text. -/
inductive Anchor where
  | textStart
  | lineStart
  | textEnd
  /-- The end of the text, or before a line feed that ends it. -/
  | lastLineEnd
  | lineEnd
  | wordBoundary (plain : Bool)
  | notWordBoundary (plain : Bool)
  deriving DecidableEq, Repr

/-- Which number of repetitions is tried first. -/
inductive Appetite where
  /-- The most, then fewer. -/
  | greedy
  /-- The fewest, then more. -/
  | lazy
  /-- The most, and no other. -/
  | possessive
  deriving DecidableEq, Repr

/-- A part of a pattern. -/
inductive Node where
  | empty
  | set (s : CharSet) (comparison : Comparison)
  | anchor (a : Anchor)
  | seq (first second : Node)
  | alt (first second : Node)
  | group (number : Nat) (body : Node)
  | reference (number : Nat) (comparison : Comparison)
  /-- Whether a group has matched decides between two parts. -/
  | condition (number : Nat) (yes no : Node)
  | lookAhead (negated : Bool) (body : Node)
  | lookBehind (width : Nat) (negated : Bool) (body : Node)
  | repeated (least : Nat) (most : Option Nat) (appetite : Appetite) (body : Node)
  /-- The first match of the body, and no other. -/
  | atomic (body : Node)
  deriving DecidableEq, Repr

/-- The widths of the shortest and the longest text that a part matches. -/
structure Width where
  least : Nat
  most : Nat
  deriving DecidableEq, Repr

namespace Width

/-- A width that stands for every greater one. -/
def unbounded : Nat := Nat.pow 2 64

def zero : Width := ⟨0, 0⟩

def one : Width := ⟨1, 1⟩

def capped (w : Width) : Width := ⟨min w.least unbounded, min w.most unbounded⟩

def add (v w : Width) : Width := ⟨v.least + w.least, v.most + w.most⟩

def union (v w : Width) : Width := ⟨min v.least w.least, max v.most w.most⟩

/-- The width of a repetition. -/
def times (w : Width) (least : Nat) (most : Option Nat) : Width :=
  ⟨w.least * least,
    match most with
    | some n => w.most * n
    | none => if w.most = 0 then 0 else unbounded⟩

end Width

/-- The widths of the texts that a part matches, given those of the groups. -/
def Node.width (groups : Nat → Width) : Node → Width
  | .empty | .anchor _ | .lookAhead .. | .lookBehind .. => .zero
  | .set .. => .one
  | .seq a b => ((a.width groups).add (b.width groups)).capped
  | .alt a b => (a.width groups).union (b.width groups)
  | .group _ body => body.width groups
  | .reference n _ => groups n
  | .condition _ yes no => (yes.width groups).union (no.width groups)
  | .repeated least most _ body => ((body.width groups).times least most).capped
  | .atomic body => body.width groups

end ConfigVars.Pattern
