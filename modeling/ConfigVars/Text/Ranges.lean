/-!
# Character ranges

A character class is a list of ranges of code points (`Ranges`).  The lists are sorted and their
ranges are disjoint, so a search may stop at the first range that starts behind the code point
(`Ranges.contains`).
-/

namespace ConfigVars.Text

/-- Ranges of code points, both ends included, in ascending order. -/
abbrev Ranges := List (Nat × Nat)

/-- Whether a code point lies in one of the ranges. -/
def Ranges.contains : Ranges → Nat → Bool
  | [], _ => false
  | (first, last) :: rest, c => first ≤ c && (c ≤ last || Ranges.contains rest c)

/-- A code point that `contains` finds lies in a range of the list. -/
theorem Ranges.exists_of_contains {rs : Ranges} {c : Nat} (h : rs.contains c = true) :
    ∃ r ∈ rs, r.1 ≤ c ∧ c ≤ r.2 := by
  induction rs with
  | nil => simp [contains] at h
  | cons r rest ih =>
    simp only [contains, Bool.and_eq_true, Bool.or_eq_true, decide_eq_true_eq] at h
    rcases h with ⟨hfirst, hlast | hrest⟩
    · exact ⟨r, by simp, hfirst, hlast⟩
    · obtain ⟨r', hr', hc⟩ := ih hrest
      exact ⟨r', List.mem_cons_of_mem _ hr', hc⟩

end ConfigVars.Text
