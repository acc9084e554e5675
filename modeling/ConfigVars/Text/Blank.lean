import ConfigVars.Text.Ranges

/-!
# Blanks

Blank characters (`isBlank`) are the white space of every script together with the four separators
`1c` to `1f`.  A text is trimmed of them on both sides (`trim`) and cut into the words between
them (`words`).  What a text starts with is taken up to the first character that fails a test
(`takeWhile_front`).
-/

namespace ConfigVars.Text

/-- The blank characters. -/
def blankRanges : Ranges :=
  [
   (9, 0xd), (0x1c, 0x20), (0x85, 0x85), (0xa0, 0xa0), (0x1680, 0x1680), (0x2000, 0x200a),
   (0x2028, 0x2029), (0x202f, 0x202f), (0x205f, 0x205f), (0x3000, 0x3000)]

/-- Whether a character is blank. -/
def isBlank (c : Char) : Bool := blankRanges.contains c.toNat

/-- What is left of the characters without those at the end that a test holds for. -/
def dropWhileEnd (p : Char → Bool) (cs : List Char) : List Char :=
  (cs.reverse.dropWhile p).reverse

/-- The characters without those at either end that a test holds for. -/
def trimWhile (p : Char → Bool) (cs : List Char) : List Char :=
  dropWhileEnd p (cs.dropWhile p)

/-- A text without the blanks at either end. -/
def trim (s : String) : String := String.ofList (trimWhile isBlank s.toList)

/-- The words of the characters, where `word` holds the start of the current one, last character
first. -/
def wordsAfter (word : List Char) : List Char → List (List Char)
  | [] => if word.isEmpty then [] else [word.reverse]
  | c :: rest =>
    if isBlank c then
      if word.isEmpty then wordsAfter [] rest else word.reverse :: wordsAfter [] rest
    else wordsAfter (c :: word) rest

/-- The words of a text: its longest pieces without a blank. -/
def words (s : String) : List String := (wordsAfter [] s.toList).map String.ofList

/-! ### Texts by what they start with -/

section Fronts

variable {α : Type} {p : α → Bool} {front back : List α}

/-- Of a text that starts with what a test holds for, and goes on with something else, the start is
taken and the other is left. -/
theorem takeWhile_front (hfront : ∀ c ∈ front, p c = true) (hback : ∀ c ∈ back.head?, p c = false) :
    (front ++ back).takeWhile p = front ∧ (front ++ back).dropWhile p = back := by
  rw [List.takeWhile_append_of_pos hfront, List.dropWhile_append_of_pos hfront]
  cases back with
  | nil => simp
  | cons c rest =>
    have hc : ¬ p c = true := Bool.eq_false_iff.mp (hback c rfl)
    rw [List.takeWhile_cons_of_neg hc, List.dropWhile_cons_of_neg hc, List.append_nil]
    exact ⟨rfl, rfl⟩

theorem head?_dropWhile (p : α → Bool) (l : List α) : ∀ c ∈ (l.dropWhile p).head?, p c = false := by
  intro c hc
  have hnot := List.head?_dropWhile_not p l
  rw [Option.mem_def.mp hc] at hnot
  simpa using hnot

end Fronts

end ConfigVars.Text
