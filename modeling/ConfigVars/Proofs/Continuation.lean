import ConfigVars.Source.LogicalLine
import Mathlib.Data.List.Basic

/-!
# Blocks of physical lines

Physical lines are cut behind every line that does not go on with the next one (`blocks`).  The
cut loses no line (`flatten_blocks`), and in every block all lines but the last go on, the last one
only where the lines end (`Block`, `blocks_spec`).

The logical lines are the blocks, put together and numbered by their first lines
(`logicalLines_eq`).  So every logical line spans some of the physical lines, and starts at the one
whose number it has (`LogicalLine.Spans`, `spans_of_mem`).
-/

namespace ConfigVars

/-- Whether a physical line goes on with the next one. -/
def continues (raw : List Char) : Bool := goesOn (withoutEnd raw)

/-- The blocks of physical lines that are put together. -/
def blocks : List (List Char) → List (List (List Char))
  | [] => []
  | raw :: rest =>
    if continues raw then
      match blocks rest with
      | [] => [[raw]]
      | block :: more => (raw :: block) :: more
    else [raw] :: blocks rest

/-- The text of a block. -/
def joined (block : List (List Char)) : List Char :=
  block.flatMap fun raw => contribution (withoutEnd raw)

/-- The logical lines of blocks, where the first of these starts at a number. -/
def numbered (number : Nat) : List (List (List Char)) → List LogicalLine
  | [] => []
  | block :: more => ⟨number, joined block⟩ :: numbered (number + block.length) more

/-! ### The cut -/

/-- A block has a line, and goes on up to its last one. -/
structure Block (block : List (List Char)) : Prop where
  ne_nil : block ≠ []
  goes_on : ∀ raw ∈ block.dropLast, continues raw = true

/-- Whether the last of some physical lines goes on. -/
def endsOpen (lines : List (List Char)) : Bool := lines.getLast?.any continues

theorem blocks_of_continues {raw : List Char} (h : continues raw = true)
    (rest : List (List Char)) :
    blocks (raw :: rest) =
      match blocks rest with
      | [] => [[raw]]
      | block :: more => (raw :: block) :: more := by
  rw [blocks, if_pos h]

theorem blocks_of_stops {raw : List Char} (h : continues raw = false)
    (rest : List (List Char)) : blocks (raw :: rest) = [raw] :: blocks rest := by
  rw [blocks, if_neg (by simp [h])]

/-- **The cut loses nothing.** -/
theorem flatten_blocks (lines : List (List Char)) : (blocks lines).flatten = lines := by
  induction lines with
  | nil => rfl
  | cons raw rest ih =>
    cases h : continues raw with
    | false => rw [blocks_of_stops h, List.flatten_cons, ih, List.singleton_append]
    | true =>
      rw [blocks_of_continues h]
      cases hrest : blocks rest with
      | nil =>
        rw [hrest] at ih
        rw [← ih]
        rfl
      | cons block more =>
        rw [hrest] at ih
        rw [← ih]
        rfl

/-- **The cut is behind every line that does not go on**, and nowhere else. -/
theorem blocks_spec (lines : List (List Char)) :
    (∀ block ∈ blocks lines, Block block) ∧
      ∀ block ∈ (blocks lines).dropLast, endsOpen block = false := by
  induction lines with
  | nil => exact ⟨by rintro _ ⟨⟩, by rintro _ ⟨⟩⟩
  | cons raw rest ih =>
    obtain ⟨hblock, hclosed⟩ := ih
    cases h : continues raw with
    | false =>
      rw [blocks_of_stops h]
      refine ⟨?_, fun block hmem => ?_⟩
      · rintro block (_ | ⟨_, hmem⟩)
        · exact ⟨List.cons_ne_nil _ _, by rintro _ ⟨⟩⟩
        · exact hblock block hmem
      · cases hrest : blocks rest with
        | nil =>
          rw [hrest] at hmem
          cases hmem
        | cons next more =>
          rw [hrest, List.dropLast_cons_cons] at hmem
          rcases List.mem_cons.mp hmem with rfl | hmem
          · exact h
          · exact hclosed block (hrest ▸ hmem)
    | true =>
      rw [blocks_of_continues h]
      cases hrest : blocks rest with
      | nil =>
        refine ⟨?_, by rintro _ ⟨⟩⟩
        rintro block (_ | ⟨_, hmem⟩)
        · exact ⟨List.cons_ne_nil _ _, by rintro _ ⟨⟩⟩
        · cases hmem
      | cons next more =>
        rw [hrest] at hblock hclosed
        -- the line goes in front of the next block, which is then closed as it was before
        have hnext := hblock next List.mem_cons_self
        have hsame : endsOpen (raw :: next) = endsOpen next := by
          rw [endsOpen, endsOpen, List.getLast?_cons_of_ne_nil hnext.ne_nil]
        refine ⟨?_, fun block hmem => ?_⟩
        · rintro block (_ | ⟨_, hmem⟩)
          · refine ⟨List.cons_ne_nil _ _, fun line hline => ?_⟩
            rw [List.dropLast_cons_of_ne_nil hnext.ne_nil] at hline
            rcases List.mem_cons.mp hline with rfl | hline
            · exact h
            · exact hnext.goes_on line hline
          · exact hblock block (List.mem_cons_of_mem _ hmem)
        · cases more with
          | nil => cases hmem
          | cons _ _ =>
            rw [List.dropLast_cons_cons] at hmem hclosed
            rcases List.mem_cons.mp hmem with rfl | hmem
            · exact hsame.trans (hclosed next List.mem_cons_self)
            · exact hclosed block (List.mem_cons_of_mem _ hmem)

/-- Behind complete lines the cut starts afresh. -/
theorem blocks_append {before : List (List Char)} (h : endsOpen before = false)
    (rest : List (List Char)) : blocks (before ++ rest) = blocks before ++ blocks rest := by
  induction before with
  | nil => rfl
  | cons raw more ih =>
    have hmore : endsOpen more = false := by
      cases more with
      | nil => rfl
      | cons next others => rwa [endsOpen, List.getLast?_cons_cons] at h
    cases hgoes : continues raw with
    | false =>
      rw [List.cons_append, blocks_of_stops hgoes, blocks_of_stops hgoes, ih hmore,
        List.cons_append]
    | true =>
      rw [List.cons_append, blocks_of_continues hgoes, blocks_of_continues hgoes, ih hmore]
      cases hblocks : blocks more with
      | nil =>
        -- a line that goes on is not the last one
        have hlast : more = [] := by rw [← flatten_blocks more, hblocks, List.flatten_nil]
        have hstops : continues raw = false := by simpa [endsOpen, hlast] using h
        rw [hgoes] at hstops
        cases hstops
      | cons block others => rfl

/-! ### Logical lines are blocks -/

/-- The logical lines of blocks behind the start of a logical line, if there is one. -/
def numberedAfter (number : Nat) : Option LogicalLine → List (List (List Char)) → List LogicalLine
  | none, bs => numbered number bs
  | some line, [] => [line]
  | some line, block :: more =>
    ⟨line.number, line.text ++ joined block⟩ :: numbered (number + block.length) more

/-- A block that starts a logical line is one behind an empty start. -/
theorem numberedAfter_cons (number : Nat) (started : Option LogicalLine)
    (block : List (List Char)) (more : List (List (List Char))) :
    numberedAfter number started (block :: more) =
      ⟨(started.getD ⟨number, []⟩).number, (started.getD ⟨number, []⟩).text ++ joined block⟩ ::
        numbered (number + block.length) more := by
  cases started <;> rfl

/-- What the reader finds from a physical line on. -/
theorem logicalFrom_eq (lines : List (List Char)) (number : Nat) (started : Option LogicalLine) :
    (logicalFrom number started lines).1 ++ (logicalFrom number started lines).2.toList =
      numberedAfter number started (blocks lines) := by
  induction lines generalizing number started with
  | nil => cases started <;> rfl
  | cons raw rest ih =>
    rw [logicalFrom]
    cases h : continues raw with
    | false =>
      -- the line ends its block, so the next one starts afresh
      have hstop : goesOn (withoutEnd raw) = false := h
      have hnext := ih (number + 1) none
      rw [blocks_of_stops h, numberedAfter_cons, hstop, if_neg (by simp)]
      dsimp only
      rw [List.cons_append, hnext]
      simp [joined, numberedAfter]
    | true =>
      have hon : goesOn (withoutEnd raw) = true := h
      dsimp only
      rw [hon, if_pos rfl, ih, blocks_of_continues h]
      cases blocks rest with
      | nil => cases started <;> simp [numberedAfter, joined, numbered]
      | cons block more =>
        dsimp only
        rw [numberedAfter_cons, numberedAfter_cons]
        simp only [joined, Option.getD_some, List.flatMap_cons, List.append_assoc,
          List.length_cons]
        rw [Nat.add_assoc, Nat.add_comm 1]

/-- **The logical lines are the blocks**, numbered by their first lines. -/
theorem logicalLines_eq (lines : List (List Char)) :
    logicalLines lines = numbered 1 (blocks lines) := logicalFrom_eq lines 1 none

theorem numbered_append (number : Nat) (bs cs : List (List (List Char))) :
    numbered number (bs ++ cs) =
      numbered number bs ++ numbered (number + bs.flatten.length) cs := by
  induction bs generalizing number with
  | nil => rfl
  | cons block more ih =>
    simp only [List.cons_append, numbered, ih, List.flatten_cons, List.length_append, Nat.add_assoc]

/-- Behind complete lines the logical lines start afresh. -/
theorem logicalLines_append {before : List (List Char)} (h : endsOpen before = false)
    (rest : List (List Char)) :
    logicalLines (before ++ rest) =
      logicalLines before ++ numbered (before.length + 1) (blocks rest) := by
  rw [logicalLines_eq, logicalLines_eq, blocks_append h, numbered_append, flatten_blocks,
    Nat.add_comm]

/-- A logical line among those of blocks. -/
theorem mem_numbered {bs : List (List (List Char))} {number : Nat} {line : LogicalLine}
    (h : line ∈ numbered number bs) :
    ∃ before block after, bs = before ++ block :: after ∧
      line = ⟨number + before.flatten.length, joined block⟩ := by
  induction bs generalizing number with
  | nil => cases h
  | cons block more ih =>
    rcases List.mem_cons.mp h with rfl | h
    · exact ⟨[], block, more, rfl, rfl⟩
    · obtain ⟨before, block', after, rfl, rfl⟩ := ih h
      refine ⟨block :: before, block', after, rfl, ?_⟩
      rw [List.flatten_cons, List.length_append, Nat.add_assoc]

/-- A logical line is put together from a block of physical lines behind some others, which are
complete, and has the number of the first of them. -/
structure LogicalLine.Spans (line : LogicalLine) (lines before block after : List (List Char)) :
    Prop where
  split : lines = before ++ block ++ after
  number : line.number = before.length + 1
  text : line.text = joined block
  isBlock : Block block
  starts : endsOpen before = false
  ends : after ≠ [] → endsOpen block = false

/-- The last line of blocks is that of the last block. -/
theorem endsOpen_flatten {bs : List (List (List Char))} (hblock : ∀ block ∈ bs, Block block)
    (hclosed : ∀ block ∈ bs, endsOpen block = false) : endsOpen bs.flatten = false := by
  rcases List.eq_nil_or_concat bs with rfl | ⟨front, last, rfl⟩
  · rfl
  · rw [List.concat_eq_append] at hblock hclosed ⊢
    have hlast : last ∈ front ++ [last] := by simp
    rw [endsOpen, List.flatten_append, List.flatten_singleton,
      List.getLast?_append_of_ne_nil _ (hblock last hlast).ne_nil]
    exact hclosed last hlast

/-- **A logical line spans physical lines**, and has the number of the first of them. -/
theorem LogicalLine.spans_of_mem {lines : List (List Char)} {line : LogicalLine}
    (h : line ∈ logicalLines lines) :
    ∃ before block after, line.Spans lines before block after := by
  rw [logicalLines_eq] at h
  obtain ⟨before, block, after, hbs, rfl⟩ := mem_numbered h
  obtain ⟨hblock, hclosed⟩ := blocks_spec lines
  rw [hbs] at hblock hclosed
  have hfront : ∀ b ∈ before, endsOpen b = false := fun b hb =>
    hclosed b (by rw [List.dropLast_append_of_ne_nil (by simp)]; exact List.mem_append_left _ hb)
  refine ⟨before.flatten, block, after.flatten, ?_, Nat.add_comm _ _, rfl, hblock block (by simp),
    endsOpen_flatten (fun b hb => hblock b (by simp [hb])) hfront, fun hafter => ?_⟩
  · rw [← flatten_blocks lines, hbs]
    simp
  · refine hclosed block ?_
    cases after with
    | nil => exact absurd rfl hafter
    | cons next rest => simp

end ConfigVars
