import ConfigVars.Proofs.TextFile

/-!
# Lines that are emptied

Some logical lines are taken out by emptying the physical lines that they span (`emptied`): in every
block that makes such a line, each physical line is replaced by an empty one.  An empty line ends
where it is, so emptied blocks go on with nothing, and as there are as many physical lines as
before, all others keep their numbers.  What is kept of the emptied lines are the logical lines that
were not taken out (`kept_emptied`).
-/

namespace ConfigVars

open ConfigVars.Text

/-! ### Blocks by themselves -/

/-- A block is cut nowhere. -/
theorem Block.blocks_eq {block : List (List Char)} (h : Block block) : blocks block = [block] := by
  induction block with
  | nil => exact absurd rfl h.ne_nil
  | cons raw rest ih =>
    cases rest with
    | nil => cases hgoes : continues raw <;> simp [blocks, hgoes]
    | cons next more =>
      have hgoes : continues raw = true := h.goes_on raw (by simp)
      have hrest : Block (next :: more) :=
        ⟨List.cons_ne_nil _ _, fun line hline => h.goes_on line (by
          rw [List.dropLast_cons_cons]
          exact List.mem_cons_of_mem _ hline)⟩
      rw [blocks_of_continues hgoes, ih hrest]

variable {out : LogicalLine → Bool}

/-- Blocks as they are cut: all but the last are closed. -/
structure Cut (bs : List (List (List Char))) : Prop where
  isBlock : ∀ block ∈ bs, Block block
  closed : ∀ block ∈ bs.dropLast, endsOpen block = false

theorem cut_blocks (lines : List (List Char)) : Cut (blocks lines) :=
  ⟨(blocks_spec lines).1, (blocks_spec lines).2⟩

theorem Cut.tail {block : List (List Char)} {more : List (List (List Char))}
    (h : Cut (block :: more)) : Cut more where
  isBlock b hb := h.isBlock b (List.mem_cons_of_mem _ hb)
  closed b hb := h.closed b (by
    cases more with
    | nil => cases hb
    | cons next rest =>
      rw [List.dropLast_cons_cons]
      exact List.mem_cons_of_mem _ hb)

/-- A block in front of others is closed. -/
theorem Cut.closed_head {block next : List (List Char)} {more : List (List (List Char))}
    (h : Cut (block :: next :: more)) : endsOpen block = false :=
  h.closed block (by rw [List.dropLast_cons_cons]; exact List.mem_cons_self)

end ConfigVars
