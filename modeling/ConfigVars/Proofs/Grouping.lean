import ConfigVars.Proofs.Emptied
import Mathlib.Data.List.DropRight
import Mathlib.Algebra.Ring.Parity

/-!
# Groups of physical lines

A physical line is a text, the backslashes at its end, and the characters that end the line
(`PhysicalLine`).  Every line is one of these, and in one way only (`PhysicalLine.raw_ofRaw`,
`PhysicalLine.raw_injective`).

Lines are grouped by a cut behind every line with an even number of backslashes (`Grouping`).  The
blocks of lines that are put together are such groups, and there are no others
(`Grouping.blocks_eq`).  So the logical lines are the groups, with the numbers of their first lines
(`logical_lines_are_groups`).
-/

namespace ConfigVars

/-! ### The parts of a physical line -/

/-- Whether a character ends a physical line. -/
def isLineEnd (c : Char) : Bool := c = '\r' || c = '\n'

/-- A physical line by its parts. -/
@[ext]
structure PhysicalLine where
  /-- What stands in front of the backslashes at the end. -/
  text : List Char
  /-- The number of backslashes at the end. -/
  backslashes : Nat
  /-- The characters that end the line. -/
  ending : List Char
  ends : ∀ c ∈ ending, isLineEnd c = true
  ending_longest : ∀ c ∈ (text ++ List.replicate backslashes '\\').getLast?, isLineEnd c = false
  backslashes_longest : text.getLast? ≠ some '\\'

namespace PhysicalLine

/-- The line without the characters that end it. -/
def body (p : PhysicalLine) : List Char := p.text ++ List.replicate p.backslashes '\\'

/-- The line as it is read. -/
def raw (p : PhysicalLine) : List Char := p.body ++ p.ending

/-- What the line adds to a logical line: the last of its backslashes is lost, if it has any. -/
def added (p : PhysicalLine) : List Char := p.text ++ List.replicate (p.backslashes - 1) '\\'

end PhysicalLine

section Ends

variable {α : Type} {p : α → Bool} {front back : List α}

/-- Of a text whose end is all that a test holds for, the end is dropped. -/
theorem rdropWhile_append (hback : ∀ c ∈ back, p c = true)
    (hfront : ∀ c ∈ front.getLast?, p c = false) : (front ++ back).rdropWhile p = front := by
  have hlast : ∀ c ∈ front.reverse.head?, p c = false := by
    rw [List.head?_reverse]
    exact hfront
  have htaken := Text.takeWhile_front (fun c hc => hback c (List.mem_reverse.mp hc)) hlast
  rw [List.rdropWhile, List.reverse_append, htaken.2, List.reverse_reverse]

/-- Of such a text, the end is taken. -/
theorem rtakeWhile_append (hback : ∀ c ∈ back, p c = true)
    (hfront : ∀ c ∈ front.getLast?, p c = false) : (front ++ back).rtakeWhile p = back := by
  have hsplit := List.rdropWhile_append_rtakeWhile (p := p) (l := front ++ back)
  rw [rdropWhile_append hback hfront] at hsplit
  exact List.append_cancel_left hsplit

/-- What is left of a text does not end with what is dropped. -/
theorem getLast?_rdropWhile (p : α → Bool) (l : List α) :
    ∀ c ∈ (l.rdropWhile p).getLast?, p c = false := by
  intro c hc
  obtain ⟨hne, rfl⟩ := List.mem_getLast?_eq_getLast hc
  exact Bool.eq_false_iff.mpr (List.rdropWhile_last_not p l hne)

end Ends

namespace PhysicalLine

variable {p q : PhysicalLine}

theorem withoutEnd_raw (p : PhysicalLine) : withoutEnd p.raw = p.body :=
  rdropWhile_append p.ends p.ending_longest

/-- The backslashes at the end of a line, and what stands in front of them. -/
theorem body_parts (p : PhysicalLine) :
    p.body.rdropWhile (· = '\\') = p.text ∧
      p.body.rtakeWhile (· = '\\') = List.replicate p.backslashes '\\' := by
  have hall : ∀ c ∈ List.replicate p.backslashes '\\', decide (c = '\\') = true := fun c hc =>
    decide_eq_true (List.eq_of_mem_replicate hc)
  have hlast : ∀ c ∈ p.text.getLast?, decide (c = '\\') = false := fun c hc =>
    decide_eq_false fun heq => p.backslashes_longest (heq ▸ hc)
  exact ⟨rdropWhile_append hall hlast, rtakeWhile_append hall hlast⟩

theorem trailingBackslashes_body (p : PhysicalLine) :
    trailingBackslashes p.body = p.backslashes := by
  rw [trailingBackslashes, ← List.length_reverse]
  exact (congrArg List.length p.body_parts.2).trans List.length_replicate

/-- **What a line adds** is its text with one backslash less. -/
theorem contribution_body (p : PhysicalLine) : contribution p.body = p.added := by
  rw [contribution, trailingBackslashes_body, body, added]
  cases p.backslashes with
  | zero => rfl
  | succ n =>
    rw [if_neg (Nat.succ_ne_zero n), List.replicate_succ', ← List.append_assoc,
      List.dropLast_concat]
    rfl

/-- **A line goes on** if the number of its backslashes is odd. -/
theorem continues_raw (p : PhysicalLine) : continues p.raw = true ↔ Odd p.backslashes := by
  rw [continues, withoutEnd_raw, goesOn, trailingBackslashes_body, decide_eq_true_iff,
    Nat.odd_iff]

/-- Lines that are read alike have the same parts. -/
theorem raw_injective : Function.Injective raw := fun p q h => by
  have hbody : p.body = q.body := by rw [← withoutEnd_raw, h, withoutEnd_raw]
  have hcount : p.backslashes = q.backslashes := by
    rw [← trailingBackslashes_body, hbody, trailingBackslashes_body]
  have htext : p.text = q.text := by rw [← p.body_parts.1, hbody, q.body_parts.1]
  have hending : p.ending = q.ending := by
    rw [raw, raw, hbody] at h
    exact List.append_cancel_left h
  exact PhysicalLine.ext htext hcount hending

/-- A line is what stands in front of the backslashes at its end, and these. -/
theorem dropped_append_backslashes (line : List Char) :
    line.rdropWhile (· = '\\') ++ List.replicate (trailingBackslashes line) '\\' = line := by
  have htaken : line.rtakeWhile (· = '\\') = List.replicate (trailingBackslashes line) '\\' := by
    refine List.eq_replicate_iff.mpr ⟨List.length_reverse, fun c hc => ?_⟩
    simpa using List.mem_rtakeWhile_imp hc
  rw [← htaken, List.rdropWhile_append_rtakeWhile]

/-- The parts of a line. -/
def ofRaw (raw : List Char) : PhysicalLine where
  text := (withoutEnd raw).rdropWhile (· = '\\')
  backslashes := trailingBackslashes (withoutEnd raw)
  ending := raw.rtakeWhile isLineEnd
  ends c hc := List.mem_rtakeWhile_imp hc
  ending_longest := by
    rw [dropped_append_backslashes]
    exact getLast?_rdropWhile isLineEnd raw
  backslashes_longest h := by
    simpa using getLast?_rdropWhile _ _ _ h

theorem raw_ofRaw (raw : List Char) : (ofRaw raw).raw = raw := by
  rw [PhysicalLine.raw, body, ofRaw, dropped_append_backslashes]
  exact List.rdropWhile_append_rtakeWhile

theorem map_raw_ofRaw (lines : List (List Char)) : (lines.map ofRaw).map raw = lines := by
  rw [List.map_map]
  exact (List.map_congr_left fun line _ => raw_ofRaw line).trans (List.map_id lines)

end PhysicalLine

/-! ### Groups -/

/-- Physical lines in groups: the cut is behind every line with an even number of backslashes, and
nowhere else. -/
structure Grouping (lines : List (List Char)) (groups : List (List PhysicalLine)) : Prop where
  lines_eq : groups.flatten.map PhysicalLine.raw = lines
  ne_nil : ∀ group ∈ groups, group ≠ []
  inside : ∀ group ∈ groups, ∀ p ∈ group.dropLast, Odd p.backslashes
  between : ∀ group ∈ groups.dropLast, ∀ p ∈ group.getLast?, Even p.backslashes

/-- The lines of groups as they are read. -/
def rawGroups (groups : List (List PhysicalLine)) : List (List (List Char)) :=
  groups.map (List.map PhysicalLine.raw)

/-- Blocks that are cut as they should be are the blocks of their lines. -/
theorem Cut.blocks_flatten {bs : List (List (List Char))} (h : Cut bs) :
    blocks bs.flatten = bs := by
  induction bs with
  | nil => rfl
  | cons block more ih =>
    have hblock := (h.isBlock block List.mem_cons_self).blocks_eq
    cases more with
    | nil => rw [List.flatten_singleton, hblock]
    | cons next rest =>
      rw [List.flatten_cons, blocks_append h.closed_head, hblock, ih h.tail]
      rfl

theorem endsOpen_map_raw (group : List PhysicalLine) :
    endsOpen (group.map PhysicalLine.raw) = false ↔ ∀ p ∈ group.getLast?, Even p.backslashes := by
  rw [endsOpen, List.getLast?_map]
  cases group.getLast? with
  | none => simp
  | some p =>
    rw [← Bool.not_eq_true, Option.map_some, Option.any_some, p.continues_raw, Nat.not_odd_iff_even]
    simp

theorem block_map_raw (group : List PhysicalLine) :
    Block (group.map PhysicalLine.raw) ↔ group ≠ [] ∧ ∀ p ∈ group.dropLast, Odd p.backslashes := by
  refine ⟨fun h => ⟨fun hnil => h.ne_nil (by rw [hnil]; rfl), fun p hp => ?_⟩,
    fun h => ⟨fun hnil => h.1 (List.map_eq_nil_iff.mp hnil), fun raw hraw => ?_⟩⟩
  · refine p.continues_raw.mp (h.goes_on _ ?_)
    rw [← List.map_dropLast]
    exact List.mem_map_of_mem hp
  · rw [← List.map_dropLast] at hraw
    obtain ⟨p, hp, rfl⟩ := List.mem_map.mp hraw
    exact p.continues_raw.mpr (h.2 p hp)

/-- **Groups are cut as blocks are.** -/
theorem grouping_iff {lines : List (List Char)} {groups : List (List PhysicalLine)} :
    Grouping lines groups ↔ (rawGroups groups).flatten = lines ∧ Cut (rawGroups groups) := by
  have hflatten : groups.flatten.map PhysicalLine.raw = (rawGroups groups).flatten :=
    List.map_flatten
  have hlast : (rawGroups groups).dropLast = groups.dropLast.map (List.map PhysicalLine.raw) :=
    List.map_dropLast.symm
  constructor
  · rintro ⟨hlines, hne, hinside, hbetween⟩
    refine ⟨hflatten.symm.trans hlines, fun block hblock => ?_, fun block hblock => ?_⟩
    · obtain ⟨group, hgroup, rfl⟩ := List.mem_map.mp hblock
      exact (block_map_raw group).mpr ⟨hne group hgroup, hinside group hgroup⟩
    · rw [hlast] at hblock
      obtain ⟨group, hgroup, rfl⟩ := List.mem_map.mp hblock
      exact (endsOpen_map_raw group).mpr (hbetween group hgroup)
  · rintro ⟨hlines, hblocks, hclosed⟩
    have hblock : ∀ group ∈ groups, Block (group.map PhysicalLine.raw) := fun group hgroup =>
      hblocks _ (List.mem_map_of_mem hgroup)
    refine ⟨hflatten.trans hlines, fun group hgroup => ?_, fun group hgroup => ?_,
      fun group hgroup => ?_⟩
    · exact ((block_map_raw group).mp (hblock group hgroup)).1
    · exact ((block_map_raw group).mp (hblock group hgroup)).2
    · refine (endsOpen_map_raw group).mp (hclosed _ ?_)
      rw [hlast]
      exact List.mem_map_of_mem hgroup

/-- The groups that lines fall into. -/
def groupsOf (lines : List (List Char)) : List (List PhysicalLine) :=
  (blocks lines).map (List.map PhysicalLine.ofRaw)

theorem rawGroups_groupsOf (lines : List (List Char)) :
    rawGroups (groupsOf lines) = blocks lines := by
  rw [rawGroups, groupsOf, List.map_map]
  exact (List.map_congr_left fun block _ => PhysicalLine.map_raw_ofRaw block).trans (List.map_id _)

theorem groupsOf_grouping (lines : List (List Char)) : Grouping lines (groupsOf lines) := by
  rw [grouping_iff, rawGroups_groupsOf]
  exact ⟨flatten_blocks lines, cut_blocks lines⟩

namespace Grouping

variable {lines : List (List Char)} {groups groups' : List (List PhysicalLine)}

/-- **Groups are the blocks** of their lines. -/
theorem blocks_eq (h : Grouping lines groups) : blocks lines = rawGroups groups := by
  obtain ⟨hlines, hcut⟩ := grouping_iff.mp h
  rw [← hlines, hcut.blocks_flatten]

theorem unique (h : Grouping lines groups) (h' : Grouping lines groups') : groups' = groups :=
  (List.map_injective_iff.mpr (List.map_injective_iff.mpr PhysicalLine.raw_injective))
    (h'.blocks_eq.symm.trans h.blocks_eq)

end Grouping

/-! ### Numbers -/

/-- The number of the first line of a group, counted from one. -/
def firstLine (groups : List (List PhysicalLine)) (k : Nat) : Nat :=
  (groups.take k).flatten.length + 1

/-- A line of a group, with its number among all lines. -/
def HasLine (groups : List (List PhysicalLine)) (k number : Nat) (p : PhysicalLine) : Prop :=
  ∃ group j, groups[k]? = some group ∧ group[j]? = some p ∧ number = firstLine groups k + j

section Numbers

variable {group : List PhysicalLine} {groups : List (List PhysicalLine)} {p : PhysicalLine}

theorem firstLine_succ (group : List PhysicalLine) (groups : List (List PhysicalLine)) (k : Nat) :
    firstLine (group :: groups) (k + 1) = group.length + firstLine groups k := by
  rw [firstLine, firstLine, List.take_succ_cons, List.flatten_cons, List.length_append,
    Nat.add_assoc]

theorem hasLine_zero {number : Nat} :
    HasLine (group :: groups) 0 number p ↔ ∃ j, group[j]? = some p ∧ number = 1 + j := by
  simp [HasLine, firstLine]

theorem hasLine_succ {k number : Nat} :
    HasLine (group :: groups) (k + 1) number p ↔
      ∃ n, HasLine groups k n p ∧ number = group.length + n := by
  simp only [HasLine, List.getElem?_cons_succ, firstLine_succ]
  constructor
  · rintro ⟨g, j, hg, hj, rfl⟩
    exact ⟨_, ⟨g, j, hg, hj, rfl⟩, Nat.add_assoc _ _ _⟩
  · rintro ⟨_, ⟨g, j, hg, hj, rfl⟩, rfl⟩
    exact ⟨g, j, hg, hj, (Nat.add_assoc _ _ _).symm⟩

theorem HasLine.pos {k number : Nat} (h : HasLine groups k number p) : 1 ≤ number := by
  obtain ⟨_, j, -, -, rfl⟩ := h
  rw [firstLine]
  omega

/-- **Every line is in one group.** -/
theorem existsUnique_hasLine {n : Nat} (h : groups.flatten[n]? = some p) :
    ∃! k, HasLine groups k (n + 1) p := by
  induction groups generalizing n with
  | nil => cases h
  | cons group more ih =>
    rw [List.flatten_cons] at h
    by_cases hn : n < group.length
    · -- the line is in the first group, as those of the others have higher numbers
      rw [List.getElem?_append_left hn] at h
      refine ⟨0, hasLine_zero.mpr ⟨n, h, Nat.add_comm n 1⟩, fun k hk => ?_⟩
      cases k with
      | zero => rfl
      | succ k =>
        obtain ⟨m, hm, heq⟩ := hasLine_succ.mp hk
        have := hm.pos
        omega
    · rw [List.getElem?_append_right (by omega)] at h
      obtain ⟨k, hk, honly⟩ := ih h
      refine ⟨k + 1, hasLine_succ.mpr ⟨_, hk, by omega⟩, fun k' hk' => ?_⟩
      cases k' with
      | zero =>
        obtain ⟨j, hj, heq⟩ := hasLine_zero.mp hk'
        have := (List.getElem?_eq_some_iff.mp hj).1
        omega
      | succ k' =>
        obtain ⟨m, hm, heq⟩ := hasLine_succ.mp hk'
        obtain rfl : m = n - group.length + 1 := by omega
        rw [honly k' hm]

theorem joined_map_raw (group : List PhysicalLine) :
    joined (group.map PhysicalLine.raw) = group.flatMap PhysicalLine.added := by
  rw [joined, List.flatMap_map]
  congr 1
  funext p
  rw [p.withoutEnd_raw, p.contribution_body]

/-- The logical lines of groups, one for each, where the first group starts at a number. -/
theorem numbered_rawGroups (number : Nat) (groups : List (List PhysicalLine)) :
    numbered number (rawGroups groups) = groups.mapIdx fun k group =>
      ⟨number + (groups.take k).flatten.length, group.flatMap PhysicalLine.added⟩ := by
  induction groups generalizing number with
  | nil => rfl
  | cons group more ih =>
    have hraw : rawGroups (group :: more) = group.map PhysicalLine.raw :: rawGroups more := rfl
    rw [hraw, numbered, ih, joined_map_raw, List.mapIdx_cons, List.length_map]
    simp only [List.take_zero, List.flatten_nil, List.length_nil, Nat.add_zero,
      List.take_succ_cons, List.flatten_cons, List.length_append, Nat.add_assoc]

/-- Later blocks have higher numbers. -/
theorem numbered_increasing {bs : List (List (List Char))} (h : ∀ block ∈ bs, Block block)
    (number : Nat) : (numbered number bs).Pairwise fun a b => a.number < b.number := by
  induction bs generalizing number with
  | nil => exact List.Pairwise.nil
  | cons block more ih =>
    refine List.pairwise_cons.mpr ⟨fun line hline => ?_, ih (fun b hb => h b (by simp [hb])) _⟩
    obtain ⟨before, block', after, -, rfl⟩ := mem_numbered hline
    have := List.length_pos_of_ne_nil (h block List.mem_cons_self).ne_nil
    dsimp only
    omega

end Numbers

/-- **The logical lines are the groups of physical lines.**  Lines are grouped in one way.  There is
one logical line for each group, in order, with the number of the first line of the group and the
text that the lines of the group add.  So the numbers increase, and every physical line is in one
group. -/
theorem logical_lines_are_groups (lines : List (List Char)) :
    ∃ groups, Grouping lines groups ∧ (∀ groups', Grouping lines groups' → groups' = groups) ∧
      logicalLines lines = groups.mapIdx (fun k group =>
        ⟨firstLine groups k, group.flatMap PhysicalLine.added⟩) ∧
      (logicalLines lines).Pairwise (fun a b => a.number < b.number) ∧
      ∀ n raw, lines[n]? = some raw → ∃! k, ∃ p, p.raw = raw ∧ HasLine groups k (n + 1) p := by
  have hgrouping := groupsOf_grouping lines
  have hblocks : logicalLines lines = numbered 1 (rawGroups (groupsOf lines)) := by
    rw [logicalLines_eq, hgrouping.blocks_eq]
  refine ⟨groupsOf lines, hgrouping, fun groups' h => hgrouping.unique h, ?_, ?_, ?_⟩
  · rw [hblocks, numbered_rawGroups]
    simp only [firstLine, Nat.add_comm]
  · rw [logicalLines_eq]
    exact numbered_increasing (blocks_spec lines).1 1
  · intro n raw hraw
    rw [← hgrouping.lines_eq, List.getElem?_map] at hraw
    obtain ⟨p, hp, rfl⟩ := Option.map_eq_some_iff.mp hraw
    obtain ⟨k, hk, honly⟩ := existsUnique_hasLine hp
    refine ⟨k, ⟨p, rfl, hk⟩, ?_⟩
    rintro k' ⟨p', hp', hk'⟩
    rw [PhysicalLine.raw_injective hp'] at hk'
    exact honly k' hk'

/-- Two lines that are put together, and one that waits for a third in vain. -/
example :
    logicalLines ["a\\\r\n".toList, "b\\\\\n".toList, "c\\".toList] =
      [⟨1, "ab\\".toList⟩, ⟨3, "c".toList⟩] := by
  decide +kernel

end ConfigVars
