import ConfigVars.Proofs.LineAccount
import ConfigVars.Proofs.Renumbering

/-!
# Lines that are left out

A *remark* is a line that is blank or a comment (`isRemark`).  Taking one out of the physical lines
takes one logical line out, and with the lines behind it one number down
(`Removable.kept_without`), provided that it starts a logical line of its own and takes nothing with
it that would be read without it.  A remark that goes on with the next line does: what it is joined
with is a part of the comment (`joined_remark`), and is read where the remark is not there.

A reading without a remark is one of lines with other numbers, so it goes in lockstep with the whole
reading where the numbers cannot be told apart (`Renumbers`).  It leaves the same values and gives
the same outcome, with the numbers of the problems behind the remark one lower
(`remark_is_left_out`).
-/

namespace ConfigVars

open ConfigVars.Text Run

/-! ### Remarks -/

/-- Whether a text is blank or a comment. -/
def isRemark (cs : List Char) : Bool := (cs.dropWhile isBlank).head?.all (· = '#')

/-- What is left out is a remark. -/
theorem isIgnored_trimWhile (cs : List Char) :
    isIgnored (trimWhile isBlank cs) = isRemark cs := by
  rw [trimWhile, isRemark]
  cases hstart : cs.dropWhile isBlank with
  | nil => rfl
  | cons c rest =>
    have hhead := List.head?_dropWhile_not isBlank cs
    rw [hstart] at hhead
    have hblank : isBlank c = false := by simpa using hhead
    -- what is dropped at the end does not reach the character that is not blank
    have hne : dropWhileEnd isBlank (c :: rest) ≠ [] := fun hnil => by
      rw [List.rdropWhile_eq_nil_iff.mp hnil c List.mem_cons_self] at hblank
      cases hblank
    obtain ⟨c', more, hmore⟩ := List.exists_cons_of_ne_nil hne
    have hprefix : dropWhileEnd isBlank (c :: rest) <+: c :: rest := List.rdropWhile_prefix _ _
    rw [hmore, List.cons_prefix_cons] at hprefix
    rw [hmore, hprefix.1]
    simp [isIgnored]

theorem LogicalLine.kept_eq (line : LogicalLine) : line.kept = !isRemark line.text := by
  rw [kept, trimmed, isIgnored_trimWhile]

/-- A remark that is cut off is one. -/
theorem isRemark_of_prefix {start cs : List Char} (hstart : start <+: cs)
    (h : isRemark cs = true) : isRemark start = true := by
  obtain ⟨rest, rfl⟩ := hstart
  rw [isRemark] at h ⊢
  cases hdrop : start.dropWhile isBlank with
  | nil => rfl
  | cons c more =>
    rw [List.dropWhile_append, hdrop] at h
    exact h

/-- A remark that is not blank is one with anything behind it. -/
theorem isRemark_append {cs : List Char} (h : isRemark cs = true)
    (hne : cs.dropWhile isBlank ≠ []) (more : List Char) : isRemark (cs ++ more) = true := by
  obtain ⟨c, rest, hcs⟩ := List.exists_cons_of_ne_nil hne
  rw [isRemark, hcs] at h
  rw [isRemark, List.dropWhile_append, hcs]
  exact h

theorem isPrefix_contribution (line : List Char) : contribution line <+: line := by
  rw [contribution]
  split
  · exact List.prefix_rfl
  · exact List.dropLast_prefix line

theorem isPrefix_withoutEnd (raw : List Char) : withoutEnd raw <+: raw :=
  List.rdropWhile_prefix _ raw

/-- A line that goes on ends in a backslash, which it loses. -/
theorem eq_contribution_of_goesOn {line : List Char} (h : goesOn line = true) :
    line = contribution line ++ ['\\'] := by
  have hne : trailingBackslashes line ≠ 0 := fun hzero => by
    rw [goesOn, hzero] at h
    cases h
  rw [contribution, if_neg hne]
  rcases List.eq_nil_or_concat line with rfl | ⟨front, c, rfl⟩
  · exact absurd rfl hne
  · rw [List.concat_eq_append] at hne ⊢
    have hc : c = '\\' := by
      by_contra hc
      exact hne (by simp [trailingBackslashes, hc])
    rw [List.dropLast_concat, hc]

/-- **A remark makes one of all that it goes on with.** -/
theorem joined_remark {raw : List Char} {block : List (List Char)} (h : isRemark raw = true)
    (hgoes : block = [] ∨ continues raw = true) : isRemark (joined (raw :: block)) = true := by
  have hline : isRemark (withoutEnd raw) = true := isRemark_of_prefix (isPrefix_withoutEnd raw) h
  have hpart : isRemark (contribution (withoutEnd raw)) = true :=
    isRemark_of_prefix (isPrefix_contribution _) hline
  rcases hgoes with rfl | hgoes
  · rw [joined, List.flatMap_singleton]
    exact hpart
  · refine isRemark_append hpart (fun hblank => ?_) (joined block)
    -- the backslash at the end would be the first character that is not blank
    have hall : isBlank '\\' = false := by decide +kernel
    rw [eq_contribution_of_goesOn hgoes, isRemark, List.dropWhile_append, hblank] at hline
    simp [hall] at hline

/-! ### Logical lines without a remark -/

/-- The number of a line when the `n`th line is taken out. -/
def loweredNumber (n k : Nat) : Nat := if n < k then k - 1 else k

/-- A logical line when the `n`th physical line is taken out. -/
def LogicalLine.lowered (n : Nat) (line : LogicalLine) : LogicalLine :=
  { line with number := loweredNumber n line.number }

theorem filter_kept_lowered (n : Nat) (lines : List LogicalLine) :
    (lines.map (LogicalLine.lowered n)).filter LogicalLine.kept =
      (lines.filter LogicalLine.kept).map (LogicalLine.lowered n) := by
  rw [List.filter_map]
  rfl

/-- Lines in front of the one that is taken out keep their numbers. -/
theorem LogicalLine.lowered_of_mem {lines : List (List Char)} {line : LogicalLine}
    (h : line ∈ logicalLines lines) : line.lowered (lines.length + 1) = line := by
  obtain ⟨before, block, after, hspans⟩ := LogicalLine.spans_of_mem h
  have hnumber := hspans.number
  have hne : block.length ≠ 0 := by simpa using hspans.isBlock.ne_nil
  have hlength : lines.length = before.length + block.length + after.length := by
    rw [hspans.split, List.length_append, List.length_append]
  rw [lowered, loweredNumber, if_neg (by omega)]

/-- Lines behind the one that is taken out have numbers one lower. -/
theorem numbered_lowered {n number : Nat} (h : n ≤ number) (bs : List (List (List Char))) :
    (numbered (number + 1) bs).map (LogicalLine.lowered n) = numbered number bs := by
  induction bs generalizing number with
  | nil => rfl
  | cons block more ih =>
    have hnext := ih (Nat.le_add_right_of_le h : n ≤ number + block.length)
    have hnumber : loweredNumber n (number + 1) = number := by
      rw [loweredNumber, if_pos (by omega), Nat.add_sub_cancel]
    rw [numbered, numbered, List.map_cons, Nat.add_right_comm, hnext, LogicalLine.lowered, hnumber]

/-- A remark may be taken out: it starts a logical line, and if it goes on, then with what is left
out without it too. -/
structure Removable (before : List (List Char)) (raw : List Char) (after : List (List Char)) :
    Prop where
  remark : isRemark raw = true
  complete : endsOpen before = false
  takes : continues raw = true → ∀ block ∈ (blocks after).head?, isRemark (joined block) = true

/-- What is kept behind a remark. -/
theorem Removable.kept_behind {before after : List (List Char)} {raw : List Char}
    (h : Removable before raw after) (number : Nat) :
    (numbered number (blocks after)).filter LogicalLine.kept =
      ((numbered number (blocks (raw :: after))).filter LogicalLine.kept).map
        (LogicalLine.lowered number) := by
  have hdrop : ∀ {block} k lines, isRemark (joined block) = true →
      (⟨k, joined block⟩ :: lines : List LogicalLine).filter LogicalLine.kept =
        lines.filter LogicalLine.kept := fun k lines hremark =>
    List.filter_cons_of_neg (by rw [LogicalLine.kept_eq]; simp [hremark])
  cases hgoes : continues raw with
  | false =>
    rw [blocks_of_stops hgoes, numbered, hdrop _ _ (joined_remark h.remark (.inl rfl)),
      ← filter_kept_lowered, List.length_singleton, numbered_lowered le_rfl]
  | true =>
    rw [blocks_of_continues hgoes]
    cases hafter : blocks after with
    | nil =>
      dsimp only
      rw [numbered, numbered, hdrop _ _ (joined_remark h.remark (.inl rfl))]
      rfl
    | cons block more =>
      have hnext := h.takes hgoes block (by rw [hafter]; rfl)
      dsimp only
      rw [numbered, numbered, hdrop _ _ hnext,
        hdrop _ _ (joined_remark h.remark (.inr hgoes)), ← filter_kept_lowered,
        List.length_cons, ← Nat.add_assoc, numbered_lowered (Nat.le_add_right _ _)]

/-- **What is kept without a remark** is what is kept with it, one number lower behind it. -/
theorem Removable.kept_without {before after : List (List Char)} {raw : List Char}
    (h : Removable before raw after) :
    (logicalLines (before ++ after)).filter LogicalLine.kept =
      ((logicalLines (before ++ raw :: after)).filter LogicalLine.kept).map
        (LogicalLine.lowered (before.length + 1)) := by
  rw [logicalLines_append h.complete, logicalLines_append h.complete, List.filter_append,
    List.filter_append, List.map_append, h.kept_behind]
  congr 1
  rw [← filter_kept_lowered, List.map_congr_left fun line hmem => LogicalLine.lowered_of_mem hmem,
    List.map_id']

/-! ### Numbers in problems -/

/-- A place in the physical lines when the `n`th is taken out. -/
def Place.lowered (n : Nat) (place : Place) : Place :=
  { place with line := place.line.map fun k => if (n : Int) < k then k - 1 else k }

/-- A problem when the `n`th physical line is taken out: its place follows the lines. -/
def Problem.lowered (n : Nat) : Problem → Problem
  | .reading fault place => .reading fault (place.lowered n)
  | p => p

/-- An outcome when the `n`th physical line is taken out. -/
def Outcome.lowered (n : Nat) (o : Outcome) : Outcome :=
  { o with problems := o.problems.map (Problem.lowered n) }

theorem Outcome.lowered_withProblem (n : Nat) (o : Outcome) (p : Problem) :
    (o.withProblem p).lowered n = (o.lowered n).withProblem (p.lowered n) := by
  simp [lowered, withProblem]

/-- The numbers when the `n`th physical line is taken out. -/
def Renumbering.without (n : Nat) : Renumbering where
  number := loweredNumber n
  place k := if (n : Int) < k then k - 1 else k
  place_number k := by
    rw [loweredNumber]
    split_ifs <;> omega

theorem Problem.renumbered_without (n : Nat) (p : Problem) :
    p.renumbered (.without n) = p.lowered n := by
  cases p <;> rfl

theorem Renumbering.tallies_lowered (n : Nat) :
    (Renumbering.without n).Tallies fun o o' => o' = o.lowered n where
  counted := by
    rintro o _ rfl
    rfl
  withProblem := by
    rintro o _ p rfl
    rw [Problem.renumbered_without, Outcome.lowered_withProblem]

/-! ### Readings of renumbered lines -/

/-- A relation between worlds that are told problems with different numbers: they have one registry,
and what a reading of lines calls keeps them in the relation. -/
structure Renumbers (call : Caller) (n : Nat) (R : World → World → Prop) : Prop where
  registry : ∀ w w', R w w' → w.registry = w'.registry
  report : ∀ p, Lockstep Unstopped R Eq (report call p) (report call (p.lowered n))
  validate : ∀ name v, Lockstep Unstopped R Eq (validate call name v) (validate call name v)
  assign : ∀ name v, Lockstep Unstopped R Eq (assign call name v) (assign call name v)
  reset : ∀ name, Lockstep Unstopped R Eq (reset call name) (reset call name)
  detail : ∀ message, Lockstep Unstopped R Eq (detail message) (detail message)

namespace Renumbers

variable {call : Caller} {n : Nat} {R : World → World → Prop}

/-- Two runs whose outcomes differ in numbers only. -/
def Readings (n : Nat) (R : World → World → Prop) (x y : Run Outcome) : Prop :=
  Lockstep Unstopped R (fun o o' => o' = o.lowered n) x y

/-- The numbers without a line cannot be told from those with it. -/
theorem hidden (h : Renumbers call n R) : (Renumbering.without n).Hidden call R where
  registry w w' hw := ⟨_, (h.registry w w' hw).symm⟩
  report p := Problem.renumbered_without n p ▸ h.report p
  validate := h.validate
  assign := h.assign
  reset := h.reset

theorem applyLines (h : Renumbers call n R) (source : String) (o : Outcome)
    (lines : List LogicalLine) :
    Readings n R (applyLines call none source o lines)
      (applyLines call none source (o.lowered n) (lines.map (LogicalLine.lowered n))) :=
  h.hidden.applyLines (Renumbering.tallies_lowered n) rfl source lines

end Renumbers

/-- Only the lines that are kept count. -/
theorem applyLines_kept (call : Caller) (source : String) (o : Outcome) (lines : List LogicalLine)
    (w : World) :
    (applyLines call none source o (lines.filter LogicalLine.kept)).ends w =
      (applyLines call none source o lines).ends w := by
  induction lines generalizing o w with
  | nil => rfl
  | cons line rest ih =>
    cases hkept : line.kept with
    | false =>
      rw [List.filter_cons_of_neg (by simp [hkept]), ih, applyLines, ends_bind,
        applyLine_of_ignored hkept]
    | true =>
      rw [List.filter_cons_of_pos hkept, applyLines, applyLines, ends_bind, ends_bind]
      rcases (applyLine call none source o line).ends w with ⟨result, w₁⟩
      cases result with
      | ok o₁ => exact ih o₁ w₁
      | error f => rfl

theorem applyLines_kept_bind {α : Type} (call : Caller) (source : String) (o : Outcome)
    (lines : List LogicalLine) (f : Outcome → Run α) (w : World) :
    (applyLines call none source o lines >>= f).ends w =
      (applyLines call none source o (lines.filter LogicalLine.kept) >>= f).ends w := by
  rw [ends_bind, ends_bind, applyLines_kept]

/-- **Sources that differ in a remark are read alike**, wherever what is called is not told apart
by numbers. -/
theorem Renumbers.readSource {call : Caller} {R : World → World → Prop} {w : World}
    {before after : List String} {raw : String}
    (h : Renumbers call (before.length + 1) R) (hw : R w w)
    (hfile : w.registry.settings.fileParse = none) (hline : w.registry.settings.lineParse = none)
    (hremark : Removable (before.map String.toList) raw.toList (after.map String.toList))
    {s s' : Source} (hname : s'.name = s.name)
    (hread : s.read w.files = .ok { lines := before ++ raw :: after })
    (hread' : s'.read w.files = .ok { lines := before ++ after }) :
    Paired Unstopped R (fun o o' => o' = o.lowered (before.length + 1))
      ((readSource call s).ends w) ((readSource call s').ends w) := by
  rw [readSource_ends call hfile hline hread, readSource_ends call hfile hline hread', hname,
    applyLines_kept_bind, applyLines_kept_bind call s.name _ (logicalLines _)]
  have hkept := hremark.kept_without
  rw [← List.map_append, List.length_map, ← List.map_cons, ← List.map_append] at hkept
  rw [hkept]
  refine (h.applyLines s.name (.fresh s.name) _).bind (fun o o' ho => ?_) w w hw
  subst ho
  have hcount : (o.lowered (before.length + 1)).problems.length = o.problems.length :=
    List.length_map _
  rw [hcount]
  exact (h.detail _).bind_eq fun _ => .pure rfl

/-! ### Worlds that are told different numbers -/

section Shared

variable {α : Type} {call : Caller}

/-- **An idle sink does not see that a line is missing**, whatever validators and hooks of variables
do. -/
theorem renumbers_of_idleSink (depth n : Nat) {settings : Settings}
    (hsink : settings.IdleSink (Callable.call depth)) :
    Renumbers (Callable.call depth) n
      (Shared (fun r => r.settings = settings) fun _ _ => True) := by
  have hhidden := hidden_of_idleSink depth (.without n) hsink
  have hdetail : ∀ message, Alike (fun r => r.settings = settings) (detail message)
      (detail message) := .detail
  exact {
    registry := fun _ _ h => h.registry
    report := fun p => Problem.renumbered_without n p ▸ hhidden.report p
    validate := hhidden.validate
    assign := hhidden.assign
    reset := hhidden.reset
    detail := fun message =>
      .of_oblivious (.detail message) (fun w hw => (hdetail message w hw).2)
        fun _ _ _ => trivial }

/-- Behind what both have been told before, one of two worlds has been told some problems, and the
other the same ones with other numbers. -/
def ToldLowered (told : World → List Problem) (before : List Problem) (n : Nat) (w w' : World) :
    Prop :=
  ∃ ps, told w = before ++ ps ∧ told w' = before ++ ps.map (Problem.lowered n)

/-- A run that the sink does not hear of, and that changes values at most. -/
def Unheard (start : Registry) (told : World → List Problem) (x : Run α) : Prop :=
  ∀ w : World, start.Revalued w.registry →
    start.Revalued (x.ends w).2.registry ∧ told (x.ends w).2 = told w

section Quiet

variable {start : Registry} {told : World → List Problem}

theorem validate_unheard (hquiet : start.Quiet call) (hhears : Hears call start told)
    (name : String) (v : Value) : Unheard start told (validate call name v) := fun w hr => by
  refine ⟨?_, hhears.check name v w hr⟩
  cases hfind : w.registry.find name with
  | error p =>
    rw [validate, ends_bind_registry, hfind]
    exact hr
  | ok found =>
    obtain ⟨valid, w', hends, hsame⟩ := (hquiet.revalued hr).validate_ends hfind v
    rw [hends, hsame]
    exact hr

theorem assign_unheard (hquiet : start.Quiet call) (hhears : Hears call start told)
    (name : String) (v : Value) : Unheard start told (assign call name v) := fun w hr => by
  cases hfind : w.registry.find name with
  | error p =>
    rw [assign_ends, hfind]
    exact ⟨hr, rfl⟩
  | ok found =>
    have hspec := (Registry.specs_get?_of_find hfind).2
    rw [assign_ends_silent call hfind ((hquiet.revalued hr).silent _ _ hspec)]
    exact ⟨hr.trans ⟨_, rfl⟩, hhears.elsewhere _ _⟩

theorem reset_unheard (hquiet : start.Quiet call) (hhears : Hears call start told)
    (name : String) : Unheard start told (reset call name) := fun w hr => by
  rw [reset_ends]
  cases w.registry.find name with
  | error p => exact ⟨hr, rfl⟩
  | ok found => exact assign_unheard hquiet hhears found.1 found.2.default w hr

theorem detail_unheard (hhears : Hears call start told) (message : String) :
    Unheard start told (detail message) := fun w hr => by
  obtain ⟨w', hends, hsame⟩ := detail_ends message w
  refine ⟨?_, hhears.detail message w⟩
  rw [hends, hsame]
  exact hr

/-- A run that is not heard keeps what has been told. -/
theorem Unheard.lockstep {x : Run α} (h : Unheard start told x) (hx : Oblivious x)
    (before : List Problem) (n : Nat) :
    Lockstep Unstopped (Shared start.Revalued (ToldLowered told before n)) Eq x x :=
  .of_oblivious hx (fun w hw => (h w hw).1) fun w w' hw => by
    rw [ToldLowered, (h w hw.holds).2, (h w' (hw.registry ▸ hw.holds)).2]
    exact hw.observed

/-- A report is heard on both sides. -/
theorem report_heard (hquiet : start.Quiet call) (hhears : Hears call start told)
    (before : List Problem) (n : Nat) (p : Problem) :
    Lockstep Unstopped (Shared start.Revalued (ToldLowered told before n)) Eq (report call p)
      (report call (p.lowered n)) := by
  intro w w' hw
  have hr' : start.Revalued w'.registry := hw.registry ▸ hw.holds
  obtain ⟨w₁, hends, hsame⟩ := (hquiet.revalued hw.holds).report_ends p
  obtain ⟨w₁', hends', hsame'⟩ := (hquiet.revalued hr').report_ends (p.lowered n)
  obtain ⟨ps, htold, htold'⟩ := hw.observed
  rw [hends, hends']
  refine .answers rfl ⟨(hsame.trans hw.registry).trans hsame'.symm, hsame ▸ hw.holds,
    ps ++ [p], ?_, ?_⟩
  · rw [hhears.of_report hw.holds hends, htold, List.append_assoc]
  · rw [hhears.of_report hr' hends', htold', List.map_append, List.append_assoc,
      List.map_singleton]

/-- **In a quiet registry, what the sink is told differs in numbers only.** -/
theorem renumbers_of_quiet (hcall : call.Oblivious) (hquiet : start.Quiet call)
    (hhears : Hears call start told) (before : List Problem) (n : Nat) :
    Renumbers call n (Shared start.Revalued (ToldLowered told before n)) where
  registry _ _ h := h.registry
  report := report_heard hquiet hhears before n
  validate name v := (validate_unheard hquiet hhears name v).lockstep (hcall.validate name v) _ _
  assign name v := (assign_unheard hquiet hhears name v).lockstep (hcall.assign name v) _ _
  reset name := (reset_unheard hquiet hhears name).lockstep (hcall.reset name) _ _
  detail message := (detail_unheard hhears message).lockstep (.detail message) _ _

end Quiet

end Shared

/-! ### Readings without a remark -/

/-- **A remark is left out.**  Where no hook reads files or lines and the error sink is idle, a
reading of the lines without a remark that may be taken out leaves the same registry, and gives the
same outcome but for the numbers of the problems behind the remark, which are one lower; or both
readings fail in the same way.  In a quiet registry the sink is told the problems in the same order,
with numbers that differ in this way only. -/
theorem remark_is_left_out (depth : Nat) {w : World}
    (hsink : w.registry.settings.IdleSink (Callable.call depth))
    (hfile : w.registry.settings.fileParse = none) (hline : w.registry.settings.lineParse = none)
    {before after : List String} {raw : String}
    (hremark : Removable (before.map String.toList) raw.toList (after.map String.toList))
    {s s' : Source} (hname : s'.name = s.name)
    (hread : s.read w.files = .ok { lines := before ++ raw :: after })
    (hread' : s'.read w.files = .ok { lines := before ++ after }) :
    let call := Callable.call depth
    let n := before.length + 1
    ∃ result w₁ w₁', (readSource call s).ends w = (result, w₁) ∧
      (readSource call s').ends w = (result.map (Outcome.lowered n), w₁') ∧
      w₁'.registry = w₁.registry ∧
      ∀ told, w.registry.Quiet call → Hears call w.registry told →
        ∃ ps, told w₁ = told w ++ ps ∧ told w₁' = told w ++ ps.map (Problem.lowered n) := by
  intro call n
  obtain ⟨houtcome, hworlds⟩ := ((renumbers_of_idleSink depth n hsink).readSource
    ⟨rfl, rfl, trivial⟩ hfile hline hremark hname hread hread').eq_map
  refine ⟨_, _, _, rfl, Prod.ext houtcome rfl, hworlds.registry.symm, fun told hquiet hhears => ?_⟩
  have hrenumbers := renumbers_of_quiet (Callable.call_oblivious depth) hquiet hhears (told w) n
  have hstart : ToldLowered told (told w) n w w := ⟨[], by simp, by simp⟩
  exact (hrenumbers.readSource ⟨rfl, .refl _, hstart⟩ hfile hline hremark hname hread
    hread').eq_map.2.observed

/-- A comment that goes on with an empty line is taken out from between two lines. -/
theorem note_is_left_out :
    let w := checkedSession .recorder
    let before := ["x 5"]
    let raw := "# note \\"
    let after := ["", "nosuch 1"]
    w.registry.settings.IdleSink Caller.standard ∧ w.registry.settings.fileParse = none ∧
      w.registry.settings.lineParse = none ∧
      Removable (before.map String.toList) raw.toList (after.map String.toList) ∧
      ∃ result w₁ w₁',
        (readSource Caller.standard (.lines (before ++ raw :: after))).ends w = (result, w₁) ∧
        (readSource Caller.standard (.lines (before ++ after))).ends w =
          (result.map (Outcome.lowered 2), w₁') ∧
        w₁'.registry = w₁.registry ∧
        ∃ ps, w₁.recorded = w.recorded ++ ps ∧
          w₁'.recorded = w.recorded ++ ps.map (Problem.lowered 2) := by
  intro w before raw after
  have hplain : w.registry.Plain := by decide +kernel
  have hrecorder : w.registry.settings.error = some .recorder :=
    Callable.eq_recorder (by decide +kernel)
  have hsink : w.registry.settings.IdleSink Caller.standard :=
    Settings.idleSink_of_keeper (by decide +kernel) _
  have hfile : w.registry.settings.fileParse = none :=
    Option.isNone_iff_eq_none.mp (by decide +kernel)
  have hline : w.registry.settings.lineParse = none :=
    Option.isNone_iff_eq_none.mp (by decide +kernel)
  have hremark : Removable (before.map String.toList) raw.toList (after.map String.toList) :=
    ⟨by decide +kernel, by decide +kernel, by decide +kernel⟩
  have hread : ∀ lines, (Source.lines lines).read w.files = .ok { lines } := fun _ => rfl
  have hname : (Source.lines (before ++ after)).name =
      (Source.lines (before ++ raw :: after)).name := rfl
  obtain ⟨result, w₁, w₁', hwhole, hless, hregistry, htold⟩ :=
    remark_is_left_out maxCallDepth hsink hfile hline hremark hname (hread _) (hread _)
  exact ⟨hsink, hfile, hline, hremark, result, w₁, w₁', hwhole, hless, hregistry,
    htold World.recorded (hplain.quiet _) (hplain.hears hrecorder _)⟩

/-- A comment that goes on takes the next line with it, which counts where the comment is not
there. -/
theorem note_takes_next_line :
    let w := checkedSession .recorder
    let raw := "# note \\"
    let whole := (readSource Caller.standard (.lines [raw, "x 5"])).ends w
    let less := (readSource Caller.standard (.lines ["x 5"])).ends w
    Reachable Caller.standard w ∧ w.registry.Plain ∧ w.registry.settings.fileParse = none ∧
      w.registry.settings.lineParse = none ∧ isRemark raw.toList = true ∧
      whole.1.toOption.map Outcome.applied = some 0 ∧
      less.1.toOption.map Outcome.applied = some 1 ∧
      whole.2.registry.value? "x" = some (.text "1") ∧
      less.2.registry.value? "x" = some (.text "5") := by
  intro w raw whole less
  exact ⟨checkedSession_reachable .recorder, by decide +kernel,
    Option.isNone_iff_eq_none.mp (by decide +kernel),
    Option.isNone_iff_eq_none.mp (by decide +kernel), by decide +kernel, by decide +kernel,
    by decide +kernel, Value.eq_text_of_any_same (by decide +kernel),
    Value.eq_text_of_any_same (by decide +kernel)⟩

end ConfigVars
