import ConfigVars.Proofs.Conclusion
import ConfigVars.Proofs.Renumbering

/-!
# Lines behind other lines

Behind complete lines the logical lines of some others are what they are by themselves, with the
number of the lines in front added (`logicalLines_append_raised`).  What the lines in front leave
to those behind them are the values of variables, and nothing else.  So the lines of a source can
be read in two parts (`readInParts`): the values are the same, and the outcome of the whole is that
of the first part followed by that of the second (`Outcome.followedBy`, `readings_compose`).
-/

namespace ConfigVars

open ConfigVars.Text Run

/-! ### Numbers behind other lines -/

/-- The numbers of lines that are behind `n` others. -/
def Renumbering.raised (n : Nat) : Renumbering where
  number k := k + n
  place k := k + n
  place_number _ := rfl

theorem numbered_raised (n number : Nat) (bs : List (List (List Char))) :
    numbered (number + n) bs = (numbered number bs).map (LogicalLine.renumbered (.raised n)) := by
  induction bs generalizing number with
  | nil => rfl
  | cons block more ih =>
    rw [numbered, numbered, List.map_cons, ← ih, Nat.add_right_comm]
    rfl

/-- **Behind complete lines the logical lines are those of the others**, with higher numbers. -/
theorem logicalLines_append_raised {before : List (List Char)} (h : endsOpen before = false)
    (rest : List (List Char)) :
    logicalLines (before ++ rest) = logicalLines before ++
      (logicalLines rest).map (LogicalLine.renumbered (.raised before.length)) := by
  rw [logicalLines_append h, logicalLines_eq rest, ← numbered_raised, Nat.add_comm]

/-- An outcome with that of what is read behind `n` lines. -/
def Outcome.followedBy (n : Nat) (o o' : Outcome) : Outcome where
  source := o.source
  ok := o.ok && o'.ok
  applied := o.applied + o'.applied
  problems := o.problems ++ o'.problems.map (Problem.renumbered (.raised n))

theorem Outcome.followedBy_fresh (n : Nat) (o : Outcome) (source : String) :
    o.followedBy n (.fresh source) = o := by
  obtain ⟨name, ok, applied, problems⟩ := o
  simp [followedBy, fresh]

theorem Outcome.tallies_followedBy (n : Nat) (o : Outcome) :
    (Renumbering.raised n).Tallies fun o₁ o₂ => o₂ = o.followedBy n o₁ where
  counted := by
    rintro o₁ _ rfl
    simp [followedBy, counted, Int.add_assoc]
  withProblem := by
    rintro o₁ _ p rfl
    simp [followedBy, withProblem]

/-! ### Readings in two parts -/

/-- Lines behind others are applied when these have been. -/
theorem applyLines_append (call : Caller) (hook : Option Callable) (source : String) (o : Outcome)
    (lines more : List LogicalLine) (w : World) :
    (applyLines call hook source o (lines ++ more)).ends w =
      Run.ends (do
        let o₁ ← applyLines call hook source o lines
        applyLines call hook source o₁ more) w := by
  induction lines generalizing o w with
  | nil => rfl
  | cons line rest ih =>
    rw [List.cons_append, applyLines, applyLines, bind_assoc, ends_bind, ends_bind]
    rcases (applyLine call hook source o line).ends w with ⟨result, w₁⟩
    cases result with
    | error f => rfl
    | ok o₁ => exact ih o₁ w₁

/-- A source that has its lines by itself, whatever files there are. -/
def Source.Holds (s : Source) (lines : List String) : Prop := ∀ files, s.read files = .ok { lines }

/-- Reads two sources, the second as if its lines were behind `n` others. -/
def readInParts (call : Caller) (n : Nat) (first second : Source) : Run Outcome := do
  let o ← readSource call first
  let o' ← readSource call second
  return o.followedBy n o'

/-- **Lines behind complete lines are read as by themselves.** -/
theorem applyLines_behind (depth n : Nat) {settings : Settings}
    (hsink : settings.IdleSink (Callable.call depth)) {w w' : World}
    (hsame : w'.registry = w.registry) (hsettings : w.registry.settings = settings)
    (source : String) (o : Outcome) (lines : List LogicalLine) :
    let part := (applyLines (Callable.call depth) none source (.fresh source) lines).ends w
    let behind := (applyLines (Callable.call depth) none source o
      (lines.map (LogicalLine.renumbered (.raised n)))).ends w'
    behind.1 = part.1.map (o.followedBy n) ∧ behind.2.registry = part.2.registry := by
  intro part behind
  have hstart : o = o.followedBy n (.fresh source) := (o.followedBy_fresh n source).symm
  have hpaired := ((hidden_of_idleSink depth (.raised n) hsink).applyLines
    (o.tallies_followedBy n) hstart source lines w w' ⟨hsame.symm, hsettings, trivial⟩).eq_map
  exact ⟨hpaired.1, hpaired.2.registry.symm⟩

/-- **Readings compose.**  Where no hook reads files or lines and the error sink is idle, let no
line of a source go on from a first part into the second.  Then a reading of the source ends as
readings of its parts do, one after the other: with the same registry and the same failure, or with
an outcome that counts the assignments of both parts and lists the problems of the first part and
those of the second, whose numbers go on from those of the first.  In a quiet registry it gives an
outcome unless one of the lines fails. -/
theorem readings_compose (depth : Nat) {w : World} (hw : Reachable (Callable.call depth) w)
    (hsink : w.registry.settings.IdleSink (Callable.call depth))
    (hfile : w.registry.settings.fileParse = none) (hline : w.registry.settings.lineParse = none)
    {xs ys : List String} (hcomplete : endsOpen (xs.map String.toList) = false)
    {first second whole : Source} (hfirst : first.Holds xs) (hsecond : second.Holds ys)
    (hwhole : whole.Holds (xs ++ ys)) (hname : first.name = whole.name)
    (hname' : second.name = whole.name) :
    let call := Callable.call depth
    SameEnd (readSource call whole) (readInParts call xs.length first second) w ∧
      (w.registry.Quiet call →
        Concludes w.registry (logicalLines ((xs ++ ys).map String.toList))
          ((readSource call whole).ends w).1) := by
  intro call
  refine ⟨?_, fun hquiet => readSource_concludes hquiet hw.sound hfile hline (hwhole w.files)⟩
  have hall := readSource_lines call hfile hline (hwhole w.files)
  have hpart := readSource_lines call hfile hline (hfirst w.files)
  rw [List.map_append, logicalLines_append_raised hcomplete, List.length_map, SameEnd,
    applyLines_append] at hall
  rw [hname] at hpart
  refine SameEnd.trans hall (hpart.symm.bind fun o v v' hfront hsame => ?_)
  -- the second part is read in the world that the first one leaves, with the settings as before
  have hkeep := applyLines_settings depth hline whole.name (.fresh whole.name)
    (logicalLines (xs.map String.toList))
  rw [hfront] at hkeep
  have hsettings : v'.registry.settings = w.registry.settings := hsame ▸ hkeep
  have hrest := readSource_lines call (hsettings ▸ hfile) (hsettings ▸ hline) (hsecond v'.files)
  have hbehind := applyLines_behind depth xs.length hsink hsame.symm hsettings whole.name o
    (logicalLines (ys.map String.toList))
  rw [hname'] at hrest
  rw [hbehind.1, hbehind.2, ends_map, hrest.1, hrest.2]
  exact ⟨rfl, rfl⟩

/-- Reading a line of two physical ones and one for no variable, and then a comment and a line
without a name. -/
theorem lines_read_in_parts :
    let xs := ["x \\", "5", "nosuch 1"]
    let ys := ["# note", "= 3"]
    Reachable Caller.standard recordingSession ∧
      recordingSession.registry.settings.IdleSink Caller.standard ∧
      recordingSession.registry.settings.fileParse = none ∧
      recordingSession.registry.settings.lineParse = none ∧
      endsOpen (xs.map String.toList) = false ∧ (Source.lines xs).Holds xs ∧
      (Source.lines ys).Holds ys ∧ (Source.lines (xs ++ ys)).Holds (xs ++ ys) ∧
      SameEnd (readSource Caller.standard (.lines (xs ++ ys)))
        (readInParts Caller.standard 3 (.lines xs) (.lines ys)) recordingSession ∧
      ∃ o, ((readSource Caller.standard (.lines (xs ++ ys))).ends recordingSession).1 = .ok o := by
  intro xs ys
  have hcomplete : endsOpen (xs.map String.toList) = false := by decide +kernel
  have hlines : ∀ lines, (Source.lines lines).Holds lines := fun _ _ => rfl
  obtain ⟨hsame, hconcludes⟩ := readings_compose maxCallDepth recordingSession_reachable
    recordingSession_idleSink recordingSession_unhooked.1 recordingSession_unhooked.2 hcomplete
    (hlines xs) (hlines ys) (hlines (xs ++ ys)) rfl rfl
  exact ⟨recordingSession_reachable, recordingSession_idleSink, recordingSession_unhooked.1,
    recordingSession_unhooked.2, hcomplete, hlines _, hlines _, hlines _, hsame,
    recordingSession_concludes hconcludes⟩

end ConfigVars
