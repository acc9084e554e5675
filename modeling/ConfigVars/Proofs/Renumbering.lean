import ConfigVars.Proofs.Lockstep
import ConfigVars.Proofs.Reading
import ConfigVars.Proofs.Refusal

/-!
# Lines with other numbers

The same logical lines may have other numbers, where physical lines are added or taken out in front
of them (`Renumbering`).  Only the problems of a reading carry these numbers, and only the error
sink is given them.  So two readings of the same lines with different numbers go in lockstep, as
long as what they call cannot tell the numbers apart (`Renumbering.Hidden`); their outcomes stay in
every relation that counting and noting keep (`Renumbering.Tallies`,
`Renumbering.Hidden.applyLines`).

An error sink that is idle cannot tell them apart (`hidden_of_idleSink`).
-/

namespace ConfigVars

open ConfigVars.Text Run

/-! ### Numbers in lines and problems -/

/-- Other numbers for logical lines, and for the places of problems. -/
structure Renumbering where
  number : Nat → Nat
  place : Int → Int
  place_number : ∀ k : Nat, place k = number k

/-- A logical line with another number. -/
def LogicalLine.renumbered (ρ : Renumbering) (line : LogicalLine) : LogicalLine :=
  { line with number := ρ.number line.number }

/-- A place with another number. -/
def Place.renumbered (ρ : Renumbering) (place : Place) : Place :=
  { place with line := place.line.map ρ.place }

/-- A problem with another number in its place. -/
def Problem.renumbered (ρ : Renumbering) : Problem → Problem
  | .reading fault place => .reading fault (place.renumbered ρ)
  | p => p

theorem LogicalLine.place_renumbered (ρ : Renumbering) (line : LogicalLine) (source : String) :
    (line.renumbered ρ).place source = (line.place source).renumbered ρ := by
  rw [place, place, Place.renumbered, Option.map_some, ρ.place_number]
  rfl

/-- A relation between outcomes which is kept when both count one more assignment, or have one more
problem, with the numbers of the lines that they are about. -/
structure Renumbering.Tallies (ρ : Renumbering) (S : Outcome → Outcome → Prop) : Prop where
  counted : ∀ {o o'}, S o o' → S o.counted o'.counted
  withProblem : ∀ {o o'} p, S o o' → S (o.withProblem p) (o'.withProblem (p.renumbered ρ))

/-! ### Readings of renumbered lines -/

/-- Nothing stops a comparison. -/
def Unstopped (_ : Failure) : Prop := False

/-- Ends whose answers are in the relation of a function. -/
theorem Paired.eq_map {α β : Type} {g : α → β} {R : World → World → Prop}
    {first : Except Failure α × World} {second : Except Failure β × World}
    (h : Paired Unstopped R (fun a b => b = g a) first second) :
    second.1 = first.1.map g ∧ R first.2 second.2 := by
  cases h with
  | answers hanswers hworlds =>
    subst hanswers
    exact ⟨rfl, hworlds⟩
  | fails f hworlds => exact ⟨rfl, hworlds⟩
  | stops hstop _ _ => exact hstop.elim

/-- A registry with another line hook, or with none. -/
def Registry.withLineHook (r : Registry) (hook : Option Callable) : Registry :=
  { r with settings := { r.settings with lineParse := hook } }

/-- A relation between worlds that are told problems with different numbers: they have one registry,
apart from its line hook, and what a reading of lines calls keeps them in the relation. -/
structure Renumbering.Hidden (ρ : Renumbering) (call : Caller) (R : World → World → Prop) :
    Prop where
  registry : ∀ w w', R w w' → ∃ hook, w'.registry = w.registry.withLineHook hook
  report : ∀ p, Lockstep Unstopped R Eq (report call p) (report call (p.renumbered ρ))
  validate : ∀ name v, Lockstep Unstopped R Eq (validate call name v) (validate call name v)
  assign : ∀ name v, Lockstep Unstopped R Eq (assign call name v) (assign call name v)
  reset : ∀ name, Lockstep Unstopped R Eq (reset call name) (reset call name)

namespace Renumbering.Hidden

variable {ρ : Renumbering} {call : Caller} {R : World → World → Prop}
  {S : Outcome → Outcome → Prop} {o o' : Outcome}

/-- What is looked up in the registry is there whatever the line hook is. -/
theorem bind_registry {α : Type} {T : α → α → Prop} (h : ρ.Hidden call R)
    {f g : Registry → Run α} (hf : ∀ r, Lockstep Unstopped R T (f r) (g r))
    (hhook : ∀ r hook, g (r.withLineHook hook) = g r) :
    Lockstep Unstopped R T (Run.registry >>= f) (Run.registry >>= g) :=
  Lockstep.bind_registry fun w w' hw => by
    obtain ⟨hook, hregistry⟩ := h.registry w w' hw
    rw [hregistry, hhook]
    exact hf _

theorem note (h : ρ.Hidden call R) (hS : ρ.Tallies S) (ho : S o o') (p : Problem) :
    Lockstep Unstopped R S (note call o p) (note call o' (p.renumbered ρ)) :=
  (h.report p).bind_eq fun _ => .pure (hS.withProblem p ho)

theorem store (h : ρ.Hidden call R) (hS : ρ.Tallies S) (ho : S o o') (name : String) (v : Value)
    (place : Place) :
    Lockstep Unstopped R S (store call o name v place)
      (store call o' name v (place.renumbered ρ)) := by
  refine (h.validate name v).bind_eq fun valid => ?_
  cases valid with
  | true => exact (h.assign name v).bind_eq fun _ => .pure (hS.counted ho)
  | false => exact h.note hS ho _

theorem applyValue (h : ρ.Hidden call R) (hS : ρ.Tallies S) (ho : S o o') (name : String)
    (value : Option (List Char)) (place : Place) :
    Lockstep Unstopped R S (applyValue call o name value place)
      (applyValue call o' name value (place.renumbered ρ)) := by
  refine h.bind_registry (fun r => (Lockstep.orProblem _).bind_eq fun spec => ?_) fun _ _ => rfl
  cases value with
  | none =>
    dsimp only
    split
    · exact (h.reset name).bind_eq fun _ => .pure (hS.counted ho)
    · exact h.store hS ho name flagValue place
  | some cs =>
    refine h.bind_registry (fun r => ?_) fun _ _ => rfl
    split
    · exact (Lockstep.orFailure _).bind_eq fun v => h.store hS ho name v place
    · exact h.store hS ho name _ place

theorem applyText (h : ρ.Hidden call R) (hS : ρ.Tallies S) (ho : S o o') (text : List Char)
    (place : Place) :
    Lockstep Unstopped R S (applyText call o text place)
      (applyText call o' text (place.renumbered ρ)) := by
  rw [ConfigVars.applyText, ConfigVars.applyText]
  cases Assignment.ofLine text with
  | none => exact h.note hS ho _
  | some a =>
    refine h.bind_registry (fun r => ?_) fun _ _ => rfl
    dsimp only
    split
    · exact h.applyValue hS ho _ a.value place
    · exact h.note hS ho _

theorem applyLine (h : ρ.Hidden call R) (hS : ρ.Tallies S) (ho : S o o') (source : String)
    (line : LogicalLine) :
    Lockstep Unstopped R S (applyLine call none source o line)
      (applyLine call none source o' (line.renumbered ρ)) := by
  have htext := h.applyText hS ho (trimWhile isBlank line.text) (line.place source)
  rw [← LogicalLine.place_renumbered] at htext
  have hsame : (line.renumbered ρ).text = line.text := rfl
  unfold ConfigVars.applyLine
  simp only [hsame, handled, pure_bind, Bool.false_eq_true, if_false]
  split
  · exact .pure ho
  · exact htext

/-- **The same lines with other numbers are read alike.** -/
theorem applyLines (h : ρ.Hidden call R) (hS : ρ.Tallies S) (ho : S o o') (source : String)
    (lines : List LogicalLine) :
    Lockstep Unstopped R S (applyLines call none source o lines)
      (applyLines call none source o' (lines.map (LogicalLine.renumbered ρ))) := by
  induction lines generalizing o o' with
  | nil => exact .pure ho
  | cons line rest ih => exact (h.applyLine hS ho source line).bind fun _ _ ho₁ => ih ho₁

end Renumbering.Hidden

/-! ### Worlds that are told different numbers -/

/-- Two worlds have one registry with a property, and an observation of both. -/
structure Shared (P : Registry → Prop) (O : World → World → Prop) (w w' : World) : Prop where
  registry : w.registry = w'.registry
  holds : P w.registry
  observed : O w w'

section Shared

variable {α : Type} {call : Caller} {P : Registry → Prop} {O : World → World → Prop}

/-- A run that sees the registry only goes alike in worlds that share it, as far as it cannot be
observed. -/
theorem Lockstep.of_oblivious {x : Run α} (hx : Oblivious x)
    (hkeep : ∀ w : World, P w.registry → P (x.ends w).2.registry)
    (hunseen : ∀ w w', Shared P O w w' → O (x.ends w).2 (x.ends w').2) :
    Lockstep Unstopped (Shared P O) Eq x x := by
  intro w w' hw
  obtain ⟨hanswer, hnext⟩ := hx w w' hw.registry
  have hshared : Shared P O (x.ends w).2 (x.ends w').2 :=
    ⟨hnext, hkeep w hw.holds, hunseen w w' hw⟩
  rcases hr : x.ends w with ⟨result, w₁⟩
  rcases hr' : x.ends w' with ⟨result', w₁'⟩
  rw [hr, hr'] at hanswer hshared
  cases hanswer
  cases result with
  | ok a => exact .answers rfl hshared
  | error f => exact .fails f hshared

/-- An idle sink takes a problem like any other. -/
theorem report_idle {settings : Settings} (hsink : settings.IdleSink call) (p q : Problem) :
    Lockstep Unstopped (Shared (fun r => r.settings = settings) fun _ _ => True) Eq (report call p)
      (report call q) := by
  intro w w' hw
  have hholds' : w'.registry.settings = settings := hw.registry ▸ hw.holds
  obtain ⟨w₁, hends, hsame⟩ := report_ends (w := w) (p := p) call
    fun hook hhook => hsink hook (hw.holds ▸ hhook) p w hw.holds
  obtain ⟨w₁', hends', hsame'⟩ := report_ends (w := w') (p := q) call
    fun hook hhook => hsink hook (hholds' ▸ hhook) q w' hholds'
  rw [hends, hends']
  exact .answers rfl ⟨(hsame.trans hw.registry).trans hsame'.symm, hsame ▸ hw.holds, trivial⟩

/-- **An idle sink cannot tell numbers apart**, whatever validators and hooks of variables do. -/
theorem hidden_of_idleSink (depth : Nat) (ρ : Renumbering) {settings : Settings}
    (hsink : settings.IdleSink (Callable.call depth)) :
    ρ.Hidden (Callable.call depth) (Shared (fun r => r.settings = settings) fun _ _ => True) := by
  have hstable := Registry.settings_stable settings
  have hhooks := (Callable.call_alike hstable depth).hooks
  have hcall := Callable.call_oblivious depth
  have hlockstep : ∀ {α : Type} {x : Run α}, Oblivious x →
      Alike (fun r => r.settings = settings) x x →
      Lockstep Unstopped (Shared (fun r => r.settings = settings) fun _ _ => True) Eq x x :=
    fun hx halike => .of_oblivious hx (fun w hw => (halike w hw).2) fun _ _ _ => trivial
  exact {
    registry := fun _ _ h => ⟨_, h.registry.symm⟩
    report := fun p => report_idle hsink p (p.renumbered ρ)
    validate := fun name v => hlockstep (hcall.validate name v) (hhooks.validate name v)
    assign := fun name v =>
      hlockstep (hcall.assign name v) (hhooks.assign hstable.settable name v)
    reset := fun name => hlockstep (hcall.reset name) (hhooks.reset hstable.settable name) }

end Shared

end ConfigVars
