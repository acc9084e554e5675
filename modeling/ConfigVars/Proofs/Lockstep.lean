import ConfigVars.Proofs.Alike

/-!
# Runs in lockstep

Two runs go in *lockstep* (`Lockstep`) when from any two worlds in a relation they end alike: with
answers in a relation of their own, or with one failure, and with worlds that are in the relation
again.  A failure of the second run may be one of those that *stop* the comparison.  Then nothing is
said about the first run; but the world that the second one leaves still belongs to some other.

Runs that go alike under one caller are in lockstep for worlds that are the same; here the worlds
may differ, and so may what the runs are about.
-/

namespace ConfigVars

open Run

variable {α α' β β' : Type}

/-- Two ends of runs that belong together. -/
inductive Paired (stop : Failure → Prop) (R : World → World → Prop) (S : α → α' → Prop) :
    Except Failure α × World → Except Failure α' × World → Prop where
  | answers {a : α} {a' : α'} {w w' : World} (hanswers : S a a') (hworlds : R w w') :
      Paired stop R S (.ok a, w) (.ok a', w')
  | fails {w w' : World} (f : Failure) (hworlds : R w w') :
      Paired stop R S (.error f, w) (.error f, w')
  | stops {f : Failure} (hstop : stop f) (first : Except Failure α × World) {w w' : World}
      (hworlds : R w w') : Paired stop R S first (.error f, w')

/-- Ends that belong together still do for wider relations. -/
theorem Paired.mono {stop : Failure → Prop} {R R₁ : World → World → Prop} {S S₁ : α → α' → Prop}
    {first : Except Failure α × World} {second : Except Failure α' × World}
    (h : Paired stop R S first second) (hR : ∀ w w', R w w' → R₁ w w')
    (hS : ∀ a a', S a a' → S₁ a a') : Paired stop R₁ S₁ first second := by
  cases h with
  | answers hanswers hworlds => exact .answers (hS _ _ hanswers) (hR _ _ hworlds)
  | fails f hworlds => exact .fails f (hR _ _ hworlds)
  | stops hstop first hworlds => exact .stops hstop first (hR _ _ hworlds)

/-- Two runs end alike from worlds that are in a relation. -/
def Lockstep (stop : Failure → Prop) (R : World → World → Prop) (S : α → α' → Prop) (x : Run α)
    (y : Run α') : Prop :=
  ∀ w w', R w w' → Paired stop R S (x.ends w) (y.ends w')

namespace Lockstep

variable {stop : Failure → Prop} {R : World → World → Prop} {S : α → α' → Prop}
  {S' : β → β' → Prop}

theorem pure {a : α} {a' : α'} (h : S a a') : Lockstep stop R S (Pure.pure a) (Pure.pure a') :=
  fun _ _ hw => .answers h hw

theorem throw (f : Failure) : Lockstep stop R S (throw f) (throw f) := fun _ _ hw => .fails f hw

theorem bind {x : Run α} {y : Run α'} {f : α → Run β} {g : α' → Run β'}
    (hx : Lockstep stop R S x y) (hf : ∀ a a', S a a' → Lockstep stop R S' (f a) (g a')) :
    Lockstep stop R S' (x >>= f) (y >>= g) := by
  intro w w' hw
  have hend := hx w w' hw
  rw [ends_bind, ends_bind]
  generalize x.ends w = first at hend
  generalize y.ends w' = second at hend
  cases hend with
  | answers hanswers hworlds => exact hf _ _ hanswers _ _ hworlds
  | fails f hworlds => exact .fails f hworlds
  | stops hstop first hworlds => exact .stops hstop _ hworlds

/-- Answers that are in one relation are in every wider one. -/
theorem mono {S₁ : α → α' → Prop} {x : Run α} {y : Run α'} (hx : Lockstep stop R S x y)
    (h : ∀ a a', S a a' → S₁ a a') : Lockstep stop R S₁ x y :=
  fun w w' hw => (hx w w' hw).mono (fun _ _ => id) h

/-- What comes after the same answers. -/
theorem bind_eq {x y : Run α} {f : α → Run β} {g : α → Run β'} (hx : Lockstep stop R Eq x y)
    (hf : ∀ a, Lockstep stop R S' (f a) (g a)) : Lockstep stop R S' (x >>= f) (y >>= g) :=
  hx.bind fun a _ h => h ▸ hf a

/-- What comes after a look at the registries may count on what is known of them. -/
theorem bind_registry {f : Registry → Run β} {g : Registry → Run β'}
    (hf : ∀ w w', R w w' → Lockstep stop R S' (f w.registry) (g w'.registry)) :
    Lockstep stop R S' (registry >>= f) (registry >>= g) :=
  fun w w' hw => hf w w' hw w w' hw

/-- What comes after a look at the worlds. -/
theorem bind_get {f : World → Run β} {g : World → Run β'}
    (hf : ∀ w w', R w w' → Lockstep stop R S' (f w) (g w')) :
    Lockstep stop R S' (MonadState.get >>= f) (MonadState.get >>= g) :=
  fun w w' hw => hf w w' hw w w' hw

theorem update {f g : Registry → Registry}
    (h : ∀ w w', R w w' →
      R { w with registry := f w.registry } { w' with registry := g w'.registry }) :
    Lockstep stop R Eq (update f) (Run.update g) := fun w w' hw => .answers rfl (h w w' hw)

theorem orProblem (x : Except Problem α) :
    Lockstep stop R Eq (orProblem x) (Run.orProblem x) := by
  cases x with
  | ok a => exact pure rfl
  | error p => exact throw (.problem p)

theorem orFailure (x : Except Failure α) :
    Lockstep stop R Eq (orFailure x) (Run.orFailure x) := by
  cases x with
  | ok a => exact pure rfl
  | error f => exact throw f

end Lockstep

end ConfigVars
