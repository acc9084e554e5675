import ConfigVars.Proofs.Account

/-!
# Runs that end alike

Two runs may do different things on the way and come to one end: the same answer or failure, with
the same registry (`SameEnd`).  What they leave in records may differ; so a detail that is told
behind a run makes no difference (`sameEnd_detail`).  Runs that end alike may stand for each other
in front of what comes behind them (`SameEnd.bind`), as long as that sees the registry only.
-/

namespace ConfigVars

open Run

variable {α β : Type}

/-- Two runs from one world end in one way, with one registry. -/
def SameEnd (x y : Run α) (w : World) : Prop :=
  (x.ends w).1 = (y.ends w).1 ∧ (x.ends w).2.registry = (y.ends w).2.registry

/-- What is made of an answer leaves the world to the run. -/
theorem ends_map (x : Run α) (g : α → β) (w : World) :
    Run.ends (do let a ← x; return g a) w = ((x.ends w).1.map g, (x.ends w).2) := by
  rw [ends_bind]
  rcases x.ends w with ⟨result, w₁⟩
  cases result <;> rfl

namespace SameEnd

variable {x y z : Run α} {w : World}

theorem symm (h : SameEnd x y w) : SameEnd y x w := ⟨h.1.symm, h.2.symm⟩

theorem trans (h : SameEnd x y w) (h' : SameEnd y z w) : SameEnd x z w :=
  ⟨h.1.trans h'.1, h.2.trans h'.2⟩

theorem map (h : SameEnd x y w) (g : α → β) :
    SameEnd (do let a ← x; return g a) (do let a ← y; return g a) w := by
  rw [SameEnd, ends_map, ends_map]
  exact ⟨congrArg (Except.map g) h.1, h.2⟩

/-- What comes behind runs that end alike, where it ends alike in the worlds that they leave. -/
theorem bind (h : SameEnd x y w) {f g : α → Run β}
    (hnext : ∀ a v v', x.ends w = (.ok a, v) → v'.registry = v.registry →
      ((f a).ends v).1 = ((g a).ends v').1 ∧
        ((f a).ends v).2.registry = ((g a).ends v').2.registry) :
    SameEnd (x >>= f) (y >>= g) w := by
  obtain ⟨hanswer, hregistry⟩ := h
  rw [SameEnd, ends_bind, ends_bind]
  rcases hx : x.ends w with ⟨result, v⟩
  rcases hy : y.ends w with ⟨result', v'⟩
  rw [hx, hy] at hanswer hregistry
  cases hanswer
  cases result with
  | error f => exact ⟨rfl, hregistry⟩
  | ok a => exact hnext a v v' hx hregistry.symm

end SameEnd

/-- A detail behind a run makes no difference. -/
theorem sameEnd_detail (x : Run α) (message : α → String) (w : World) :
    SameEnd (do let a ← x; detail (message a); return a) x w := by
  rw [SameEnd, ends_bind]
  rcases x.ends w with ⟨result, w₁⟩
  cases result with
  | error f => exact ⟨rfl, rfl⟩
  | ok a =>
    obtain ⟨w₂, hdetail, hsame⟩ := detail_ends (message a) w₁
    dsimp only
    rw [ends_bind, hdetail]
    exact ⟨rfl, hsame⟩

end ConfigVars
