import ConfigVars.Proofs.Refusal

/-!
# Error sinks that only listen

An error sink that never fails and never changes the registry (`Settings.IdleSink`) has no way of
doing anything with a problem but to take it: a script that follows instructions would fail, or
declare a variable, where there are no variables.  So the recorder and the collector are such sinks,
and a script if it has no instructions or a guard that holds it back
(`Settings.IdleSink.takesProblems`).

A report to such a sink comes to what it leaves of the problem in the world and to nothing else
(`World.told`, `report_told`), unless calls go no deeper (`report_endless`).  Without a sink it comes
to a message in the log (`report_logged`).
-/

namespace ConfigVars

open Run

/-! ### Scripts that do nothing -/

/-- A registry with settings and without variables. -/
def Registry.bare (settings : Settings) : Registry := { settings, environment := .own ∅ ∅ }

/-- To have a variable is stable. -/
theorem Registry.contains_stable (name : String) :
    Stable fun r => r.specs.contains name = true where
  settable _ hr _ := hr
  declare other hr _ := by
    rw [declare_specs, Table.contains_put, hr, Bool.or_true]
  addAlias _ _ hr _ := hr

/-- A run that succeeds has succeeded in both its parts. -/
theorem ends_bind_ok {α β : Type} {x : Run α} {f : α → Run β} {b : β} {w w' : World}
    (h : (x >>= f).ends w = (.ok b, w')) :
    ∃ a w₁, x.ends w = (.ok a, w₁) ∧ (f a).ends w₁ = (.ok b, w') := by
  rw [ends_bind] at h
  rcases hx : x.ends w with ⟨_ | a, w₁⟩
  · rw [hx] at h
    cases h
  · rw [hx] at h
    exact ⟨a, w₁, rfl, h⟩

/-- A variable that has been declared is there. -/
theorem define_contains {depth : Nat} {name c : String} {options : List (Value × Value)}
    {keywords : List (String × Value)} {w w' : World}
    (hends : (define (Callable.call depth) name options keywords).ends w = (.ok c, w')) :
    w'.registry.specs.contains (w.registry.fold name) = true := by
  have hstable := Registry.contains_stable (w.registry.fold name)
  have hooks := (Callable.call_alike hstable depth).hooks
  have hbehind : ∀ d, Alike (fun r => r.specs.contains (w.registry.fold name) = true)
      (do
        reportAll (Callable.call depth) (d.problems ++ (w.registry.declare name d).2)
        detail ("Defined variable " ++ Text.quoted (w.registry.fold name) ++ " (aliases=" ++
          shownTexts d.spec.aliases ++ ", triggers=" ++ shownTexts (d.spec.triggerTokens name) ++
          ")")
        let _ ← reset (Callable.call depth) (w.registry.fold name)
        return w.registry.fold name) _ := fun d =>
    (hooks.reportAll _).bind fun _ => (Alike.detail _).bind fun _ =>
      (hooks.reset hstable.settable _).bind fun _ => Alike.pure _
  rw [define_ends] at hends
  cases hmade : Declaration.ofOptions w.registry.globals (givenOptions options keywords) with
  | error f =>
    rw [hmade] at hends
    cases hends
  | ok d =>
    rw [hmade] at hends
    dsimp only at hends
    -- the variable is there from its declaration on
    have hkept := (hbehind d { w with registry := (w.registry.declare name d).1 }
      (by simp [Registry.declare_specs, Table.contains_put])).2
    rw [hends] at hkept
    exact hkept

/-- Where there are no variables, an instruction that is given a problem fails, or it declares a
variable. -/
theorem Instruction.run_bare {depth : Nat} {settings : Settings} {p : Problem} {i : Instruction}
    {left : List Value} {w w' : World} (hw : w.registry = .bare settings)
    (hends : (i.run (Callable.call depth) [.problem p]).ends w = (.ok left, w')) :
    ∃ name, w'.registry.specs.contains name = true := by
  obtain ⟨registry, files, events, captures, detailed⟩ := w
  obtain rfl : registry = .bare settings := hw
  have hassign : ∀ name v a w₁, (assign (Callable.call depth) name v).ends
      ⟨.bare settings, files, events, captures, detailed⟩ ≠ (.ok a, w₁) := by
    rintro _ _ _ _ ⟨⟩
  cases i with
  | set name v =>
    obtain ⟨_, _, hset, -⟩ := ends_bind_ok hends
    exact absurd hset (hassign _ _ _ _)
  | copy name index =>
    rw [Instruction.run] at hends
    cases hvalue : argumentAt [.problem p] index with
    | error f =>
      rw [hvalue] at hends
      cases hends
    | ok v =>
      rw [hvalue] at hends
      obtain ⟨_, _, hfound, hrest⟩ := ends_bind_ok hends
      cases hfound
      obtain ⟨_, _, hset, -⟩ := ends_bind_ok hrest
      exact absurd hset (hassign _ _ _ _)
  | get name => cases hends
  | define name options =>
    obtain ⟨c, w₁, hdefine, hrest⟩ := ends_bind_ok hends
    cases hrest
    exact ⟨_, define_contains hdefine⟩
  | pop name? => cases hends
  | push values => cases hends
  | clear => cases hends

/-- Instructions that are given a problem fail where there are no variables, or one is there behind
them. -/
theorem Instruction.runAll_bare {depth : Nat} {settings : Settings} {p : Problem}
    {i : Instruction} {is : List Instruction} {left : List Value} {w w' : World}
    (hw : w.registry = .bare settings)
    (hends : (Instruction.runAll (Callable.call depth) [.problem p] (i :: is)).ends w =
      (.ok left, w')) :
    ∃ name, w'.registry.specs.contains name = true := by
  obtain ⟨arguments, w₁, hfirst, hrest⟩ := ends_bind_ok hends
  obtain ⟨name, hname⟩ := Instruction.run_bare hw hfirst
  have hstable := Registry.contains_stable name
  have hkeeps : ∀ i ∈ is, i.Keeps fun r => r.specs.contains name = true :=
    fun i _ => hstable.keeps i
  have hkept := (Instruction.runAll_alike hstable.settable
    (Callable.call_alike hstable depth).hooks.toWritesAlike hkeeps arguments w₁ hname).2
  rw [hrest] at hkept
  exact ⟨name, hkept⟩

/-- A script that does nothing with its arguments but to answer: its guard holds it back, or it has
no instructions. -/
inductive Script.Inert (s : Script) (arguments : List Value) : Reply → Prop where
  | held (hguard : s.runsWith arguments = .ok false) : Inert s arguments ⟨s.otherwise, arguments⟩
  | empty {v : Value} (hguard : s.runsWith arguments = .ok true) (hbody : s.body = [])
      (hfailure : s.failure = none) (hanswer : s.answer.resolve arguments = .ok v) :
      Inert s arguments ⟨v, arguments⟩

/-- A script is called by leaving a record of the call, and then it does what it does. -/
theorem Script.run_ends (call : Caller) (s : Script) (arguments : List Value) (w : World) :
    (s.run call arguments).ends w =
      match s.runsWith arguments with
      | .error f => (.error f, { w with events := w.events ++ [.call s.id arguments] })
      | .ok false =>
        (.ok ⟨s.otherwise, arguments⟩, { w with events := w.events ++ [.call s.id arguments] })
      | .ok true =>
        Run.ends (do
            let left ← Instruction.runAll call arguments s.body
            match s.failure with
            | some message => throw (.script message)
            | none => return ⟨← orFailure (s.answer.resolve left), left⟩)
          { w with events := w.events ++ [.call s.id arguments] } := by
  rw [Script.run]
  change ((orFailure (s.runsWith arguments) >>= fun runs => _) : Run Reply).ends
    { w with events := w.events ++ [.call s.id arguments] } = _
  cases s.runsWith arguments with
  | error f => rfl
  | ok runs => cases runs <;> rfl

theorem Script.Inert.run_ends {s : Script} {arguments : List Value} {reply : Reply}
    (h : s.Inert arguments reply) (call : Caller) (w : World) :
    (s.run call arguments).ends w =
      (.ok reply, { w with events := w.events ++ [.call s.id arguments] }) := by
  rw [Script.run_ends]
  cases h with
  | held hguard => rw [hguard]
  | empty hguard hbody hfailure hanswer =>
    rw [hguard, hbody, hfailure]
    dsimp only
    rw [Instruction.runAll, pure_bind, hanswer]
    rfl

/-- A script that answers for a problem and leaves a registry without variables as it is does
nothing with the problem. -/
theorem Script.inert_of_bare {depth : Nat} {settings : Settings} {s : Script} {p : Problem}
    {reply : Reply} {w w' : World} (hw : w.registry = .bare settings)
    (hends : (s.run (Callable.call depth) [.problem p]).ends w = (.ok reply, w'))
    (hsame : w'.registry = .bare settings) : s.Inert [.problem p] reply := by
  rw [Script.run_ends] at hends
  rcases hguard : s.runsWith [.problem p] with f | runs
  · rw [hguard] at hends
    cases hends
  · cases runs with
    | false =>
      rw [hguard] at hends
      cases hends
      exact .held hguard
    | true =>
      rw [hguard] at hends
      obtain ⟨left, w₁, hbody, hanswer⟩ := ends_bind_ok hends
      have hlast : s.failure = none ∧ ∃ v, s.answer.resolve left = .ok v ∧ reply = ⟨v, left⟩ ∧
          w' = w₁ := by
        cases hfailure : s.failure with
        | some message =>
          rw [hfailure] at hanswer
          cases hanswer
        | none =>
          rw [hfailure] at hanswer
          cases hv : s.answer.resolve left with
          | error f =>
            rw [hv] at hanswer
            cases hanswer
          | ok v =>
            rw [hv] at hanswer
            cases hanswer
            exact ⟨rfl, v, rfl, rfl, rfl⟩
      obtain ⟨hfailure, v, hv, rfl, rfl⟩ := hlast
      cases hinstructions : s.body with
      | nil =>
        rw [hinstructions] at hbody
        cases hbody
        exact .empty hguard hinstructions hfailure hv
      | cons i is =>
        rw [hinstructions] at hbody
        obtain ⟨name, hname⟩ := Instruction.runAll_bare (by exact hw) hbody
        rw [hsame] at hname
        cases hname

/-! ### Taking problems -/

/-- The world when a sink has been given a problem. -/
def World.told (w : World) (p : Problem) : Callable → World
  | .recorder => { w with events := w.events ++ [.problem p] }
  | .script s => { w with events := w.events ++ [.call s.id [.problem p]] }
  | .collector =>
    match w.captures with
    | [] => w
    | capture :: outer =>
      { w with captures := { capture with problems := capture.problems ++ [p] } :: outer }
  | _ => w

/-- A sink takes every problem, and does nothing else. -/
def Callable.TakesProblems (sink : Callable) : Prop :=
  ∀ p, ∃ reply, ∀ call w,
    (Callable.answer call sink false [.problem p]).ends w = (.ok reply, w.told p sink)

theorem Callable.collector_takesProblems : Callable.collector.TakesProblems := by
  intro p
  refine ⟨⟨.nothing, [.problem p]⟩, fun call w => ?_⟩
  obtain ⟨registry, files, events, captures, detailed⟩ := w
  cases captures <;> rfl

/-- **An idle sink takes every problem and does nothing else**, whatever it could call. -/
theorem Settings.IdleSink.takesProblems {depth : Nat} {settings : Settings}
    (h : settings.IdleSink (Callable.call depth)) {sink : Callable}
    (hsink : settings.error = some sink) : sink.TakesProblems := by
  intro p
  obtain ⟨reply, w', hends, hsame⟩ := h sink hsink p { registry := .bare settings } rfl
  cases depth with
  | zero => cases hends
  | succ depth =>
    cases sink with
    | script s =>
      exact ⟨reply, (Script.inert_of_bare rfl hends hsame).run_ends⟩
    | recorder => exact ⟨_, fun _ _ => rfl⟩
    | collector => exact Callable.collector_takesProblems p
    | truthWords => cases hends
    | choices among cast => cases hends
    | validator v => cases v <;> cases hends

/-- Without a sink, a problem goes into the log. -/
theorem report_logged (call : Caller) (p : Problem) {w : World}
    (hnone : w.registry.settings.error = none) :
    (report call p).ends w =
      (.ok (), { w with events := w.events ++ [.log "WARNING" p.message] }) := by
  rw [report, ends_bind_registry, hnone]
  rfl

/-- Where calls go no deeper, a sink cannot be called. -/
theorem report_endless (p : Problem) {sink : Callable} {w : World}
    (hsink : w.registry.settings.error = some sink) :
    (report (Callable.call 0) p).ends w = (.error .endless, w) := by
  rw [report, ends_bind_registry, hsink]
  rfl

/-- A report to a sink that takes problems comes to nothing else. -/
theorem report_told {depth : Nat} {sink : Callable} (h : sink.TakesProblems) (p : Problem)
    {w : World} (hsink : w.registry.settings.error = some sink) :
    (report (Callable.call (depth + 1)) p).ends w = (.ok (), w.told p sink) := by
  obtain ⟨reply, hends⟩ := h p
  have hcall : (Callable.call (depth + 1) sink false [.problem p]).ends w =
      (.ok reply, w.told p sink) := hends _ w
  rw [report, ends_bind_registry, hsink]
  dsimp only
  rw [ends_bind, hcall]
  rfl

@[simp] theorem World.told_registry (w : World) (p : Problem) (sink : Callable) :
    (w.told p sink).registry = w.registry := by
  obtain ⟨registry, files, events, captures, detailed⟩ := w
  cases sink <;> first | rfl | (cases captures <;> rfl)

@[simp] theorem World.told_files (w : World) (p : Problem) (sink : Callable) :
    (w.told p sink).files = w.files := by
  obtain ⟨registry, files, events, captures, detailed⟩ := w
  cases sink <;> first | rfl | (cases captures <;> rfl)

end ConfigVars
