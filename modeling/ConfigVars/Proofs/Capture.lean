import ConfigVars.Proofs.Request
import ConfigVars.Proofs.Sink

/-!
# Captures

A program (`Program`) asks a registry for one thing after the other, and what it asks for next may
depend on the answers, failures among them.  It may do so inside captures, one in the other, and
then it sees what they have captured.

A capture is transparent (`capture_transparent`): inside it, a program is answered as it is outside
and leaves the same tables, whether it succeeds or fails.  The problems that the error sink would
have heard are in the list of the capture instead, and the sink hears none of them.  Behind the
capture the settings are the ones from before.

The two runs go in lockstep: the worlds outside and inside differ in the settings and in who has
heard the problems (`Beside`), and a capture inside both has the same list in both (`Within`).
There is one difference.  A call of the collector counts for the depth of calls, and a message in
the log does not.  So without a sink, a capture may end in the failure of calls that go too deep
where the program outside goes on; for the same reason a program does not go on after this failure.
-/

namespace ConfigVars

open Run

/-! ### What sinks have heard -/

/-- What is heard of an event: by the log, or by a sink. -/
def Event.heardBy : Option Callable → Event → Option Value
  | none, .log "WARNING" message => some (.text message)
  | some .recorder, .problem p => some (.problem p)
  | some (.script s), .call script [.problem p] =>
    if script = s.id then some (.problem p) else none
  | _, _ => none

/-- What a sink has heard, or the log where there is none. -/
def World.heard (w : World) : Option Callable → List Value
  | some .collector =>
    match w.captures with
    | [] => []
    | capture :: _ => capture.problems.map .problem
  | sink => w.events.filterMap (Event.heardBy sink)

/-- A problem as it is heard. -/
def Problem.heardBy (sink : Option Callable) (p : Problem) : Value :=
  match sink with
  | none => .text p.message
  | some _ => .problem p

theorem Event.Unheard.heardBy {e : Event} (h : e.Unheard) (sink : Option Callable) :
    e.heardBy sink = none := by
  unfold Event.heardBy
  split
  · exact absurd rfl h
  · exact absurd h id
  · exact absurd rfl (h _)
  · rfl

/-- Records that are no reports are not heard. -/
theorem World.heard_record {w : World} {e : Event} (h : e.Unheard) (sink : Option Callable) :
    World.heard { w with events := w.events ++ [e] } sink = w.heard sink := by
  have hevents : (w.events ++ [e]).filterMap (Event.heardBy sink) =
      w.events.filterMap (Event.heardBy sink) := by
    simp [List.filterMap_append, h.heardBy sink]
  unfold World.heard
  split
  · rfl
  · exact hevents

theorem World.heard_registry (w : World) (registry : Registry) (sink : Option Callable) :
    World.heard { w with registry } sink = w.heard sink := by
  unfold World.heard
  split <;> rfl

/-- A sink hears the problem that it is given. -/
theorem World.heard_told {sink : Callable} (h : sink.TakesProblems) (w : World) (p : Problem)
    (hopen : sink = .collector → w.captures ≠ []) :
    (w.told p sink).heard (some sink) = w.heard (some sink) ++ [.problem p] := by
  obtain ⟨registry, files, events, captures, detailed⟩ := w
  obtain ⟨reply, hends⟩ := h p
  have hends := hends (Callable.call 0) ⟨registry, files, events, captures, detailed⟩
  cases sink with
  | recorder => exact List.filterMap_append
  | script s =>
    have hheard : Event.heardBy (some (.script s)) (.call s.id [.problem p]) =
        some (.problem p) := if_pos rfl
    change (events ++ [Event.call s.id [.problem p]]).filterMap (Event.heardBy (some (.script s))) =
      events.filterMap (Event.heardBy (some (.script s))) ++ [.problem p]
    rw [List.filterMap_append, List.filterMap_cons_some hheard, List.filterMap_nil]
  | collector =>
    cases captures with
    | nil => exact absurd rfl (hopen rfl)
    | cons capture outer => exact List.map_append
  | truthWords => cases hends
  | choices among cast => cases hends
  | validator v => cases v <;> cases hends

/-! ### Programs -/

/-- A program that works with a registry.  It goes on from an answer or a failure of what it asks
for, and from what a capture has captured. -/
inductive Program : Type → Type 1 where
  | done {α : Type} (answer : Except Failure α) : Program α
  | ask {α β : Type} (q : Request β) (next : Except Failure β → Program α) : Program α
  | capture {α β : Type} (block : Program β)
      (next : Except Failure β → List Problem → Program α) : Program α

variable {α β : Type}

namespace Run

/-- Goes on with a result, unless calls have gone too deep. -/
def settle : Except Failure α → Run (Except Failure α)
  | .error .endless => throw .endless
  | result => return result

/-- The result of a run, unless calls have gone too deep in it. -/
def attempt (x : Run α) : Run (Except Failure α) := do
  settle (← (try return .ok (← x) catch f => return .error f : Run (Except Failure α)))

/-- The result of a run inside a capture, unless calls have gone too deep in it, and what has been
captured. -/
def captured (x : Run α) : Run (Except Failure α × List Problem) := do
  let (result, problems) ← capturing x
  return (← settle result, problems)

end Run

/-- Runs a program. -/
def Program.run (call : Caller) : {α : Type} → Program α → Run α
  | _, done answer => orFailure answer
  | _, ask q next => do (next (← attempt (q.run call))).run call
  | _, capture block next => do
    let captured ← captured (block.run call)
    (next captured.1 captured.2).run call

/-! ### Results and captures in lockstep -/

/-- A world seen from inside a capture that has captured some problems. -/
def World.within (w : World) (problems : List Problem) : World :=
  { w with
    registry :=
      { w.registry with settings := { w.registry.settings with error := some .collector } }
    captures := { settings := w.registry.settings, problems } :: w.captures }

theorem ends_try (x : Run α) (w : World) :
    (try return .ok (← x) catch f => return .error f : Run (Except Failure α)).ends w =
      (.ok (x.ends w).1, (x.ends w).2) := by
  rcases hx : x.ends w with ⟨r, w'⟩
  have hrun : x w = (r, w') := hx
  simp only [ends, ExceptT.run, StateT.run, tryCatch, tryCatchThe, MonadExceptOf.tryCatch,
    ExceptT.tryCatch, EarlyReturn.runK, bind, ExceptT.bind, ExceptT.mk, StateT.bind, hrun]
  cases r <;> rfl

/-- A capture gives the result of what runs in it, and ends with it. -/
theorem capturing_ends {x : Run α} {w v : World} {result : Except Failure α}
    {problems : List Problem} (h : x.ends (w.within []) = (result, v.within problems)) :
    (capturing x).ends w = (.ok (result, problems), v) := by
  have hopened : openCapture.ends w = (.ok (), w.within []) := rfl
  rw [capturing, ends_bind, hopened]
  dsimp only
  rw [ends_bind, ends_try, h]
  rfl

theorem attempt_ends (x : Run α) (w : World) :
    (attempt x).ends w = (settle (x.ends w).1).ends (x.ends w).2 := by
  rw [attempt, ends_bind, ends_try]

theorem captured_ends {x : Run α} {w v : World} {result : Except Failure α}
    {problems : List Problem} (h : x.ends (w.within []) = (result, v.within problems)) :
    (captured x).ends w = Run.ends (do return (← settle result, problems)) v := by
  rw [captured, ends_bind, capturing_ends h]

/-- Worlds that are in a relation, seen from inside a capture with the same problems. -/
inductive Within (R : World → World → Prop) : World → World → Prop where
  | intro (problems : List Problem) {w w' : World} (hworlds : R w w') :
      Within R (w.within problems) (w'.within problems)

section Lockstep

variable {stop : Failure → Prop} {R : World → World → Prop} {x y : Run α}

/-- One result is settled alike in two worlds. -/
theorem Lockstep.settle (result : Except Failure α) :
    Lockstep stop R Eq (settle result) (Run.settle result) := by
  unfold Run.settle
  split
  · exact .throw _
  · exact .pure rfl

variable (hstop : ∀ f, stop f → f = .endless)
include hstop

theorem Lockstep.attempt (h : Lockstep stop R Eq x y) :
    Lockstep stop R Eq (attempt x) (Run.attempt y) := by
  intro w w' hw
  have hend := h w w' hw
  rw [attempt_ends, attempt_ends]
  generalize x.ends w = first at hend
  generalize y.ends w' = second at hend
  cases hend with
  | answers hanswers hworlds => exact .answers (congrArg Except.ok hanswers) hworlds
  | fails f hworlds => exact Lockstep.settle (.error f) _ _ hworlds
  | stops hf first hworlds =>
    obtain rfl := hstop _ hf
    exact .stops hf _ hworlds

/-- Captures go in lockstep when what runs in them does. -/
theorem Lockstep.captured (h : Lockstep stop (Within R) Eq x y) :
    Lockstep stop R Eq (captured x) (Run.captured y) := by
  intro w w' hw
  have hend := h _ _ (.intro [] hw)
  have hsettled : ∀ (result : Except Failure α) (problems : List Problem),
      Lockstep stop R Eq (do return (← Run.settle result, problems))
        (do return (← Run.settle result, problems)) := fun result problems =>
    (Lockstep.settle result).bind_eq fun _ => .pure rfl
  generalize hx : x.ends (w.within []) = first at hend
  generalize hy : y.ends (w'.within []) = second at hend
  cases hend with
  | answers hanswers hworlds =>
    subst hanswers
    cases hworlds with
    | intro problems hworlds =>
      rw [captured_ends hx, captured_ends hy]
      exact hsettled _ _ _ _ hworlds
  | fails f hworlds =>
    cases hworlds with
    | intro problems hworlds =>
      rw [captured_ends hx, captured_ends hy]
      exact hsettled _ _ _ _ hworlds
  | stops hf first hworlds =>
    obtain rfl := hstop _ hf
    cases hworlds with
    | intro problems hworlds =>
      rw [captured_ends hy]
      exact .stops hf _ hworlds

end Lockstep

/-! ### Inside a capture -/

variable {files : FileTree} {settings : Settings} {R : World → World → Prop}

/-- A registry that is like another one is the same, apart from the settings. -/
theorem Registry.Like.eq_with {r r' : Registry} (h : r.Like Eq r') :
    r' = { r with settings := r'.settings } := by
  obtain ⟨-, hglobals, hspecs, hvalues, hvalidators, haliases, htriggers, henvironment⟩ := h
  have hsame : r.specs.entries = r'.specs.entries :=
    List.forall₂_eq_eq_eq ▸ hspecs.imp fun _ _ he => Prod.ext he.1 he.2.eq
  obtain ⟨settings, globals, specs, values, validators, aliases, triggers, environment⟩ := r
  obtain ⟨settings', globals', specs', values', validators', aliases', triggers', environment'⟩ :=
    r'
  obtain ⟨entries⟩ := specs
  obtain ⟨entries'⟩ := specs'
  simp_all

/-- A world inside a capture with other tables is one inside a capture of a world with other
tables. -/
theorem World.within_write {w : World} {problems : List Problem} {r : Registry}
    (h : r.settings = { w.registry.settings with error := some .collector }) :
    { w.within problems with registry := r } =
      World.within { w with registry := { r with settings := w.registry.settings } } problems := by
  simp only [World.within, ← h]

/-- Worlds inside a capture keep in step when those outside do. -/
theorem Frame.within (h : Frame Eq files files settings R) :
    Frame Eq files files { settings with error := some .collector } (Within R) where
  orthography := .eq
  files_eq := by
    rintro _ _ ⟨problems, hw⟩
    obtain ⟨hfiles, hfiles'⟩ := h.files_eq hw
    exact ⟨hfiles, hfiles'⟩
  settings_eq := by
    rintro _ _ ⟨problems, hw⟩
    exact congrArg (fun s : Settings => { s with error := some Callable.collector })
      (h.settings_eq hw)
  like := by
    rintro _ _ ⟨problems, hw⟩
    obtain ⟨error, herror⟩ := (h.like hw).settings_eq
    exact { h.like hw with settings_eq := ⟨some .collector, by simp only [World.within, herror]⟩ }
  folds := by
    rintro _ _ - s s' rfl
    rfl
  write := by
    rintro _ _ r r' ⟨problems, hw⟩ hlike hr hr'
    rw [World.within_write hr, World.within_write hr']
    refine .intro problems (h.write hw ?_ rfl rfl)
    exact { hlike with settings_eq := (h.like hw).settings_eq }
  left := by
    rintro _ _ e ⟨problems, hw⟩ he
    exact .intro problems (h.left hw he)
  right := by
    rintro _ _ e ⟨problems, hw⟩ he
    exact .intro problems (h.right hw he)

/-- **Inside a capture, everything goes in lockstep** when the worlds outside keep in step: a
problem goes to the lists of both. -/
theorem InStep.within (h : Frame Eq files files settings R) {stop : Failure → Prop} (depth : Nat) :
    InStep Eq files files { settings with error := some .collector } stop (Within R)
      (Callable.call depth) := by
  refine .of_reports h.within (fun depth p p' hp => ?_) depth
  obtain rfl : p = p' := hp.eq
  rintro _ _ ⟨problems, hw⟩
  cases depth with
  | zero => exact .fails .endless (.intro problems hw)
  | succ depth =>
    rw [report_told Callable.collector_takesProblems p rfl,
      report_told Callable.collector_takesProblems p rfl]
    exact .answers rfl (.intro (problems ++ [p]) hw)

/-- **Programs go in lockstep** when what they can ask for does, captures included. -/
theorem Program.inStep {stop : Failure → Prop} (hstop : ∀ f, stop f → f = .endless) {depth : Nat}
    (h : InStep Eq files files settings stop R (Callable.call depth)) (program : Program α) :
    Lockstep stop R Eq (program.run (Callable.call depth))
      (program.run (Callable.call depth)) := by
  induction program generalizing settings R with
  | done answer => exact .orFailure answer
  | ask q next ih =>
    have hanswers := (q.inStep h (.refl .eq _ q) (.inr ⟨rfl, rfl⟩)).mono fun _ _ =>
      Request.AnswerLike.eq
    exact (hanswers.attempt hstop).bind_eq fun answer => ih answer h
  | capture block next ihBlock ihNext =>
    -- inside the block, the worlds are those of the block's own capture
    exact ((ihBlock (.within h.toFrame depth)).captured hstop).bind_eq fun captured =>
      ihNext captured.1 captured.2 h

/-! ### Beside a capture -/

/-- A world outside a capture and one inside it, where the capture was opened in a given world. -/
structure Beside (start w w' : World) : Prop where
  settings_eq : w.registry.settings = start.registry.settings
  files_eq : w.files = start.files ∧ w'.files = start.files
  registry_eq : w'.registry =
    { w.registry with settings := { start.registry.settings with error := some .collector } }
  /-- What is in the list of the capture has been heard outside. -/
  heard : ∃ problems, w'.captures = { settings := start.registry.settings, problems } ::
      start.captures ∧
    w.heard start.registry.settings.error = start.heard start.registry.settings.error ++
      problems.map (Problem.heardBy start.registry.settings.error)
  /-- The collector outside has a list. -/
  listed : start.registry.settings.error = some .collector → w.captures ≠ []
  /-- Nothing is heard inside. -/
  silent : ∀ sink, w'.events.filterMap (Event.heardBy sink) =
    start.events.filterMap (Event.heardBy sink)

/-- A capture that is opened. -/
theorem Beside.start {w : World}
    (hlisted : w.registry.settings.error = some .collector → w.captures ≠ []) :
    Beside w w (w.within []) where
  settings_eq := rfl
  files_eq := ⟨rfl, rfl⟩
  registry_eq := rfl
  heard := ⟨[], rfl, by simp⟩
  listed := hlisted
  silent _ := rfl

theorem Beside.frame (start : World) :
    Frame Eq start.files start.files start.registry.settings (Beside start) where
  orthography := .eq
  files_eq h := h.files_eq
  settings_eq h := h.settings_eq
  like := by
    intro w w' h
    rw [h.registry_eq, ← h.settings_eq]
    exact { Registry.Like.refl .eq w.registry with settings_eq := ⟨some .collector, rfl⟩ }
  folds := by
    rintro w w' - s s' rfl
    rfl
  write := by
    intro w w' r r' h hlike hr hr'
    have hregistry := hlike.eq_with
    rw [hr', h.registry_eq] at hregistry
    refine ⟨hr.trans h.settings_eq, h.files_eq, hregistry, ?_, h.listed, h.silent⟩
    rw [World.heard_registry]
    exact h.heard
  left := by
    intro w w' e h he
    refine ⟨h.settings_eq, h.files_eq, h.registry_eq, ?_, h.listed, h.silent⟩
    rw [World.heard_record he]
    exact h.heard
  right := by
    intro w w' e h he
    refine ⟨h.settings_eq, h.files_eq, h.registry_eq, h.heard, h.listed, fun sink => ?_⟩
    rw [List.filterMap_append, List.filterMap_cons_none (he.heardBy sink), List.filterMap_nil,
      List.append_nil, h.silent sink]

/-- A problem that is heard outside and captured inside. -/
theorem Beside.told {start w w' w₁ : World} (h : Beside start w w') {p : Problem}
    (hregistry : w₁.registry = w.registry) (hfiles : w₁.files = w.files)
    (hheard : w₁.heard start.registry.settings.error =
      w.heard start.registry.settings.error ++ [p.heardBy start.registry.settings.error])
    (hlisted : start.registry.settings.error = some .collector → w₁.captures ≠ []) :
    Beside start w₁ (w'.told p .collector) := by
  obtain ⟨problems, hcaptures, hbefore⟩ := h.heard
  have htold : w'.told p .collector =
      { w' with
        captures :=
          { settings := start.registry.settings, problems := problems ++ [p] } ::
            start.captures } := by
    simp only [World.told, hcaptures]
  rw [htold]
  refine ⟨hregistry ▸ h.settings_eq, ⟨hfiles.trans h.files_eq.1, h.files_eq.2⟩,
    hregistry ▸ h.registry_eq, ⟨problems ++ [p], rfl, ?_⟩, hlisted, h.silent⟩
  rw [hheard, hbefore, List.map_append, List.append_assoc, List.map_singleton]

/-- The world inside a capture is one in which the capture can end. -/
theorem Beside.closes {start w w' : World} (h : Beside start w w') :
    ∃ (problems : List Problem) (inside : World), w' = inside.within problems ∧
      inside.registry = w.registry ∧ inside.captures = start.captures ∧
      (∀ sink, inside.heard sink = start.heard sink) ∧
      w.heard start.registry.settings.error = start.heard start.registry.settings.error ++
        problems.map (Problem.heardBy start.registry.settings.error) := by
  obtain ⟨problems, hcaptures, hheard⟩ := h.heard
  refine ⟨problems, { w' with registry := w.registry, captures := start.captures }, ?_, rfl, rfl,
    fun sink => ?_, hheard⟩
  · rw [World.within, h.settings_eq, ← h.registry_eq, ← hcaptures]
  · unfold World.heard
    split
    · rfl
    · exact h.silent sink

/-- The failure of calls that go too deep stops the comparison where problems go to the log. -/
def TooDeep (settings : Settings) (f : Failure) : Prop :=
  f = .endless ∧ settings.error = none

/-- **Outside a capture and inside it, everything goes in lockstep** under an idle sink. -/
theorem Beside.inStep {start : World} {depth : Nat}
    (hsink : start.registry.settings.IdleSink (Callable.call depth)) (depth' : Nat) :
    InStep Eq start.files start.files start.registry.settings
      (TooDeep start.registry.settings) (Beside start) (Callable.call depth') := by
  refine .of_reports (Beside.frame start) (fun depth' p p' hp => ?_) depth'
  obtain rfl : p = p' := hp.eq
  intro w w' h
  have hcollector : w'.registry.settings.error = some .collector := by rw [h.registry_eq]
  cases herror : start.registry.settings.error with
  | none =>
    rw [report_logged _ p (h.settings_eq ▸ herror)]
    cases depth' with
    | zero =>
      -- the collector cannot be called any more, though a message can still be put into the log
      rw [report_endless p hcollector]
      exact .stops ⟨rfl, herror⟩ _ h
    | succ depth' =>
      rw [report_told Callable.collector_takesProblems p hcollector]
      refine .answers rfl (h.told rfl rfl ?_ (by rw [herror]; rintro ⟨⟩))
      rw [herror]
      exact List.filterMap_append
  | some sink =>
    have hfound : w.registry.settings.error = some sink := h.settings_eq ▸ herror
    cases depth' with
    | zero =>
      rw [report_endless p hfound, report_endless p hcollector]
      exact .fails _ h
    | succ depth' =>
      have htakes := hsink.takesProblems herror
      have hlisted : sink = .collector → w.captures ≠ [] := fun hs => h.listed (hs ▸ herror)
      rw [report_told htakes p hfound,
        report_told Callable.collector_takesProblems p hcollector]
      refine .answers rfl (h.told (w.told_registry p sink) (w.told_files p sink) ?_ ?_)
      · rw [herror]
        exact World.heard_told htakes w p hlisted
      · rw [herror]
        rintro ⟨⟩
        obtain ⟨capture, outer, hcaptures⟩ := List.exists_cons_of_ne_nil (hlisted rfl)
        simp [World.told, hcaptures]

/-- **A capture is transparent and complete.**  Let the error sink of a registry never fail and
leave the registry as it is; the collector as a sink has a list.  A program that runs inside a
capture, whatever it asks for and whatever captures it opens itself, ends with a result, and with
the settings and the captures from before.  No sink has heard anything of it.  The result is that of
the program outside the capture, with the same registry behind it, and the sink has heard outside
what has been captured inside, in the same order.  The one exception is a registry without a sink,
for which calls may go too deep inside. -/
theorem capture_transparent (depth : Nat) (program : Program α) (w : World)
    (hsink : w.registry.settings.IdleSink (Callable.call depth))
    (hlisted : w.registry.settings.error = some .collector → w.captures ≠ []) :
    let run := program.run (Callable.call depth)
    let sink := w.registry.settings.error
    ∃ result problems inside, (capturing run).ends w = (.ok (result, problems), inside) ∧
      inside.registry.settings = w.registry.settings ∧ inside.captures = w.captures ∧
      (∀ other, inside.heard other = w.heard other) ∧
      (result = .error .endless ∧ sink = none ∨
        result = (run.ends w).1 ∧ inside.registry = (run.ends w).2.registry ∧
          (run.ends w).2.heard sink = w.heard sink ++ problems.map (Problem.heardBy sink)) := by
  intro run sink
  have hstep : Lockstep (TooDeep w.registry.settings) (Beside w) Eq run run :=
    program.inStep (fun _ => And.left) (Beside.inStep hsink depth)
  have hend := hstep w (w.within []) (.start hlisted)
  generalize hinside : run.ends (w.within []) = second at hend
  -- whatever the result is, the capture ends with the world from before, up to the tables
  have hcloses : ∀ {v v' : World} {result : Except Failure α}, Beside w v v' →
      second = (result, v') →
      ∃ problems inside, (capturing run).ends w = (.ok (result, problems), inside) ∧
        inside.registry = v.registry ∧ inside.captures = w.captures ∧
        (∀ other, inside.heard other = w.heard other) ∧
        v.heard sink = w.heard sink ++ problems.map (Problem.heardBy sink) := by
    intro v v' result h hsecond
    obtain ⟨problems, inside, rfl, hregistry, hcaptures, hsilent, hheard⟩ := h.closes
    exact ⟨problems, inside, capturing_ends (hinside.trans hsecond), hregistry, hcaptures, hsilent,
      hheard⟩
  generalize run.ends w = first at hend ⊢
  cases hend with
  | answers hanswers hworlds =>
    obtain ⟨problems, inside, hends, hregistry, hcaptures, hsilent, hheard⟩ := hcloses hworlds rfl
    exact ⟨_, problems, inside, hends, hregistry ▸ hworlds.settings_eq, hcaptures, hsilent,
      .inr ⟨congrArg Except.ok hanswers.symm, hregistry, hheard⟩⟩
  | fails f hworlds =>
    obtain ⟨problems, inside, hends, hregistry, hcaptures, hsilent, hheard⟩ := hcloses hworlds rfl
    exact ⟨_, problems, inside, hends, hregistry ▸ hworlds.settings_eq, hcaptures, hsilent,
      .inr ⟨rfl, hregistry, hheard⟩⟩
  | stops hstop _ hworlds =>
    obtain ⟨problems, inside, hends, hregistry, hcaptures, hsilent, -⟩ := hcloses hworlds rfl
    exact ⟨_, problems, inside, hends, hregistry ▸ hworlds.settings_eq, hcaptures, hsilent,
      .inl ⟨congrArg Except.error hstop.1, hstop.2⟩⟩

/-- A program that declares a variable with an unknown option, in a capture of its own a second one,
and then sets a variable that is none. -/
def misuse : Program Value :=
  .ask (.define "x" [(.text "colour", .int 1)] []) fun _ =>
    .capture (.ask (.define "y" [(.text "shape", .int 2)] []) .done) fun _ _ =>
      .ask (.access (.set (.int 5)) "z") .done

/-- The unknown option of the first variable is captured, and the recorder hears nothing of it. -/
theorem misuse_captured :
    let w := digitsSession
    let run := misuse.run Caller.standard
    w.registry.settings.IdleSink Caller.standard ∧
      (w.registry.settings.error = some .collector → w.captures ≠ []) ∧
      ∃ result problems inside, (capturing run).ends w = (.ok (result, problems), inside) ∧
        problems.length = 1 ∧ inside.heard (some .recorder) = w.heard (some .recorder) ∧
        result = (run.ends w).1 ∧
        (run.ends w).2.heard (some .recorder) =
          w.heard (some .recorder) ++ problems.map .problem := by
  intro w run
  have hrecorder : w.registry.settings.error = some .recorder :=
    Callable.eq_recorder (by decide +kernel)
  have hlisted : w.registry.settings.error = some .collector → w.captures ≠ [] := by
    rw [hrecorder]
    rintro ⟨⟩
  obtain ⟨result, problems, inside, hends, -, -, hsilent, hsame⟩ :=
    capture_transparent maxCallDepth misuse w digitsSession_idleSink hlisted
  rw [hrecorder] at hsame
  obtain ⟨-, ⟨⟩⟩ | ⟨hresult, -, hheard⟩ := hsame
  have hone : ((capturing run).ends w).1.toOption.map (fun captured => captured.2.length) =
      some 1 := by decide +kernel
  have hends : (capturing run).ends w = (.ok (result, problems), inside) := hends
  rw [hends] at hone
  exact ⟨digitsSession_idleSink, hlisted, result, problems, inside, hends,
    Option.some.inj hone, hsilent _, hresult, hheard⟩

end ConfigVars
