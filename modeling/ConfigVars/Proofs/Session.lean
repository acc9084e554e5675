import ConfigVars.Proofs.Reading
import ConfigVars.Proofs.Sound
import ConfigVars.Registry.Create

/-!
# Sessions

A program starts a registry and asks one operation of it after the other (`Operation`); an
operation that fails leaves the world as far as it has come, and the program may go on.  The worlds
that come about in this way are the *reachable* ones (`Reachable`); between two operations, files
and environment may change.

A property of registries is *stable* when it survives whatever a declaration, an alias and an
assignment write (`Stable`).  Then every operation goes alike under callers that do
(`Operation.run_alike`), and so do callables that follow their instructions
(`Callable.answer_alike`).  A property that survives only some declarations asks for a family of
callables that make no others (`Closed`).

*Watched* callables (`Callable.watched`) stop with an alarm when they are called where a property
does not hold, at whatever depth they are called from.  For a stable property the alarm is never
raised (`Callable.watched_alike`).
-/

namespace ConfigVars

open Run

/-- What a program asks of a registry. -/
inductive Operation where
  | define (name : String) (options : List (Value × Value)) (keywords : List (String × Value))
  | addAlias (name target : String)
  | set (name : String) (v : Value)
  | reset (name : String)
  | validate (name : String) (v : Value)
  | report (p : Problem)
  | readSource (s : Source)
  | readArguments (argv : List Value)

/-- Does what a program asks. -/
def Operation.run (call : Caller) : Operation → Run Unit
  | .define name options keywords => do
    let _ ← ConfigVars.define call name options keywords
  | .addAlias name target => do
    let _ ← ConfigVars.addAlias call name target
  | .set name v => do
    let _ ← assign call name v
  | .reset name => do
    let _ ← ConfigVars.reset call name
  | .validate name v => do
    let _ ← ConfigVars.validate call name v
  | .report p => ConfigVars.report call p
  | .readSource s => do
    let _ ← ConfigVars.readSource call s
  | .readArguments argv => do
    let _ ← ConfigVars.readArguments call argv

/-- The worlds that a session comes to, after its start and after every operation, whether or not
that succeeded. -/
inductive Reachable (call : Caller) : World → Prop where
  | start (w : World) (environment : Environment) (basis : SettingsBasis)
      (options : List (Value × Value)) :
      Reachable call ((start call environment basis options).ends w).2
  | operation {w : World} (h : Reachable call w) (o : Operation) :
      Reachable call ((o.run call).ends w).2
  /-- Nothing but the environment of the registry changes from outside. -/
  | outside {w w' : World} (h : Reachable call w) {environment : Environment}
      (hr : w'.registry = { w.registry with environment }) : Reachable call w'

/-- A session that has just started, in an environment without variables and homes. -/
def newSession (options : List (Value × Value)) : World :=
  ((start Caller.standard (.own ∅ ∅) .none options).ends
    { registry := { environment := .own ∅ ∅ } }).2

/-! ### Stable properties -/

/-- A property that survives whatever operations write to the tables. -/
structure Stable (P : Registry → Prop) : Prop where
  settable : Settable P
  declare : ∀ {r : Registry} {options d} (name : String), P r →
    Declaration.ofOptions r.globals options = .ok d → P (r.declare name d).1
  addAlias : ∀ {r : Registry} (name target : String), P r →
    r.specs.contains (r.fold name) = false →
      P { r with aliases := r.aliases.put (r.fold name) (r.fold target) }

/-- Two callers go alike, whatever they call. -/
def CallersAlike (P : Registry → Prop) (call call' : Caller) : Prop :=
  ∀ c withRegistry arguments,
    Alike P (call c withRegistry arguments) (call' c withRegistry arguments)

section Stable

variable {P : Registry → Prop} {call call' : Caller}

theorem Stable.and {Q : Registry → Prop} (hP : Stable P) (hQ : Stable Q) :
    Stable fun r => P r ∧ Q r where
  settable v hr hdef := ⟨hP.settable v hr.1 hdef, hQ.settable v hr.2 hdef⟩
  declare name hr hd := ⟨hP.declare name hr.1 hd, hQ.declare name hr.2 hd⟩
  addAlias name target hr hfree :=
    ⟨hP.addAlias name target hr.1 hfree, hQ.addAlias name target hr.2 hfree⟩

theorem CallersAlike.hooks (h : CallersAlike P call call') : HooksAlike P call call' where
  sink _ _ _ := h _ _ _
  change _ _ _ _ := h _ _ _
  check _ _ _ := h _ _ _
  reading _ _ _ := h _ _ _

/-- **Every operation goes alike.** -/
theorem Operation.run_alike (hP : Stable P) (h : CallersAlike P call call') (o : Operation) :
    Alike P (o.run call) (o.run call') := by
  have hooks := h.hooks
  have reads := hooks.ingests hP.settable
  cases o with
  | define name options keywords =>
    exact (hooks.define hP.settable name options keywords fun hr hd => hP.declare name hr hd).bind
      fun _ => Alike.pure ()
  | addAlias name target =>
    exact (hooks.addAlias name target (hP.addAlias name target)).bind fun _ => Alike.pure ()
  | set name v => exact (hooks.assign hP.settable name v).bind fun _ => Alike.pure ()
  | reset name => exact (hooks.reset hP.settable name).bind fun _ => Alike.pure ()
  | validate name v => exact (hooks.validate name v).bind fun _ => Alike.pure ()
  | report p => exact hooks.report p
  | readSource s => exact (reads.readSource s).bind fun _ => Alike.pure ()
  | readArguments argv => exact (reads.readArguments argv).bind fun _ => Alike.pure ()

/-- **Starting a registry goes alike**, where the property holds of a registry without
variables. -/
theorem start_alike (h : CallersAlike P call call') {environment : Environment}
    {basis : SettingsBasis} {options : List (Value × Value)}
    (hnew : P (Registry.create environment basis options).1) (w : World) :
    (start call environment basis options).ends w =
        (start call' environment basis options).ends w ∧
      P ((start call environment basis options).ends w).2.registry :=
  h.hooks.reportAll (Registry.create environment basis options).2
    { w with registry := (Registry.create environment basis options).1 } hnew

/-! ### Callables -/

theorem withLastList_alike {arguments : List Value}
    {change change' : List Value → Run (List Value)}
    (h : ∀ items, Alike P (change items) (change' items)) :
    Alike P (withLastList arguments change) (withLastList arguments change') := by
  unfold withLastList
  split
  · exact (h _).bind fun _ => Alike.pure _
  · exact Alike.throw _
  · exact Alike.throw _

/-- A property survives the declaration that an instruction makes, if it makes one. -/
def Instruction.Keeps (P : Registry → Prop) : Instruction → Prop
  | .define name options => ∀ {r : Registry} {d}, P r →
      Declaration.ofOptions r.globals (givenOptions options []) = .ok d → P (r.declare name d).1
  | _ => True

theorem Instruction.run_alike (hset : Settable P) (h : WritesAlike P call call')
    (arguments : List Value) {i : Instruction} (hi : i.Keeps P) :
    Alike P (i.run call arguments) (i.run call' arguments) := by
  have hassign := h.assign hset
  cases i with
  | set name v => exact (hassign name v).bind fun _ => Alike.pure _
  | copy name index =>
    exact (Alike.orFailure _).bind fun v => (hassign name v).bind fun _ => Alike.pure _
  | get name =>
    exact Alike.bind_registry fun r _ => (Alike.orProblem _).bind fun v =>
      (Alike.record _).bind fun _ => Alike.pure _
  | define name options => exact (h.define hset name options [] hi).bind fun _ => Alike.pure _
  | pop name? =>
    refine withLastList_alike fun items => ?_
    cases items with
    | nil => exact Alike.throw _
    | cons front rest =>
      cases name? with
      | none => exact Alike.pure _
      | some name => exact (hassign name front).bind fun _ => Alike.pure _
  | push values => exact withLastList_alike fun items => Alike.pure _
  | clear => exact withLastList_alike fun items => Alike.pure _

theorem Instruction.runAll_alike (hset : Settable P) (h : WritesAlike P call call')
    {is : List Instruction} (his : ∀ i ∈ is, i.Keeps P) (arguments : List Value) :
    Alike P (Instruction.runAll call arguments is) (Instruction.runAll call' arguments is) := by
  induction is generalizing arguments with
  | nil => exact Alike.pure _
  | cons i rest ih =>
    exact (Instruction.run_alike hset h arguments (his i List.mem_cons_self)).bind fun left =>
      ih (fun i' hi' => his i' (List.mem_cons_of_mem i hi')) left

theorem Script.run_alike (hset : Settable P) (h : WritesAlike P call call') {s : Script}
    (hs : ∀ i ∈ s.body, i.Keeps P) (arguments : List Value) :
    Alike P (s.run call arguments) (s.run call' arguments) := by
  refine (Alike.record _).bind fun _ => (Alike.orFailure _).bind fun runs => ?_
  -- a script that fails has followed all its instructions before
  split
  · refine (Instruction.runAll_alike hset h hs arguments).bind fun left => ?_
    split
    · exact Alike.throw _
    · exact (Alike.orFailure _).bind fun answer => Alike.pure _
  · exact Alike.pure _

theorem checkedValue_alike (withRegistry : Bool) (arguments : List Value) :
    Alike P (checkedValue withRegistry arguments) (checkedValue withRegistry arguments) := by
  unfold checkedValue
  repeat' split
  all_goals first | exact Alike.pure _ | exact Alike.throw _

theorem givenProblem_alike (withRegistry : Bool) (arguments : List Value) :
    Alike P (givenProblem withRegistry arguments) (givenProblem withRegistry arguments) := by
  unfold givenProblem
  repeat' split
  all_goals first | exact Alike.pure _ | exact Alike.throw _

theorem collect_alike (p : Problem) : Alike P (collect p) (collect p) := by
  refine Alike.idle fun w => ?_
  obtain ⟨registry, files, events, captures, detailed⟩ := w
  cases captures <;> rfl

/-- A family of callables that stays among itself: the sink and the hooks of variables of a
registry with a property belong to it, and the property survives what its scripts declare. -/
structure Closed (P : Registry → Prop) (family : Callable → Prop) : Prop where
  settable : Settable P
  sink : ∀ {r : Registry} {hook}, P r → r.settings.error = some hook → family hook
  change : ∀ {r : Registry} {name spec hook}, P r → r.specs.get? name = some spec →
    spec.onChange = some hook → family hook
  script : ∀ {s : Script}, family (.script s) → ∀ i ∈ s.body, i.Keeps P
  predicate : ∀ {c}, family (.validator (.predicate c)) → family c

/-- Two callers go alike for the callables of a family. -/
def FamilyAlike (P : Registry → Prop) (family : Callable → Prop) (call call' : Caller) : Prop :=
  ∀ c, family c → ∀ withRegistry arguments,
    Alike P (call c withRegistry arguments) (call' c withRegistry arguments)

namespace Closed

variable {family : Callable → Prop}

theorem writes (hP : Closed P family) (h : FamilyAlike P family call call') :
    WritesAlike P call call' where
  sink hr hsink _ := h _ (hP.sink hr hsink) _ _
  change hr hspec hhook _ := h _ (hP.change hr hspec hhook) _ _

/-- **The callables of a family go alike** when those that they call do. -/
theorem answer_alike (hP : Closed P family) (h : FamilyAlike P family call call') :
    FamilyAlike P family (Callable.answer call) (Callable.answer call') := by
  intro c hc withRegistry arguments
  cases c with
  | script s => exact Script.run_alike hP.settable (hP.writes h) (hP.script hc) arguments
  | recorder =>
    exact (givenProblem_alike _ _).bind fun p => (Alike.record _).bind fun _ => Alike.pure _
  | collector =>
    exact (givenProblem_alike _ _).bind fun p => (collect_alike p).bind fun _ => Alike.pure _
  | truthWords => exact (checkedValue_alike _ _).bind fun v => Alike.pure _
  | choices among cast =>
    exact (checkedValue_alike _ _).bind fun v => (Alike.orFailure _).bind fun b => Alike.pure _
  | validator v =>
    cases v with
    | search p => exact (checkedValue_alike _ _).bind fun v => Alike.pure _
    | predicate c' =>
      exact (checkedValue_alike _ _).bind fun _ =>
        (h c' (hP.predicate hc) _ _).bind fun reply => Alike.pure _

theorem call_alike (hP : Closed P family) (depth : Nat) :
    FamilyAlike P family (Callable.call depth) (Callable.call depth) := by
  induction depth with
  | zero => exact fun _ _ _ _ => Alike.throw _
  | succ depth ih => exact hP.answer_alike ih

end Closed

theorem Stable.keeps (hP : Stable P) (i : Instruction) : i.Keeps P := by
  cases i with
  | define name options => exact fun hr hd => hP.declare name hr hd
  | _ => trivial

/-- For a stable property, all callables are such a family. -/
theorem Stable.closed (hP : Stable P) : Closed P fun _ => True where
  settable := hP.settable
  sink _ _ := trivial
  change _ _ _ := trivial
  script _ i _ := hP.keeps i
  predicate _ := trivial

theorem Callable.answer_alike (hP : Stable P) (h : CallersAlike P call call') :
    CallersAlike P (Callable.answer call) (Callable.answer call') :=
  fun c => hP.closed.answer_alike (fun c _ => h c) c trivial

end Stable

/-! ### Watched callables -/

open Classical in
/-- Raises an alarm instead of a call where a property does not hold. -/
noncomputable def Caller.watch (P : Registry → Prop) (alarm : Failure) (call : Caller) : Caller :=
  fun c withRegistry arguments => do
    if P (← registry) then call c withRegistry arguments else throw alarm

/-- Calls a callable like `Callable.call`, and watches this call and all calls inside it. -/
noncomputable def Callable.watched (P : Registry → Prop) (alarm : Failure) : Nat → Caller
  | 0 => Caller.watch P alarm (Callable.call 0)
  | depth + 1 => Caller.watch P alarm (Callable.answer (Callable.watched P alarm depth))

variable {P : Registry → Prop}

theorem Caller.watch_alike {call call' : Caller} (h : CallersAlike P call call')
    (alarm : Failure) : CallersAlike P (Caller.watch P alarm call) call' := by
  intro c withRegistry arguments w hw
  rw [Caller.watch, ends_bind_registry, if_pos hw]
  exact h c withRegistry arguments w hw

/-- **The alarm is never raised** for a property that is stable. -/
theorem Callable.watched_alike (hP : Stable P) (alarm : Failure) (depth : Nat) :
    CallersAlike P (Callable.watched P alarm depth) (Callable.call depth) := by
  -- the callables one level down are watched too, so the alarm covers all calls inside
  induction depth with
  | zero => exact Caller.watch_alike (fun _ _ _ => Alike.throw _) alarm
  | succ depth ih => exact Caller.watch_alike (Callable.answer_alike hP ih) alarm

theorem Callable.call_alike (hP : Stable P) (depth : Nat) :
    CallersAlike P (Callable.call depth) (Callable.call depth) :=
  fun c => hP.closed.call_alike depth c trivial

/-- What is stable and holds of every new registry holds of every reachable one. -/
theorem Reachable.of_stable (hP : Stable P)
    (hnew : ∀ environment basis options, P (Registry.create environment basis options).1)
    (houtside : ∀ {r : Registry} environment, P r → P { r with environment }) {depth : Nat}
    {w : World} (hw : Reachable (Callable.call depth) w) : P w.registry := by
  have hcall := Callable.call_alike hP depth
  -- an operation that fails is a step like any other: `Alike` is about its end in either case
  induction hw with
  | start w environment basis options =>
    exact (start_alike hcall (hnew environment basis options) w).2
  | operation _ o ih => exact (o.run_alike hP hcall _ ih).2
  | outside _ hr ih => exact hr ▸ houtside _ ih

end ConfigVars
