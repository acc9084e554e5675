import ConfigVars.Proofs.Account

/-!
# The account of a command line

What a reading takes from a command line falls into groups (`Group`): a flag alone, a flag with its
value, and a flag with a placeholder where its value should be; and there may be an end marker
behind them (`Grouped`).  There is only one way to see them (`Grouped.unique`).  What a group asks
of a registry (`Group.Asks`) depends on the variable that its flag triggers.

In a quiet registry without hooks for readings, a reading of a command line never fails, and gives
an account of the groups that it has taken (`command_line_accounted`).
-/

namespace ConfigVars

open ConfigVars.Text Run

/-- Arguments that are taken together. -/
inductive Group where
  | flag (token : String)
  | valued (token value : String)
  | placeheld (token : String)

namespace Group

/-- The flag of a group. -/
def token : Group → String
  | flag token | valued token _ | placeheld token => token

/-- The arguments of a group. -/
def arguments : Group → List Value
  | flag token => [.text token]
  | valued token value => [.text token, .text value]
  | placeheld token => [.text token, .nothing]

/-- The value that a group gives to a variable. -/
def value : Group → Value
  | valued _ value => .text value
  | _ => flagValue

/-- The flag of a group is one, and no end marker, and its value is no flag. -/
structure WellFormed (endOfArgs : String) (g : Group) : Prop where
  isFlag : isFlag g.token = true
  not_end : g.token ≠ endOfArgs
  value_plain : ∀ token value, g = valued token value → ConfigVars.isFlag value = false

/-- The place of a group on a command line. -/
def place (g : Group) : Place := { token := some g.token }

/-- What a group asks of a registry. -/
inductive Asks (r : Registry) : Group → Directive → Prop where
  /-- The flag triggers no variable. -/
  | unknown {token : String} (htrigger : r.trigger? token = none) :
      Asks r (flag token) (.refuse (.reading .unknownFlag { token := some token }))
  /-- The variable needs no value. -/
  | plain {token name : String} {spec : VariableSpec} (htrigger : r.trigger? token = some name)
      (hspec : r.specs.get? name = some spec) (hplain : spec.argumentRequired = false) :
      Asks r (flag token) (.store name flagValue { token := some token })
  | valued {token name value : String} {spec : VariableSpec}
      (htrigger : r.trigger? token = some name) (hspec : r.specs.get? name = some spec)
      (hrequired : spec.argumentRequired = true) :
      Asks r (valued token value) (.store name (.text value) { token := some token })
  /-- The variable needs a value, and there is none. -/
  | missing {g : Group} {name : String} {spec : VariableSpec}
      (hg : g = flag g.token ∨ g = placeheld g.token) (htrigger : r.trigger? g.token = some name)
      (hspec : r.specs.get? name = some spec) (hrequired : spec.argumentRequired = true) :
      Asks r g (.refuse (.reading .missingArgument { token := some g.token }))

end Group

/-- What a group asks is about the variables of the registry. -/
theorem Group.Asks.fits {r : Registry} (hr : r.Sound) {g : Group} {d : Directive}
    (h : g.Asks r d) : d.Fits r := by
  cases h with
  | unknown _ => trivial
  | plain htrigger _ _ => exact hr.trigger_leads _ _ htrigger
  | valued htrigger _ _ => exact hr.trigger_leads _ _ htrigger
  | missing _ _ _ _ => trivial

/-! ### One way to see the groups -/

/-- Whether arguments start with one that a flag takes as its value, or in place of it. -/
def startsWithValue : List Value → Bool
  | .text s :: _ => !isFlag s
  | .nothing :: _ => true
  | _ => false

/-- Whether arguments start with a flag. -/
def startsWithFlag : List Value → Bool
  | .text s :: _ => isFlag s
  | _ => false

/-- The end marker, if it was met. -/
def markerArguments (endOfArgs : String) (marked : Bool) : List Value :=
  if marked then [.text endOfArgs] else []

/-- Some arguments are those of groups, with an end marker behind them or none. -/
structure Grouped (endOfArgs : String) (taken : List Value) (groups : List Group)
    (marked : Bool) : Prop where
  taken_eq : taken = groups.flatMap Group.arguments ++ markerArguments endOfArgs marked
  wellFormed : ∀ g ∈ groups, g.WellFormed endOfArgs
  marker_flag : marked = true → isFlag endOfArgs = true

/-- Where no values follow, two groups that start the same arguments are the same. -/
theorem Group.arguments_cancel {endOfArgs : String} {g g' : Group}
    (hg : g.WellFormed endOfArgs) (hg' : g'.WellFormed endOfArgs) {behind behind' : List Value}
    (hplain : startsWithValue behind = false) (hplain' : startsWithValue behind' = false)
    (h : g.arguments ++ behind = g'.arguments ++ behind') : g = g' ∧ behind = behind' := by
  cases g <;> cases g' <;>
    simp only [arguments, List.cons_append, List.nil_append, List.cons.injEq, Value.text.injEq,
      reduceCtorEq, false_and, and_false] at h
  case flag.flag => exact ⟨by rw [h.1], h.2⟩
  case flag.valued token token' value' =>
    obtain ⟨-, rfl⟩ := h
    simp [startsWithValue, hg'.value_plain token' value' rfl] at hplain
  case flag.placeheld =>
    obtain ⟨-, rfl⟩ := h
    simp [startsWithValue] at hplain
  case valued.flag token value token' =>
    obtain ⟨-, rfl⟩ := h
    simp [startsWithValue, hg.value_plain token value rfl] at hplain'
  case valued.valued => exact ⟨by rw [h.1, h.2.1], h.2.2⟩
  case placeheld.flag =>
    obtain ⟨-, rfl⟩ := h
    simp [startsWithValue] at hplain'
  case placeheld.placeheld => exact ⟨by rw [h.1], h.2.2⟩

theorem Group.arguments_ne_marker {endOfArgs : String} {g : Group}
    (hg : g.WellFormed endOfArgs) (behind : List Value) (marked : Bool) :
    g.arguments ++ behind ≠ markerArguments endOfArgs marked := by
  intro h
  have hend := hg.not_end
  cases marked <;> cases g <;> simp_all [arguments, markerArguments, token]

namespace Grouped

variable {endOfArgs : String} {taken : List Value} {groups groups' : List Group} {g : Group}
  {marked marked' : Bool}

/-- The arguments behind the first group. -/
theorem tail (h : Grouped endOfArgs taken (g :: groups) marked) :
    ∃ behind, taken = g.arguments ++ behind ∧ Grouped endOfArgs behind groups marked := by
  refine ⟨_, ?_, rfl, fun g' hg' => h.wellFormed g' (List.mem_cons_of_mem _ hg'), h.marker_flag⟩
  rw [h.taken_eq, List.flatMap_cons, List.append_assoc]

theorem cons (hg : g.WellFormed endOfArgs) (h : Grouped endOfArgs taken groups marked) :
    Grouped endOfArgs (g.arguments ++ taken) (g :: groups) marked := by
  refine ⟨?_, ?_, h.marker_flag⟩
  · rw [h.taken_eq, List.flatMap_cons, List.append_assoc]
  · rintro g' (_ | ⟨_, hg'⟩)
    · exact hg
    · exact h.wellFormed g' hg'

/-- Groups start with a flag, and so does the marker. -/
theorem not_startsWithValue (h : Grouped endOfArgs taken groups marked) :
    startsWithValue taken = false := by
  cases groups with
  | nil =>
    rw [h.taken_eq]
    cases marked with
    | true => simp [markerArguments, startsWithValue, h.marker_flag rfl]
    | false => rfl
  | cons g groups =>
    obtain ⟨behind, rfl, -⟩ := h.tail
    have hflag := (h.wellFormed g List.mem_cons_self).isFlag
    cases g <;> simpa [Group.arguments, Group.token, startsWithValue] using hflag

/-- **There is one way to see the groups** of the arguments that were taken. -/
theorem unique (h : Grouped endOfArgs taken groups marked)
    (h' : Grouped endOfArgs taken groups' marked') : groups = groups' ∧ marked = marked' := by
  induction groups generalizing taken groups' with
  | nil =>
    cases groups' with
    | nil =>
      have hsame := h.taken_eq.symm.trans h'.taken_eq
      cases marked <;> cases marked' <;> simp_all [markerArguments]
    | cons g' groups' =>
      obtain ⟨behind', htaken, -⟩ := h'.tail
      exact absurd (htaken.symm.trans h.taken_eq)
        (Group.arguments_ne_marker (h'.wellFormed g' List.mem_cons_self) _ _)
  | cons g groups ih =>
    obtain ⟨behind, htaken, hrest⟩ := h.tail
    cases groups' with
    | nil =>
      exact absurd (htaken.symm.trans h'.taken_eq)
        (Group.arguments_ne_marker (h.wellFormed g List.mem_cons_self) _ _)
    | cons g' groups' =>
      obtain ⟨behind', htaken', hrest'⟩ := h'.tail
      obtain ⟨rfl, rfl⟩ := Group.arguments_cancel (h.wellFormed g List.mem_cons_self)
        (h'.wellFormed g' List.mem_cons_self) hrest.not_startsWithValue
        hrest'.not_startsWithValue (htaken.symm.trans htaken')
      obtain ⟨rfl, rfl⟩ := ih hrest hrest'
      exact ⟨rfl, rfl⟩

end Grouped

/-! ### The scan -/

/-- A flag alone whose variable needs a value. -/
def Group.Lacks (r : Registry) (g : Group) : Prop :=
  g = flag g.token ∧ ∃ name spec, r.trigger? g.token = some name ∧
    r.specs.get? name = some spec ∧ spec.argumentRequired = true

theorem Group.Lacks.revalued {r r' : Registry} {g : Group} (h : g.Lacks r)
    (hr : r.Revalued r') : g.Lacks r' := by
  obtain ⟨hg, name, spec, htrigger, hspec, hrequired⟩ := h
  exact ⟨hg, name, spec, (hr.trigger_eq _).trans htrigger, hr.specs_eq ▸ hspec, hrequired⟩

/-- The first group of some arguments, what it asks of a registry, and the arguments behind it. -/
structure Group.Leads (r : Registry) (endOfArgs : String) (argv : List Value) (g : Group)
    (d : Directive) (behind : List Value) : Prop where
  argv_eq : argv = g.arguments ++ behind
  wellFormed : g.WellFormed endOfArgs
  asks : g.Asks r d
  greedy : g.Lacks r → startsWithValue behind = false

section Scan

variable {call : Caller} {settings : Settings} {w w' : World} {token name : String}

/-- A flag that needs a value takes one only if it is there. -/
theorem takeArgument_cases (argv : List Value) :
    (∃ s rest, argv = .text s :: rest ∧ isFlag s = false ∧ takeArgument argv = (some s, rest)) ∨
      (∃ rest, argv = .nothing :: rest ∧ takeArgument argv = (none, rest)) ∨
      (startsWithValue argv = false ∧ takeArgument argv = (none, argv)) := by
  unfold takeArgument
  split
  · rename_i s rest
    cases hs : isFlag s with
    | true => exact .inr (.inr ⟨by simp [startsWithValue, hs], rfl⟩)
    | false => exact .inl ⟨s, rest, rfl, hs, rfl⟩
  · exact .inr (.inl ⟨_, rfl, rfl⟩)
  · refine .inr (.inr ⟨?_, rfl⟩)
    unfold startsWithValue
    split <;> simp_all

/-- A flag for a variable does what its group asks. -/
theorem applyFlag_leads (call : Caller) (hr : w.registry.Sound) (hflag : isFlag token = true)
    (hend : token ≠ settings.endOfArgs) (htrigger : w.registry.trigger? token = some name)
    (argv : List Value) (o : Outcome) :
    ∃ g d behind, Group.Leads w.registry settings.endOfArgs (.text token :: argv) g d behind ∧
      (applyFlag call o token name argv).ends w =
        Run.ends (do return (behind, ← d.run call o)) w := by
  have hdef : w.registry.specs.contains name = true := hr.trigger_leads _ _ htrigger
  obtain ⟨spec, hspec⟩ := Option.isSome_iff_exists.mp hdef
  have hfound : w.registry.spec name = .ok spec := by
    rw [Registry.spec, hr.find_of_get? hspec]
    rfl
  rw [applyFlag, ends_bind_registry, hfound, orProblem_ok_bind]
  dsimp only
  cases hrequired : spec.argumentRequired with
  | false =>
    refine ⟨.flag token, _, argv, ⟨rfl, ⟨hflag, hend, by rintro _ _ ⟨⟩⟩,
      .plain htrigger hspec hrequired, ?_⟩, rfl⟩
    rintro ⟨-, name', spec', htrigger', hspec', hrequired'⟩
    simp_all [Group.token]
  | true =>
    rw [if_pos rfl]
    rcases takeArgument_cases argv with
      ⟨s, rest, rfl, hs, htake⟩ | ⟨rest, rfl, htake⟩ | ⟨hnone, htake⟩
    · rw [htake]
      refine ⟨.valued token s, _, rest, ⟨rfl, ⟨hflag, hend, ?_⟩,
        .valued htrigger hspec hrequired, ?_⟩, rfl⟩
      · rintro _ _ ⟨⟩
        exact hs
      · rintro ⟨⟨⟩, -⟩
    · rw [htake]
      refine ⟨.placeheld token, _, rest, ⟨rfl, ⟨hflag, hend, by rintro _ _ ⟨⟩⟩,
        .missing (.inr rfl) htrigger hspec hrequired, ?_⟩, rfl⟩
      rintro ⟨⟨⟩, -⟩
    · rw [htake]
      exact ⟨.flag token, _, argv, ⟨rfl, ⟨hflag, hend, by rintro _ _ ⟨⟩⟩,
        .missing (.inl rfl) htrigger hspec hrequired, fun _ => hnone⟩, rfl⟩

/-- **A flag is scanned with its group**, and the scan goes on behind it. -/
theorem scan_leads (call : Caller) (harg : settings.argParse = none) (hr : w.registry.Sound)
    (hflag : isFlag token = true) (hend : token ≠ settings.endOfArgs) (fuel : Nat)
    (argv : List Value) (o : Outcome) :
    ∃ g d behind, Group.Leads w.registry settings.endOfArgs (.text token :: argv) g d behind ∧
      (scan call settings (fuel + 1) (.text token :: argv) o).ends w =
        Run.ends (do scan call settings fuel behind (← d.run call o)) w := by
  rw [scan, hflag, if_neg (by simp), if_neg hend, ends_bind_registry]
  cases htrigger : w.registry.trigger? token with
  | none =>
    refine ⟨.flag token, _, argv, ⟨rfl, ⟨hflag, hend, by rintro _ _ ⟨⟩⟩, .unknown htrigger, ?_⟩,
      rfl⟩
    rintro ⟨-, name', spec', htrigger', -⟩
    simp_all [Group.token]
  | some name =>
    obtain ⟨g, d, behind, hleads, hends⟩ :=
      applyFlag_leads call hr hflag hend htrigger argv o
    refine ⟨g, d, behind, hleads, ?_⟩
    dsimp only
    rw [harg]
    dsimp only
    rw [ends_bind, hends, ends_bind, ends_bind]
    rcases (d.run call o).ends w with ⟨_ | _, _⟩ <;> rfl

/-- A scan from a world on: the groups that it takes from the arguments with what came of each, the
end marker if it was met, and what is left. -/
structure Scanned (call : Caller) (endOfArgs : String) (w : World) (argv : List Value)
    (entries : List (Group × Option Problem)) (marked : Bool) (left : List Value)
    (w' : World) : Prop where
  split : ∃ taken, argv = taken ++ left ∧ Grouped endOfArgs taken (entries.map Prod.fst) marked
  account : Account call Group.Asks w entries w'
  stops : marked = true ∨ startsWithFlag left = false
  greedy : marked = false → ∀ before g, entries.map Prod.fst = before ++ [g] →
    g.Lacks w.registry → startsWithValue left = false

/-- Nothing is taken from arguments that start with no flag. -/
theorem Scanned.none {endOfArgs : String} {argv : List Value} (w : World)
    (hstop : startsWithFlag argv = false) : Scanned call endOfArgs w argv [] false argv w where
  split := ⟨[], rfl, rfl, by rintro _ ⟨⟩, by rintro ⟨⟩⟩
  account := .refl w
  stops := .inr hstop
  greedy _ before g h := by simp at h

/-- Of arguments that start with the end marker, only that is taken. -/
theorem Scanned.marker {endOfArgs : String} {argv : List Value} (w : World)
    (hflag : isFlag endOfArgs = true) :
    Scanned call endOfArgs w (.text endOfArgs :: argv) [] true argv w where
  split := ⟨[.text endOfArgs], rfl, rfl, by rintro _ ⟨⟩, fun _ => hflag⟩
  account := .refl w
  stops := .inl rfl
  greedy := by rintro ⟨⟩

/-- A group in front of what is scanned. -/
theorem Scanned.cons {endOfArgs : String} {argv behind left : List Value} {g : Group}
    {d : Directive} {result : Option Problem} {entries : List (Group × Option Problem)}
    {marked : Bool} {w₁ : World} (hleads : Group.Leads w.registry endOfArgs argv g d behind)
    (hdone : d.Done call w result w₁)
    (h : Scanned call endOfArgs w₁ behind entries marked left w') :
    Scanned call endOfArgs w argv ((g, result) :: entries) marked left w' where
  split := by
    obtain ⟨taken, htaken, hgrouped⟩ := h.split
    refine ⟨g.arguments ++ taken, ?_, hgrouped.cons hleads.wellFormed⟩
    rw [hleads.argv_eq, htaken, List.append_assoc]
  account := .more hleads.asks hdone h.account
  stops := h.stops
  greedy hmarked before last hlast hlacks := by
    cases entries with
    | nil =>
      -- the group is the last one, so what is behind it is what is left
      obtain ⟨taken, rfl, hgrouped⟩ := h.split
      obtain rfl : taken = [] := by simpa [markerArguments, hmarked] using hgrouped.taken_eq
      obtain ⟨-, rfl⟩ : before = [] ∧ last = g := by
        cases before with
        | nil => simpa [eq_comm] using hlast
        | cons _ _ => simp at hlast
      exact hleads.greedy hlacks
    | cons entry entries =>
      cases before with
      | nil => simp at hlast
      | cons _ before =>
        obtain ⟨-, hlast⟩ := List.cons.inj hlast
        exact h.greedy hmarked before last hlast (hlacks.revalued hdone.revalued)

/-- **A scan comes to an end** with an account of what it has taken. -/
theorem scan_ends (call : Caller) (harg : settings.argParse = none) (fuel : Nat) {argv : List Value}
    (hfuel : argv.length < fuel) (hquiet : w.registry.Quiet call) (hr : w.registry.Sound)
    (o : Outcome) :
    ∃ entries marked left w',
      (scan call settings fuel argv o).ends w =
          (.ok (left, o.tally (entries.map Prod.snd)), w') ∧
        Scanned call settings.endOfArgs w argv entries marked left w' := by
  induction fuel generalizing argv w o with
  | zero => omega
  | succ fuel ih =>
    by_cases hstart : startsWithFlag argv = true
    · obtain ⟨token, rest, rfl, hflag⟩ : ∃ token rest, argv = .text token :: rest ∧
          isFlag token = true := by
        unfold startsWithFlag at hstart
        split at hstart
        · exact ⟨_, _, rfl, hstart⟩
        · cases hstart
      by_cases hend : token = settings.endOfArgs
      · refine ⟨[], true, rest, w, ?_, hend ▸ Scanned.marker w (hend ▸ hflag)⟩
        rw [scan, hflag, if_neg (by simp), if_pos hend]
        rfl
      · obtain ⟨g, d, behind, hleads, hends⟩ :=
          scan_leads call harg hr hflag hend fuel rest o
        have hfits := hleads.asks.fits hr
        obtain ⟨result, w₁, hrun, hdone⟩ := d.run_done hquiet hr hfits o
        have hshorter : behind.length < fuel := by
          have hlength := congrArg List.length hleads.argv_eq
          cases g <;> simp [Group.arguments] at hlength hfuel <;> omega
        obtain ⟨entries, marked, left, w', hscan, hscanned⟩ :=
          ih hshorter (hquiet.revalued hdone.revalued) (hdone.sound hr hfits) (o.adding result)
        refine ⟨(g, result) :: entries, marked, left, w', ?_, hscanned.cons hleads hdone⟩
        rw [hends, ends_bind, hrun]
        exact hscan
    · refine ⟨[], false, argv, w, ?_, Scanned.none w (Bool.not_eq_true _ ▸ hstart)⟩
      unfold scan
      unfold startsWithFlag at hstart
      split <;> simp_all [Outcome.tally]

end Scan

/-- What is told behind a scan that has come to an end. -/
theorem detail_behind {s : Run (List Value × Outcome)} {left : List Value} {o : Outcome}
    {w w₁ : World} (message : List Value → Outcome → String)
    (hscan : s.ends w = (.ok (left, o), w₁)) :
    Run.ends (do let (left, o) ← s; detail (message left o); return (left, o)) w =
      Run.ends (do detail (message left o); return (left, o)) w₁ := by
  rw [ends_bind, hscan]

/-- A reading of arguments is a scan, and tells of it. -/
theorem readArguments_of_scan {call : Caller} {argv left : List Value} {o : Outcome} {w w₁ : World}
    (hcmd : w.registry.settings.cmdParse = none)
    (hscan : (scan call w.registry.settings ((withDefaults w.registry argv).length + 1 + patience)
      (withDefaults w.registry argv) (.fresh commandLineName)).ends w = (.ok (left, o), w₁)) :
    ∃ message, (readArguments call argv).ends w =
      Run.ends (do detail message; return (left, o)) w₁ := by
  refine ⟨_, Eq.trans ?_ (detail_behind (fun left o => "Parsed arguments: " ++
    toString o.applied ++ " variable(s) set, " ++ toString o.problems.length ++ " error(s), " ++
    toString left.length ++ " argument(s) left") hscan)⟩
  rw [readArguments, ends_bind_registry]
  dsimp only
  rw [hcmd]

/-- Behind the scan, a reading of arguments leaves a record at most. -/
theorem readArguments_ends {call : Caller} {argv left : List Value} {o : Outcome} {w w₁ : World}
    (hcmd : w.registry.settings.cmdParse = none)
    (hscan : (scan call w.registry.settings ((withDefaults w.registry argv).length + 1 + patience)
      (withDefaults w.registry argv) (.fresh commandLineName)).ends w = (.ok (left, o), w₁)) :
    ∃ w', (readArguments call argv).ends w = (.ok (left, o), w') ∧
      w'.registry = w₁.registry ∧
      ∀ {told : World → List Problem}, Hears call w.registry told → told w' = told w₁ := by
  obtain ⟨message, hread⟩ := readArguments_of_scan hcmd hscan
  obtain ⟨w', hdetail, hsame⟩ := detail_ends message w₁
  refine ⟨w', ?_, hsame, fun hhears => ?_⟩
  · rw [hread, ends_bind, hdetail]
    rfl
  · rw [← hhears.detail _ w₁, hdetail]

/-- A session that records its problems, whose variable `x` needs digits behind the flag `-x`. -/
def flaggedSession : World :=
  (((Operation.define "x"
    [(.text "argument_required", .bool true), (.text "command_triggers", .text "-x"),
      (.text "validator", .text "^[0-9]+$")] []).run Caller.standard).ends
    (newSession [(.text "error", .callable .recorder)])).2

theorem flaggedSession_reachable : Reachable Caller.standard flaggedSession :=
  (Reachable.start _ _ _ _).operation _

end ConfigVars
