import ConfigVars.Proofs.SameEnd
import ConfigVars.Proofs.FlagAccount
import ConfigVars.Proofs.ReadingInStep

/-!
# Arguments behind the end marker

A reading of a command line stops at the end marker.  A flag takes no value from behind it, since
the marker is a flag itself (`takeArgument_append`, `applyFlag_append`).  So a scan of arguments
without the marker does not depend on a marker and other arguments behind them, and these are left
with what is left of the first ones; a marker that is reached is taken (`behindMarker`,
`scan_append`, `marker_hides_what_follows`).

The two scans may try different numbers of flags, but both try enough: a flag leaves a suffix of the
arguments behind it (`applyFlag_leaves`).
-/

namespace ConfigVars

open ConfigVars.Text Run

/-- What is left of some arguments, and their outcome, where the end marker and others are behind
them. -/
def behindMarker (marker : String) (others : List Value) (a : List Value × Outcome) :
    List Value × Outcome :=
  (if a.1.isEmpty then others else a.1 ++ .text marker :: others, a.2)

section Flag

variable {marker : String} (others : List Value)

/-- **A flag takes no value from behind the end marker.** -/
theorem takeArgument_append (hflag : isFlag marker = true) (argv : List Value) :
    takeArgument (argv ++ .text marker :: others) =
      ((takeArgument argv).1, (takeArgument argv).2 ++ .text marker :: others) := by
  cases argv with
  | nil => simp [takeArgument, hflag]
  | cons v rest =>
    cases v with
    | text t =>
      rw [List.cons_append, takeArgument, takeArgument]
      split <;> rfl
    | _ => rfl

theorem takeArgument_suffix (argv : List Value) : (takeArgument argv).2 <:+ argv := by
  rcases takeArgument_cases argv with ⟨t, rest, rfl, -, htake⟩ | ⟨rest, rfl, htake⟩ | ⟨-, htake⟩
  · exact htake ▸ List.suffix_cons _ _
  · exact htake ▸ List.suffix_cons _ _
  · exact htake ▸ List.suffix_rfl

variable (call : Caller) (o : Outcome) (token name : String)

/-- A flag leaves a suffix of the arguments behind it. -/
theorem applyFlag_leaves (argv : List Value) :
    Answers (fun a => a.1 <:+ argv) (applyFlag call o token name argv) := by
  refine Answers.bind fun r => Answers.bind fun spec => ?_
  have hsuffix := takeArgument_suffix argv
  dsimp only
  split
  · split <;> rename_i htake <;> rw [htake] at hsuffix <;>
      exact Answers.bind fun _ => Answers.pure hsuffix
  · exact Answers.bind fun _ => Answers.pure List.suffix_rfl

/-- A flag does the same with the end marker behind its arguments. -/
theorem applyFlag_append (hflag : isFlag marker = true) (argv : List Value) :
    applyFlag call o token name (argv ++ .text marker :: others) = (do
      let a ← applyFlag call o token name argv
      return (a.1 ++ .text marker :: others, a.2)) := by
  rw [applyFlag, applyFlag, bind_assoc]
  refine bind_congr fun r => ?_
  rw [bind_assoc]
  refine bind_congr fun spec => ?_
  dsimp only
  rw [takeArgument_append others hflag]
  cases spec.argumentRequired with
  | false => simp only [Bool.false_eq_true, if_false, bind_assoc, pure_bind]
  | true =>
    rcases takeArgument argv with ⟨value, rest⟩
    cases value <;> simp only [if_true, bind_assoc, pure_bind]

/-- A scan goes on from a flag as it does without the end marker, if it does from what the flag may
leave. -/
theorem scanFlag_append (hflag : isFlag marker = true)
    {again again' : List Value → Outcome → Run (List Value × Outcome)} {argv : List Value}
    (hagain : ∀ left, left <:+ argv → ∀ o w,
      (again' (left ++ .text marker :: others) o).ends w =
        Run.ends (do let a ← again left o; return behindMarker marker others a) w) (w : World) :
    (scanFlag call none again' token (argv ++ .text marker :: others) o).ends w =
      Run.ends (do
        let a ← scanFlag call none again token argv o
        return behindMarker marker others a) w := by
  rw [scanFlag, scanFlag, bind_assoc, ends_bind_registry, ends_bind_registry]
  cases w.registry.trigger? token with
  | none =>
    dsimp only
    rw [bind_assoc, ends_bind, ends_bind]
    rcases (note call o _).ends w with ⟨result, w₁⟩
    cases result with
    | error f => rfl
    | ok o₁ => exact hagain argv List.suffix_rfl o₁ w₁
  | some name =>
    dsimp only
    rw [applyFlag_append others call o token name hflag, bind_assoc, bind_assoc, ends_bind,
      ends_bind]
    have hleaves := applyFlag_leaves call o token name argv w
    rcases hends : (applyFlag call o token name argv).ends w with ⟨result, w₁⟩
    cases result with
    | error f => rfl
    | ok a => exact hagain a.1 (hleaves a (congrArg Prod.fst hends)) a.2 w₁

end Flag

/-! ### The scan -/

/-- **Nothing behind the end marker makes a difference to a scan.** -/
theorem scan_append (call : Caller) {settings : Settings} (harg : settings.argParse = none)
    (hflag : isFlag settings.endOfArgs = true) (others : List Value) {fuel fuel' : Nat}
    {argv : List Value} (hfree : .text settings.endOfArgs ∉ argv) (hfuel : argv.length < fuel)
    (hfuel' : argv.length < fuel') (o : Outcome) (w : World) :
    (scan call settings fuel' (argv ++ .text settings.endOfArgs :: others) o).ends w =
      Run.ends (do
        let a ← scan call settings fuel argv o
        return behindMarker settings.endOfArgs others a) w := by
  induction fuel generalizing fuel' argv o w with
  | zero => omega
  | succ fuel ih =>
    obtain ⟨fuel', rfl⟩ : ∃ n, fuel' = n + 1 := ⟨fuel' - 1, by omega⟩
    cases argv with
    | nil =>
      rw [List.nil_append, scan_marker hflag rfl]
      rfl
    | cons v rest =>
      rw [List.length_cons] at hfuel hfuel'
      cases v with
      | text token =>
        have hmarker : token ≠ settings.endOfArgs := by
          rintro rfl
          exact hfree List.mem_cons_self
        rw [List.cons_append]
        cases htoken : isFlag token with
        | false =>
          rw [scan_plain htoken, scan_plain htoken]
          rfl
        | true =>
          rw [scan_flag htoken hmarker, scan_flag htoken hmarker, harg]
          refine scanFlag_append others call o token hflag (fun left hsuffix o w => ?_) w
          have hlength := hsuffix.length_le
          exact ih (fun hmem => hfree (List.mem_cons_of_mem _ (hsuffix.subset hmem)))
            (by omega) (by omega) o w
      | _ => rfl

/-! ### Command lines -/

/-- What is told behind a scan makes no difference. -/
theorem sameEnd_told (s : Run (List Value × Outcome)) (message : List Value → Outcome → String)
    (w : World) :
    SameEnd (do let (left, o) ← s; detail (message left o); return (left, o)) s w :=
  sameEnd_detail s (fun a => message a.1 a.2) w

/-- A reading of arguments ends as a scan that may try enough flags. -/
theorem readArguments_sameEnd (call : Caller) {w : World}
    (hcmd : w.registry.settings.cmdParse = none) (argv : List Value) :
    ∃ fuel, (withDefaults w.registry argv).length < fuel ∧
      SameEnd (readArguments call argv)
        (scan call w.registry.settings fuel (withDefaults w.registry argv)
          (.fresh commandLineName)) w := by
  have hfuel : (withDefaults w.registry argv).length <
      (withDefaults w.registry argv).length + 1 + patience := by omega
  refine ⟨_, hfuel, ?_⟩
  rw [SameEnd, readArguments, ends_bind_registry]
  dsimp only
  rw [hcmd]
  exact sameEnd_told _ (fun left o => "Parsed arguments: " ++ toString o.applied ++
    " variable(s) set, " ++ toString o.problems.length ++ " error(s), " ++
    toString left.length ++ " argument(s) left") w

/-- **Nothing behind the end marker is looked at.**  Where no hook reads command lines or flags, no
arguments come from the environment and the end marker is a flag, let some arguments not have the
marker among them.  Then a reading of them with the marker and others behind ends as one of them
alone, with the same registry and the same outcome or failure; and it leaves the others, if all of
the first arguments are taken, and otherwise those that are left of the first, the marker and the
others.  In a quiet registry it does not fail. -/
theorem marker_hides_what_follows (depth : Nat) {w : World}
    (hw : Reachable (Callable.call depth) w) (hcmd : w.registry.settings.cmdParse = none)
    (harg : w.registry.settings.argParse = none) (henv : w.registry.settings.cmdEnv = none)
    (hflag : isFlag w.registry.settings.endOfArgs = true) {argv : List Value}
    (hfree : .text w.registry.settings.endOfArgs ∉ argv) (others : List Value) :
    let call := Callable.call depth
    let marker := w.registry.settings.endOfArgs
    SameEnd (readArguments call (argv ++ .text marker :: others))
        (do
          let a ← readArguments call argv
          return behindMarker marker others a) w ∧
      (w.registry.Quiet call →
        ∃ left o, ((readArguments call argv).ends w).1 = .ok (left, o)) := by
  intro call marker
  have hdefaults : ∀ argv, withDefaults w.registry argv = argv := fun argv => by
    rw [withDefaults, henv]
    rfl
  obtain ⟨fuel, hfuel, hfront⟩ := readArguments_sameEnd call hcmd argv
  obtain ⟨fuel', hfuel', hwhole⟩ := readArguments_sameEnd call hcmd (argv ++ .text marker :: others)
  rw [hdefaults] at hfuel hfront hfuel' hwhole
  constructor
  · have hlonger : argv.length < fuel' := by
      rw [List.length_append] at hfuel'
      omega
    have hscan := scan_append call harg hflag others hfree hfuel hlonger (.fresh commandLineName) w
    have hmap := hfront.symm.map (behindMarker marker others)
    rw [SameEnd, ← hscan] at hmap
    exact hwhole.trans hmap
  · intro hquiet
    obtain ⟨entries, -, left, w', hends, -⟩ :=
      scan_ends call harg fuel hfuel hquiet hw.sound (.fresh commandLineName)
    rw [hfront.1, hends]
    exact ⟨left, _, rfl⟩

/-- Reading a flag with a value, one that is unknown and one without its value, with others behind
the marker. -/
theorem arguments_hidden_by_marker :
    let w := flaggedSession
    let marker := w.registry.settings.endOfArgs
    let argv : List Value := [.text "-x", .text "5", .text "-y", .text "-x"]
    let others : List Value := [.text "7", .text "-x"]
    Reachable Caller.standard w ∧ w.registry.settings.cmdParse = none ∧
      w.registry.settings.argParse = none ∧ w.registry.settings.cmdEnv = none ∧
      isFlag marker = true ∧ .text marker ∉ argv ∧
      SameEnd (readArguments Caller.standard (argv ++ .text marker :: others))
        (do
          let a ← readArguments Caller.standard argv
          return behindMarker marker others a) w ∧
      ∃ left o, ((readArguments Caller.standard argv).ends w).1 = .ok (left, o) := by
  intro w marker argv others
  have hw : Reachable Caller.standard w := flaggedSession_reachable
  have hcmd : w.registry.settings.cmdParse = none :=
    Option.isNone_iff_eq_none.mp (by decide +kernel)
  have harg : w.registry.settings.argParse = none :=
    Option.isNone_iff_eq_none.mp (by decide +kernel)
  have henv : w.registry.settings.cmdEnv = none :=
    Option.isNone_iff_eq_none.mp (by decide +kernel)
  have hplain : w.registry.Plain := by decide +kernel
  have hmarker : marker = "--" := by decide +kernel
  have hflag : isFlag marker = true := by decide +kernel
  have hfree : .text marker ∉ argv := by simp [hmarker, argv]
  obtain ⟨hsame, hreturns⟩ :=
    marker_hides_what_follows maxCallDepth hw hcmd harg henv hflag hfree others
  exact ⟨hw, hcmd, harg, henv, hflag, hfree, hsame, hreturns (hplain.quiet _)⟩

end ConfigVars
