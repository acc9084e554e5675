import ConfigVars.Proofs.Session

/-!
# The tables of a session

Soundness is stable (`Registry.sound_stable`) and holds of a registry without variables, so every
reachable registry is sound (`Reachable.sound`).

The same holds wherever a callable of the program has control while an operation runs
(`tables_sound_throughout`): on entry to every hook, validator and sink, however deep they call each
other, and behind every instruction of a script, whether what comes next succeeds or fails.
-/

namespace ConfigVars

namespace Registry

/-- Soundness survives whatever operations write. -/
theorem sound_stable : Stable Sound where
  settable v hr hdef := hr.assign hdef v
  declare name hr hd := hr.declare name (Declaration.compiles hd)
  addAlias name target hr hfree := hr.addAlias name target hfree

/-- No operation on variables touches the settings. -/
theorem settings_stable (settings : Settings) : Stable fun r => r.settings = settings where
  settable _ hr _ := hr
  declare name hr _ := (declare_settings _ name _).trans hr
  addAlias _ _ hr _ := hr

theorem create_sound (environment : Environment) (basis : SettingsBasis)
    (options : List (Value × Value)) : (Registry.create environment basis options).1.Sound :=
  sound_of_empty rfl rfl rfl rfl rfl

/-- Soundness has nothing to do with the environment. -/
theorem Sound.outside {r : Registry} (h : r.Sound) (environment : Environment) :
    Registry.Sound { r with environment } :=
  ⟨h.keys_eq, h.alias_free, h.trigger_leads, h.validator_compiles, h.validator_owned,
    h.spec_folded, h.alias_folded, h.trigger_folded, h.no_nothing⟩

end Registry

theorem Reachable.sound {depth : Nat} {w : World} (hw : Reachable (Callable.call depth) w) :
    w.registry.Sound :=
  hw.of_stable Registry.sound_stable Registry.create_sound fun environment hr =>
    hr.outside environment

/-- **The tables are sound wherever control is outside the registry.**  At every reachable world;
on entry to every call that the start of a registry or an operation makes, since callables that
raise an alarm where the tables are not sound change nothing about how these end, whatever the
alarm; and behind any number of instructions of a script that was entered with sound tables. -/
theorem tables_sound_throughout (depth : Nat) :
    (∀ w, Reachable (Callable.call depth) w → w.registry.Sound) ∧
      (∀ alarm w environment basis options,
        (start (Callable.watched Registry.Sound alarm depth) environment basis options).ends w =
          (start (Callable.call depth) environment basis options).ends w) ∧
      (∀ alarm w, Reachable (Callable.call depth) w → ∀ o : Operation,
        (o.run (Callable.watched Registry.Sound alarm depth)).ends w =
          (o.run (Callable.call depth)).ends w) ∧
      ∀ w : World, w.registry.Sound → ∀ is arguments,
        ((Instruction.runAll (Callable.call depth) arguments is).ends w).2.registry.Sound := by
  have hstable := Registry.sound_stable
  have hcall := Callable.call_alike hstable depth
  refine ⟨fun w hw => hw.sound, fun alarm w environment basis options => ?_,
    fun alarm w hw o => ?_, fun w hw is arguments => ?_⟩
  · exact (start_alike (Callable.watched_alike hstable alarm depth)
      (Registry.create_sound environment basis options) w).1
  · exact (o.run_alike hstable (Callable.watched_alike hstable alarm depth) w hw.sound).1
  · exact (Instruction.runAll_alike hstable.settable hcall.hooks.toWritesAlike
      (fun i _ => hstable.keeps i) arguments w hw).2

end ConfigVars
