import ConfigVars.Proofs.Template
import Mathlib.Data.List.TakeWhile

/-!
# Standing in for the process

An environment that lists the variables of the process and no homes (`Environment.standIn`) tells of
every user what the process tells, on a system that knows no users, unless the home of the process
is the empty text and its own home is asked for (`home?_named`, `home?_own`, `home?_empty`).  Then
the process has a home after all: what the system makes of an empty path is the root.

So a value without null characters expands alike in the two environments, whatever the registry
holds, but for a text that starts with the home of the process where that is empty
(`expands_alike_unless_empty_home`).  Of such a text the process puts the root in place of the
tilde, and the environment that stands in for it leaves the tilde as it is.
-/

namespace ConfigVars

/-- An environment that lists variables and no homes. -/
def Environment.standIn (vars : Table String String) : Environment := .own vars ∅

namespace StandIn

open Environment

variable {vars : Table String String} {home : String}

/-! ### Homes -/

/-- The home of a named user is known to neither. -/
theorem home?_named (vars : Table String String) {name : List Char} (hne : name ≠ [])
    (hnull : '\x00' ∉ name) (hslash : ∀ c ∈ name, c ≠ '/') :
    (process vars).home? (some (String.ofList name)) = .ok none ∧
      (standIn vars).home? (some (String.ofList name)) = .ok none := by
  have hsome : nonEmpty? (some (String.ofList name)) = some (String.ofList name) := by
    simp [nonEmpty?, hne]
  have hwhole : (String.ofList name).toList.takeWhile (· ≠ '/') = name := by
    rw [String.toList_ofList, List.takeWhile_eq_self_iff]
    exact fun c hc => decide_eq_true (hslash c hc)
  unfold home?
  rw [hsome]
  dsimp only [standIn]
  refine ⟨?_, rfl⟩
  rw [systemHome?, hwhole]
  simp [hne, hnull]

/-- A home that is not empty is told by both. -/
theorem home?_own (hhome : vars.get? "HOME" = some home) (hne : home ≠ "") :
    (process vars).home? (some "") = .ok (some home) ∧
      (standIn vars).home? (some "") = .ok (some home) := by
  have hown : nonEmpty? (vars.get? "HOME") = some home := by simp [nonEmpty?, hhome, hne]
  have hnone : nonEmpty? (some "") = none := by simp [nonEmpty?]
  unfold home?
  rw [hnone]
  dsimp only [standIn, get?, Environment.vars]
  rw [hown]
  exact ⟨rfl, rfl⟩

/-- An empty home is none where it is only looked up, and the root where the system makes a path of
it. -/
theorem home?_empty (hhome : vars.get? "HOME" = some "") :
    (process vars).home? (some "") = .ok (some "/") ∧
      (standIn vars).home? (some "") = .ok none := by
  have hown : nonEmpty? (vars.get? "HOME") = none := by simp [nonEmpty?, hhome]
  have hnone : nonEmpty? (some "") = none := by simp [nonEmpty?]
  unfold home?
  rw [hnone]
  dsimp only [standIn, get?, Environment.vars]
  rw [hown]
  simp [systemHome?, hhome, homeWith]

/-! ### Starts of texts -/

/-- A text that starts with the home of the one who runs the program: with a tilde that is at the
end or in front of a slash. -/
def AsksOwnHome (cs : List Char) : Prop :=
  ∃ rest, cs = '~' :: rest ∧ ∀ c ∈ rest.head?, c = '/'

/-- The name behind a tilde is empty exactly where the own home is asked for. -/
theorem takeWhile_eq_nil_iff {rest : List Char} :
    rest.takeWhile (· ≠ '/') = [] ↔ ∀ c ∈ rest.head?, c = '/' := by
  cases rest with
  | nil => simp
  | cons c rest => by_cases hc : c = '/' <;> simp [hc]

/-- The start of a text is replaced alike, where it asks for no home that is empty. -/
theorem expandHome_alike {cs : List Char} (hhome : vars.get? "HOME" = some home)
    (hnull : '\x00' ∉ cs) (hasks : home = "" → ¬ AsksOwnHome cs) :
    ∃ cs', expandHome (process vars) cs = .ok cs' ∧ expandHome (standIn vars) cs = .ok cs' := by
  by_cases htilde : cs.head? = some '~'
  · obtain ⟨rest, rfl⟩ := List.head?_eq_some_iff.mp htilde
    obtain ⟨answer, hprocess, hstand⟩ : ∃ answer,
        (process vars).home? (some (String.ofList (rest.takeWhile (· ≠ '/')))) = .ok answer ∧
        (standIn vars).home? (some (String.ofList (rest.takeWhile (· ≠ '/')))) = .ok answer := by
      by_cases hname : rest.takeWhile (· ≠ '/') = []
      · have hne : home ≠ "" := fun hempty =>
          hasks hempty ⟨rest, rfl, takeWhile_eq_nil_iff.mp hname⟩
        rw [hname]
        exact ⟨_, home?_own hhome hne⟩
      · have hnull' : '\x00' ∉ rest.takeWhile (· ≠ '/') := fun hmem =>
          hnull (List.mem_cons_of_mem _ (List.takeWhile_subset _ hmem))
        exact ⟨_, home?_named vars hname hnull' fun c hc => by
          simpa using List.mem_takeWhile_imp hc⟩
    rw [expandHome, expandHome, hprocess, hstand]
    exact ⟨_, rfl, rfl⟩
  · exact ⟨cs, expandHome_of_head?_ne htilde _, expandHome_of_head?_ne htilde _⟩

/-- An empty home that is asked for. -/
theorem expandHome_empty {rest : List Char} (hhome : vars.get? "HOME" = some "")
    (hrest : ∀ c ∈ rest.head?, c = '/') :
    expandHome (process vars) ('~' :: rest) = .ok ('/' :: rest) ∧
      expandHome (standIn vars) ('~' :: rest) = .ok ('~' :: rest) := by
  obtain ⟨hprocess, hstand⟩ := home?_empty hhome
  have hname := takeWhile_eq_nil_iff.mpr hrest
  constructor
  · rw [expandHome, hname, String.ofList_nil, hprocess]
    rfl
  · rw [expandHome, hname, String.ofList_nil, hstand]
    rfl

/-! ### Values -/

/-- What is behind the start of a text expands by the variables alone. -/
theorem expandReferences_alike (r : Registry) (vars : Table String String) (cs : List Char) :
    expandReferences r (process vars) cs = expandReferences r (standIn vars) cs := rfl

/-- A first character that is no dollar sign stays where it is. -/
theorem expandReferences_cons (r : Registry) (e : Environment) {c : Char} (hc : c ≠ '$')
    (cs : List Char) : expandReferences r e (c :: cs) = c :: expandReferences r e cs := by
  simp [expandReferences, ReferenceForm.substitute, hc]

/-- A value that starts with the home of the one who runs the program. -/
def ValueAsksOwnHome (v : Value) : Prop := ∃ s, v = .text s ∧ AsksOwnHome s.toList

/-- **An environment of its own stands in for the process, but for an empty home.**  In a process
whose home is set, every value without null characters expands, in every registry, to what it
expands to in an environment that lists the same variables and no homes, unless the home is the
empty text and the value starts with it.  Such a value has the same text behind its start in both,
with a slash in front of it in the process and with its tilde in the other. -/
theorem expands_alike_unless_empty_home (r : Registry) (hhome : vars.get? "HOME" = some home)
    {v : Value} (hnull : ∀ s, v = .text s → '\x00' ∉ s.toList) :
    (∃ v', expand r (standIn vars) v = .ok v') ∧
      (expand r (process vars) v = expand r (standIn vars) v ↔
        ¬ (home = "" ∧ ValueAsksOwnHome v)) ∧
      (home = "" → ValueAsksOwnHome v → ∃ behind,
        expand r (process vars) v = .ok (.text (String.ofList ('/' :: behind))) ∧
        expand r (standIn vars) v = .ok (.text (String.ofList ('~' :: behind)))) := by
  have hvalue : (home = "" → ¬ ValueAsksOwnHome v) → ∃ v',
      expand r (process vars) v = .ok v' ∧ expand r (standIn vars) v = .ok v' := by
    intro hasks
    cases v with
    | text s =>
      obtain ⟨cs, hprocess, hstand⟩ := expandHome_alike hhome (hnull s rfl) fun hempty hs =>
        hasks hempty ⟨s, rfl, hs⟩
      rw [expand, expand, hprocess, hstand]
      exact ⟨_, rfl, rfl⟩
    | _ => exact ⟨_, rfl, rfl⟩
  have hempty : home = "" → ValueAsksOwnHome v → ∃ behind,
      expand r (process vars) v = .ok (.text (String.ofList ('/' :: behind))) ∧
      expand r (standIn vars) v = .ok (.text (String.ofList ('~' :: behind))) := by
    rintro rfl ⟨s, rfl, rest, hs, hrest⟩
    obtain ⟨hprocess, hstand⟩ := expandHome_empty hhome hrest
    refine ⟨expandReferences r (standIn vars) rest, ?_, ?_⟩
    · rw [expand, hs, hprocess, Except.map, expandReferences_cons r _ (by decide),
        expandReferences_alike]
    · rw [expand, hs, hstand, Except.map, expandReferences_cons r _ (by decide)]
  by_cases hcase : home = "" ∧ ValueAsksOwnHome v
  · obtain ⟨behind, hprocess, hstand⟩ := hempty hcase.1 hcase.2
    refine ⟨⟨_, hstand⟩, iff_of_false ?_ (not_not_intro hcase), hempty⟩
    rw [hprocess, hstand]
    simp
  · obtain ⟨v', hprocess, hstand⟩ := hvalue fun hhome hv => hcase ⟨hhome, hv⟩
    exact ⟨⟨v', hstand⟩, iff_of_true (hprocess.trans hstand.symm) hcase, hempty⟩

/-- A home in the environment of the process, with a path and a reference behind the tilde. -/
theorem path_in_home_expands_alike :
    let vars : Table String String := Table.ofList [("HOME", "/home/abw"), ("EDITOR", "vi")]
    let r : Registry := { environment := .process vars }
    vars.get? "HOME" = some "/home/abw" ∧
      (∀ s, Value.text "~/$EDITOR" = .text s → '\x00' ∉ s.toList) ∧
      expand r (process vars) (.text "~/$EDITOR") = expand r (standIn vars) (.text "~/$EDITOR") ∧
      expand r (process vars) (.text "~/$EDITOR") = .ok (.text "/home/abw/vi") := by
  intro vars r
  have hhome : vars.get? "HOME" = some "/home/abw" := by decide +kernel
  have hnull : ∀ s, Value.text "~/$EDITOR" = .text s → '\x00' ∉ s.toList := by
    rintro s ⟨⟩
    decide +kernel
  have hne : ¬ ("/home/abw" = "" ∧ ValueAsksOwnHome (.text "~/$EDITOR")) := fun h =>
    absurd h.1 (by decide)
  exact ⟨hhome, hnull, (expands_alike_unless_empty_home r hhome hnull).2.1.mpr hne, by rfl⟩

/-- An empty home is the root of the process, while a tilde stays as it is in the environment that
stands in for it. -/
theorem empty_home_is_root :
    let vars : Table String String := Table.ofList [("HOME", "")]
    let r : Registry := { environment := .process vars }
    vars.get? "HOME" = some "" ∧ (∀ s, Value.text "~" = .text s → '\x00' ∉ s.toList) ∧
      expand r (process vars) (.text "~") = .ok (.text "/") ∧
      expand r (standIn vars) (.text "~") = .ok (.text "~") := by
  intro vars r
  refine ⟨by decide +kernel, ?_, by rfl, by rfl⟩
  rintro s ⟨⟩
  decide +kernel

end StandIn

end ConfigVars
