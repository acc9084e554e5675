import ConfigVars.Expansion
import ConfigVars.Proofs.Session
import Mathlib.Data.List.Chain

/-!
# References in a text

A text with references is written as *segments* (`Segment`): literals, a home at the start, and
references, each of a form and to a name.  In a sequence of segments a bare name is followed by
something that cannot belong to it, and a home by a slash (`Segment.Precedes`), so that the segments
can be told apart in the text.

One pass over such a text replaces the references of its form and leaves all else as it is, segment
by segment (`substitute_written`).  What stands in front of a segment or behind it makes no
difference.

A bare name by itself goes through all passes and is looked at in the last one.  It stands for the
value of a variable unless that is shown as the empty text (`bare_name_is_variable_unless_empty`);
then the environment decides, as if the variable had no value (`empty_value_gives_way`).
-/

namespace ConfigVars

open ConfigVars.Text

/-! ### Reading a reference -/

/-- A name as a reference can have it: word characters, and at least one. -/
structure IsWord (name : List Char) : Prop where
  ne_nil : name ≠ []
  isWordChar : ∀ c ∈ name, isWordChar c = true

theorem isWord_iff {name : List Char} :
    IsWord name ↔ (!name.isEmpty && name.all Text.isWordChar) = true := by
  rw [Bool.and_eq_true, Bool.not_eq_true', List.isEmpty_eq_false_iff, List.all_eq_true]
  exact ⟨fun h => ⟨h.ne_nil, h.isWordChar⟩, fun h => ⟨h.1, h.2⟩⟩

instance (name : List Char) : Decidable (IsWord name) := decidable_of_iff _ isWord_iff.symm

theorem IsWord.exists_cons {name : List Char} (h : IsWord name) :
    ∃ c rest, name = c :: rest ∧ Text.isWordChar c = true := by
  obtain ⟨c, rest, rfl⟩ := List.exists_cons_of_ne_nil h.ne_nil
  exact ⟨c, rest, rfl, h.isWordChar c List.mem_cons_self⟩

/-- A character that belongs to no word is in none. -/
theorem IsWord.not_mem {name : List Char} (h : IsWord name) {c : Char}
    (hc : Text.isWordChar c = false) : c ∉ name := fun hmem => by
  rw [h.isWordChar c hmem] at hc
  cases hc

/-- A word is read up to its end where no word character follows. -/
theorem IsWord.takeWhile_append {name rest : List Char} (h : IsWord name)
    (hrest : ∀ c ∈ rest.head?, Text.isWordChar c = false) :
    (name ++ rest).takeWhile Text.isWordChar = name :=
  (Text.takeWhile_front h.isWordChar hrest).1

namespace ReferenceForm

/-- How a reference to a name is written behind the dollar sign. -/
def enclosed (form : ReferenceForm) (name : List Char) : List Char :=
  match form.marks? with
  | none => name
  | some (opening, closing) => opening :: name ++ [closing]

variable {form form' : ReferenceForm} {name rest cs : List Char}
  {replacement : String → Option String}

/-- There is no dollar sign inside a reference. -/
theorem dollar_not_mem_enclosed (form : ReferenceForm) (hname : IsWord name) :
    '$' ∉ form.enclosed name := by
  have hdollar : '$' ∉ name := hname.not_mem (by decide +kernel)
  cases form <;> simp [enclosed, marks?, hdollar]

/-- **What is written as a reference is read as one**, a bare one where no word character
follows. -/
theorem read?_enclosed (hname : IsWord name)
    (hrest : form = .bare → ∀ c ∈ rest.head?, isWordChar c = false) :
    form.read? (form.enclosed name ++ rest) = some (name, (form.enclosed name).length) := by
  have hne : name.isEmpty = false := List.isEmpty_eq_false_iff.mpr hname.ne_nil
  have hinside : ∀ closing, isWordChar closing = false →
      (name ++ closing :: rest).takeWhile isWordChar = name := fun closing hclosing =>
    hname.takeWhile_append (by simpa using hclosing)
  cases form with
  | bare => simp [read?, enclosed, marks?, hname.takeWhile_append (hrest rfl), hname.ne_nil]
  | braces => simp [read?, enclosed, marks?, hinside '\x7d' (by decide +kernel), hne]
  | brackets => simp [read?, enclosed, marks?, hinside ')' (by decide +kernel), hne]

/-- A reference of one form is none of another. -/
theorem read?_enclosed_of_ne (hname : IsWord name) (hform : form ≠ form') :
    form'.read? (form.enclosed name ++ rest) = none := by
  have hbrace : isWordChar '\x7b' = false := by decide +kernel
  have hbracket : isWordChar '(' = false := by decide +kernel
  obtain ⟨c, more, rfl, hc⟩ := hname.exists_cons
  -- a word starts with neither of the two marks
  have hne : ∀ mark, isWordChar mark = false → c ≠ mark := by
    rintro mark hmark rfl
    rw [hc] at hmark
    cases hmark
  cases form <;> cases form' <;>
    simp [read?, enclosed, marks?, hne _ hbrace, hne _ hbracket, hbrace, hbracket] at hform ⊢

/-! ### One pass -/

/-- What belongs to a reference that has been replaced is passed over. -/
theorem substitute_skip (form : ReferenceForm) (replacement : String → Option String)
    (n : Nat) (cs : List Char) :
    form.substitute replacement n cs = form.substitute replacement 0 (cs.drop n) := by
  induction cs generalizing n with
  | nil => cases n <;> rfl
  | cons c rest ih =>
    cases n with
    | zero => rfl
    | succ n =>
      rw [substitute, ih, List.drop_succ_cons]

/-- A text without dollar signs stays as it is. -/
theorem substitute_plain_append (hcs : '$' ∉ cs) (rest : List Char) :
    form.substitute replacement 0 (cs ++ rest) = cs ++ form.substitute replacement 0 rest := by
  induction cs with
  | nil => rfl
  | cons c more ih =>
    obtain ⟨hc, hmore⟩ : '$' ≠ c ∧ '$' ∉ more := by simpa using hcs
    rw [List.cons_append, substitute, if_neg hc.symm, ih hmore, List.cons_append]

/-- A reference that is read is replaced, and stays as it is where nothing replaces it. -/
theorem substitute_of_read (hcs : '$' ∉ cs)
    (hread : form.read? (cs ++ rest) = some (name, cs.length)) :
    form.substitute replacement 0 ('$' :: cs ++ rest) =
      (match replacement (String.ofList name) with
        | some text => text.toList
        | none => '$' :: cs) ++ form.substitute replacement 0 rest := by
  rw [List.cons_append, substitute, if_pos rfl, hread]
  dsimp only
  cases replacement (String.ofList name) with
  | some text =>
    dsimp only
    rw [substitute_skip, List.drop_left]
  | none =>
    dsimp only
    rw [substitute_plain_append hcs, List.cons_append]

/-- A dollar sign in front of something else stays as it is. -/
theorem substitute_of_read_none (hcs : '$' ∉ cs) (hread : form.read? (cs ++ rest) = none) :
    form.substitute replacement 0 ('$' :: cs ++ rest) =
      '$' :: cs ++ form.substitute replacement 0 rest := by
  rw [List.cons_append, substitute, if_pos rfl, hread]
  dsimp only
  rw [substitute_plain_append hcs, List.cons_append]

end ReferenceForm

/-! ### Segments -/

/-- A part of a text that may refer to something. -/
inductive Segment where
  /-- Characters that stand for themselves. -/
  | literal (cs : List Char)
  /-- A tilde, and the name of a user or none. -/
  | home (user : List Char)
  | reference (form : ReferenceForm) (name : List Char)
  deriving DecidableEq

namespace Segment

/-- How a segment is written. -/
def chars : Segment → List Char
  | literal cs => cs
  | home user => '~' :: user
  | reference form name => '$' :: form.enclosed name

/-- A segment that is read as what it is: a dollar sign starts a reference and nothing else, a user
has no slash in the name, and a reference is to a word. -/
def Proper : Segment → Prop
  | literal cs => '$' ∉ cs
  | home user => '$' ∉ user ∧ '/' ∉ user
  | reference _ name => IsWord name

instance : DecidablePred Proper
  | literal cs => inferInstanceAs (Decidable ('$' ∉ cs))
  | home user => inferInstanceAs (Decidable ('$' ∉ user ∧ '/' ∉ user))
  | reference _ name => inferInstanceAs (Decidable (IsWord name))

/-- A literal whose first character passes a test. -/
def StartsWith (p : Char → Bool) : Segment → Prop
  | literal (c :: _) => p c = true
  | _ => False

instance (p : Char → Bool) : DecidablePred (StartsWith p)
  | literal (c :: _) => inferInstanceAs (Decidable (p c = true))
  | literal [] | home _ | reference _ _ => inferInstanceAs (Decidable False)

/-- Where a segment may stand directly in front of another one.  A home comes first, and ends at a
slash; a bare name ends where a literal goes on with something that is not part of a word. -/
def Precedes : Segment → Segment → Prop
  | _, home _ => False
  | home _, next => next.StartsWith (· = '/')
  | reference .bare _, next => next.StartsWith fun c => !isWordChar c
  | _, _ => True

instance : DecidableRel Precedes
  | home _, literal cs => inferInstanceAs (Decidable ((literal cs).StartsWith (· = '/')))
  | reference .bare _, literal cs =>
    inferInstanceAs (Decidable ((literal cs).StartsWith fun c => !isWordChar c))
  | literal _, home _ | home _, home _ | home _, reference _ _ | reference _ _, home _
  | reference .bare _, reference _ _ => inferInstanceAs (Decidable False)
  | literal _, literal _ | literal _, reference _ _
  | reference .braces _, literal _ | reference .braces _, reference _ _
  | reference .brackets _, literal _ | reference .brackets _, reference _ _ =>
    inferInstanceAs (Decidable True)

/-- The text of some segments. -/
def written (segments : List Segment) : List Char := segments.flatMap chars

@[simp] theorem written_nil : written [] = [] := rfl

@[simp] theorem written_cons (s : Segment) (rest : List Segment) :
    written (s :: rest) = s.chars ++ written rest := rfl

theorem written_singleton (s : Segment) : written [s] = s.chars := List.append_nil _

/-- What becomes of a segment in a pass over the references of one form. -/
def after (form : ReferenceForm) (replacement : String → Option String) : Segment → Segment
  | reference form' name =>
    if form' = form then
      match replacement (String.ofList name) with
      | some text => literal text.toList
      | none => reference form' name
    else reference form' name
  | s => s

variable {form : ReferenceForm} {replacement : String → Option String} {s : Segment}
  {segments : List Segment}

theorem StartsWith.head? {p : Char → Bool} {next : Segment} (h : next.StartsWith p)
    (rest : List Segment) : ∃ c, (written (next :: rest)).head? = some c ∧ p c = true := by
  cases next with
  | literal cs =>
    cases cs with
    | nil => exact h.elim
    | cons c cs => exact ⟨c, rfl, h⟩
  | home user => exact h.elim
  | reference form name => exact h.elim

/-- What follows a segment that needs a certain literal behind it. -/
theorem head?_behind {p : Char → Bool} (hchain : (s :: segments).IsChain Precedes)
    (hs : ∀ next, s.Precedes next → next.StartsWith p) :
    ∀ c ∈ (written segments).head?, p c = true := by
  cases segments with
  | nil => rintro c ⟨⟩
  | cons next rest =>
    obtain ⟨c, hc, hp⟩ := (hs next (hchain.rel_head? rfl)).head? rest
    intro c' hc'
    rw [hc, Option.mem_some_iff] at hc'
    exact hc' ▸ hp

/-- What follows a bare name is not part of a word. -/
theorem head?_behind_bare {name : List Char}
    (h : (reference .bare name :: segments).IsChain Precedes) :
    ∀ c ∈ (written segments).head?, isWordChar c = false := by
  have hnext := head?_behind (p := fun c => !isWordChar c) h fun next hprecedes => by
    cases next <;> exact hprecedes
  intro c hc
  simpa using hnext c hc

/-- What follows a home is a slash. -/
theorem head?_behind_home {user : List Char} (h : (home user :: segments).IsChain Precedes) :
    ∀ c ∈ (written segments).head?, c = '/' := by
  have hnext := head?_behind (p := (· = '/')) h fun next hprecedes => by
    cases next <;> exact hprecedes
  intro c hc
  simpa using hnext c hc

/-- One segment in front of a text. -/
theorem substitute_chars_append (hs : s.Proper) {rest : List Char}
    (hrest : ∀ name, s = .reference .bare name → ∀ c ∈ rest.head?, isWordChar c = false) :
    form.substitute replacement 0 (s.chars ++ rest) =
      (s.after form replacement).chars ++ form.substitute replacement 0 rest := by
  cases s with
  | literal cs => exact ReferenceForm.substitute_plain_append hs rest
  | home user =>
    have hplain : '$' ∉ '~' :: user := by simpa using hs.1
    exact ReferenceForm.substitute_plain_append hplain rest
  | reference form' name =>
    have hdollar := form'.dollar_not_mem_enclosed hs
    by_cases hform : form' = form
    · subst hform
      have hread : form'.read? (form'.enclosed name ++ rest) = _ :=
        ReferenceForm.read?_enclosed hs fun hbare => hrest name (by rw [hbare])
      rw [chars, ReferenceForm.substitute_of_read hdollar hread, after, if_pos rfl]
      cases replacement (String.ofList name) <;> rfl
    · have hread : form.read? (form'.enclosed name ++ rest) = none :=
        ReferenceForm.read?_enclosed_of_ne hs hform
      rw [chars, ReferenceForm.substitute_of_read_none hdollar hread, after, if_neg hform, chars]

/-- **A pass goes segment by segment**: it replaces the references of its form, and leaves all else
as it is. -/
theorem substitute_written (hproper : ∀ s ∈ segments, s.Proper)
    (hchain : segments.IsChain Precedes) :
    form.substitute replacement 0 (written segments) =
      written (segments.map (after form replacement)) := by
  induction segments with
  | nil => rfl
  | cons s rest ih =>
    have hrest : ∀ name, s = .reference .bare name →
        ∀ c ∈ (written rest).head?, isWordChar c = false := by
      rintro name rfl
      exact head?_behind_bare hchain
    rw [written_cons, substitute_chars_append (hproper s List.mem_cons_self) hrest,
      ih (fun s' hs' => hproper s' (List.mem_cons_of_mem s hs')) hchain.tail, List.map_cons,
      written_cons]

/-- One segment by itself. -/
theorem substitute_chars (hs : s.Proper) :
    form.substitute replacement 0 s.chars = (s.after form replacement).chars := by
  have halone : form.substitute replacement 0 (written [s]) = _ :=
    substitute_written (by simpa using hs) (List.IsChain.singleton s)
  simpa using halone

end Segment

/-! ### Bare names -/

/-- A name is that of a variable which has a value. -/
structure Registry.Holds (r : Registry) (name : String) (v : Value) : Prop where
  defined : r.isDefined name = true
  present : r.hasValue name = .ok true
  value : r.get name = .ok v

theorem Registry.isDefined_of_stored {r : Registry} {name : String} {v : Value}
    (h : r.stored name = .ok v) : r.isDefined name = true := by
  rw [stored, find] at h
  rw [isDefined, Table.contains]
  cases hspec : r.specs.get? (r.resolve name) with
  | none => rw [hspec] at h; cases h
  | some spec => rfl

/-- What an expansion looks up is the value of a variable that has one. -/
theorem Registry.value?_eq_some_iff {r : Registry} {name : String} {v : Value} :
    r.value? name = some v ↔ r.Holds name v := by
  have hiff : r.Holds name v ↔
      r.isDefined name = true ∧ r.hasValue name = .ok true ∧ r.get name = .ok v :=
    ⟨fun h => ⟨h.defined, h.present, h.value⟩, fun ⟨h, h', h''⟩ => ⟨h, h', h''⟩⟩
  rw [hiff, value?, hasValue, get]
  cases hstored : r.stored name with
  | error p => simp [Except.map]
  | ok v' =>
    have hdefined := isDefined_of_stored hstored
    cases v' <;> simp [Except.map, isPresent, answered, hdefined]

/-- **A bare name by itself** expands to what replaces it in the last pass, or stays. -/
theorem expand_bare (r : Registry) (e : Environment) {name : String} (hname : IsWord name.toList) :
    expand r e (.text ("$" ++ name)) =
      .ok (.text ((bareReplacement r e name).getD ("$" ++ name))) := by
  have hchars : ("$" ++ name).toList = (Segment.reference .bare name.toList).chars := by
    rw [String.toList_append]
    rfl
  have hproper : (Segment.reference .bare name.toList).Proper := hname
  -- the passes before the last one leave a bare name as it is
  have hpasses : expandReferences r e (Segment.reference .bare name.toList).chars =
      ((Segment.reference .bare name.toList).after .bare (bareReplacement r e)).chars := by
    rw [expandReferences, Segment.substitute_chars hproper]
    exact (congrArg _ (Segment.substitute_chars hproper)).trans (Segment.substitute_chars hproper)
  have hhome : expandHome e (Segment.reference .bare name.toList).chars =
      .ok (Segment.reference .bare name.toList).chars := rfl
  rw [expand, hchars, hhome]
  dsimp only [Except.map]
  rw [hpasses, Segment.after, if_pos rfl, String.ofList_toList]
  cases bareReplacement r e name with
  | some text => simp [Segment.chars]
  | none =>
    dsimp only
    rw [← hchars, String.ofList_toList]
    rfl

theorem bareReplacement_of_holds {r : Registry} {e : Environment} {name : String} {v : Value}
    (h : r.Holds name v) (hne : v.toText ≠ "") : bareReplacement r e name = some v.toText := by
  rw [bareReplacement, Registry.text?, Registry.value?_eq_some_iff.mpr h]
  simp [Environment.nonEmpty?, hne]

/-- Without a variable whose text is not empty, a bare name is left to the environment. -/
theorem bareReplacement_of_empty {r : Registry} {name : String}
    (h : ∀ v, r.Holds name v → v.toText = "") (e : Environment) :
    bareReplacement r e name = Environment.nonEmpty? (e.get? name) := by
  rw [bareReplacement, Registry.text?]
  cases hvalue : r.value? name with
  | none => rfl
  | some v =>
    rw [Option.map_some, h v (Registry.value?_eq_some_iff.mp hvalue)]
    rfl

/-- **A bare name stands for the value of its variable, unless that is shown as the empty text.**
Whatever the environment has under the name, it does not count then.  Where the variable is not
there, or has no value, or one with an empty text, the name stands for the text of the environment
if that is not empty; and only without one does it stay as it is.  So a bare name never expands to
the empty text. -/
theorem bare_name_is_variable_unless_empty (r : Registry) (e : Environment) {name : String}
    (hname : IsWord name.toList) :
    (∀ v, r.Holds name v →
      (expand r e (.text ("$" ++ name)) = .ok (.text v.toText) ↔ v.toText ≠ "")) ∧
    ((∀ v, r.Holds name v → v.toText = "") →
      (∀ t, e.get? name = some t → t ≠ "" → expand r e (.text ("$" ++ name)) = .ok (.text t)) ∧
      ((∀ t, e.get? name = some t → t = "") →
        expand r e (.text ("$" ++ name)) = .ok (.text ("$" ++ name)))) := by
  have hexpand := expand_bare r e hname
  have hsome : ∀ {t}, bareReplacement r e name = some t →
      expand r e (.text ("$" ++ name)) = .ok (.text t) := fun h => by rw [hexpand, h]; rfl
  have hnone : bareReplacement r e name = none →
      expand r e (.text ("$" ++ name)) = .ok (.text ("$" ++ name)) := fun h => by
    rw [hexpand, h]; rfl
  have hdollar : "$" ++ name ≠ "" := by simp
  refine ⟨fun v hv => ⟨fun h hempty => ?_, fun hne => hsome (bareReplacement_of_holds hv hne)⟩,
    fun hv => ⟨fun t ht hne => hsome ?_, fun hempty => hnone ?_⟩⟩
  · -- an empty text gives way, and nothing that comes in its place is empty
    rw [hempty] at h
    cases hreplaced : bareReplacement r e name with
    | none =>
      rw [hnone hreplaced] at h
      exact hdollar (Value.text.inj (Except.ok.inj h))
    | some t =>
      rw [hsome hreplaced] at h
      obtain rfl : t = "" := Value.text.inj (Except.ok.inj h)
      simp [bareReplacement, Environment.nonEmpty?, Option.filter_eq_some_iff] at hreplaced
  · rw [bareReplacement_of_empty hv, ht]
    simp [Environment.nonEmpty?, hne]
  · rw [bareReplacement_of_empty hv]
    cases ht : e.get? name with
    | none => rfl
    | some t => simp [Environment.nonEmpty?, hempty t ht]

/-- A session in an environment that has `vi` under `EDITOR`, with the variable `editor`. -/
def editorSession (default : String) : World :=
  (((Operation.define "editor" [(.text "default", .text default)] []).run Caller.standard).ends
    ((start Caller.standard (.own (Table.ofList [("EDITOR", "vi")]) ∅) .none []).ends
      { registry := { environment := .own ∅ ∅ } }).2).2

theorem isWord_editor : IsWord "EDITOR".toList := by decide +kernel

/-- A variable with a value goes before the environment. -/
theorem bare_editor_is_variable :
    let r := (editorSession "emacs").registry
    IsWord "EDITOR".toList ∧ r.Holds "EDITOR" (.text "emacs") ∧
      r.environment.get? "EDITOR" = some "vi" ∧
      expand r r.environment (.text "$EDITOR") = .ok (.text "emacs") := by
  intro r
  have hvalue : r.value? "EDITOR" = some (.text "emacs") :=
    Value.eq_text_of_any_same (by decide +kernel)
  have hholds := Registry.value?_eq_some_iff.mp hvalue
  exact ⟨isWord_editor, hholds, by decide +kernel,
    ((bare_name_is_variable_unless_empty r r.environment isWord_editor).1 _ hholds).mpr
      (by decide)⟩

/-- A variable that has the empty text as its value gives way to the environment. -/
theorem empty_value_gives_way :
    let w := editorSession ""
    let r := w.registry
    Reachable Caller.standard w ∧ IsWord "EDITOR".toList ∧ r.Holds "EDITOR" (.text "") ∧
      expand r r.environment (.text "$EDITOR") = .ok (.text "vi") := by
  intro w r
  have hvalue : r.value? "EDITOR" = some (.text "") :=
    Value.eq_text_of_any_same (by decide +kernel)
  have hreplaced : bareReplacement r r.environment "EDITOR" = some "vi" := by decide +kernel
  have hexpand := expand_bare r r.environment isWord_editor
  rw [hreplaced] at hexpand
  exact ⟨(Reachable.start _ _ _ _).operation _, isWord_editor,
    Registry.value?_eq_some_iff.mp hvalue, hexpand⟩

end ConfigVars
