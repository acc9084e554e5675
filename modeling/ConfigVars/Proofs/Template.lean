import ConfigVars.Proofs.Reference

/-!
# Templates

A *template* (`Template`) is a text made of segments that can be told apart: a home at the start or
none, and then literals and references.  An expansion goes over the whole text four times, and every
pass sees what those before it have put in.

Where no home, no variable of the environment and no value has a dollar sign in its text
(`DollarFree`), nothing of this can be noticed: a template expands to what its segments stand for by
themselves, one behind the other (`expand_template`).  What has been put in is not expanded again,
and no segment has an influence on another one.

The proof follows the segments through the passes.  What a pass puts in is a literal like any other
(`Segment.proper_after`), and the segments can be told apart as before (`Segment.precedes_after`),
so the next pass goes segment by segment too.
-/

namespace ConfigVars

open ConfigVars.Text

/-- A value that is looked up is one of the values of the registry. -/
theorem Registry.Holds.mem_values {r : Registry} {name : String} {v : Value} (h : r.Holds name v) :
    ∃ key v', (key, v') ∈ r.values.entries ∧ v = answered v' := by
  obtain ⟨-, hpresent, hvalue⟩ := h
  rw [hasValue, stored] at hpresent
  rw [get, stored] at hvalue
  cases hfind : r.find name with
  | error p => rw [hfind] at hvalue; cases hvalue
  | ok found =>
    rw [hfind] at hpresent hvalue
    cases hget : r.values.get? found.1 with
    | none =>
      have habsent : isPresent ((r.values.get? found.1).getD .undefined) = true :=
        Except.ok.inj hpresent
      rw [hget] at habsent
      cases habsent
    | some v' =>
      have hanswered : answered ((r.values.get? found.1).getD .undefined) = v :=
        Except.ok.inj hvalue
      rw [hget] at hanswered
      exact ⟨_, v', Table.mem_entries_of_get? hget, hanswered.symm⟩

/-- Nothing that an expansion puts into a text has a dollar sign. -/
structure DollarFree (r : Registry) (e : Environment) : Prop where
  home : ∀ user path, e.home? user = .ok (some path) → '$' ∉ path.toList
  vars : ∀ name v, e.get? name = some v → '$' ∉ v.toList
  values : ∀ name v, r.Holds name v → '$' ∉ v.toText.toList

/-- What a reference in braces stands for. -/
def bracedReplacement (e : Environment) (name : String) : Option String :=
  some ((e.get? name).getD "")

/-- What a reference in brackets stands for. -/
def bracketedReplacement (r : Registry) (name : String) : Option String :=
  some ((r.text? name).getD "")

namespace DollarFree

variable {r : Registry} {e : Environment}

theorem braced (h : DollarFree r e) (name text : String)
    (htext : bracedReplacement e name = some text) : '$' ∉ text.toList := by
  obtain rfl := Option.some.inj htext
  cases hget : e.get? name with
  | none => simp
  | some v => exact h.vars name v hget

theorem bracketed (h : DollarFree r e) (name text : String)
    (htext : bracketedReplacement r name = some text) : '$' ∉ text.toList := by
  obtain rfl := Option.some.inj htext
  rw [Registry.text?]
  cases hvalue : r.value? name with
  | none => simp
  | some v => exact h.values name v (Registry.value?_eq_some_iff.mp hvalue)

/-- For an environment of its own, the tables tell. -/
theorem of_own {vars homes : Table String String}
    (hvars : ∀ entry ∈ vars.entries, '$' ∉ entry.2.toList)
    (hhomes : ∀ entry ∈ homes.entries, '$' ∉ entry.2.toList)
    (hvalues : ∀ entry ∈ r.values.entries, '$' ∉ (Registry.answered entry.2).toText.toList) :
    DollarFree r (.own vars homes) where
  home user path hpath := by
    have hlisted : ∀ {user}, homes.get? user = some path → '$' ∉ path.toList := fun h =>
      hhomes _ (Table.mem_entries_of_get? h)
    cases hname : Environment.nonEmpty? user with
    | some name =>
      simp only [Environment.home?, hname] at hpath
      exact hlisted (Except.ok.inj hpath)
    | none =>
      simp only [Environment.home?, hname] at hpath
      rcases Option.or_eq_some_iff.mp (Except.ok.inj hpath) with hown | ⟨-, hfirst⟩
      · exact hvars _ (Table.mem_entries_of_get? (Option.filter_eq_some_iff.mp hown).1)
      · exact hlisted hfirst
  vars name v hv := hvars _ (Table.mem_entries_of_get? hv)
  values name v hv := by
    obtain ⟨key, v', hentry, rfl⟩ := hv.mem_values
    exact hvalues _ hentry

end DollarFree

namespace Segment

variable {r : Registry} {e : Environment} {form : ReferenceForm}
  {replacement : String → Option String} {s next : Segment} {segments : List Segment}

/-! ### Segments behind a pass -/

/-- A pass leaves a segment as it is, or makes a literal of a reference. -/
theorem after_cases (form : ReferenceForm) (replacement : String → Option String) (s : Segment) :
    s.after form replacement = s ∨
      ∃ form' name text, s = reference form' name ∧ replacement (String.ofList name) = some text ∧
        s.after form replacement = literal text.toList := by
  cases s with
  | literal cs => exact .inl rfl
  | home user => exact .inl rfl
  | reference form' name =>
    by_cases hform : form' = form
    · cases hreplaced : replacement (String.ofList name) with
      | none => exact .inl (by rw [after, if_pos hform, hreplaced])
      | some text => exact .inr ⟨_, _, text, rfl, hreplaced, by rw [after, if_pos hform, hreplaced]⟩
    · exact .inl (by rw [after, if_neg hform])

theorem proper_after (hs : s.Proper)
    (hplain : ∀ name text, replacement name = some text → '$' ∉ text.toList) :
    (s.after form replacement).Proper := by
  rcases s.after_cases form replacement with hkept | ⟨form', name, text, -, htext, hafter⟩
  · rwa [hkept]
  · rw [hafter]
    exact hplain _ _ htext

/-- What may stand behind something may stand behind a literal. -/
theorem Precedes.behind_literal (h : s.Precedes next) (cs : List Char) :
    (literal cs).Precedes next := by
  cases next with
  | literal cs' => trivial
  | home user => cases s <;> exact h
  | reference form name => trivial

/-- What may stand in front of a reference may stand in front of any literal. -/
theorem Precedes.before_literal {name : List Char} (h : s.Precedes (reference form name))
    (cs : List Char) : s.Precedes (literal cs) := by
  cases s with
  | literal cs' => trivial
  | home user => exact h.elim
  | reference form' name' =>
    cases form' with
    | bare => exact h.elim
    | braces => trivial
    | brackets => trivial

/-- Segments can be told apart behind a pass as they could before it. -/
theorem precedes_after (h : s.Precedes next) :
    (s.after form replacement).Precedes (next.after form replacement) := by
  have hnext : s.Precedes (next.after form replacement) := by
    rcases next.after_cases form replacement with hkept | ⟨form', name, text, rfl, -, hafter⟩
    · rwa [hkept]
    · rw [hafter]
      exact h.before_literal _
  rcases s.after_cases form replacement with hkept | ⟨form', name, text, -, -, hafter⟩
  · rwa [hkept]
  · rw [hafter]
    exact hnext.behind_literal _

theorem isChain_after (form : ReferenceForm) (replacement : String → Option String)
    (h : segments.IsChain Precedes) : (segments.map (after form replacement)).IsChain Precedes :=
  List.isChain_map_of_isChain (after form replacement) (fun _ _ => precedes_after) h

/-- The segments behind a pass, where what it puts in has no dollar sign. -/
theorem proper_map_after (form : ReferenceForm) (hproper : ∀ s ∈ segments, s.Proper)
    (hplain : ∀ name text, replacement name = some text → '$' ∉ text.toList) :
    ∀ s ∈ segments.map (after form replacement), s.Proper := by
  intro s hs
  obtain ⟨s', hs', rfl⟩ := List.mem_map.mp hs
  exact proper_after (hproper s' hs') hplain

/-! ### Segments behind all passes -/

/-- What becomes of a segment in the passes over references. -/
def expanded (r : Registry) (e : Environment) (s : Segment) : Segment :=
  ((s.after .braces (bracedReplacement e)).after .brackets (bracketedReplacement r)).after .bare
    (bareReplacement r e)

/-- **The passes over references go segment by segment.** -/
theorem expandReferences_written (hplain : DollarFree r e) (hproper : ∀ s ∈ segments, s.Proper)
    (hchain : segments.IsChain Precedes) :
    expandReferences r e (written segments) = written (segments.map (expanded r e)) := by
  have hproper₁ := proper_map_after .braces hproper hplain.braced
  have hproper₂ := proper_map_after .brackets hproper₁ hplain.bracketed
  have hchain₁ := isChain_after .braces (bracedReplacement e) hchain
  have hchain₂ := isChain_after .brackets (bracketedReplacement r) hchain₁
  calc expandReferences r e (written segments)
      = ReferenceForm.bare.substitute (bareReplacement r e) 0
          (ReferenceForm.brackets.substitute (bracketedReplacement r) 0
            (ReferenceForm.braces.substitute (bracedReplacement e) 0 (written segments))) := rfl
    _ = written (segments.map (expanded r e)) := by
      rw [substitute_written hproper hchain, substitute_written hproper₁ hchain₁,
        substitute_written hproper₂ hchain₂, List.map_map, List.map_map]
      rfl

/-- What a segment stands for by itself: a literal for its characters, and every other one for what
its text expands to. -/
def alone (r : Registry) (e : Environment) : Segment → Except Failure Value
  | literal cs => .ok (.text (String.ofList cs))
  | s => expand r e (.text (String.ofList s.chars))

/-- Only a home is looked at before the passes over references. -/
theorem alone_of_not_home (hplain : DollarFree r e) (hs : s.Proper)
    (hhome : ∀ user, s ≠ .home user) :
    s.alone r e = .ok (.text (String.ofList (s.expanded r e).chars)) := by
  cases s with
  | literal cs => rfl
  | home user => exact absurd rfl (hhome user)
  | reference form name =>
    have hpasses : expandReferences r e (written [reference form name]) = _ :=
      expandReferences_written hplain (by simpa using hs) (List.IsChain.singleton _)
    rw [List.map_singleton, written_singleton, written_singleton] at hpasses
    have hstart : expandHome e (reference form name).chars = .ok (reference form name).chars := rfl
    rw [alone, expand, String.toList_ofList, hstart]
    · exact congrArg (fun cs => Except.ok (Value.text (String.ofList cs))) hpasses
    · rintro cs ⟨⟩

/-- Behind the first segment there is no home. -/
theorem ne_home_of_isChain (h : (s :: segments).IsChain Precedes) :
    ∀ s' ∈ segments, ∀ user, s' ≠ .home user := by
  induction segments generalizing s with
  | nil => rintro s' ⟨⟩
  | cons next rest ih =>
    obtain ⟨hprecedes, hrest⟩ := List.isChain_cons_cons.mp h
    intro s' hs'
    rcases List.mem_cons.mp hs' with rfl | hs'
    · rintro user rfl
      cases s <;> exact hprecedes
    · exact ih hrest s' hs'

/-- There is no home where none comes first. -/
theorem ne_home_of_head? (h : segments.IsChain Precedes)
    (hfirst : ∀ user, segments.head? ≠ some (.home user)) :
    ∀ s ∈ segments, ∀ user, s ≠ .home user := by
  cases segments with
  | nil => rintro s' ⟨⟩
  | cons s rest =>
    have hs : ∀ user, s ≠ .home user := by simpa using hfirst
    exact List.forall_mem_cons.mpr ⟨hs, ne_home_of_isChain h⟩

/-- Segments without a home stand for what they become in the passes over references. -/
theorem mapM_alone (hplain : DollarFree r e) (hproper : ∀ s ∈ segments, s.Proper)
    (hhome : ∀ s ∈ segments, ∀ user, s ≠ .home user) :
    segments.mapM (alone r e) =
      .ok (segments.map fun s => .text (String.ofList (s.expanded r e).chars)) := by
  induction segments with
  | nil => rfl
  | cons s rest ih =>
    have hs := alone_of_not_home hplain (hproper s List.mem_cons_self) (hhome s List.mem_cons_self)
    have hrest := ih (fun s' hs' => hproper s' (List.mem_cons_of_mem s hs'))
      fun s' hs' => hhome s' (List.mem_cons_of_mem s hs')
    rw [List.mapM_cons, hs, hrest]
    rfl

end Segment

/-! ### The home -/

/-- What a tilde and a user become, where the home of the user is told. -/
def homeOr (user : List Char) (home : Option String) : List Char :=
  (home.map String.toList).getD ('~' :: user)

/-- A user in front of a slash, or at the end, is replaced and nothing else. -/
theorem expandHome_append (e : Environment) {user rest : List Char} (huser : '/' ∉ user)
    (hrest : ∀ c ∈ rest.head?, c = '/') :
    expandHome e ('~' :: user ++ rest) =
      (e.home? (some (String.ofList user))).map fun home => homeOr user home ++ rest := by
  have hname : (user ++ rest).takeWhile (· ≠ '/') = user := by
    rw [List.takeWhile_append_of_pos fun c hc => by
      simpa using fun h : c = '/' => huser (h ▸ hc)]
    cases rest with
    | nil => simp
    | cons c rest => simp [hrest c rfl]
  rw [List.cons_append, expandHome, hname]
  cases e.home? (some (String.ofList user)) with
  | error f => rfl
  | ok home =>
    cases home with
    | none => rfl
    | some path =>
      dsimp only [Except.map, homeOr]
      rw [List.drop_left]
      rfl

theorem dollar_not_mem_homeOr {r : Registry} {e : Environment} (hplain : DollarFree r e)
    {user : List Char} (huser : '$' ∉ user) {home : Option String}
    (hhome : e.home? (some (String.ofList user)) = .ok home) : '$' ∉ homeOr user home := by
  cases home with
  | none => simpa [homeOr] using huser
  | some path => exact hplain.home _ path hhome

/-- Without a tilde at its start a text has no home. -/
theorem expandHome_of_head?_ne {cs : List Char} (h : cs.head? ≠ some '~') (e : Environment) :
    expandHome e cs = .ok cs := by
  unfold expandHome
  split
  · exact absurd rfl h
  · rfl

/-! ### Templates -/

/-- A text made of segments that can be told apart.  It starts with a tilde only if that belongs to
a home. -/
structure Template where
  segments : List Segment
  proper : ∀ s ∈ segments, s.Proper
  chain : segments.IsChain Segment.Precedes
  start : (∀ user, segments.head? ≠ some (.home user)) →
    (Segment.written segments).head? ≠ some '~'

/-- The text of a template. -/
def Template.text (t : Template) : String := String.ofList (Segment.written t.segments)

/-- Texts one behind the other. -/
def concatenated (vs : List Value) : Value :=
  .text (String.ofList (vs.flatMap fun v => v.toText.toList))

theorem concatenated_texts (segments : List Segment) :
    concatenated (segments.map fun s => .text (String.ofList s.chars)) =
      .text (String.ofList (Segment.written segments)) := by
  simp [concatenated, Segment.written, List.flatMap_map, Value.toText]

namespace Segment

variable {r : Registry} {e : Environment} {user : List Char} {segments : List Segment}

/-- Segments without a home, where no tilde is at the start. -/
theorem expand_written (hplain : DollarFree r e) (hproper : ∀ s ∈ segments, s.Proper)
    (hchain : segments.IsChain Precedes) (hhome : ∀ s ∈ segments, ∀ user, s ≠ .home user)
    (hstart : (written segments).head? ≠ some '~') :
    expand r e (.text (String.ofList (written segments))) =
      (segments.mapM (alone r e)).map concatenated := by
  rw [mapM_alone hplain hproper hhome, expand, String.toList_ofList,
    expandHome_of_head?_ne hstart, Except.map, Except.map,
    expandReferences_written hplain hproper hchain, ← concatenated_texts, List.map_map]
  rfl

/-- A home, and what is written behind it. -/
theorem expand_written_home (hplain : DollarFree r e)
    (hproper : ∀ s ∈ home user :: segments, s.Proper)
    (hchain : (home user :: segments).IsChain Precedes) :
    expand r e (.text (String.ofList (written (home user :: segments)))) =
      (e.home? (some (String.ofList user))).map fun home =>
        .text (String.ofList (homeOr user home ++ written (segments.map (expanded r e)))) := by
  obtain ⟨⟨hdollar, hslash⟩, hrest⟩ := List.forall_mem_cons.mp hproper
  rw [expand, String.toList_ofList, written_cons, chars,
    expandHome_append e hslash (head?_behind_home hchain)]
  cases hhome : e.home? (some (String.ofList user)) with
  | error f => rfl
  | ok home =>
    -- the home that has been put in is a literal in front of the rest
    have hpasses : expandReferences r e (written (literal (homeOr user home) :: segments)) = _ :=
      expandReferences_written hplain
        (List.forall_mem_cons.mpr ⟨dollar_not_mem_homeOr hplain hdollar hhome, hrest⟩)
        (hchain.imp_head fun hnext => hnext.behind_literal _)
    rw [List.map_cons, written_cons, written_cons] at hpasses
    exact congrArg (fun cs => Except.ok (Value.text (String.ofList cs))) hpasses

/-- A home by itself. -/
theorem alone_home (hplain : DollarFree r e) (huser : (home user).Proper) :
    alone r e (home user) = (e.home? (some (String.ofList user))).map fun home =>
      .text (String.ofList (homeOr user home)) := by
  have hhome : expand r e (.text (String.ofList (written [home user]))) = _ :=
    expand_written_home hplain (by simpa using huser) (List.IsChain.singleton _)
  simpa [alone] using hhome

end Segment

/-- **A template expands to what its segments stand for**, one behind the other, where nothing that
is put in has a dollar sign. -/
theorem expand_template (t : Template) {r : Registry} {e : Environment} (hplain : DollarFree r e) :
    expand r e (.text t.text) = (t.segments.mapM (Segment.alone r e)).map concatenated := by
  obtain ⟨segments, hproper, hchain, hstart⟩ := t
  dsimp only [Template.text]
  by_cases hfirst : ∃ user, segments.head? = some (.home user)
  · obtain ⟨user, hfirst⟩ := hfirst
    obtain ⟨rest, rfl⟩ := List.head?_eq_some_iff.mp hfirst
    obtain ⟨huser, hrest⟩ := List.forall_mem_cons.mp hproper
    rw [Segment.expand_written_home hplain hproper hchain, List.mapM_cons,
      Segment.alone_home hplain huser,
      Segment.mapM_alone hplain hrest (Segment.ne_home_of_isChain hchain)]
    cases e.home? (some (String.ofList user)) with
    | error f => rfl
    | ok home =>
      have htexts := concatenated_texts (.literal (homeOr user home) :: rest.map (.expanded r e))
      rw [List.map_cons, List.map_map] at htexts
      exact congrArg Except.ok htexts.symm
  · have hnone := not_exists.mp hfirst
    exact Segment.expand_written hplain hproper hchain (Segment.ne_home_of_head? hchain hnone)
      (hstart hnone)

/-- A template with a home and references of all forms. -/
def pagerTemplate : Template where
  segments := [.home "bob".toList, .literal "/".toList, .reference .braces "PAGER".toList,
    .reference .brackets "editor".toList, .literal "-".toList, .reference .bare "Editor".toList]
  proper := by decide +kernel
  chain := by decide +kernel
  start hhome := absurd rfl (hhome "bob".toList)

theorem pager_template_expands :
    let r := (editorSession "emacs").registry
    let e := Environment.own (Table.ofList [("PAGER", "less")]) (Table.ofList [("bob", "/home/bob")])
    DollarFree r e ∧ pagerTemplate.text = "~bob/$\x7bPAGER\x7d$(editor)-$Editor" ∧
      (expand r e (.text pagerTemplate.text)).toOption =
        some (.text "/home/bob/lessemacs-emacs") := by
  intro r e
  have hplain : DollarFree r e :=
    DollarFree.of_own (by decide +kernel) (by decide +kernel) (by decide +kernel)
  refine ⟨hplain, by decide +kernel, ?_⟩
  rw [expand_template pagerTemplate hplain]
  exact Value.eq_text_of_any_same (by decide +kernel)

end ConfigVars
