import ConfigVars.Proofs.DigitText
import ConfigVars.Source.Assignment
import Mathlib.Data.List.Infix

/-!
# The pattern of a line

A line with a name is the name, and behind it nothing, an equals sign with blanks around it and a
value, or blanks and a value (`LineTail`).  If the name is as long as it can be and the value starts
as it should, a line is taken apart in one way only (`LineParts.Of`, `LineParts.Of.unique`), and the
assignment of the line tells the name and the value (`LineParts.ofLine_eq_some_iff`).

The same is said by a pattern (`linePattern`).  Its repetitions and alternatives may be tried in
many ways, of which the first that leads to the end of the line counts (`Pattern.Node.matchWhole`).
This one is met without going back, apart from the search for an equals sign behind the name, so
what the groups of the pattern have matched is the assignment of the line
(`line_has_one_reading`).
-/

namespace ConfigVars

open ConfigVars.Text

/-! ### Lines taken apart -/

/-- What stands behind the name of a line. -/
inductive LineTail where
  | bare
  | equals (before after value : List Char)
  | blanks (gap value : List Char)
  deriving DecidableEq, Repr

namespace LineTail

def text : LineTail → List Char
  | bare => []
  | equals before after value => before ++ '=' :: (after ++ value)
  | blanks gap value => gap ++ value

/-- What separates the value from the name. -/
def separator : LineTail → List Char
  | bare => []
  | equals before after _ => before ++ '=' :: after
  | blanks gap _ => gap

def value? : LineTail → Option (List Char)
  | bare => none
  | equals _ _ value | blanks _ value => some value

/-- What separates the value from the name are blanks, as many as there are; an equals sign is never
left to the value. -/
def Proper : LineTail → Prop
  | bare => True
  | equals before after value =>
    (∀ c ∈ before, isBlank c = true) ∧ (∀ c ∈ after, isBlank c = true) ∧
      ∀ c ∈ value.head?, isBlank c = false
  | blanks gap value =>
    gap ≠ [] ∧ (∀ c ∈ gap, isBlank c = true) ∧ (∀ c ∈ value.head?, isBlank c = false) ∧
      value.head? ≠ some '='

/-- What stands behind a name and the blanks that follow it. -/
def behindGap (gap : List Char) : List Char → LineTail
  | '=' :: rest => .equals gap (rest.takeWhile isBlank) (rest.dropWhile isBlank)
  | value => .blanks gap value

/-- What stands behind a name. -/
def ofRest (rest : List Char) : LineTail :=
  if rest.isEmpty then .bare else behindGap (rest.takeWhile isBlank) (rest.dropWhile isBlank)

variable {tail : LineTail}

theorem isBlank_equals : isBlank '=' = false := by decide

theorem text_eq_of_value? {value : List Char} (h : tail.value? = some value) :
    tail.text = tail.separator ++ value := by
  cases tail with
  | bare => cases h
  | equals before after value' =>
    obtain rfl := Option.some.inj h
    simp [text, separator]
  | blanks gap value' =>
    obtain rfl := Option.some.inj h
    rfl

theorem behindGap_of_ne {gap value : List Char} (h : value.head? ≠ some '=') :
    behindGap gap value = .blanks gap value := by
  unfold behindGap
  split
  · exact absurd rfl h
  · rfl

/-- The assignment has the value that stands behind the name. -/
theorem valueOf_eq (rest : List Char) : Assignment.valueOf rest = (ofRest rest).value? := by
  cases rest with
  | nil => rfl
  | cons c rest =>
    have hread : ofRest (c :: rest) =
      behindGap ((c :: rest).takeWhile isBlank) ((c :: rest).dropWhile isBlank) := rfl
    have hvalue : Assignment.valueOf (c :: rest) = match (c :: rest).dropWhile isBlank with
      | '=' :: value => some (value.dropWhile isBlank)
      | value => some value := rfl
    rw [hvalue, hread]
    split
    · rename_i value heq
      rw [heq]
      rfl
    · rename_i hother
      rw [behindGap_of_ne fun hhead => ?_]
      · rfl
      · obtain ⟨value, heq⟩ := List.head?_eq_some_iff.mp hhead
        exact hother value heq

/-- What stands behind a name starts with a character that belongs to none. -/
theorem Proper.head (h : tail.Proper) : ∀ c ∈ tail.text.head?, Assignment.isNameChar c = false := by
  have hblank : ∀ c, isBlank c = true → Assignment.isNameChar c = false := fun c hc => by
    simp [Assignment.isNameChar, hc]
  intro c hc
  cases tail with
  | bare => cases hc
  | equals before after value =>
    cases before with
    | nil =>
      obtain rfl : '=' = c := Option.some.inj hc
      decide
    | cons d before =>
      obtain rfl : d = c := Option.some.inj hc
      exact hblank d (h.1 d List.mem_cons_self)
  | blanks gap value =>
    obtain ⟨d, gap, rfl⟩ := List.exists_cons_of_ne_nil h.1
    obtain rfl : d = c := Option.some.inj hc
    exact hblank d (h.2.1 d List.mem_cons_self)

/-- **What stands behind a name is read in one way.** -/
theorem Proper.ofRest_text (h : tail.Proper) : ofRest tail.text = tail := by
  cases tail with
  | bare => rfl
  | equals before after value =>
    obtain ⟨hbefore, hafter, hvalue⟩ := h
    have hhead : ∀ c ∈ ('=' :: (after ++ value)).head?, isBlank c = false := fun c hc =>
      Option.some.inj hc ▸ isBlank_equals
    have hgap := takeWhile_front hbefore hhead
    have hrest := takeWhile_front hafter hvalue
    rw [ofRest, text, if_neg (by simp), hgap.1, hgap.2, behindGap, hrest.1, hrest.2]
  | blanks gap value =>
    obtain ⟨hne, hgap, hvalue, hequals⟩ := h
    have hrest := takeWhile_front hgap hvalue
    rw [ofRest, text, if_neg (by simp [hne]), hrest.1, hrest.2, behindGap_of_ne hequals]

theorem ofRest_proper {rest : List Char}
    (h : ∀ c ∈ rest.head?, Assignment.isNameChar c = false) :
    (ofRest rest).Proper ∧ (ofRest rest).text = rest := by
  cases rest with
  | nil => exact ⟨trivial, rfl⟩
  | cons c rest =>
    have hgap : ∀ d ∈ (c :: rest).takeWhile isBlank, isBlank d = true := fun d hd =>
      List.mem_takeWhile_imp hd
    have hvalue := head?_dropWhile isBlank (c :: rest)
    have hsplit := List.takeWhile_append_dropWhile (p := isBlank) (l := c :: rest)
    rw [ofRest, if_neg (by simp)]
    by_cases hequals : ((c :: rest).dropWhile isBlank).head? = some '='
    · obtain ⟨value, heq⟩ := List.head?_eq_some_iff.mp hequals
      rw [heq] at hsplit
      rw [heq, behindGap]
      refine ⟨⟨hgap, fun d hd => List.mem_takeWhile_imp hd, head?_dropWhile isBlank value⟩, ?_⟩
      rw [text, List.takeWhile_append_dropWhile, hsplit]
    · rw [behindGap_of_ne hequals]
      refine ⟨⟨fun hnil => ?_, hgap, hvalue, hequals⟩, hsplit⟩
      -- a line goes on behind its name with a blank, if not with an equals sign
      rw [hnil, List.nil_append] at hsplit
      rw [hsplit] at hvalue hequals
      have hc := h c rfl
      have hblank := hvalue c rfl
      have hne : c ≠ '=' := fun heq => hequals (congrArg some heq)
      simp [Assignment.isNameChar, hblank, hne] at hc

end LineTail

/-- A line taken apart. -/
@[ext]
structure LineParts where
  name : List Char
  tail : LineTail
  deriving DecidableEq, Repr

namespace LineParts

/-- The parts of a line: in front the longest name, which is not empty, and behind it what stands
behind names. -/
structure Of (p : LineParts) (line : List Char) : Prop where
  line_eq : p.name ++ p.tail.text = line
  name_ne_nil : p.name ≠ []
  name_free : ∀ c ∈ p.name, isBlank c = false ∧ c ≠ '='
  name_longest : ∀ front, front <+: line → (∀ c ∈ front, isBlank c = false ∧ c ≠ '=') →
    front <+: p.name
  tail_proper : p.tail.Proper

def assignment (p : LineParts) : Assignment := ⟨p.name, p.tail.value?⟩

variable {p q : LineParts} {line : List Char}

theorem isNameChar_iff (c : Char) :
    Assignment.isNameChar c = true ↔ isBlank c = false ∧ c ≠ '=' := by
  simp [Assignment.isNameChar]

/-- Any parts make a line, whatever the value goes on with. -/
theorem of_text (hne : p.name ≠ []) (hfree : ∀ c ∈ p.name, isBlank c = false ∧ c ≠ '=')
    (hproper : p.tail.Proper) : p.Of (p.name ++ p.tail.text) := by
  refine ⟨rfl, hne, hfree, fun front hfront hfront_free => ?_, hproper⟩
  have hname : (p.name ++ p.tail.text).takeWhile Assignment.isNameChar = p.name :=
    (takeWhile_front (fun c hc => (isNameChar_iff c).mpr (hfree c hc)) hproper.head).1
  obtain ⟨back, hsplit⟩ := hfront
  rw [← hname, ← hsplit,
    List.takeWhile_append_of_pos fun c hc => (isNameChar_iff c).mpr (hfront_free c hc)]
  exact List.prefix_append _ _

theorem Of.taken (h : p.Of line) :
    line.takeWhile Assignment.isNameChar = p.name ∧
      line.dropWhile Assignment.isNameChar = p.tail.text := by
  rw [← h.line_eq]
  exact takeWhile_front (fun c hc => (isNameChar_iff c).mpr (h.name_free c hc)) h.tail_proper.head

/-- **A line is taken apart in one way.** -/
theorem Of.unique (h : p.Of line) (h' : q.Of line) : p = q := by
  have hname : p.name = q.name := h.taken.1.symm.trans h'.taken.1
  have htext : p.tail.text = q.tail.text := h.taken.2.symm.trans h'.taken.2
  have htail : p.tail = q.tail := by
    rw [← h.tail_proper.ofRest_text, ← h'.tail_proper.ofRest_text, htext]
  exact LineParts.ext hname htail

/-- A line without a value is all name. -/
theorem Of.value?_eq_none_iff (h : p.Of line) : p.tail.value? = none ↔ p.name = line := by
  have hproper := h.tail_proper
  rw [← h.line_eq, List.self_eq_append_right]
  cases htail : p.tail with
  | bare => exact ⟨fun _ => rfl, fun _ => rfl⟩
  | equals before after value => simp [LineTail.value?, LineTail.text]
  | blanks gap value =>
    rw [htail] at hproper
    simp [LineTail.value?, LineTail.text, hproper.1]

/-- The parts of a line that has a name. -/
def ofLine (line : List Char) : LineParts :=
  ⟨line.takeWhile Assignment.isNameChar, .ofRest (line.dropWhile Assignment.isNameChar)⟩

theorem of_ofLine (hne : line.takeWhile Assignment.isNameChar ≠ []) : (ofLine line).Of line := by
  obtain ⟨hproper, htext⟩ :=
    LineTail.ofRest_proper (head?_dropWhile Assignment.isNameChar line)
  have hline : (ofLine line).name ++ (ofLine line).tail.text = line := by
    rw [ofLine, htext, List.takeWhile_append_dropWhile]
  have hof := of_text (p := ofLine line) hne
    (fun c hc => (isNameChar_iff c).mp (List.mem_takeWhile_imp hc)) hproper
  rwa [hline] at hof

/-- **The assignment of a line** is what its parts tell. -/
theorem ofLine_eq_some_iff {a : Assignment} :
    Assignment.ofLine line = some a ↔ ∃ p : LineParts, p.Of line ∧ p.assignment = a := by
  have hread : Assignment.ofLine line =
      if (line.takeWhile Assignment.isNameChar).isEmpty then none
      else some (ofLine line).assignment := by
    rw [Assignment.ofLine, LineTail.valueOf_eq]
    rfl
  rw [hread]
  constructor
  · intro h
    split at h
    · cases h
    · rename_i hne
      exact ⟨ofLine line, of_ofLine fun hnil => hne (by rw [hnil]; rfl), Option.some.inj h⟩
  · rintro ⟨p, hp, rfl⟩
    have hne : line.takeWhile Assignment.isNameChar ≠ [] := hp.taken.1 ▸ hp.name_ne_nil
    rw [if_neg (by simpa using hne), (of_ofLine hne).unique hp]

/-- **A line has no name** where it is empty, or starts with a blank or an equals sign. -/
theorem ofLine_eq_none_iff_head :
    Assignment.ofLine line = none ↔ ∀ c ∈ line.head?, isBlank c = true ∨ c = '=' := by
  have hhead : ∀ c, isBlank c = true ∨ c = '=' ↔ Assignment.isNameChar c = false := fun c => by
    cases hblank : isBlank c <;> simp [Assignment.isNameChar, hblank]
  simp only [hhead]
  cases line with
  | nil => simp [Assignment.ofLine]
  | cons c rest => cases hc : Assignment.isNameChar c <;> simp [Assignment.ofLine, hc]

end LineParts

/-! ### Greedy repetitions -/

namespace Pattern

section Runs

variable {chars : CharSet} {comparison : Comparison}

/-- The place behind some characters that stand ahead of a place. -/
def Spot.past (s : Spot) (front back : List Char) : Spot :=
  { s with
    before := front.reverse ++ s.before
    after := back
    position := s.position + front.length }

/-- Further rounds of a greedy repetition. -/
abbrev moreRounds (chars : CharSet) (comparison : Comparison) (least fuel count : Nat)
    (last? : Option Nat) (s : Spot) (rest : Rest) : Option Spot :=
  Appetite.greedy.rounds (fun s' rest => (Node.set chars comparison).run s' rest) least none fuel
    count last? s rest

/-- One more round takes the next character, if the set has it, and goes on, or else stops. -/
theorem moreRounds_succ {least fuel count : Nat} {last? : Option Nat} {s : Spot} {rest : Rest}
    (hcount : least ≤ count) (hlast : ∀ p, last? = some p → p < s.position) :
    moreRounds chars comparison least (fuel + 1) count last? s rest =
      ((Node.set chars comparison).run s fun s' =>
        moreRounds chars comparison least fuel (count + 1) (some s.position) s' rest).or
        (rest s) := by
  exact rounds_more _ _ _ (by omega) (by rw [moves_of_lt hlast]; rfl)

/-- A set takes no character where the next one is none of its own. -/
theorem run_set_of_refused {s : Spot} {rest : Rest}
    (h : ∀ c ∈ s.after.head?, chars.admits comparison c = false) :
    (Node.set chars comparison).run s rest = none := by
  obtain ⟨before, after, position, starts, stops⟩ := s
  cases after with
  | nil => rfl
  | cons c cs => rw [run_set_cons, h c rfl, if_neg Bool.false_ne_true]

/-- **A greedy repetition goes as far as it can** if what follows succeeds there. -/
theorem moreRounds_longest {least fuel count : Nat} {last? : Option Nat} {s : Spot} {rest : Rest}
    {front back : List Char} {r : Spot} (hcount : least ≤ count) (hfuel : front.length < fuel)
    (hlast : ∀ p, last? = some p → p < s.position) (hafter : s.after = front ++ back)
    (hfront : ∀ c ∈ front, chars.admits comparison c = true)
    (hback : ∀ c ∈ back.head?, chars.admits comparison c = false)
    (hrest : rest (s.past front back) = some r) :
    moreRounds chars comparison least fuel count last? s rest = some r := by
  induction front generalizing fuel count last? s with
  | nil =>
    obtain ⟨fuel, rfl⟩ := Nat.exists_eq_add_one.mpr hfuel
    have hhere : s.past [] back = s := by
      obtain ⟨before, after, position, starts, stops⟩ := s
      obtain rfl : after = back := hafter
      rfl
    rw [moreRounds_succ hcount hlast, run_set_of_refused (by rw [hafter]; exact hback),
      Option.none_or, ← hhere, hrest]
  | cons c front ih =>
    obtain ⟨fuel, rfl⟩ := Nat.exists_eq_add_one.mpr (Nat.zero_lt_of_lt hfuel)
    obtain ⟨before, after, position, starts, stops⟩ := s
    obtain rfl : after = c :: (front ++ back) := hafter
    rw [moreRounds_succ hcount hlast, run_set_cons, hfront c List.mem_cons_self, if_pos rfl,
      ih (by omega) (by simpa using hfuel) (by rintro p ⟨⟩; exact Nat.lt_succ_self _) rfl
        (fun d hd => hfront d (List.mem_cons_of_mem _ hd))]
    · rfl
    · rw [← hrest]
      simp [Spot.past, Nat.add_assoc, Nat.add_comm 1]

/-- **A greedy repetition fails** if what follows fails wherever it may stop. -/
theorem moreRounds_none {least fuel count : Nat} {last? : Option Nat} {s : Spot} {rest : Rest}
    (hcount : least ≤ count) (hlast : ∀ p, last? = some p → p < s.position)
    (hrest : ∀ front back, s.after = front ++ back →
      (∀ c ∈ front, chars.admits comparison c = true) → rest (s.past front back) = none) :
    moreRounds chars comparison least fuel count last? s rest = none := by
  have hstop : rest s = none := hrest [] s.after rfl (by simp)
  induction fuel generalizing count last? s with
  | zero => exact hstop
  | succ fuel ih =>
    rw [moreRounds_succ hcount hlast, hstop, Option.or_none]
    obtain ⟨before, after, position, starts, stops⟩ := s
    cases after with
    | nil => rfl
    | cons c cs =>
      rw [run_set_cons]
      split
      · rename_i hc
        have hnext : ∀ front back, cs = front ++ back →
            (∀ d ∈ front, chars.admits comparison d = true) →
            rest (Spot.past ⟨c :: before, cs, position + 1, starts, stops⟩ front back) = none := by
          intro front back hcs hfront
          rw [← hrest (c :: front) back (by simp [hcs]) (List.forall_mem_cons.mpr ⟨hc, hfront⟩)]
          simp [Spot.past, Nat.add_assoc, Nat.add_comm 1]
        exact ih (by omega) (by rintro p ⟨⟩; exact Nat.lt_succ_self _) hnext
          (hnext [] cs rfl (by simp))
      · rfl

/-- Any number of characters of a set. -/
def Node.star (chars : CharSet) : Node := .repeated 0 none .greedy (.set chars .exact)

/-- Any number of characters of a set, but at least one. -/
def Node.plus (chars : CharSet) : Node := .repeated 1 none .greedy (.set chars .exact)

variable {s r : Spot} {rest : Rest} {front back : List Char}

theorem run_star_longest (hafter : s.after = front ++ back)
    (hfront : ∀ c ∈ front, chars.admits .exact c = true)
    (hback : ∀ c ∈ back.head?, chars.admits .exact c = false)
    (hrest : rest (s.past front back) = some r) : (Node.star chars).run s rest = some r :=
  moreRounds_longest (Nat.le_refl 0) (by rw [hafter, List.length_append]; omega) nofun hafter
    hfront hback hrest

theorem run_star_none (hrest : ∀ front back, s.after = front ++ back →
    (∀ c ∈ front, chars.admits .exact c = true) → rest (s.past front back) = none) :
    (Node.star chars).run s rest = none :=
  moreRounds_none (Nat.le_refl 0) nofun hrest

theorem run_plus (s : Spot) (rest : Rest) : (Node.plus chars).run s rest =
    (Node.set chars .exact).run s fun s' =>
      moreRounds chars .exact 1 (s.after.length + 2) 1 none s' rest := by
  have hrun : (Node.plus chars).run s rest =
      moreRounds chars .exact 1 (1 + s.after.length + 2) 0 none s rest := rfl
  have hfuel : 1 + s.after.length + 2 = s.after.length + 2 + 1 := by omega
  rw [hrun, hfuel, moreRounds, rounds_least _ _ _ Nat.zero_lt_one]

theorem run_plus_longest (hne : front ≠ []) (hafter : s.after = front ++ back)
    (hfront : ∀ c ∈ front, chars.admits .exact c = true)
    (hback : ∀ c ∈ back.head?, chars.admits .exact c = false)
    (hrest : rest (s.past front back) = some r) : (Node.plus chars).run s rest = some r := by
  obtain ⟨c, front, rfl⟩ := List.exists_cons_of_ne_nil hne
  obtain ⟨before, after, position, starts, stops⟩ := s
  obtain rfl : after = c :: (front ++ back) := hafter
  rw [run_plus, run_set_cons, hfront c List.mem_cons_self, if_pos rfl]
  refine moreRounds_longest (Nat.le_refl 1) ?_ nofun rfl
    (fun d hd => hfront d (List.mem_cons_of_mem _ hd)) hback ?_
  · simp only [List.length_cons, List.length_append]
    omega
  · rw [← hrest]
    simp [Spot.past, Nat.add_assoc, Nat.add_comm 1]

theorem run_plus_none (h : ∀ c ∈ s.after.head?, chars.admits .exact c = false) :
    (Node.plus chars).run s rest = none := by
  rw [run_plus, run_set_of_refused h]

theorem run_alt (a b : Node) (s : Spot) (rest : Rest) :
    (Node.alt a b).run s rest = (a.run s rest).or (b.run s rest) := by
  rw [Node.run]
  cases a.run s rest <;> rfl

/-- A part that may be missing is tried first. -/
theorem run_optional (body : Node) (s : Spot) (rest : Rest) :
    (Node.repeated 0 (some 1) .greedy body).run s rest = (body.run s rest).or (rest s) := by
  have hfuel : 0 + s.after.length + 2 = s.after.length + 1 + 1 := by omega
  rw [Node.run, hfuel, rounds_more _ _ _ (by omega) rfl]
  rfl

end Runs

/-! ### The pattern -/

/-- A place that ends the text. -/
def Spot.atEnd (s : Spot) : Option Spot := if s.after.isEmpty then some s else none

/-- Where the match of a whole text ends: the first one, in the order in which matches are tried,
that leads to the end. -/
def Node.matchWhole (node : Node) (text : List Char) : Option Spot :=
  node.run (.start text) Spot.atEnd

/-- The characters of a name: none of the blanks, and no equals sign. -/
def nameSet : CharSet := ⟨[.category .blank false false, .code '='.toNat], true⟩

def blankSet : CharSet := ⟨[.category .blank false false], false⟩

def equalsSet : CharSet := ⟨[.code '='.toNat], false⟩

def anySet : CharSet := ⟨[], true⟩

theorem code_equals_admits (c : Char) :
    (Member.code '='.toNat).admits (Comparison.exact.variants c.toNat) c.toNat =
      decide (c = '=') := by
  have hsame : '='.toNat = c.toNat ↔ c = '=' := eq_comm.trans Char.toNat_inj
  simp only [Member.admits, Comparison.variants, List.contains_cons, List.contains_nil,
    Bool.or_false]
  rw [Bool.eq_iff_iff, beq_iff_eq, decide_eq_true_iff, hsame]

theorem nameSet_admits (c : Char) : nameSet.admits .exact c = Assignment.isNameChar c := by
  simp only [nameSet, CharSet.admits, Comparison.folded, List.any_cons, List.any_nil, Bool.or_false,
    code_equals_admits]
  simp [Member.admits, Category.contains, Assignment.isNameChar]

theorem blankSet_admits (c : Char) : blankSet.admits .exact c = isBlank c := by
  simp [blankSet, CharSet.admits, Member.admits, Comparison.folded, Category.contains]

theorem equalsSet_admits (c : Char) : equalsSet.admits .exact c = decide (c = '=') := by
  simp only [equalsSet, CharSet.admits, Comparison.folded, List.any_cons, List.any_nil,
    Bool.or_false, code_equals_admits, Bool.bne_false]

theorem anySet_admits (c : Char) : anySet.admits .exact c = true := rfl

/-- An equals sign with blanks around it, or blanks alone. -/
def separatorNode : Node :=
  .alt (.seq (.star blankSet) (.seq (.set equalsSet .exact) (.star blankSet))) (.plus blankSet)

/-- A value, to the end of the text. -/
def valueNode : Node := .group 2 (.star anySet)

/-- A name, and behind it a value or none. -/
def lineNode : Node :=
  .seq (.group 1 (.plus nameSet)) (.repeated 0 (some 1) .greedy (.seq separatorNode valueNode))

/-! ### The match -/

/-- A group starts at a place. -/
def Spot.opened (s : Spot) (number : Nat) : Spot :=
  { s with starts := s.starts.put number s.position }

/-- A group ends at a place. -/
def Spot.closed (s : Spot) (number : Nat) : Spot :=
  { s with stops := s.stops.put number s.position }

/-- The name and the value that the groups have matched. -/
def Spot.assignment? (s : Spot) : Option Assignment :=
  (s.captured? 1).map fun name => ⟨name, s.captured? 2⟩

section Line

variable {s r : Spot} {rest : Rest} {tail : LineTail} {value : List Char}

theorem run_group (number : Nat) (body : Node) (s : Spot) (rest : Rest) :
    (Node.group number body).run s rest =
      body.run (s.opened number) fun s' => rest (s'.closed number) :=
  rfl

theorem run_seq (a b : Node) (s : Spot) (rest : Rest) :
    (Node.seq a b).run s rest = a.run s fun s' => b.run s' rest :=
  rfl

/-- Behind blanks the search for an equals sign fails where another character follows, however many
of the blanks it leaves. -/
theorem run_equals_none {gap : List Char} (hafter : s.after = gap ++ value)
    (hgap : ∀ c ∈ gap, isBlank c = true) (hhead : ∀ c ∈ value.head?, isBlank c = false)
    (hvalue : value.head? ≠ some '=') :
    (Node.seq (.star blankSet) (.seq (.set equalsSet .exact) (.star blankSet))).run s rest =
      none := by
  rw [run_seq]
  refine run_star_none fun front back hsplit hfront => ?_
  rw [run_seq]
  refine run_set_of_refused fun c hc => ?_
  rw [equalsSet_admits, decide_eq_false_iff_not]
  rintro rfl
  -- an equals sign there would be what follows all the blanks
  have hback : (front ++ back).dropWhile isBlank = back := (takeWhile_front
    (fun d hd => (blankSet_admits d).symm.trans (hfront d hd))
    fun d hd => Option.some.inj (hc.symm.trans hd) ▸ LineTail.isBlank_equals).2
  rw [← hsplit, hafter, (takeWhile_front hgap hhead).2] at hback
  exact hvalue (hback ▸ hc)

/-- **What separates is matched as it stands.** -/
theorem run_separator (hproper : tail.Proper) (hvalue : tail.value? = some value)
    (hafter : s.after = tail.text) (hrest : rest (s.past tail.separator value) = some r) :
    separatorNode.run s rest = some r := by
  have hblanks : ∀ gap : List Char, (∀ c ∈ gap, isBlank c = true) →
      ∀ c ∈ gap, blankSet.admits .exact c = true := fun gap hgap c hc =>
    (blankSet_admits c).trans (hgap c hc)
  have hends : ∀ back : List Char, (∀ c ∈ back.head?, isBlank c = false) →
      ∀ c ∈ back.head?, blankSet.admits .exact c = false := fun back hback c hc =>
    (blankSet_admits c).trans (hback c hc)
  rw [separatorNode, run_alt]
  cases tail with
  | bare => cases hvalue
  | equals before after value' =>
    obtain rfl := Option.some.inj hvalue
    obtain ⟨hbefore, hgap, hhead⟩ := hproper
    have hfirst : (Node.seq (.star blankSet) (.seq (.set equalsSet .exact) (.star blankSet))).run s
        rest = some r := by
      rw [run_seq]
      refine run_star_longest hafter (hblanks before hbefore)
        (hends _ fun c hc => Option.some.inj hc ▸ LineTail.isBlank_equals) ?_
      rw [run_seq, Spot.past, run_set_cons, equalsSet_admits, if_pos (decide_eq_true rfl)]
      refine run_star_longest rfl (hblanks after hgap) (hends _ hhead) ?_
      rw [← hrest]
      simp [Spot.past, LineTail.separator, Nat.add_assoc, Nat.add_comm 1]
    rw [hfirst, Option.some_or]
  | blanks gap value' =>
    obtain rfl := Option.some.inj hvalue
    obtain ⟨hne, hgap, hhead, hequals⟩ := hproper
    rw [run_equals_none hafter hgap hhead hequals, Option.none_or]
    exact run_plus_longest hne hafter (hblanks gap hgap) (hends _ hhead) hrest

/-- At the end of the text nothing separates. -/
theorem run_separator_none (hafter : s.after = []) : separatorNode.run s rest = none := by
  have hsplit : s.after = [] ++ [] := hafter
  rw [separatorNode, run_alt, run_equals_none hsplit nofun nofun nofun, Option.none_or]
  exact run_plus_none (by rw [hafter]; nofun)

/-- A value goes to the end of the text. -/
theorem run_value (hafter : s.after = value) : valueNode.run s Spot.atEnd =
    some (((s.opened 2).past value []).closed 2) := by
  have hsplit : (s.opened 2).after = value ++ [] := by
    rw [List.append_nil]
    exact hafter
  exact run_star_longest hsplit (fun c _ => anySet_admits c) nofun rfl

/-- What follows the name is matched to the end of the text. -/
theorem run_tail (hproper : tail.Proper) (hafter : s.after = tail.text) :
    (Node.repeated 0 (some 1) .greedy (.seq separatorNode valueNode)).run s Spot.atEnd =
      some (match tail.value? with
        | none => s
        | some value => (((s.past tail.separator value).opened 2).past value []).closed 2) := by
  rw [run_optional, run_seq]
  cases hvalue : tail.value? with
  | none =>
    have hempty : s.after = [] := by
      cases tail with
      | bare => exact hafter
      | equals before after value => cases hvalue
      | blanks gap value => cases hvalue
    rw [run_separator_none hempty, Option.none_or, Spot.atEnd, hempty]
    rfl
  | some value =>
    rw [run_separator hproper hvalue hafter (run_value rfl), Option.some_or]
    rfl

/-- **A line is matched part by part**, and the groups hold the name and the value. -/
theorem matchWhole_of {p : LineParts} {line : List Char} (h : p.Of line) :
    (lineNode.matchWhole line).bind Spot.assignment? = some p.assignment := by
  have hname : ∀ c ∈ p.name, nameSet.admits .exact c = true := fun c hc =>
    (nameSet_admits c).trans ((LineParts.isNameChar_iff c).mpr (h.name_free c hc))
  have hend : ∀ c ∈ p.tail.text.head?, nameSet.admits .exact c = false := fun c hc =>
    (nameSet_admits c).trans (h.tail_proper.head c hc)
  rw [Node.matchWhole, lineNode, run_seq, run_group,
    run_plus_longest h.name_ne_nil h.line_eq.symm hname hend (run_tail h.tail_proper rfl)]
  rw [Option.bind_some]
  cases hvalue : p.tail.value? <;>
    simp [Spot.assignment?, Spot.captured?, Spot.range?, Spot.opened, Spot.closed, Spot.past,
      Spot.start, Table.get?_put, LineParts.assignment, hvalue]

/-- A line without a name is not matched. -/
theorem matchWhole_none {line : List Char} (h : Assignment.ofLine line = none) :
    lineNode.matchWhole line = none := by
  rw [LineParts.ofLine_eq_none_iff_head] at h
  rw [Node.matchWhole, lineNode, run_seq, run_group]
  refine run_plus_none fun c hc => ?_
  rw [nameSet_admits, Bool.eq_false_iff, ne_eq, LineParts.isNameChar_iff]
  rintro ⟨hblank, hequals⟩
  rcases h c hc with hc | hc
  · rw [hblank] at hc
    cases hc
  · exact hequals hc

end Line

end Pattern

/-- The pattern of a line. -/
def linePattern : Pattern :=
  ⟨"([^\\s=]+)(?:(?:\\s*=\\s*|\\s+)(.*))?", { dotAll := true }, Pattern.lineNode⟩

/-- A line is matched in one way, in which it is taken apart. -/
structure MatchedOnce (line : List Char) : Prop where
  fails_iff : linePattern.node.matchWhole line = none ↔
    ∀ c ∈ line.head?, isBlank c = true ∨ c = '='
  groups : ∀ place, linePattern.node.matchWhole line = some place →
    ∃ p : LineParts, p.Of line ∧ place.captured? 1 = some p.name ∧
      place.captured? 2 = p.tail.value?
  assignment : (linePattern.node.matchWhole line).bind Pattern.Spot.assignment? =
    Assignment.ofLine line
  valueless_iff : ∀ p : LineParts, p.Of line → (p.tail.value? = none ↔ p.name = line)
  line_eq : ∀ (p : LineParts) (value : List Char), p.Of line → p.tail.value? = some value →
    line = p.name ++ p.tail.separator ++ value
  unique : ∀ p q : LineParts, p.Of line → q.Of line → p = q

/-- The assignment of a line is what the groups of the pattern hold. -/
theorem matchWhole_assignment? (line : List Char) :
    (linePattern.node.matchWhole line).bind Pattern.Spot.assignment? = Assignment.ofLine line := by
  cases h : Assignment.ofLine line with
  | none =>
    rw [linePattern, Pattern.matchWhole_none h]
    rfl
  | some a =>
    obtain ⟨p, hp, rfl⟩ := LineParts.ofLine_eq_some_iff.mp h
    exact Pattern.matchWhole_of hp

theorem matchedOnce (line : List Char) : MatchedOnce line where
  fails_iff := by
    rw [← LineParts.ofLine_eq_none_iff_head]
    refine ⟨fun h => ?_, Pattern.matchWhole_none⟩
    rw [← matchWhole_assignment?, h]
    rfl
  groups place hplace := by
    have hread := matchWhole_assignment? line
    rw [hplace, Option.bind_some] at hread
    cases h : Assignment.ofLine line with
    | none =>
      rw [linePattern, Pattern.matchWhole_none h] at hplace
      cases hplace
    | some a =>
      obtain ⟨p, hp, rfl⟩ := LineParts.ofLine_eq_some_iff.mp h
      rw [h] at hread
      obtain ⟨name, hname, hparts⟩ := Option.map_eq_some_iff.mp hread
      obtain ⟨hsame, hvalue⟩ := Assignment.mk.inj hparts
      exact ⟨p, hp, hsame ▸ hname, hvalue⟩
  assignment := matchWhole_assignment? line
  valueless_iff p hp := hp.value?_eq_none_iff
  line_eq p value hp hvalue := by
    rw [← hp.line_eq, LineTail.text_eq_of_value? hvalue, List.append_assoc]
  unique p q hp hq := hp.unique hq

/-- **A line has one reading.**  The pattern matches every line but those that are empty or start
with a blank or an equals sign.  Its groups hold the longest name in front, and the value, if the
name is not all.  What is between the two are blanks, with an equals sign among them if one follows
the name and its blanks.  There is no other way to take the line apart so.  A value may be any text
that does not start with a blank, nor with an equals sign behind blanks alone. -/
theorem line_has_one_reading :
    Pattern.ofText "([^\\s=]+)(?:(?:\\s*=\\s*|\\s+)(.*))?" { dotAll := true } = .ok linePattern ∧
      (∀ line : List Char, MatchedOnce line) ∧
      ∀ p : LineParts, p.name ≠ [] → (∀ c ∈ p.name, isBlank c = false ∧ c ≠ '=') → p.tail.Proper →
        p.Of (p.name ++ p.tail.text) :=
  ⟨Pattern.ofText_eq_ok (by decide +kernel), matchedOnce, fun _ => LineParts.of_text⟩

example : (linePattern.node.matchWhole "path = a=b\n".toList).bind Pattern.Spot.assignment? =
    some ⟨"path".toList, some "a=b\n".toList⟩ := by
  decide +kernel

end ConfigVars
