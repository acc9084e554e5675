import ConfigVars.Registry

/-!
# Letter case, settled

A character is *small* when it is its own lower case.  The lower case of a text is made of small
characters, and a text of small characters is its own lower case, so folding a name a second time
changes nothing (`lower_lower`, `Registry.fold_fold`).  A minus sign in front of a name has no
bearing on the case of what follows, and so folding passes it by (`lower_dash`,
`Registry.fold_dash`): the final sigma is decided by letters only.
-/

namespace ConfigVars.Text

/-! ### The lower case of a character is small -/

/-- The distances from the first code point of a run to its other ones. -/
def offsets (run : Nat × Nat × Nat × Nat) : List Nat :=
  (List.range (run.2.1 - run.1 + 1)).filter (· % run.2.2.1 = 0)

/-- The code points of a run. -/
def capitals (run : Nat × Nat × Nat × Nat) : List Nat := (offsets run).map (run.1 + ·)

/-- The lower cases of the code points of a run. -/
def smalls (run : Nat × Nat × Nat × Nat) : List Nat := (offsets run).map (run.2.2.2 + ·)

theorem lowerIn_eq_or_mem_smalls (runs : List (Nat × Nat × Nat × Nat)) (c : Nat) :
    lowerIn runs c = c ∨
      c ∈ runs.flatMap capitals ∧ lowerIn runs c ∈ runs.flatMap smalls := by
  induction runs with
  | nil => exact .inl rfl
  | cons run rest ih =>
    obtain ⟨first, last, step, target⟩ := run
    unfold lowerIn
    split
    · exact .inl rfl
    · split
      · rename_i hfirst hlast
        simp only [Bool.and_eq_true, decide_eq_true_eq] at hlast
        have hoff : c - first ∈ offsets (first, last, step, target) := by
          simp only [offsets, List.mem_filter, List.mem_range, decide_eq_true_eq]
          exact ⟨by omega, hlast.2⟩
        refine .inr ⟨?_, ?_⟩
        · refine List.mem_flatMap.mpr ⟨_, List.mem_cons_self, List.mem_map.mpr ⟨_, hoff, ?_⟩⟩
          show first + (c - first) = c
          omega
        · exact List.mem_flatMap.mpr ⟨_, List.mem_cons_self, List.mem_map.mpr ⟨_, hoff, rfl⟩⟩
      · rcases ih with h | ⟨hc, hs⟩
        · exact .inl h
        · simp only [List.flatMap_cons, List.mem_append]
          exact .inr ⟨.inr hc, .inr hs⟩

/-- A set of numbers as the bits of one number. -/
def bits (ns : List Nat) : Nat := ns.foldr (fun n m => Nat.pow 2 n ||| m) 0

theorem testBit_bits (ns : List Nat) (n : Nat) : (bits ns).testBit n = decide (n ∈ ns) := by
  induction ns with
  | nil => simp [bits]
  | cons k rest ih =>
    have hcons : bits (k :: rest) = 2 ^ k ||| bits rest := rfl
    rw [hcons, Nat.testBit_or, ih, Nat.testBit_two_pow]
    by_cases h : n = k <;> simp [h, eq_comm]

theorem not_mem_of_bits {ns ms : List Nat} (h : bits ns &&& bits ms = 0) {n : Nat} (hn : n ∈ ns) :
    n ∉ ms := by
  intro hm
  have hbit := congrArg (·.testBit n) h
  simp only [Nat.testBit_and, testBit_bits, hn, hm, decide_true, Bool.and_self,
    Nat.zero_testBit] at hbit
  exact Bool.noConfusion hbit

-- Some fourteen hundred code points are compared with each other in one step here, which is why
-- they are taken as bits.
theorem smalls_and_capitals :
    bits (lowerRuns.flatMap smalls) &&& bits (lowerRuns.flatMap capitals) = 0 := by
  decide +kernel

theorem smalls_areChars :
    (lowerRuns.flatMap smalls).all (fun n => decide n.isValidChar) = true := by
  decide +kernel

theorem toNat_lowerChar_of_mem_smalls {c : Char}
    (h : lowerIn lowerRuns c.toNat ∈ lowerRuns.flatMap smalls) :
    (lowerChar c).toNat = lowerIn lowerRuns c.toNat := by
  have hvalid : (lowerIn lowerRuns c.toNat).isValidChar :=
    of_decide_eq_true (List.all_eq_true.mp smalls_areChars _ h)
  rw [lowerChar, Char.ofNat, dif_pos hvalid]
  rfl

theorem lowerChar_lowerChar (c : Char) : lowerChar (lowerChar c) = lowerChar c := by
  rcases lowerIn_eq_or_mem_smalls lowerRuns c.toNat with h | ⟨-, hs⟩
  · have hc : lowerChar c = c := by rw [lowerChar, h, Char.ofNat_toNat]
    rw [hc, hc]
  · rcases lowerIn_eq_or_mem_smalls lowerRuns (lowerChar c).toNat with h' | ⟨hc, -⟩
    · rw [lowerChar, h', Char.ofNat_toNat]
    · rw [toNat_lowerChar_of_mem_smalls hs] at hc
      exact absurd hc (not_mem_of_bits smalls_and_capitals hs)

/-! ### The lower case of a text is small -/

/-- Whether a character is its own lower case. -/
def IsSmall (c : Char) : Prop := lowerChar c = c

theorem IsSmall.ne_sigma {c : Char} (h : IsSmall c) : c ≠ 'Σ' := by
  rintro rfl
  exact absurd h (by unfold IsSmall; decide +kernel)

theorem IsSmall.ne_dottedI {c : Char} (h : IsSmall c) : c ≠ 'İ' := by
  rintro rfl
  exact absurd h (by unfold IsSmall; decide +kernel)

theorem IsSmall.lowerBetween {c : Char} (h : IsSmall c) (before after : List Char) :
    lowerBetween before c after = [c] := by
  rw [Text.lowerBetween, if_neg h.ne_sigma, if_neg h.ne_dottedI, h]

theorem isSmall_of_mem_lowerBetween {before after : List Char} {c x : Char}
    (h : x ∈ lowerBetween before c after) : IsSmall x := by
  unfold lowerBetween at h
  split at h
  · split at h <;> obtain rfl := List.mem_singleton.mp h <;> (unfold IsSmall; decide +kernel)
  · split at h
    · simp only [List.mem_cons, List.not_mem_nil, or_false] at h
      rcases h with rfl | rfl <;> (unfold IsSmall; decide +kernel)
    · obtain rfl := List.mem_singleton.mp h
      exact lowerChar_lowerChar c

theorem isSmall_of_mem_lowerAfter {before cs : List Char} {x : Char}
    (h : x ∈ lowerAfter before cs) : IsSmall x := by
  induction cs generalizing before with
  | nil => cases h
  | cons c rest ih =>
    rcases List.mem_append.mp h with h | h
    · exact isSmall_of_mem_lowerBetween h
    · exact ih h

theorem lowerAfter_of_isSmall {cs : List Char} (h : ∀ c ∈ cs, IsSmall c) (before : List Char) :
    lowerAfter before cs = cs := by
  induction cs generalizing before with
  | nil => rfl
  | cons c rest ih =>
    rw [lowerAfter, (h c List.mem_cons_self).lowerBetween,
      ih (fun x hx => h x (List.mem_cons_of_mem _ hx)), List.singleton_append]

/-- **Lower case is settled at once.** -/
theorem lower_lower (s : String) : lower (lower s) = lower s := by
  unfold lower
  rw [String.toList_ofList, lowerAfter_of_isSmall fun _ hx => isSmall_of_mem_lowerAfter hx]

/-! ### A minus sign in front -/

theorem startsCased_cons (c : Char) (rest : List Char) :
    startsCased (c :: rest) =
      if caseIgnorableRanges.contains c.toNat then startsCased rest
      else casedRanges.contains c.toNat := by
  rw [startsCased, List.dropWhile_cons]
  cases caseIgnorableRanges.contains c.toNat <;> rfl

/-- A minus sign far behind changes nothing: it neither is a letter nor is passed over. -/
theorem startsCased_append_dash (before : List Char) :
    startsCased (before ++ ['-']) = startsCased before := by
  induction before with
  | nil => decide +kernel
  | cons c rest ih => rw [List.cons_append, startsCased_cons, startsCased_cons, ih]

theorem lowerAfter_append_dash (before cs : List Char) :
    lowerAfter (before ++ ['-']) cs = lowerAfter before cs := by
  induction cs generalizing before with
  | nil => rfl
  | cons c rest ih =>
    have hhere : lowerBetween (before ++ ['-']) c rest = lowerBetween before c rest := by
      unfold lowerBetween isFinalPosition
      rw [startsCased_append_dash]
    rw [lowerAfter, lowerAfter, hhere, ← List.cons_append, ih]

theorem lower_dash (s : String) : lower ("-" ++ s) = "-" ++ lower s := by
  have hdash : lowerBetween [] '-' s.toList = ['-'] := by
    have h : IsSmall '-' := by unfold IsSmall; decide +kernel
    exact h.lowerBetween _ _
  have hrest : lowerAfter ['-'] s.toList = lowerAfter [] s.toList :=
    lowerAfter_append_dash [] s.toList
  apply String.toList_injective
  simp only [lower, String.toList_append, String.toList_ofList]
  show lowerBetween [] '-' s.toList ++ lowerAfter ['-'] s.toList = '-' :: lowerAfter [] s.toList
  rw [hdash, hrest, List.singleton_append]

end ConfigVars.Text

namespace ConfigVars.Registry

open ConfigVars.Text

/-- A folded name is folded already. -/
@[simp] theorem fold_fold (r : Registry) (name : String) : r.fold (r.fold name) = r.fold name := by
  unfold fold
  split
  · rfl
  · exact lower_lower name

/-- Folding a token folds the name behind its minus sign. -/
theorem fold_dash (r : Registry) (name : String) : r.fold ("-" ++ name) = "-" ++ r.fold name := by
  unfold fold
  split
  · rfl
  · exact lower_dash name

end ConfigVars.Registry
