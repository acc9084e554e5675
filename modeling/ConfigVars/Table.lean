/-!
# Ordered tables

A table maps keys to values and keeps its keys in the order in which they first came
(`Table.entries`).  Putting a value under a key that is there replaces the value and leaves the
key in its place; a key that was erased and comes back goes last.
-/

namespace ConfigVars

/-- A table from keys to values, in the order in which the keys came. -/
structure Table (κ : Type u) (α : Type v) where
  entries : List (κ × α) := []
  deriving Repr, DecidableEq

namespace Table

variable {κ : Type u} {α : Type v} {β : Type w}

instance : EmptyCollection (Table κ α) := ⟨⟨[]⟩⟩

instance : Inhabited (Table κ α) := ⟨⟨[]⟩⟩

/-- The keys in their order. -/
def keys (t : Table κ α) : List κ := t.entries.map Prod.fst

/-- The values in the order of their keys. -/
def values (t : Table κ α) : List α := t.entries.map Prod.snd

/-- The table with another value under every key. -/
def map (f : α → β) (t : Table κ α) : Table κ β := ⟨t.entries.map fun (k, v) => (k, f v)⟩

variable [BEq κ]

/-- Puts a value under a key of a list of entries. -/
def putIn (k : κ) (v : α) : List (κ × α) → List (κ × α)
  | [] => [(k, v)]
  | (k', v') :: rest => if k' == k then (k', v) :: rest else (k', v') :: putIn k v rest

/-- Looks a key up in a list of entries. -/
def getIn (k : κ) : List (κ × α) → Option α
  | [] => none
  | (k', v) :: rest => if k' == k then some v else getIn k rest

/-- Takes a key out of a list of entries. -/
def eraseIn (k : κ) : List (κ × α) → List (κ × α)
  | [] => []
  | (k', v) :: rest => if k' == k then eraseIn k rest else (k', v) :: eraseIn k rest

/-- The value under a key. -/
def get? (t : Table κ α) (k : κ) : Option α := getIn k t.entries

/-- Whether a key is there. -/
def contains (t : Table κ α) (k : κ) : Bool := (t.get? k).isSome

/-- Puts a value under a key, in its place or last. -/
def put (t : Table κ α) (k : κ) (v : α) : Table κ α := ⟨putIn k v t.entries⟩

/-- Takes a key out. -/
def erase (t : Table κ α) (k : κ) : Table κ α := ⟨eraseIn k t.entries⟩

/-- Puts one entry after the other. -/
def putAll (t : Table κ α) (entries : List (κ × α)) : Table κ α :=
  entries.foldl (fun t e => t.put e.1 e.2) t

/-- The table of a list of entries: a key stands where it comes first, with its last value. -/
def ofList (entries : List (κ × α)) : Table κ α := (∅ : Table κ α).putAll entries

/-- One table beneath another: the values of the upper one win. -/
def overlay (lower upper : Table κ α) : Table κ α := lower.putAll upper.entries

/-! ### One law per operation -/

@[simp] theorem get?_empty (k : κ) : (∅ : Table κ α).get? k = none := rfl

@[simp] theorem contains_empty (k : κ) : (∅ : Table κ α).contains k = false := rfl

variable [LawfulBEq κ]

/-- Looking up behind a `put`. -/
theorem get?_put [DecidableEq κ] (t : Table κ α) (k k' : κ) (v : α) :
    (t.put k v).get? k' = if k' = k then some v else t.get? k' := by
  obtain ⟨es⟩ := t
  simp only [put, get?]
  induction es with
  | nil => simp [putIn, getIn, eq_comm (a := k)]
  | cons e rest ih =>
    obtain ⟨a, b⟩ := e
    by_cases ha : a = k
    · subst ha
      by_cases h : a = k'
      · simp [putIn, getIn, h]
      · simp [putIn, getIn, h, Ne.symm h]
    · by_cases h : a = k'
      · subst h; simp [putIn, getIn, ha]
      · simp [putIn, getIn, ha, h, ih]

/-- Looking up behind an `erase`. -/
theorem get?_erase [DecidableEq κ] (t : Table κ α) (k k' : κ) :
    (t.erase k).get? k' = if k' = k then none else t.get? k' := by
  obtain ⟨es⟩ := t
  simp only [erase, get?]
  induction es with
  | nil => simp [eraseIn, getIn]
  | cons e rest ih =>
    obtain ⟨a, b⟩ := e
    by_cases ha : a = k
    · subst ha
      by_cases h : k' = a
      · subst h; simpa [eraseIn] using ih
      · have hne : ¬a = k' := fun h' => h h'.symm
        simpa [eraseIn, getIn, h, hne] using ih
    · by_cases h : a = k'
      · subst h; simp [eraseIn, getIn, ha]
      · simpa [eraseIn, getIn, ha, h] using ih

/-- A key keeps its place when it is there, and goes last when it is not. -/
theorem keys_put (t : Table κ α) (k : κ) (v : α) :
    (t.put k v).keys = if t.contains k then t.keys else t.keys ++ [k] := by
  obtain ⟨es⟩ := t
  simp only [put, keys, contains, get?]
  induction es with
  | nil => simp [putIn, getIn]
  | cons e rest ih =>
    obtain ⟨a, b⟩ := e
    by_cases ha : a = k
    · simp [putIn, getIn, ha]
    · simp only [putIn, getIn, beq_eq_false_iff_ne.mpr ha, Bool.false_eq_true, if_false,
        List.map_cons, ih]
      by_cases h : (getIn k rest).isSome <;> simp [h]

/-- A key is there if it is one of the keys. -/
theorem contains_iff_mem_keys (t : Table κ α) (k : κ) : t.contains k = true ↔ k ∈ t.keys := by
  obtain ⟨es⟩ := t
  simp only [contains, get?, keys]
  induction es with
  | nil => simp [getIn]
  | cons e rest ih =>
    obtain ⟨a, b⟩ := e
    by_cases ha : a = k
    · simp [getIn, ha]
    · simpa [getIn, ha, Ne.symm ha] using ih

/-- What is found is one of the entries. -/
theorem mem_entries_of_get? {t : Table κ α} {k : κ} {v : α} (h : t.get? k = some v) :
    (k, v) ∈ t.entries := by
  obtain ⟨es⟩ := t
  simp only [get?] at h
  induction es with
  | nil => cases h
  | cons e rest ih =>
    obtain ⟨a, b⟩ := e
    by_cases ha : a = k
    · subst ha
      simp only [getIn, BEq.rfl, if_true, Option.some.injEq] at h
      simp [h]
    · simp only [getIn, beq_eq_false_iff_ne.mpr ha, Bool.false_eq_true, if_false] at h
      exact List.mem_cons_of_mem _ (ih h)

/-- Whether a key is there behind a `put`. -/
theorem contains_put [DecidableEq κ] (t : Table κ α) (k k' : κ) (v : α) :
    (t.put k v).contains k' = (decide (k' = k) || t.contains k') := by
  unfold contains
  rw [get?_put]
  by_cases h : k' = k <;> simp [h]

/-- Looking up behind entries of one value. -/
theorem get?_putAll_map [DecidableEq κ] {ι : Type} (t : Table κ α) (f : ι → κ) (v : α)
    (xs : List ι) (k : κ) :
    (t.putAll (xs.map fun x => (f x, v))).get? k =
      if k ∈ xs.map f then some v else t.get? k := by
  induction xs generalizing t with
  | nil => simp [putAll]
  | cons x rest ih =>
    have hstep : t.putAll ((x :: rest).map fun x => (f x, v)) =
        (t.put (f x) v).putAll (rest.map fun x => (f x, v)) := rfl
    rw [hstep, ih, get?_put]
    by_cases hrest : k ∈ rest.map f
    · simp [hrest]
    · by_cases hx : k = f x <;> simp [hrest, hx]

end Table

end ConfigVars
