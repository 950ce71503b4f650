/-
SqlNotebook/Dictionary.lean

Finite maps from names to values.  A dictionary is a list of entries with
distinct names; what it answers does not depend on their order, and `names`
lists them sorted.
-/

namespace SqlNotebook

/-- Values under distinct names. -/
structure Dictionary (α : Type) where
  entries : List (String × α)
  distinct : (entries.map Prod.fst).Nodup

namespace Dictionary

variable {α : Type}

/-- The dictionary without entries. -/
def empty : Dictionary α := ⟨[], by simp⟩

instance : Inhabited (Dictionary α) := ⟨empty⟩

/-- The value under `name`. -/
def get? (d : Dictionary α) (name : String) : Option α :=
  d.entries.lookup name

/-- Whether there is a value under `name`. -/
def contains (d : Dictionary α) (name : String) : Bool :=
  (d.get? name).isSome

/-- The number of entries. -/
def size (d : Dictionary α) : Nat :=
  d.entries.length

/-- Removes the entry under `name`, if there is one. -/
def erase (d : Dictionary α) (name : String) : Dictionary α where
  entries := d.entries.filter fun entry => entry.1 != name
  distinct := (List.filter_sublist.map _).nodup d.distinct

/-- Puts `value` under `name`, in place of what was there. -/
def set (d : Dictionary α) (name : String) (value : α) : Dictionary α where
  entries := (name, value) :: (d.erase name).entries
  distinct := by
    refine List.nodup_cons.2 ⟨?_, (d.erase name).distinct⟩
    simp [erase]

/-- The dictionary that results from putting the given entries in, in order. -/
def ofList (entries : List (String × α)) : Dictionary α :=
  entries.foldl (fun d entry => d.set entry.1 entry.2) empty

/-- The names in order. -/
def names (d : Dictionary α) : List String :=
  (d.entries.map Prod.fst).mergeSort fun a b => decide (a ≤ b)

@[simp] theorem get?_empty (name : String) : (empty : Dictionary α).get? name = none := rfl

theorem get?_erase (d : Dictionary α) (name other : String) :
    (d.erase name).get? other = if other = name then none else d.get? other := by
  obtain ⟨entries, distinct⟩ := d
  simp only [get?, erase]
  clear distinct
  induction entries with
  | nil => simp
  | cons entry rest ih =>
    rw [List.filter_cons, List.lookup_cons]
    by_cases h : entry.1 = name
    · rw [if_neg (by simp [h]), ih]
      by_cases ho : other = name
      · simp [ho]
      · simp [ho, beq_eq_false_iff_ne.2 (h ▸ ho)]
    · rw [if_pos (by simp [h]), List.lookup_cons, ih]
      by_cases ho : other = entry.1
      · simp [ho, h]
      · simp [beq_eq_false_iff_ne.2 ho]

theorem get?_set (d : Dictionary α) (name other : String) (value : α) :
    (d.set name value).get? other = if other = name then some value else d.get? other := by
  have h := get?_erase d name other
  simp only [get?, set] at h ⊢
  rw [List.lookup_cons, h]
  by_cases ho : other = name
  · simp [ho]
  · simp [ho, beq_eq_false_iff_ne.2 ho]

end Dictionary

end SqlNotebook
