/-!
# Dictionaries

Values by key, in the order in which the keys were first written.
-/

namespace BalancerSync

abbrev Dictionary (α : Type) := List (String × α)

namespace Dictionary

variable {α : Type}

/-- The value of a key. -/
def get? (d : Dictionary α) (key : String) : Option α :=
  (d.find? (·.1 == key)).map (·.2)

def has (d : Dictionary α) (key : String) : Bool :=
  d.any (·.1 == key)

/-- Writes a value. A key that is there already keeps its place. -/
def insert (d : Dictionary α) (key : String) (a : α) : Dictionary α :=
  if has d key then d.map fun e ↦ if e.1 == key then (key, a) else e
  else d ++ [(key, a)]

/-- Writes values in order, so that the last one of each key counts. -/
def ofList (entries : List (String × α)) : Dictionary α :=
  entries.foldl (fun d e ↦ insert d e.1 e.2) []

def keys (d : Dictionary α) : List String := d.map (·.1)

/-! ## What is written can be read -/

@[simp] theorem get?_nil (key : String) : get? ([] : Dictionary α) key = none := rfl

/-- The first entry of a key is the one that is found. -/
theorem get?_cons (e : String × α) (d : Dictionary α) (key : String) :
    get? (e :: d) key = if e.1 = key then some e.2 else get? d key := by
  by_cases h : e.1 = key <;> simp [get?, h]

/-- A dictionary has the keys that something is found for. -/
theorem has_eq_isSome (d : Dictionary α) (key : String) : has d key = (get? d key).isSome := by
  induction d with
  | nil => rfl
  | cons e d ih =>
    rw [get?_cons]
    by_cases h : e.1 = key
    · simp [has, h]
    · simpa [has, beq_false_of_ne h, h] using ih

/-- What is found in the first of two dictionaries goes before what is in the second. -/
theorem get?_append (d d' : Dictionary α) (key : String) :
    get? (d ++ d') key = (get? d key).or (get? d' key) := by
  simp [get?, List.find?_append, Option.map_or]

/-- The effect of writing over the value of a key. -/
theorem get?_map (d : Dictionary α) (key other : String) (a : α) :
    get? (d.map fun e ↦ if e.1 == key then (key, a) else e) other =
      if other = key then (get? d key).map fun _ ↦ a else get? d other := by
  induction d with
  | nil => simp
  | cons e d ih =>
    rw [List.map_cons, get?_cons, get?_cons, get?_cons, ih]
    by_cases he : e.1 = key <;> by_cases ho : other = key <;> grind

/-- An insertion changes what is found for its key, and for no other. -/
theorem get?_insert (d : Dictionary α) (key other : String) (a : α) :
    get? (insert d key a) other = if other = key then some a else get? d other := by
  have hd := has_eq_isSome d key
  unfold insert
  split
  · next h =>
    obtain ⟨b, hb⟩ := Option.isSome_iff_exists.1 (hd ▸ h)
    rw [get?_map, hb]
    rfl
  · next h =>
    have hn : get? d key = none := by simpa [hd] using h
    rw [get?_append, get?_cons, get?_nil]
    by_cases ho : other = key
    · simp [ho, hn]
    · simp [ho, Ne.symm ho]

theorem get?_eq_none_iff {d : Dictionary α} {key : String} : get? d key = none ↔ key ∉ keys d := by
  rw [get?, Option.map_eq_none_iff, List.find?_eq_none]
  simp only [beq_iff_eq, keys, List.mem_map, not_exists, not_and]

/-- Where no key occurs twice, the values are those that are found. -/
theorem mem_iff_get?_eq_some {d : Dictionary α} {key : String} {a : α} (h : (keys d).Nodup) :
    (key, a) ∈ d ↔ get? d key = some a := by
  induction d with
  | nil => simp
  | cons e d ih =>
    obtain ⟨hkey, hrest⟩ := List.nodup_cons.mp h
    rw [get?_cons, List.mem_cons]
    split
    · next he =>
      subst he
      have hfresh : (e.1, a) ∉ d := fun hmem ↦ hkey (List.mem_map.mpr ⟨_, hmem, rfl⟩)
      simp [hfresh, Prod.ext_iff, eq_comm]
    · next he =>
      rw [← ih hrest, or_iff_right]
      rintro rfl
      exact he rfl

/-- A key that is not there yet is written at the end. -/
theorem insert_of_not_mem {d : Dictionary α} {key : String} (h : key ∉ d.keys) (a : α) :
    insert d key a = d ++ [(key, a)] := by
  refine if_neg fun hhas ↦ ?_
  obtain ⟨e, he, hkey⟩ := List.any_eq_true.1 hhas
  exact h (List.mem_map.2 ⟨e, he, eq_of_beq hkey⟩)

/-- Entries with new and distinct keys are inserted at the end, in order. -/
theorem foldl_insert_of_nodup {d entries : Dictionary α} (h : (keys (d ++ entries)).Nodup) :
    entries.foldl (fun d e ↦ insert d e.1 e.2) d = d ++ entries := by
  induction entries generalizing d with
  | nil => simp
  | cons e entries ih =>
    have hkey : e.1 ∉ keys d := by
      intro hmem
      rw [keys, List.map_append, List.nodup_append] at h
      exact h.2.2 _ hmem _ (List.mem_map_of_mem List.mem_cons_self) rfl
    rw [List.foldl_cons, insert_of_not_mem hkey, ih (by simpa using h), List.append_assoc]
    rfl

/-- Entries with distinct keys are a dictionary. -/
theorem ofList_of_nodup {entries : List (String × α)} (h : (keys entries).Nodup) :
    ofList entries = entries :=
  foldl_insert_of_nodup h

end Dictionary

end BalancerSync
