import BalancerSync.Dictionary
import BalancerSync.Store.Table
import Mathlib.Data.String.Basic

/-!
# Tables are sorted

A table that is filled row by row has its rows in the order of their keys, in whatever order they
came.  So rows with distinct keys determine the table: taking over a list of them gives the one
list of these rows that is sorted.  Rows that share a key leave the last one of them.
-/

namespace BalancerSync.Table

variable {α : Type}

/-- The rows are in the order of their keys, which are distinct. -/
def Sorted (t : Table α) : Prop := t.rows.Pairwise (·.1 < ·.1)

theorem sorted_empty : (empty : Table α).Sorted := .nil

/-! ## One row -/

/-- A row of the new table is the one that was inserted, or it was there before. -/
theorem mem_insertRow {key : String} {a : α} {rows : List (String × α)} {r : String × α}
    (h : r ∈ insertRow key a rows) : r = (key, a) ∨ r ∈ rows := by
  induction rows with
  | nil => simpa [insertRow] using h
  | cons head rows ih =>
    obtain ⟨k, b⟩ := head
    unfold insertRow at h
    split at h
    · simpa using h
    split at h
    · rcases List.mem_cons.1 h with rfl | h
      · exact .inl rfl
      · exact .inr (List.mem_cons_of_mem _ h)
    · rcases List.mem_cons.1 h with rfl | h
      · exact .inr List.mem_cons_self
      · exact (ih h).imp_right (List.mem_cons_of_mem _)

/-- One insertion keeps the keys in order. -/
theorem pairwise_insertRow (key : String) (a : α) {rows : List (String × α)}
    (h : rows.Pairwise (·.1 < ·.1)) : (insertRow key a rows).Pairwise (·.1 < ·.1) := by
  induction rows with
  | nil => exact List.pairwise_singleton _ _
  | cons head rows ih =>
    obtain ⟨k, b⟩ := head
    have hhead := (List.pairwise_cons.1 h).1
    unfold insertRow
    split
    · next hlt =>
      refine List.pairwise_cons.2 ⟨fun r hr ↦ ?_, h⟩
      rcases List.mem_cons.1 hr with rfl | hr
      · exact hlt
      · exact lt_trans hlt (hhead r hr)
    split
    · next hkey =>
      subst hkey
      exact List.pairwise_cons.2 ⟨hhead, h.of_cons⟩
    · next hlt hne =>
      have hgt : k < key := lt_of_le_of_ne (not_lt.1 hlt) (Ne.symm hne)
      refine List.pairwise_cons.2 ⟨fun r hr ↦ ?_, ih h.of_cons⟩
      rcases mem_insertRow hr with rfl | hr
      · exact hgt
      · exact hhead r hr

theorem Sorted.insert {t : Table α} (h : t.Sorted) (key : String) (a : α) :
    (t.insert key a).Sorted :=
  pairwise_insertRow key a h

/-- A row with a new key is added to the others. -/
theorem insertRow_perm {key : String} (a : α) {rows : List (String × α)}
    (hnew : ∀ r ∈ rows, r.1 ≠ key) : (insertRow key a rows).Perm ((key, a) :: rows) := by
  induction rows with
  | nil => exact .refl _
  | cons head rows ih =>
    obtain ⟨k, b⟩ := head
    have hk : key ≠ k := (hnew (k, b) List.mem_cons_self).symm
    have hperm := ih fun r hr ↦ hnew r (List.mem_cons_of_mem _ hr)
    unfold insertRow
    rw [if_neg hk]
    split
    · exact .refl _
    · exact (hperm.cons (k, b)).trans (.swap _ _ _)

/-! ## All rows -/

theorem insertAll_cons (t : Table α) (r : String × α) (rows : List (String × α)) :
    t.insertAll (r :: rows) = (t.insert r.1 r.2).insertAll rows := rfl

/-- Sorted tables stay sorted whatever is inserted. -/
theorem Sorted.insertAll {t : Table α} (h : t.Sorted) (rows : List (String × α)) :
    (t.insertAll rows).Sorted := by
  induction rows generalizing t with
  | nil => exact h
  | cons r rows ih =>
    rw [insertAll_cons]
    exact ih (h.insert r.1 r.2)

/-- With new and distinct keys, all that was inserted is there beside what was there before. -/
theorem insertAll_perm {t : Table α} {rows : List (String × α)}
    (hdistinct : rows.Pairwise (·.1 ≠ ·.1)) (hnew : ∀ r ∈ rows, ∀ r' ∈ t.rows, r'.1 ≠ r.1) :
    (t.insertAll rows).rows.Perm (rows ++ t.rows) := by
  induction rows generalizing t with
  | nil => exact .refl _
  | cons r rows ih =>
    obtain ⟨hr, hrest⟩ := List.pairwise_cons.1 hdistinct
    have hinsert : (t.insert r.1 r.2).rows.Perm (r :: t.rows) :=
      insertRow_perm r.2 (hnew r List.mem_cons_self)
    have hnew' : ∀ x ∈ rows, ∀ y ∈ (t.insert r.1 r.2).rows, y.1 ≠ x.1 := by
      intro x hx y hy
      rcases mem_insertRow hy with rfl | hy
      · exact hr x hx
      · exact hnew x (List.mem_cons_of_mem _ hx) y hy
    rw [insertAll_cons]
    exact (ih hrest hnew').trans ((hinsert.append_left rows).trans List.perm_middle)

/-- To keep all keys changes nothing. -/
theorem restrict_of_forall {t : Table α} {keys : List String} (h : ∀ r ∈ t.rows, r.1 ∈ keys) :
    t.restrict keys = t := by
  have hfilter : t.rows.filter (keys.contains ·.1) = t.rows :=
    List.filter_eq_self.2 fun r hr ↦ by simpa using h r hr
  unfold restrict
  rw [hfilter]

/-- Taking over rows with distinct keys sorts them. -/
theorem rows_replace_empty {rows sorted : List (String × α)} (hperm : rows.Perm sorted)
    (hsorted : sorted.Pairwise (·.1 < ·.1)) : ((empty : Table α).replace rows).rows = sorted := by
  have hdistinct : rows.Pairwise (·.1 ≠ ·.1) :=
    (hsorted.imp fun h ↦ ne_of_lt h).perm hperm.symm fun h ↦ Ne.symm h
  have hall : ((empty : Table α).insertAll rows).rows.Perm sorted := by
    have h := insertAll_perm (t := (empty : Table α)) hdistinct fun _ _ r' hr' ↦ nomatch hr'
    exact (h.trans (.of_eq (List.append_nil rows))).trans hperm
  have hkeys : ∀ r ∈ ((empty : Table α).insertAll rows).rows, r.1 ∈ rows.map (·.1) := by
    intro r hr
    exact List.mem_map_of_mem ((hall.trans hperm.symm).subset hr)
  have hrows : ((empty : Table α).insertAll rows).rows = sorted := by
    refine List.Perm.eq_of_pairwise ?_ (sorted_empty.insertAll rows) hsorted hall
    intro r r' _ _ h h'
    exact absurd h' (lt_asymm h)
  unfold replace
  rw [restrict_of_forall hkeys, hrows]

/-! ## What a key finds -/

/-- A new row is found under its key, and all others as before. -/
theorem get?_insert (t : Table α) (key other : String) (a : α) :
    (t.insert key a).get? other = if other = key then some a else t.get? other := by
  obtain ⟨rows⟩ := t
  change Dictionary.get? (insertRow key a rows) other =
    if other = key then some a else Dictionary.get? rows other
  induction rows with
  | nil =>
    rw [insertRow, Dictionary.get?_cons]
    simp only [eq_comm]
  | cons head rows ih =>
    obtain ⟨k, b⟩ := head
    unfold insertRow
    split
    · rw [Dictionary.get?_cons]
      simp only [eq_comm]
    split
    · next hkey =>
      subst hkey
      rw [Dictionary.get?_cons, Dictionary.get?_cons]
      by_cases h : other = key
      · simp [h]
      · simp [h, Ne.symm h]
    · next hne =>
      rw [Dictionary.get?_cons, Dictionary.get?_cons, ih]
      by_cases h : other = key
      · simp [h, Ne.symm hne]
      · simp [h]

/-- Of several rows with a key the last one is found. -/
theorem get?_insertAll (t : Table α) (rows : List (String × α)) (key : String) :
    (t.insertAll rows).get? key = Dictionary.get? (rows.reverse ++ t.rows) key := by
  induction rows generalizing t with
  | nil => rfl
  | cons r rows ih =>
    have hrow :
        Dictionary.get? (t.insert r.1 r.2).rows key = Dictionary.get? (r :: t.rows) key := by
      refine (get?_insert t r.1 key r.2).trans ?_
      rw [Dictionary.get?_cons]
      simp only [eq_comm]
      rfl
    rw [insertAll_cons, ih, Dictionary.get?_append, hrow, ← Dictionary.get?_append]
    simp

/-- A key that is not kept finds nothing any more. -/
theorem get?_restrict (t : Table α) (keys : List String) (key : String) :
    (t.restrict keys).get? key = if key ∈ keys then t.get? key else none := by
  have hfind : (t.rows.filter (keys.contains ·.1)).find? (·.1 == key) =
      if key ∈ keys then t.rows.find? (·.1 == key) else none := by
    rw [List.find?_filter]
    split
    · next hkey =>
      refine congrArg (t.rows.find? ·) (funext fun r ↦ ?_)
      by_cases h : r.1 = key
      · simp [h, hkey]
      · simp [h]
    · next hkey =>
      refine List.find?_eq_none.2 fun r _ ↦ ?_
      by_cases h : r.1 = key
      · simp [h, hkey]
      · simp [h]
  unfold get? restrict
  rw [hfind]
  split <;> rfl

/-- After rows were taken over, a key finds what the rows say, whatever was there before. -/
theorem get?_replace (t : Table α) (rows : List (String × α)) (key : String) :
    (t.replace rows).get? key = Dictionary.get? rows.reverse key := by
  have hiff : key ∈ rows.map (·.1) ↔ (Dictionary.get? rows.reverse key).isSome := by
    rw [← Dictionary.has_eq_isSome]
    simp [Dictionary.has]
  unfold replace
  rw [get?_restrict, get?_insertAll, Dictionary.get?_append]
  split
  · next h =>
    obtain ⟨a, ha⟩ := Option.isSome_iff_exists.1 (hiff.1 h)
    rw [ha]
    rfl
  · next h =>
    exact (Option.not_isSome_iff_eq_none.1 (mt hiff.2 h)).symm

/-! ## Sorted tables as maps -/

theorem Sorted.restrict {t : Table α} (h : t.Sorted) (keys : List String) :
    (t.restrict keys).Sorted :=
  List.Pairwise.filter _ h

theorem Sorted.replace {t : Table α} (h : t.Sorted) (rows : List (String × α)) :
    (t.replace rows).Sorted :=
  (h.insertAll rows).restrict _

/-- In a sorted table a row is found by its key exactly if it is there. -/
theorem Sorted.mem_rows_iff {t : Table α} (h : t.Sorted) {key : String} {a : α} :
    (key, a) ∈ t.rows ↔ t.get? key = some a := by
  obtain ⟨rows⟩ := t
  change (key, a) ∈ rows ↔ Dictionary.get? rows key = some a
  induction rows with
  | nil => simp
  | cons r rows ih =>
    obtain ⟨hhead, hrest⟩ := List.pairwise_cons.1 h
    rw [Dictionary.get?_cons, List.mem_cons, ih hrest]
    split
    · next hkey =>
      subst hkey
      -- No later row has the key of the first one.
      have hlater : Dictionary.get? rows r.1 ≠ some a := by
        intro hget
        exact lt_irrefl r.1 (hhead (r.1, a) ((ih hrest).2 hget))
      simp [hlater, Prod.ext_iff, eq_comm]
    · next hkey =>
      have hne : (key, a) ≠ r := by
        rintro rfl
        exact hkey rfl
      simp [hne]

theorem Sorted.nodup {t : Table α} (h : t.Sorted) : t.rows.Nodup :=
  List.Pairwise.imp (fun hlt heq ↦ (ne_of_lt hlt) (congrArg Prod.fst heq)) h

/-- A sorted table is determined by what its keys find. -/
theorem Sorted.ext {t u : Table α} (ht : t.Sorted) (hu : u.Sorted)
    (h : ∀ key, t.get? key = u.get? key) : t = u := by
  have hperm : t.rows.Perm u.rows := by
    refine (List.perm_ext_iff_of_nodup ht.nodup hu.nodup).2 ?_
    rintro ⟨key, a⟩
    rw [ht.mem_rows_iff, hu.mem_rows_iff, h]
  have hrows : t.rows = u.rows := by
    refine List.Perm.eq_of_pairwise ?_ ht hu hperm
    intro r r' _ _ hlt hlt'
    exact absurd hlt' (lt_asymm hlt)
  cases t
  cases u
  exact congrArg Table.mk hrows

/-- What a table is after rows were taken over does not depend on what it was. -/
theorem Sorted.replace_eq {t u : Table α} (ht : t.Sorted) (hu : u.Sorted)
    (rows : List (String × α)) : t.replace rows = u.replace rows := by
  refine (ht.replace rows).ext (hu.replace rows) ?_
  intro key
  rw [get?_replace, get?_replace]

end BalancerSync.Table
