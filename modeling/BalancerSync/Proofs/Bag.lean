import Mathlib.Data.List.Count

/-!
# First occurrences

When the elements of one list each take away an equal element of another, what counts is how often
each occurs: of the `x`s in either list, the first few find a partner, as many as there are in the
list that has fewer of them.
-/

namespace BalancerSync

namespace Bag

variable {α : Type}

/-- The elements that are marked. -/
def marked (xs : List α) (marks : List Bool) : List α :=
  ((xs.zip marks).filter fun p ↦ p.2).map (·.1)

def unmarked (xs : List α) (marks : List Bool) : List α :=
  ((xs.zip marks).filter fun p ↦ !p.2).map (·.1)

@[simp] theorem marked_cons (x : α) (xs : List α) (b : Bool) (marks : List Bool) :
    marked (x :: xs) (b :: marks) = if b then x :: marked xs marks else marked xs marks := by
  cases b <;> rfl

@[simp] theorem unmarked_cons (x : α) (xs : List α) (b : Bool) (marks : List Bool) :
    unmarked (x :: xs) (b :: marks) = if b then unmarked xs marks else x :: unmarked xs marks := by
  cases b <;> rfl

variable [DecidableEq α]

/-- Marks the elements that are among the first `quota x` occurrences of an `x`. -/
def firsts (quota : α → Nat) (xs : List α) : List Bool :=
  xs.mapIdx fun i x ↦ decide ((xs.take i).count x < quota x)

@[simp] theorem length_firsts (quota : α → Nat) (xs : List α) :
    (firsts quota xs).length = xs.length := by
  simp [firsts]

@[simp] theorem firsts_nil (quota : α → Nat) : firsts quota [] = [] := rfl

/-- An element that is there uses up one of its quota. -/
theorem firsts_cons (quota : α → Nat) (x : α) (xs : List α) :
    firsts quota (x :: xs) =
      decide (0 < quota x) :: firsts (fun y ↦ quota y - if y = x then 1 else 0) xs := by
  rw [firsts, List.mapIdx_cons]
  refine congrArg₂ _ (decide_eq_decide.2 (by simp)) (List.mapIdx_eq_mapIdx_iff.2 fun i hi ↦ ?_)
  rw [List.take_succ_cons, List.count_cons, decide_eq_decide]
  by_cases h : xs[i] = x
  · simp [h]
    omega
  · simp [h, Ne.symm h]

/-- With the occurrences in a bag for a quota, each element takes an equal one out of the bag. -/
theorem firsts_count_cons (bag : List α) (x : α) (xs : List α) :
    firsts (bag.count ·) (x :: xs) =
      decide (x ∈ bag) :: firsts ((bag.erase x).count ·) xs := by
  have hquota : (fun y ↦ bag.count y - if y = x then 1 else 0) = ((bag.erase x).count ·) := by
    funext y
    simp [List.count_erase, eq_comm (a := x)]
  rw [firsts_cons, hquota]
  simp

/-- Where nothing occurs twice, all occurrences are first ones. -/
theorem firsts_of_nodup {xs : List α} (h : xs.Nodup) (quota : α → Nat) :
    firsts quota xs = xs.map fun x ↦ decide (0 < quota x) := by
  induction xs generalizing quota with
  | nil => rfl
  | cons x xs ih =>
    obtain ⟨hx, hxs⟩ := List.nodup_cons.1 h
    rw [firsts_cons, ih hxs, List.map_cons]
    refine congrArg (_ :: ·) (List.map_congr_left ?_)
    intro y hy
    have hne : y ≠ x := by
      rintro rfl
      exact hx hy
    simp [hne]

/-- No element needs a higher quota than it has occurrences. -/
theorem firsts_min_count (quota : α → Nat) (xs : List α) :
    firsts (fun x ↦ min (quota x) (xs.count x)) xs = firsts quota xs := by
  refine List.mapIdx_eq_mapIdx_iff.2 fun i hi ↦ ?_
  -- The occurrence at hand is not among those before it.
  have hlt : (xs.take i).count xs[i] < xs.count xs[i] := by
    have hdrop : 0 < (xs.drop i).count xs[i] := by
      rw [List.drop_eq_getElem_cons hi, List.count_cons_self]
      exact Nat.succ_pos _
    have hsplit : (xs.take i ++ xs.drop i).count xs[i] = _ := List.count_append
    rw [List.take_append_drop] at hsplit
    omega
  exact decide_eq_decide.2 (Nat.lt_min.trans (and_iff_left hlt))

/-- As many are marked as the quota allows and the list has. -/
theorem count_marked_firsts (quota : α → Nat) (xs : List α) (x : α) :
    (marked xs (firsts quota xs)).count x = min (quota x) (xs.count x) := by
  induction xs generalizing quota with
  | nil => simp [marked]
  | cons y ys ih =>
    rw [firsts_cons, marked_cons, List.count_cons]
    by_cases hq : 0 < quota y
    · rw [if_pos (by simpa using hq), List.count_cons, ih]
      by_cases h : y = x
      · subst h
        simp
        omega
      · simp [h, Ne.symm h]
    · rw [if_neg (by simpa using hq), ih]
      by_cases h : y = x
      · subst h
        simp
        omega
      · simp [h, Ne.symm h]

/-- What is left when each element of another list has taken an equal one away. -/
theorem diff_eq_unmarked (xs ys : List α) :
    xs.diff ys = unmarked xs (firsts (ys.count ·) xs) := by
  induction xs generalizing ys with
  | nil => simp [unmarked]
  | cons x xs ih =>
    rw [List.cons_diff, firsts_count_cons, unmarked_cons, ← ih]
    by_cases h : x ∈ ys
    · rw [if_pos h, if_pos (decide_eq_true h)]
    · rw [if_neg h, if_neg (by simpa using h), List.erase_of_not_mem h]

/-- Every element is marked or not, and never both. -/
theorem perm_marked_append_unmarked (quota : α → Nat) (xs : List α) :
    xs.Perm (marked xs (firsts quota xs) ++ unmarked xs (firsts quota xs)) := by
  have hzip : (xs.zip (firsts quota xs)).map (·.1) = xs := List.map_fst_zip (by simp)
  have hperm := ((List.filter_append_perm (fun p ↦ p.2) (xs.zip (firsts quota xs))).map (·.1)).symm
  rw [hzip, List.map_append] at hperm
  exact hperm

/-! ## Two lists -/

/-- How many of an element find a partner in the other list. -/
def shared (xs ys : List α) (x : α) : Nat := min (xs.count x) (ys.count x)

/-- To mark what is shared in the first list, it is enough to count in the second. -/
theorem firsts_shared_left (xs ys : List α) :
    firsts (shared xs ys) xs = firsts (ys.count ·) xs := by
  have hcomm : shared xs ys = fun x ↦ min (ys.count x) (xs.count x) :=
    funext fun x ↦ Nat.min_comm _ _
  rw [hcomm]
  exact firsts_min_count (ys.count ·) xs

/-- To mark what is shared in the second list, it is enough to count in the first. -/
theorem firsts_shared_right (xs ys : List α) :
    firsts (shared xs ys) ys = firsts (xs.count ·) ys :=
  firsts_min_count (xs.count ·) ys

/-- The marks in the first list pick each element as often as both lists have it. -/
theorem count_marked_shared_left (xs ys : List α) (x : α) :
    (marked xs (firsts (shared xs ys) xs)).count x = shared xs ys x := by
  rw [count_marked_firsts]
  exact Nat.min_eq_left (Nat.min_le_left _ _)

theorem count_marked_shared_right (xs ys : List α) (x : α) :
    (marked ys (firsts (shared xs ys) ys)).count x = shared xs ys x := by
  rw [count_marked_firsts]
  exact Nat.min_eq_left (Nat.min_le_right _ _)

/-- The partners in one list are the partners in the other. -/
theorem perm_marked_shared (xs ys : List α) :
    (marked xs (firsts (shared xs ys) xs)).Perm (marked ys (firsts (shared xs ys) ys)) :=
  List.perm_iff_count.2 fun x ↦
    (count_marked_shared_left xs ys x).trans (count_marked_shared_right xs ys x).symm

end Bag

end BalancerSync
