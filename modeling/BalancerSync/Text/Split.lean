/-!
# Splitting at a separator

A text with separators in it is a list of fields. `splitOn` gives all of them, `cut` and `cutLast`
divide the text at the first and at the last separator only. `join` is the other direction.
-/

namespace BalancerSync.Text

variable (sep : Char)

/-- The fields between separators; there is always one more field than separators. -/
def splitOn : List Char → List (List Char)
  | [] => [[]]
  | c :: r =>
    if c = sep then [] :: splitOn r
    else
      match splitOn r with
      | [] => [[c]]
      | f :: fs => (c :: f) :: fs

/-- The texts before and after the first separator. -/
def cut : List Char → Option (List Char × List Char)
  | [] => none
  | c :: r => if c = sep then some ([], r) else (cut r).map fun (a, b) ↦ (c :: a, b)

/-- The texts before and after the last separator. -/
def cutLast : List Char → Option (List Char × List Char)
  | [] => none
  | c :: r =>
    match cutLast r with
    | some (a, b) => some (c :: a, b)
    | none => if c = sep then some ([], r) else none

/-- The fields with a separator between neighbours. -/
def join : List (List Char) → List Char
  | [] => []
  | [f] => f
  | f :: fs => f ++ sep :: join fs

/-- The text before the first separator, all of it if there is none. -/
def before (cs : List Char) : List Char :=
  cs.takeWhile (· != sep)

/-- Splitting gives one field at least. -/
theorem splitOn_ne_nil (cs : List Char) : splitOn sep cs ≠ [] := by
  induction cs with
  | nil => simp [splitOn]
  | cons c r ih =>
    simp only [splitOn]
    split
    · simp
    · split <;> simp

/-- Fields joined again are the text they came from. -/
theorem join_splitOn (cs : List Char) : join sep (splitOn sep cs) = cs := by
  induction cs with
  | nil => rfl
  | cons c r ih =>
    have hne := splitOn_ne_nil sep r
    simp only [splitOn]
    split
    · next h =>
      cases hs : splitOn sep r with
      | nil => exact absurd hs hne
      | cons f fs => simp [join, ← hs, ih, h]
    · cases hs : splitOn sep r with
      | nil => exact absurd hs hne
      | cons f fs =>
        rw [hs] at ih
        cases fs with
        | nil => simpa [join] using ih
        | cons g gs => simpa [join] using ih

@[simp] theorem join_cons_cons (f g : List Char) (fs : List (List Char)) :
    join sep (f :: g :: fs) = f ++ sep :: join sep (g :: fs) := rfl

/-- Joining is what the library calls intercalation. -/
theorem intercalate_eq_join (fs : List (List Char)) : [sep].intercalate fs = join sep fs := by
  induction fs with
  | nil => rfl
  | cons f fs ih =>
    cases fs with
    | nil => exact List.intercalate_singleton
    | cons g gs => simp [List.intercalate_cons_cons, ih]

/-! ## Fields without separators -/

variable {sep} {f cs : List Char}

/-- A text without separators is its only field. -/
theorem splitOn_of_not_mem (h : sep ∉ f) : splitOn sep f = [f] := by
  induction f with
  | nil => rfl
  | cons c r ih =>
    obtain ⟨hc, hr⟩ := List.ne_and_not_mem_of_not_mem_cons h
    rw [splitOn, if_neg (Ne.symm hc), ih hr]

/-- A field ends at the first separator after it. -/
theorem splitOn_append_cons (h : sep ∉ f) (cs : List Char) :
    splitOn sep (f ++ sep :: cs) = f :: splitOn sep cs := by
  induction f with
  | nil => simp [splitOn]
  | cons c r ih =>
    obtain ⟨hc, hr⟩ := List.ne_and_not_mem_of_not_mem_cons h
    rw [List.cons_append, splitOn, if_neg (Ne.symm hc), ih hr]

/-- Fields without separators come back from the text they are joined to. -/
theorem splitOn_join {fs : List (List Char)} (hne : fs ≠ []) (h : ∀ f ∈ fs, sep ∉ f) :
    splitOn sep (join sep fs) = fs := by
  induction fs with
  | nil => exact absurd rfl hne
  | cons f fs ih =>
    have hf : sep ∉ f := h f List.mem_cons_self
    cases fs with
    | nil => exact splitOn_of_not_mem hf
    | cons g gs =>
      rw [join_cons_cons, splitOn_append_cons hf,
        ih (List.cons_ne_nil g gs) fun x hx ↦ h x (List.mem_cons_of_mem f hx)]

/-- What is joined consists of the separator and of what is in the fields. -/
theorem mem_join {c : Char} {fs : List (List Char)} (h : c ∈ join sep fs) :
    c = sep ∨ ∃ f ∈ fs, c ∈ f := by
  induction fs with
  | nil => cases h
  | cons f fs ih =>
    cases fs with
    | nil => exact .inr ⟨f, List.mem_cons_self, h⟩
    | cons g gs =>
      rcases List.mem_append.mp h with hc | hc
      · exact .inr ⟨f, List.mem_cons_self, hc⟩
      · rcases List.mem_cons.mp hc with hc | hc
        · exact .inl hc
        · exact (ih hc).imp_right fun ⟨x, hx, hcx⟩ ↦ ⟨x, List.mem_cons_of_mem f hx, hcx⟩

/-- Whatever is not a separator is in one of the fields. -/
theorem exists_mem_splitOn {c : Char} (h : c ∈ cs) (hc : c ≠ sep) :
    ∃ f ∈ splitOn sep cs, c ∈ f :=
  (mem_join (by rwa [join_splitOn sep cs])).resolve_left hc

/-- No field has a separator in it. -/
theorem not_mem_of_mem_splitOn (h : f ∈ splitOn sep cs) : sep ∉ f := by
  induction cs generalizing f with
  | nil =>
    obtain rfl := List.mem_singleton.mp h
    exact List.not_mem_nil
  | cons c r ih =>
    rw [splitOn] at h
    split at h
    · rcases List.mem_cons.mp h with rfl | h
      · exact List.not_mem_nil
      · exact ih h
    · next hc =>
      cases hs : splitOn sep r with
      | nil => exact absurd hs (splitOn_ne_nil sep r)
      | cons g gs =>
        rw [hs] at h ih
        rcases List.mem_cons.mp h with rfl | h
        · simp [Ne.symm hc, ih List.mem_cons_self]
        · exact ih (List.mem_cons_of_mem g h)

/-! ## Where a text is cut -/

/-- A text is cut at its first separator. -/
theorem cut_append_cons (h : sep ∉ f) (cs : List Char) :
    cut sep (f ++ sep :: cs) = some (f, cs) := by
  induction f with
  | nil => simp [cut]
  | cons c r ih =>
    obtain ⟨hc, hr⟩ := List.ne_and_not_mem_of_not_mem_cons h
    simp [cut, ih hr, Ne.symm hc]

/-- A text cannot be cut if it has no separator. -/
theorem cut_eq_none_iff : cut sep cs = none ↔ sep ∉ cs := by
  induction cs with
  | nil => simp [cut]
  | cons c r ih =>
    by_cases hc : c = sep
    · simp [cut, hc]
    · simp [cut, hc, Ne.symm hc, ih]

/-- A text is cut at a separator with none before it. -/
theorem cut_eq_some_iff {a b : List Char} :
    cut sep cs = some (a, b) ↔ cs = a ++ sep :: b ∧ sep ∉ a := by
  constructor
  · intro h
    induction cs generalizing a with
    | nil => cases h
    | cons c r ih =>
      rw [cut] at h
      split at h
      · next hc =>
        cases h
        exact ⟨by rw [hc, List.nil_append], List.not_mem_nil⟩
      · next hc =>
        obtain ⟨⟨a', b'⟩, hr, heq⟩ := Option.map_eq_some_iff.mp h
        cases heq
        obtain ⟨rfl, ha⟩ := ih hr
        exact ⟨rfl, by simp [Ne.symm hc, ha]⟩
  · rintro ⟨rfl, ha⟩
    exact cut_append_cons ha b

theorem before_append_cons (h : sep ∉ f) (cs : List Char) :
    before sep (f ++ sep :: cs) = f := by
  induction f with
  | nil => simp [before]
  | cons c r ih =>
    obtain ⟨hc, hr⟩ := List.ne_and_not_mem_of_not_mem_cons h
    rw [before] at ih
    simp [before, ih hr, Ne.symm hc]

/-- Without a separator all of the text stands before it. -/
theorem before_of_not_mem (h : sep ∉ cs) : before sep cs = cs := by
  induction cs with
  | nil => rfl
  | cons c r ih =>
    obtain ⟨hc, hr⟩ := List.ne_and_not_mem_of_not_mem_cons h
    rw [before] at ih
    simp [before, ih hr, Ne.symm hc]

/-- A text has no last separator if it has none at all. -/
theorem cutLast_eq_none_iff : cutLast sep cs = none ↔ sep ∉ cs := by
  induction cs with
  | nil => simp [cutLast]
  | cons c r ih =>
    cases hr : cutLast sep r with
    | some ab => simp_all [cutLast]
    | none => simp [cutLast, hr, ih.mp hr, eq_comm]

/-- The last separator is the one with none after it. -/
theorem cutLast_append_cons (h : sep ∉ cs) (front : List Char) :
    cutLast sep (front ++ sep :: cs) = some (front, cs) := by
  induction front with
  | nil => simp [cutLast, cutLast_eq_none_iff.mpr h]
  | cons c r ih => simp [cutLast, ih]

/-- A text is cut for the last time at a separator with none behind it. -/
theorem cutLast_eq_some_iff {a b : List Char} :
    cutLast sep cs = some (a, b) ↔ cs = a ++ sep :: b ∧ sep ∉ b := by
  constructor
  · intro h
    induction cs generalizing a with
    | nil => cases h
    | cons c r ih =>
      cases hr : cutLast sep r with
      | some ab =>
        simp only [cutLast, hr, Option.some.injEq, Prod.mk.injEq] at h
        obtain ⟨rfl, rfl⟩ := h
        obtain ⟨hab, hb⟩ := ih hr
        exact ⟨by rw [hab, List.cons_append], hb⟩
      | none =>
        simp only [cutLast, hr] at h
        split at h
        · next hc =>
          cases h
          exact ⟨by rw [hc, List.nil_append], cutLast_eq_none_iff.mp hr⟩
        · cases h
  · rintro ⟨rfl, hb⟩
    exact cutLast_append_cons hb a

end BalancerSync.Text
