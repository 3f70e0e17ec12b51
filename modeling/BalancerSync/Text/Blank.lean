/-!
# Blank characters

The characters that surround a word without belonging to it, and the removal of those at the ends
of a text.
-/

namespace BalancerSync.Text

/-- The characters with the Unicode property `White_Space`. -/
def isBlank (c : Char) : Bool :=
  let n := c.toNat
  (9 ≤ n && n ≤ 13) || n == 0x20 || n == 0x85 || n == 0xA0 || n == 0x1680
    || (0x2000 ≤ n && n ≤ 0x200A) || n == 0x2028 || n == 0x2029 || n == 0x202F
    || n == 0x205F || n == 0x3000

/-- What is left after the longest final run of characters that satisfy `p`. -/
def dropEnd (p : Char → Bool) (cs : List Char) : List Char :=
  (cs.reverse.dropWhile p).reverse

/-- Removes blanks at both ends. -/
def trim (cs : List Char) : List Char :=
  dropEnd isBlank (cs.dropWhile isBlank)

/-- Removes opening brackets in front and closing brackets at the end, however many. -/
def unbracket (cs : List Char) : List Char :=
  dropEnd (· == ']') (cs.dropWhile (· == '['))

@[simp] theorem dropEnd_nil (p : Char → Bool) : dropEnd p [] = [] := rfl

@[simp] theorem trim_nil : trim [] = [] := rfl

@[simp] theorem unbracket_nil : unbracket [] = [] := rfl

/-! ## What is left -/

theorem dropEnd_sublist (p : Char → Bool) (cs : List Char) : (dropEnd p cs).Sublist cs := by
  simpa [dropEnd] using (List.dropWhile_sublist p (l := cs.reverse)).reverse

/-- Trimming only removes characters. -/
theorem trim_sublist (cs : List Char) : (trim cs).Sublist cs :=
  (dropEnd_sublist isBlank _).trans (List.dropWhile_sublist isBlank)

theorem unbracket_sublist (cs : List Char) : (unbracket cs).Sublist cs :=
  (dropEnd_sublist _ _).trans (List.dropWhile_sublist _)

/-! ## What has nothing to remove -/

variable {p : Char → Bool} {cs : List Char}

/-- Nothing is dropped from a text that starts with a character to keep. -/
theorem dropWhile_eq_self (h : ∀ c ∈ cs.head?, p c = false) : cs.dropWhile p = cs := by
  cases cs with
  | nil => rfl
  | cons c r => simp [h c rfl]

theorem dropEnd_eq_self (h : ∀ c ∈ cs.getLast?, p c = false) : dropEnd p cs = cs := by
  rw [dropEnd, dropWhile_eq_self (by simpa using h), List.reverse_reverse]

/-- What is left when the front is dropped starts with a character to keep. -/
theorem head?_dropWhile (p : Char → Bool) (cs : List Char) :
    ∀ c ∈ (cs.dropWhile p).head?, p c = false := by
  intro c hc
  have := List.head?_dropWhile_not p cs
  rw [hc] at this
  simpa using this

/-- What is left when the end is dropped ends with a character to keep. -/
theorem getLast?_dropEnd (p : Char → Bool) (cs : List Char) :
    ∀ c ∈ (dropEnd p cs).getLast?, p c = false := by
  simpa [dropEnd] using head?_dropWhile p cs.reverse

/-- A text that is cut at its end begins as before, unless nothing is left. -/
theorem head?_dropEnd {c : Char} (h : c ∈ (dropEnd p cs).head?) : c ∈ cs.head? := by
  have hpre : dropEnd p cs <+: cs := by
    have := List.dropWhile_suffix p (l := cs.reverse)
    simpa [dropEnd] using List.reverse_prefix.mpr this
  obtain ⟨r, hr⟩ := hpre
  rw [← hr, Option.mem_def, List.head?_append]
  simp [Option.mem_def.mp h]

/-- Nothing is left to remove after both ends have been cut. -/
theorem dropEnd_dropWhile_idem (p q : Char → Bool) (cs : List Char) :
    dropEnd q ((dropEnd q (cs.dropWhile p)).dropWhile p) = dropEnd q (cs.dropWhile p) := by
  rw [dropWhile_eq_self fun c hc ↦ head?_dropWhile p cs c (head?_dropEnd hc),
    dropEnd_eq_self (getLast?_dropEnd q _)]

/-- What was trimmed has nothing left to trim. -/
@[simp] theorem trim_trim (cs : List Char) : trim (trim cs) = trim cs :=
  dropEnd_dropWhile_idem isBlank isBlank cs

@[simp] theorem unbracket_unbracket (cs : List Char) : unbracket (unbracket cs) = unbracket cs :=
  dropEnd_dropWhile_idem _ _ cs

/-- A text with no blank at either end is trimmed already. -/
theorem trim_eq_self (h : ∀ c ∈ cs.head?, isBlank c = false)
    (h' : ∀ c ∈ cs.getLast?, isBlank c = false) : trim cs = cs := by
  rw [trim, dropWhile_eq_self h, dropEnd_eq_self h']

theorem unbracket_eq_self (h : '[' ∉ cs) (h' : ']' ∉ cs) : unbracket cs = cs := by
  have hopen : ∀ c ∈ cs.head?, (c == '[') = false := by
    intro c hc
    rw [beq_eq_false_iff_ne]
    rintro rfl
    exact h (List.mem_of_mem_head? hc)
  have hclose : ∀ c ∈ cs.getLast?, (c == ']') = false := by
    intro c hc
    rw [beq_eq_false_iff_ne]
    rintro rfl
    exact h' (List.mem_of_mem_getLast? hc)
  rw [unbracket, dropWhile_eq_self hopen, dropEnd_eq_self hclose]

/-- Brackets around a text go with those that it has. -/
theorem unbracket_brackets (cs : List Char) : unbracket ('[' :: cs ++ [']']) = unbracket cs := by
  have hopen : (cs ++ [']']).dropWhile (· == '[') = cs.dropWhile (· == '[') ++ [']'] := by
    rw [List.dropWhile_append]
    split
    · next hnil => rw [List.isEmpty_iff.mp hnil]; rfl
    · rfl
  simp [unbracket, dropEnd, hopen]

end BalancerSync.Text
