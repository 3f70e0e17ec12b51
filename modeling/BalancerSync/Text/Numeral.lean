/-!
# Decimal and hexadecimal numerals
-/

namespace BalancerSync.Text

/-- The value of an ASCII digit of the given base, which is at most sixteen. -/
def digit? (base : Nat) (c : Char) : Option Nat :=
  let d :=
    if '0' ≤ c ∧ c ≤ '9' then c.toNat - '0'.toNat
    else if 'a' ≤ c ∧ c ≤ 'f' then c.toNat - 'a'.toNat + 10
    else if 'A' ≤ c ∧ c ≤ 'F' then c.toNat - 'A'.toNat + 10
    else 16
  if d < base then some d else none

/-- The number that a row of digits denotes, the most significant first. -/
def ofDigits (base : Nat) (ds : List Nat) : Nat :=
  ds.foldl (fun n d ↦ n * base + d) 0

/-- The number that a non-empty row of digit characters denotes. -/
def readDigits? (base : Nat) : List Char → Option Nat
  | [] => none
  | cs => (cs.mapM (digit? base)).map (ofDigits base)

/-- A numeral may carry a plus sign and leading zeros; it has to lie below the bound. -/
def readBelow? (bound : Nat) (cs : List Char) : Option Nat := do
  let n ← readDigits? 10 (match cs with | '+' :: r => r | _ => cs)
  if n < bound then some n else none

/-- A sixteen-bit number, such as a port. -/
def readWord16? (cs : List Char) : Option UInt16 :=
  (readBelow? UInt16.size cs).map UInt16.ofNat

/-- The decimal digits of a number, without leading zeros. -/
def showNat (n : Nat) : List Char := Nat.toDigits 10 n

/-- The hexadecimal digits of a number in lower case, without leading zeros. -/
def showHex (n : Nat) : List Char := Nat.toDigits 16 n

/-! ## Digits -/

variable {base : Nat}

/-- The character of a digit is read as this digit. -/
theorem digit?_digitChar {d : Nat} (hb : base ≤ 16) (hd : d < base) :
    digit? base d.digitChar = some d := by
  have h : ∀ b < 17, ∀ d < b, digit? b d.digitChar = some d := by decide
  exact h base (by omega) d hd

/-- The digits to a base are digits to all larger ones. -/
theorem isSome_digit?_mono {base' : Nat} {c : Char} (hle : base ≤ base')
    (h : (digit? base c).isSome) : (digit? base' c).isSome := by
  simp only [digit?] at h ⊢
  generalize (if '0' ≤ c ∧ c ≤ '9' then _ else _ : Nat) = d at h ⊢
  by_cases hd : d < base
  · rw [if_pos (Nat.lt_of_lt_of_le hd hle)]
    rfl
  · rw [if_neg hd] at h
    cases h

/-- Digits lie between the first decimal and the last hexadecimal one. -/
theorem toNat_of_digit? {c : Char} (hb : base ≤ 16) (h : (digit? base c).isSome) :
    0x30 ≤ c.toNat ∧ c.toNat ≤ 0x66 := by
  refine Decidable.byContradiction fun hc ↦ ?_
  have hout (a b : Char) (ha : 0x30 ≤ a.toNat) (hb : b.toNat ≤ 0x66) : ¬ (a ≤ c ∧ c ≤ b) := by
    simp only [Char.le_def, UInt32.le_iff_toNat_le]
    unfold Char.toNat at *
    omega
  have h := isSome_digit?_mono hb h
  rw [digit?, if_neg (hout '0' '9' (by decide) (by decide)),
    if_neg (hout 'a' 'f' (by decide) (by decide)),
    if_neg (hout 'A' 'F' (by decide) (by decide))] at h
  exact absurd h (by decide)

/-! ## Numbers and their digits -/

/-- Digits are read one by one, and then put together. -/
theorem readDigits?_of_ne_nil {cs : List Char} (hne : cs ≠ []) :
    readDigits? base cs = (cs.mapM (digit? base)).map (ofDigits base) := by
  cases cs with
  | nil => exact absurd rfl hne
  | cons c r => rfl

/-- A further digit counts once, and all those before it count `base` times as much. -/
theorem readDigits?_concat {cs : List Char} (hne : cs ≠ []) (c : Char) :
    readDigits? base (cs ++ [c])
      = (readDigits? base cs).bind fun n ↦ (digit? base c).map fun d ↦ n * base + d := by
  rw [readDigits?_of_ne_nil hne, readDigits?_of_ne_nil (by simp), List.mapM_append]
  cases cs.mapM (digit? base) with
  | none => rfl
  | some ds => cases hd : digit? base c <;> simp [hd, ofDigits]

/-- A number is read back from its digits, whatever the base. -/
theorem readDigits?_toDigits (hb : 1 < base) (hb' : base ≤ 16) (n : Nat) :
    readDigits? base (Nat.toDigits base n) = some n := by
  induction n using Nat.strongRecOn with
  | ind n ih =>
    rw [Nat.toDigits_eq_if hb]
    split
    · next h => simp [readDigits?, digit?_digitChar hb' h, ofDigits]
    · next h =>
      rw [readDigits?_concat Nat.toDigits_ne_nil, ih (n / base) (Nat.div_lt_self (by omega) hb),
        digit?_digitChar hb' (Nat.mod_lt n (by omega))]
      simp [Nat.div_add_mod']

/-! ## Rows that are read one by one -/

/-- If a whole row can be read, so can each of its members. -/
theorem isSome_of_mapM {α β : Type} {f : α → Option β} {as : List α} {bs : List β} {a : α}
    (h : as.mapM f = some bs) (ha : a ∈ as) : (f a).isSome := by
  induction as generalizing bs with
  | nil => cases ha
  | cons x r ih =>
    simp only [List.mapM_cons, Option.bind_eq_bind, Option.bind_eq_some_iff] at h
    obtain ⟨b, hb, bs', hr, -⟩ := h
    cases ha with
    | head => exact Option.isSome_of_eq_some hb
    | tail _ ha => exact ih hr ha

/-- A row is read back from what is written if each of its members is. -/
theorem mapM_map_eq_some {α β : Type} {write : α → β} {read : β → Option α} {as : List α}
    (h : ∀ a ∈ as, read (write a) = some a) : (as.map write).mapM read = some as := by
  induction as with
  | nil => rfl
  | cons a as ih =>
    rw [List.map_cons, List.mapM_cons, h a List.mem_cons_self,
      ih fun x hx ↦ h x (List.mem_cons_of_mem a hx)]
    rfl

/-! ## Numerals that are read back -/

/-- Only digits are read as a number. -/
theorem isSome_digit?_of_readDigits? {cs : List Char} {n : Nat} {c : Char}
    (h : readDigits? base cs = some n) (hc : c ∈ cs) : (digit? base c).isSome := by
  rw [readDigits?_of_ne_nil (List.ne_nil_of_mem hc)] at h
  obtain ⟨ds, hds, -⟩ := Option.map_eq_some_iff.mp h
  exact isSome_of_mapM hds hc

/-- A decimal numeral consists of digits. -/
theorem digit?_of_mem_showNat {n : Nat} {c : Char} (h : c ∈ showNat n) : (digit? 10 c).isSome :=
  isSome_digit?_of_readDigits? (readDigits?_toDigits (by decide) (by decide) n) h

theorem isDigit_of_mem_showNat {n : Nat} {c : Char} (h : c ∈ showNat n) : c.isDigit :=
  Nat.isDigit_of_mem_toDigits (by decide) (by decide) h

/-- A hexadecimal numeral consists of hexadecimal digits. -/
theorem digit?_of_mem_showHex {n : Nat} {c : Char} (h : c ∈ showHex n) : (digit? 16 c).isSome :=
  isSome_digit?_of_readDigits? (readDigits?_toDigits (by decide) (by decide) n) h

/-- A character that is no digit does not occur in a decimal numeral. -/
theorem not_mem_showNat {c : Char} (hc : digit? 10 c = none) (n : Nat) : c ∉ showNat n := by
  intro h
  simpa [hc] using digit?_of_mem_showNat h

theorem not_mem_showHex {c : Char} (hc : digit? 16 c = none) (n : Nat) : c ∉ showHex n := by
  intro h
  simpa [hc] using digit?_of_mem_showHex h

/-- A port is read back from its decimal numeral. -/
theorem readWord16?_showNat (p : UInt16) : readWord16? (showNat p.toNat) = some p := by
  have hbelow : readBelow? UInt16.size (showNat p.toNat) = some p.toNat := by
    have hread : readDigits? 10 (showNat p.toNat) = some p.toNat :=
      readDigits?_toDigits (by decide) (by decide) p.toNat
    have hplus : '+' ∉ showNat p.toNat := not_mem_showNat (by decide) p.toNat
    unfold readBelow?
    split
    · next r hr => simp [hr] at hplus
    · rw [hread]
      exact if_pos p.toNat_lt_size
  simp [readWord16?, hbelow]

end BalancerSync.Text
