import BalancerSync.Address.Cidr
import BalancerSync.Proofs.Spelling

/-!
# Addresses in a range

An address lies in a range of its family if it agrees with the network on the leading bits.  Both
are masked with a word that is computed by shifts, a difference and complements.  None of these
leaves the word, whatever the length of the range (`Cidr.exists_mask`), and to agree under the mask
is to have the same quotient by a power of two (`Cidr.and_eq_and_iff`).
-/

namespace BalancerSync

open Text

/-- The number that an address is. -/
def Ip.toNat : Ip → Nat
  | v4 b => b.toNat
  | v6 b => b.toNat

namespace Cidr

/-! ## The mask -/

variable {w p : Nat}

theorem toNat_one_shiftLeft (h : w < 128) : ((1 : Word) <<< w).toNat = 2 ^ w :=
  BitVec.toNat_twoPow_of_lt h

/-- Below the whole width the power of two fits the word, and it is not zero. -/
theorem ones?_eq (h : w ≤ 128) : ones? w = some (BitVec.ofNat 128 (2 ^ w - 1)) := by
  rw [ones?]
  split
  · next hw =>
    rw [hw]
    rfl
  · next hw =>
    have hlt : w < 128 := by omega
    have hone : (1 : Word) ≤ (1 : Word) <<< w := by
      rw [BitVec.le_def, toNat_one_shiftLeft hlt]
      exact Nat.one_le_two_pow
    have hfits : 2 ^ w - 1 < 2 ^ 128 := by
      have := Nat.pow_lt_pow_right (by decide : 1 < 2) hlt
      omega
    have hsub : (1 : Word) <<< w - 1 = BitVec.ofNat 128 (2 ^ w - 1) := by
      apply BitVec.eq_of_toNat_eq
      rw [BitVec.toNat_sub_of_le hone, toNat_one_shiftLeft hlt, BitVec.toNat_ofNat,
        Nat.mod_eq_of_lt hfits]
      rfl
    rw [Word.shiftLeft?, if_pos hlt, Option.bind_some, Word.sub?, if_pos hone, hsub]

theorem shiftRight?_getD (x : Word) (p : Nat) : (x.shiftRight? p).getD 0 = x >>> p := by
  rw [Word.shiftRight?]
  split
  · rfl
  · next hp =>
    -- No bit is left after a shift by the whole width.
    exact (BitVec.ushiftRight_eq_zero (by omega)).symm

/-- Whatever its length, the mask is computed without leaving the word. -/
theorem exists_mask (h : w ≤ 128) (p : Nat) :
    ∃ m, mask? w p = some m ∧ ∀ i, m.getLsbD i = decide (w - p ≤ i ∧ i < w) := by
  refine ⟨_, by rw [mask?, ones?_eq h, Option.map_some, shiftRight?_getD], fun i ↦ ?_⟩
  simp only [BitVec.getLsbD_and, BitVec.getLsbD_not, BitVec.getLsbD_ushiftRight,
    BitVec.getLsbD_ofNat, Nat.testBit_two_pow_sub_one]
  rw [Bool.eq_iff_iff]
  simp only [Bool.and_eq_true, Bool.not_eq_true', Bool.and_eq_false_imp, decide_eq_true_eq,
    decide_eq_false_iff_not]
  omega

/-! ## Agreement under the mask -/

/-- Quotients by a power of two agree exactly when the bits from there on do. -/
theorem div_two_pow_eq_iff {x y : Word} {k : Nat} :
    x.toNat / 2 ^ k = y.toNat / 2 ^ k ↔ ∀ i, k ≤ i → x.getLsbD i = y.getLsbD i := by
  simp only [← BitVec.testBit_toNat]
  constructor
  · intro h i hi
    have hbit := congrArg (·.testBit (i - k)) h
    simpa only [Nat.testBit_div_two_pow, Nat.sub_add_cancel hi] using hbit
  · intro h
    apply Nat.eq_of_testBit_eq
    intro i
    rw [Nat.testBit_div_two_pow, Nat.testBit_div_two_pow]
    exact h (i + k) (Nat.le_add_left k i)

/-- A word below a power of two has no bits from there on. -/
theorem getLsbD_of_lt {x : Word} {i : Nat} (hx : x.toNat < 2 ^ w) (hi : w ≤ i) :
    x.getLsbD i = false :=
  Nat.testBit_lt_two_pow (Nat.lt_of_lt_of_le hx (Nat.pow_le_pow_right (by decide) hi))

/-- Numbers of `w` bits agree under the mask if and only if the bits before the last `w - p` are
the same number. -/
theorem and_eq_and_iff {m x y : Word} (hm : ∀ i, m.getLsbD i = decide (w - p ≤ i ∧ i < w))
    (hx : x.toNat < 2 ^ w) (hy : y.toNat < 2 ^ w) :
    x &&& m = y &&& m ↔ x.toNat / 2 ^ (w - p) = y.toNat / 2 ^ (w - p) := by
  rw [div_two_pow_eq_iff]
  constructor
  · intro h i hi
    by_cases hiw : i < w
    · have hand := congrArg (BitVec.getLsbD · i) h
      simpa only [BitVec.getLsbD_and, hm, hi, hiw, and_self, decide_true, Bool.and_true]
        using hand
    · -- Neither number has a bit there.
      rw [getLsbD_of_lt hx (Nat.le_of_not_lt hiw), getLsbD_of_lt hy (Nat.le_of_not_lt hiw)]
  · intro h
    apply BitVec.eq_of_getLsbD_eq
    intro i _
    rw [BitVec.getLsbD_and, BitVec.getLsbD_and, hm]
    by_cases hi : w - p ≤ i
    · rw [h i hi]
    · rw [decide_eq_false fun hmask ↦ hi hmask.1, Bool.and_false, Bool.and_false]

/-- Two words agree under the mask of a prefix exactly when the quotients that the prefix leaves are
equal, and the prefix is not too long. -/
theorem agrees_iff {x y : Word} (hw : w ≤ 128) (hx : x.toNat < 2 ^ w) (hy : y.toNat < 2 ^ w) :
    agrees w p x y ↔ p ≤ w ∧ x.toNat / 2 ^ (w - p) = y.toNat / 2 ^ (w - p) := by
  obtain ⟨m, hm, hbit⟩ := exists_mask hw p
  rw [← and_eq_and_iff hbit hx hy, agrees, hm]
  simp

/-! ## Addresses in words -/

theorem width_le (ip : Ip) : width ip ≤ 128 := by
  cases ip <;> simp [width]

theorem toNat_word (ip : Ip) : ip.word.toNat = ip.toNat := by
  cases ip with
  | v4 b => exact BitVec.toNat_setWidth_of_le (by decide)
  | v6 b => rfl

/-- An address fits its width. -/
theorem toNat_lt (ip : Ip) : ip.toNat < 2 ^ width ip := by
  cases ip with
  | v4 b => exact b.isLt
  | v6 b => exact b.isLt

theorem width_eq_of_family {a n : Ip} (h : a.family = n.family) : width a = width n := by
  cases a <;> cases n <;> simp_all [width]

/-- A range contains the addresses of its family that share its prefix, as numbers. -/
theorem contains_iff (c : Cidr) (a : Ip) :
    c.contains a ↔ a.family = c.network.family ∧ c.length ≤ width a ∧
      a.toNat / 2 ^ (width a - c.length) = c.network.toNat / 2 ^ (width a - c.length) := by
  rw [contains, Bool.and_eq_true, beq_iff_eq]
  refine and_congr_right fun hfamily ↦ ?_
  have ha : a.word.toNat < 2 ^ width a := by
    rw [toNat_word]
    exact toNat_lt a
  have hn : c.network.word.toNat < 2 ^ width a := by
    rw [toNat_word, width_eq_of_family hfamily]
    exact toNat_lt c.network
  rw [agrees_iff (width_le a) ha hn, toNat_word, toNat_word]

/-! ## The texts of ranges -/

/-- What the text of a range says: a network of which all bits count, or a network and the number
of the bits that count, on both sides of the first slash. -/
inductive Written (cs : List Char) : Cidr → Prop
  | bare (n : Ip) (h : Ip.read? cs = some n) : Written cs ⟨n, width n⟩
  | sized (network length : List Char) (n : Ip) (p : Nat) (hcs : cs = network ++ '/' :: length)
      (hslash : '/' ∉ network) (hn : Ip.read? network = some n)
      (hp : readBelow? UInt32.size length = some p) : Written cs ⟨n, p⟩

/-- No spelling of an address has a slash, so the slash of a range can be found from either side. -/
theorem slash_not_mem_of_read? {cs : List Char} {ip : Ip} (h : Ip.read? cs = some ip) :
    '/' ∉ cs := by
  intro hc
  exact absurd (Ip.isAddressChar_of_read? h hc) (by decide)

/-- The reader accepts exactly the ranges as they are written. -/
theorem read?_eq_some_iff {cs : List Char} {c : Cidr} :
    read? cs = some c ↔ Written (trim cs) c := by
  rw [read?]
  constructor
  · intro h
    split at h
    · next network length hcut =>
      obtain ⟨hcs, hslash⟩ := cut_eq_some_iff.mp hcut
      simp only [Option.bind_eq_bind, Option.bind_eq_some_iff] at h
      obtain ⟨p, hp, n, hn, ⟨⟩⟩ := h
      exact .sized network length n p hcs hslash hn hp
    · obtain ⟨n, hn, rfl⟩ := Option.map_eq_some_iff.mp h
      exact .bare n hn
  · rintro (⟨n, h⟩ | ⟨network, length, n, p, hcs, hslash, hn, hp⟩)
    · -- There is no slash in the text of an address.
      rw [cut_eq_none_iff.mpr (slash_not_mem_of_read? h)]
      simp [h]
    · rw [cut_eq_some_iff.mpr ⟨hcs, hslash⟩]
      simp [hn, hp]

end Cidr

/-- A length of zero takes in the whole family, and no other. -/
example : addressInCidr "192.168.7.1" " 0.0.0.0/0 " ∧ ¬ addressInCidr "::c0a8:701" "0.0.0.0/0" := by
  decide +kernel

end BalancerSync
