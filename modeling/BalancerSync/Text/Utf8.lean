/-!
# UTF-8 with damage

Bytes are read from left to right. Where they stop being the beginning of a character, one
replacement character stands for what was read of it, and reading goes on at the byte that did not
fit.
-/

namespace BalancerSync.Text

/-- The bytes of a text. -/
def utf8 (cs : List Char) : List UInt8 := cs.flatMap String.utf8EncodeChar

/-- A character of which at least the first byte has been read: the number so far, how many bytes
are missing, and the range of the next one. -/
structure PartialChar where
  value : Nat
  missing : Nat
  low : Nat
  high : Nat
  deriving DecidableEq, Repr

/-- What stands for bytes that are no character. -/
def replacement : Char := '\uFFFD'

/-- A byte at the start of a character. The ranges leave out what has a shorter form, is a
surrogate or lies above all characters. -/
def startChar (b : Nat) : List Char × Option PartialChar :=
  if b < 0x80 then ([Char.ofNat b], none)
  else if 0xC2 ≤ b ∧ b < 0xE0 then ([], some ⟨b % 0x20, 1, 0x80, 0xBF⟩)
  else if 0xE0 ≤ b ∧ b < 0xF0 then
    ([], some ⟨b % 0x10, 2, if b = 0xE0 then 0xA0 else 0x80, if b = 0xED then 0x9F else 0xBF⟩)
  else if 0xF0 ≤ b ∧ b < 0xF5 then
    ([], some ⟨b % 8, 3, if b = 0xF0 then 0x90 else 0x80, if b = 0xF4 then 0x8F else 0xBF⟩)
  else ([replacement], none)

/-- The characters that are complete after one more byte, and the one that is not. -/
def nextByte (p : Option PartialChar) (b : Nat) : List Char × Option PartialChar :=
  match p with
  | none => startChar b
  | some p =>
    if p.low ≤ b ∧ b ≤ p.high then
      let value := p.value * 0x40 + b % 0x40
      if p.missing ≤ 1 then ([Char.ofNat value], none)
      else ([], some ⟨value, p.missing - 1, 0x80, 0xBF⟩)
    else
      let (cs, p) := startChar b
      (replacement :: cs, p)

def readUtf8From (p : Option PartialChar) : List UInt8 → List Char
  | [] => if p.isSome then [replacement] else []
  | b :: bs =>
    let (cs, p) := nextByte p b.toNat
    cs ++ readUtf8From p bs

/-- The text that bytes stand for, whatever they are. -/
def readUtf8 (bs : List UInt8) : List Char := readUtf8From none bs

/-! ## Bytes of a text -/

/-- A byte below 128 is a character of its own. -/
theorem toNat_eq_of_mem_utf8EncodeChar {c : Char} {b : UInt8} (hb : b < 0x80)
    (h : b ∈ String.utf8EncodeChar c) : c.toNat = b.toNat := by
  have hhigh (n : Nat) (hlow : 0x80 ≤ n) (hn : n < 0x100) : b ≠ UInt8.ofNat n := by
    rintro rfl
    rw [UInt8.lt_iff_toNat_lt, UInt8.toNat_ofNat_of_lt' hn] at hb
    exact absurd hb (Nat.not_lt.2 hlow)
  have hval : c.val.toNat = c.toNat := rfl
  unfold String.utf8EncodeChar at h
  simp only [hval] at h
  split at h
  · next hc =>
    rw [List.mem_singleton.1 h, UInt8.toNat_ofNat_of_lt' (Nat.lt_of_le_of_lt hc (by decide))]
  -- All bytes of longer characters are at least 128.
  · split at h
    · simp only [List.mem_cons, List.not_mem_nil, or_false] at h
      obtain h | h := h <;> exact absurd h (hhigh _ (by omega) (by omega))
    split at h
    · simp only [List.mem_cons, List.not_mem_nil, or_false] at h
      obtain h | h | h := h <;> exact absurd h (hhigh _ (by omega) (by omega))
    · simp only [List.mem_cons, List.not_mem_nil, or_false] at h
      obtain h | h | h | h := h <;> exact absurd h (hhigh _ (by omega) (by omega))

/-- A byte below 128 in the encoding of a text stands for a character of its own. -/
theorem mem_of_mem_utf8 {cs : List Char} {c : Char} (hc : c.toNat < 0x80)
    (h : UInt8.ofNat c.toNat ∈ utf8 cs) : c ∈ cs := by
  obtain ⟨d, hd, hmem⟩ := List.mem_flatMap.1 h
  have hbyte : (UInt8.ofNat c.toNat).toNat = c.toNat := UInt8.toNat_ofNat_of_lt' (by
    exact Nat.lt_trans hc (by decide))
  have heq := toNat_eq_of_mem_utf8EncodeChar (by rw [UInt8.lt_iff_toNat_lt, hbyte]; exact hc) hmem
  rw [hbyte] at heq
  rwa [← Char.ofNat_toNat c, ← heq, Char.ofNat_toNat]

/-- A text is read back from its bytes. -/
theorem fromUTF8?_utf8 (cs : List Char) :
    String.fromUTF8? (utf8 cs).toByteArray = some (String.ofList cs) :=
  dif_pos (String.ofList cs).isValidUTF8

end BalancerSync.Text
