import BalancerSync.Address.Ip
import Mathlib.Algebra.Group.Nat.Defs

/-!
# Addresses that are read back

`Ip.render` writes an address and `Ip.read?` reads it: four octets, eight groups, groups around the
longest run of zeros, or a dotted quad after six groups.  Reading inverts writing for all of them.
What is written has only digits, colons and dots in it, so that nothing around it can be taken for
a part of it.
-/

namespace BalancerSync

open Text

/-! ## Digits -/

/-- The last `k` digits of a number, read after those before them, make up its remainder. -/
theorem foldl_digits (base n k acc : Nat) :
    ((List.range k).reverse.map fun i ↦ n / base ^ i % base).foldl (fun a d ↦ a * base + d) acc =
      acc * base ^ k + n % base ^ k := by
  induction k generalizing acc with
  | zero => simp [Nat.mod_one]
  | succ k ih =>
    rw [List.range_succ, List.reverse_append, List.reverse_singleton, List.singleton_append,
      List.map_cons, List.foldl_cons, ih, Nat.pow_succ, Nat.mod_mul, Nat.add_mul, Nat.mul_assoc,
      Nat.mul_comm base, Nat.mul_comm (_ % base)]
    omega

/-- A number that has no more than `k` digits is the one that these denote. -/
theorem ofDigits_digits {base n k : Nat} (h : n < base ^ k) :
    ofDigits base ((List.range k).reverse.map fun i ↦ n / base ^ i % base) = n := by
  rw [ofDigits, foldl_digits, Nat.zero_mul, Nat.zero_add, Nat.mod_eq_of_lt h]

/-- No digit is a blank, so trimming leaves numerals alone. -/
theorem isBlank_of_digit? {base : Nat} {c : Char} (hb : base ≤ 16)
    (h : (digit? base c).isSome) : isBlank c = false := by
  have hrange := toNat_of_digit? hb h
  simp only [isBlank, Bool.or_eq_false_iff, Bool.and_eq_false_imp, decide_eq_true_eq,
    decide_eq_false_iff_not, beq_eq_false_iff_ne]
  omega

namespace Ip

/-! ## Octets and groups -/

theorem lt_of_mem_octets {b : BitVec 32} {o : Nat} (h : o ∈ octets b) : o < 256 := by
  obtain ⟨i, -, rfl⟩ := List.mem_map.mp h
  exact Nat.mod_lt _ (by decide)

theorem lt_of_mem_groups {b : BitVec 128} {g : Nat} (h : g ∈ groups b) : g < 65536 := by
  obtain ⟨i, -, rfl⟩ := List.mem_map.mp h
  exact Nat.mod_lt _ (by decide)

/-- The octets of an address make it up again. -/
theorem ofDigits_octets (b : BitVec 32) : ofDigits 256 (octets b) = b.toNat := by
  have hdigits : octets b = (List.range 4).reverse.map fun i ↦ b.toNat / 256 ^ i % 256 := by
    simp [octets, List.range_succ, Nat.shiftRight_eq_div_pow]
  rw [hdigits]
  exact ofDigits_digits b.isLt

theorem ofDigits_groups (b : BitVec 128) : ofDigits 65536 (groups b) = b.toNat := by
  have hdigits : groups b = (List.range 8).reverse.map fun i ↦ b.toNat / 65536 ^ i % 65536 := by
    simp [groups, List.range_succ, Nat.shiftRight_eq_div_pow]
  rw [hdigits]
  exact ofDigits_digits b.isLt

/-- An octet is read back from its decimal numeral, which has no needless zero. -/
theorem readOctet?_showNat {o : Nat} (h : o < 256) : readOctet? (showNat o) = some o := by
  have hall : ∀ o < 256, readOctet? (showNat o) = some o := by decide +kernel
  exact hall o h

/-- A group is read back from its hexadecimal numeral, which has four digits at most. -/
theorem readGroup?_showHex {g : Nat} (h : g < 65536) : readGroup? (showHex g) = some g := by
  have hlength : (showHex g).length ≤ 4 := (Nat.length_toDigits_le_iff (by decide) (by decide)).2 h
  rw [readGroup?, if_pos hlength]
  exact readDigits?_toDigits (by decide) (by decide) g

/-! ## Dotted quads -/

/-- Between its dots, a dotted quad has the numerals of the octets. -/
theorem renderQuad_fields (b : BitVec 32) :
    splitOn '.' (renderQuad b) = (octets b).map showNat := by
  apply splitOn_join (by simp [octets])
  intro f hf
  obtain ⟨o, -, rfl⟩ := List.mem_map.mp hf
  exact not_mem_showNat (by decide) o

/-- The octets are read back from the dotted quad. -/
theorem readQuad?_renderQuad (b : BitVec 32) : readQuad? (renderQuad b) = some (octets b) := by
  simp only [readQuad?, renderQuad_fields]
  rw [if_pos (by simp [octets])]
  exact mapM_map_eq_some fun o ho ↦ readOctet?_showNat (lt_of_mem_octets ho)

/-- What is read as an octet consists of decimal digits. -/
theorem readOctet?_digits {f : List Char} {o : Nat} {c : Char} (h : readOctet? f = some o)
    (hc : c ∈ f) : (digit? 10 c).isSome := by
  unfold readOctet? at h
  split at h
  · cases h
  · split at h
    · obtain ⟨n, hn, -⟩ := Option.bind_eq_some_iff.mp h
      exact isSome_digit?_of_readDigits? hn hc
    · cases h

/-- There is no colon in a dotted quad. -/
theorem readQuad?_of_colon {cs : List Char} (h : ':' ∈ cs) : readQuad? cs = none := by
  rw [readQuad?, Option.eq_none_iff_forall_ne_some]
  intro os hos
  split at hos
  · have hfield : ∃ f ∈ splitOn '.' cs, ':' ∈ f := exists_mem_splitOn h (by decide)
    obtain ⟨f, hf, hc⟩ := hfield
    obtain ⟨o, ho⟩ := Option.isSome_iff_exists.mp (isSome_of_mapM hos hf)
    exact absurd (readOctet?_digits ho hc) (by decide)
  · cases hos

/-- A single group is not taken for a dotted quad. -/
theorem readQuad?_showHex (g : Nat) : readQuad? (showHex g) = none := by
  have hdot : '.' ∉ showHex g := not_mem_showHex (by decide) g
  simp [readQuad?, splitOn_of_not_mem hdot]

/-! ## Rows of groups -/

theorem showHex_ne_nil (g : Nat) : showHex g ≠ [] := Nat.toDigits_ne_nil

theorem colon_not_mem_showHex (g : Nat) : ':' ∉ showHex g := not_mem_showHex (by decide) g

@[simp] theorem renderGroups_cons_cons (g g' : Nat) (gs : List Nat) :
    renderGroups (g :: g' :: gs) = showHex g ++ ':' :: renderGroups (g' :: gs) := rfl

/-- Between its colons, a row of groups has the numerals of the groups. -/
theorem renderGroups_fields {gs : List Nat} (hne : gs ≠ []) :
    splitOn ':' (renderGroups gs) = gs.map showHex := by
  apply splitOn_join (by simpa using hne)
  intro f hf
  obtain ⟨g, -, rfl⟩ := List.mem_map.mp hf
  exact colon_not_mem_showHex g

/-- A row of groups does not start with a colon. -/
theorem exists_renderGroups_cons (g : Nat) (gs : List Nat) :
    ∃ c r, renderGroups (g :: gs) = c :: r ∧ c ≠ ':' := by
  obtain ⟨c, r, hr⟩ := List.exists_cons_of_ne_nil (showHex_ne_nil g)
  have hc : c ≠ ':' := fun h ↦ colon_not_mem_showHex g (by simp [hr, h])
  cases gs with
  | nil => exact ⟨c, r, hr, hc⟩
  | cons g' gs =>
    exact ⟨c, r ++ ':' :: renderGroups (g' :: gs), by rw [renderGroups_cons_cons, hr]; rfl, hc⟩

theorem isEmpty_renderGroups_cons (g : Nat) (gs : List Nat) :
    (renderGroups (g :: gs)).isEmpty = false := by
  obtain ⟨c, r, hr, -⟩ := exists_renderGroups_cons g gs
  rw [hr]
  rfl

/-- Groups are read back from their numerals, as none of these is a dotted quad. -/
theorem readFields?_showHex {gs : List Nat} (h : ∀ g ∈ gs, g < 65536) :
    readFields? (gs.map showHex) = some gs := by
  induction gs with
  | nil => rfl
  | cons g gs ih =>
    have hg := readGroup?_showHex (h g List.mem_cons_self)
    cases gs with
    | nil => simp [readFields?, readQuad?_showHex, hg]
    | cons g' gs =>
      have hgs := ih fun x hx ↦ h x (List.mem_cons_of_mem g hx)
      rw [List.map_cons] at hgs ⊢
      simp only [List.map_cons, readFields?, hg] at hgs ⊢
      simp [hgs]

/-- Groups are read back in front of a gap. -/
theorem readHead?_renderGroups {gs : List Nat} (h : ∀ g ∈ gs, g < 65536) :
    readHead? (renderGroups gs) = some gs := by
  cases gs with
  | nil => rfl
  | cons g gs =>
    rw [readHead?, isEmpty_renderGroups_cons, renderGroups_fields (List.cons_ne_nil g gs)]
    exact mapM_map_eq_some fun g hg ↦ readGroup?_showHex (h g hg)

theorem readTail?_renderGroups {gs : List Nat} (h : ∀ g ∈ gs, g < 65536) :
    readTail? (renderGroups gs) = some gs := by
  cases gs with
  | nil => rfl
  | cons g gs =>
    rw [readTail?, isEmpty_renderGroups_cons, renderGroups_fields (List.cons_ne_nil g gs)]
    exact readFields?_showHex h

/-! ## The gap -/

/-- A gap is not looked for where there is no colon. -/
theorem cutGap_append {f : List Char} (h : ':' ∉ f) (cs : List Char) :
    cutGap (f ++ cs) = (cutGap cs).map fun (a, b) ↦ (f ++ a, b) := by
  induction f with
  | nil => simp
  | cons c r ih =>
    obtain ⟨hc, hr⟩ := List.ne_and_not_mem_of_not_mem_cons h
    rw [List.cons_append, cutGap, ih hr, Option.map_map]
    · rfl
    · rintro _ rfl
      exact absurd rfl hc

/-- A single colon is not a gap. -/
theorem cutGap_colon {c : Char} (hc : c ≠ ':') (cs : List Char) :
    cutGap (':' :: c :: cs) = (cutGap (c :: cs)).map fun (a, b) ↦ (':' :: a, b) := by
  rw [cutGap]
  rintro r - h
  exact hc (List.cons.inj h).1

/-- A row of groups is passed over in the search for the gap. -/
theorem cutGap_renderGroups (gs : List Nat) (cs : List Char) :
    cutGap (renderGroups gs ++ cs) = (cutGap cs).map fun (a, b) ↦ (renderGroups gs ++ a, b) := by
  induction gs with
  | nil => simp [renderGroups, join]
  | cons g gs ih =>
    cases gs with
    | nil => exact cutGap_append (colon_not_mem_showHex g) cs
    | cons g' gs =>
      -- No group is empty, so a colon between two of them is not followed by another.
      obtain ⟨c, r, hr, hc⟩ := exists_renderGroups_cons g' gs
      rw [renderGroups_cons_cons, List.append_assoc, cutGap_append (colon_not_mem_showHex g),
        List.cons_append]
      rw [hr] at ih ⊢
      rw [List.cons_append, cutGap_colon hc, ← List.cons_append, ih]
      simp [Option.map_map, Function.comp_def]

/-- A row of groups has no gap of its own. -/
theorem cutGap_renderGroups_nil (gs : List Nat) : cutGap (renderGroups gs) = none := by
  simpa [cutGap] using cutGap_renderGroups gs []

/-- The gap after a row of groups is found right behind it. -/
theorem cutGap_renderGroups_gap (gs : List Nat) (back : List Char) :
    cutGap (renderGroups gs ++ ':' :: ':' :: back) = some (renderGroups gs, back) := by
  simp [cutGap_renderGroups, cutGap]

/-! ## The longest run of zeros -/

/-- A row of groups is the zeros that it starts with and what comes after them. -/
theorem eq_zeros_append_drop (gs : List Nat) :
    gs = List.replicate (gs.takeWhile (· == 0)).length 0
      ++ gs.drop (gs.takeWhile (· == 0)).length := by
  induction gs with
  | nil => rfl
  | cons g gs ih =>
    by_cases hg : g = 0
    · subst hg
      simpa [List.replicate_succ] using ih
    · simp [hg]

/-- The longest run is one of zeros, and it lies inside the row. -/
theorem longestZeros_spec (gs : List Nat) :
    (longestZeros gs).1 + (longestZeros gs).2 ≤ gs.length ∧
      gs = gs.take (longestZeros gs).1 ++ List.replicate (longestZeros gs).2 0
        ++ gs.drop ((longestZeros gs).1 + (longestZeros gs).2) := by
  induction gs with
  | nil => exact ⟨Nat.le_refl 0, rfl⟩
  | cons g gs ih =>
    obtain ⟨hle, heq⟩ := ih
    simp only [longestZeros]
    split
    · constructor
      · rw [Nat.zero_add]
        exact (List.takeWhile_sublist _).length_le
      · simpa using eq_zeros_append_drop (g :: gs)
    · refine ⟨by simp only [List.length_cons]; omega, ?_⟩
      rw [Nat.add_right_comm, List.take_succ_cons, List.drop_succ_cons, List.cons_append,
        List.cons_append, ← heq]

/-! ## Whole addresses -/

theorem length_groups (b : BitVec 128) : (groups b).length = 8 := rfl

/-- Groups are read back even if their longest run of zeros was left out. -/
theorem readGroups?_renderShort {gs : List Nat} (hlength : gs.length = 8)
    (h : ∀ g ∈ gs, g < 65536) : readGroups? (renderShort gs) = some gs := by
  obtain ⟨hle, heq⟩ := longestZeros_spec gs
  simp only [renderShort]
  generalize longestZeros gs = run at *
  obtain ⟨start, length⟩ := run
  dsimp only at *
  split
  · next hlong =>
    have hhead := readHead?_renderGroups fun g hg ↦ h g (List.mem_of_mem_take (i := start) hg)
    have htail := readTail?_renderGroups fun g hg ↦
      h g (List.mem_of_mem_drop (i := start + length) hg)
    simp only [readGroups?, cutGap_renderGroups_gap, hhead, htail, Option.bind_eq_bind,
      Option.bind_some, List.length_take, List.length_drop]
    rw [if_pos (by omega)]
    -- What the gap stands for is what has been left out.
    have hzeros : 8 - min start gs.length - (gs.length - (start + length)) = length := by omega
    rw [hzeros, ← heq]
  · rw [readGroups?, cutGap_renderGroups_nil]
    simp [readTail?_renderGroups h, hlength]

/-- The last two groups are the four octets of the low half. -/
theorem readFields?_renderQuad (b : BitVec 128) :
    readFields? [renderQuad (b.truncate 32)] = some ((groups b).drop 6) := by
  have := b.isLt
  simp only [readFields?, readQuad?_renderQuad, octets, groups, List.map_cons, List.map_nil,
    List.drop_succ_cons, List.drop_zero, Option.some.injEq, List.cons.injEq, and_true,
    BitVec.toNat_ushiftRight, Nat.shiftRight_eq_div_pow, BitVec.truncate_eq_setWidth,
    BitVec.toNat_setWidth]
  omega

theorem colon_not_mem_renderQuad (b : BitVec 32) : ':' ∉ renderQuad b := by
  intro h
  simpa [readQuad?_renderQuad b] using readQuad?_of_colon h

/-- An address with an embedded one is read back from its text with a dotted quad. -/
theorem readGroups?_mapped {b : BitVec 128} (h : (groups b).take 6 = mappedHead) :
    readGroups? ("::ffff:".toList ++ renderQuad (b.truncate 32)) = some (groups b) := by
  have hfields : splitOn ':' ("ffff".toList ++ ':' :: renderQuad (b.truncate 32)) =
      ["ffff".toList, renderQuad (b.truncate 32)] := by
    rw [splitOn_append_cons (by decide), splitOn_of_not_mem (colon_not_mem_renderQuad _)]
  have hffff : readGroup? "ffff".toList = some 0xffff := by decide
  have htail : readTail? ("ffff".toList ++ ':' :: renderQuad (b.truncate 32)) =
      some (0xffff :: (groups b).drop 6) := by
    rw [readTail?, if_neg (by simp), hfields, readFields?, readFields?_renderQuad, hffff]
    · rfl
    · simp
  have hgap : cutGap ("::ffff:".toList ++ renderQuad (b.truncate 32)) =
      some ([], "ffff".toList ++ ':' :: renderQuad (b.truncate 32)) := rfl
  have hhead : readHead? [] = some [] := rfl
  have hgroups : mappedHead ++ (groups b).drop 6 = groups b := by
    rw [← h, List.take_append_drop]
  rw [readGroups?, hgap, ← hgroups]
  simp only [hhead, htail, Option.bind_eq_bind, Option.bind_some]
  rfl

theorem colon_mem_renderShort {gs : List Nat} (hlength : gs.length = 8) :
    ':' ∈ renderShort gs := by
  simp only [renderShort]
  split
  · simp
  · match gs, hlength with
    | g :: g' :: gs, _ => simp

/-- The text of an address of version six has a colon, as no dotted quad has. -/
theorem colon_mem_render_v6 (b : BitVec 128) : ':' ∈ render (v6 b) := by
  rw [render]
  split
  · exact List.mem_append_left _ (by decide)
  · exact colon_mem_renderShort (length_groups b)

/-- An address is read back from its text. -/
theorem read?_render (ip : Ip) : read? ip.render = some ip := by
  cases ip with
  | v4 b => simp [read?, render, readQuad?_renderQuad, ofDigits_octets]
  | v6 b =>
    have hgroups : readGroups? (render (v6 b)) = some (groups b) := by
      rw [render]
      split
      · next h => exact readGroups?_mapped h
      · exact readGroups?_renderShort (length_groups b) fun g hg ↦ lt_of_mem_groups hg
    simp [read?, readQuad?_of_colon (colon_mem_render_v6 b), hgroups, ofDigits_groups]

/-! ## The characters of an address -/

/-- Digits, colons and dots. -/
def isAddressChar (c : Char) : Bool := (digit? 16 c).isSome || c == ':' || c == '.'

theorem isAddressChar_of_mem_renderQuad {b : BitVec 32} {c : Char} (h : c ∈ renderQuad b) :
    isAddressChar c := by
  rcases mem_join h with rfl | ⟨f, hf, hc⟩
  · rfl
  · obtain ⟨o, -, rfl⟩ := List.mem_map.mp hf
    have hdigit : (digit? 16 c).isSome := isSome_digit?_mono (by decide) (digit?_of_mem_showNat hc)
    simp [isAddressChar, hdigit]

theorem isAddressChar_of_mem_renderGroups {gs : List Nat} {c : Char} (h : c ∈ renderGroups gs) :
    isAddressChar c := by
  rcases mem_join h with rfl | ⟨f, hf, hc⟩
  · rfl
  · obtain ⟨g, -, rfl⟩ := List.mem_map.mp hf
    simp [isAddressChar, digit?_of_mem_showHex hc]

theorem isAddressChar_of_mem_renderShort {gs : List Nat} {c : Char} (h : c ∈ renderShort gs) :
    isAddressChar c := by
  simp only [renderShort] at h
  split at h
  · rcases List.mem_append.mp h with h | h
    · exact isAddressChar_of_mem_renderGroups h
    · rcases List.mem_cons.mp h with rfl | h
      · rfl
      · rcases List.mem_cons.mp h with rfl | h
        · rfl
        · exact isAddressChar_of_mem_renderGroups h
  · exact isAddressChar_of_mem_renderGroups h

/-- The text of an address consists of hexadecimal digits, colons and dots. -/
theorem isAddressChar_of_mem_render {ip : Ip} {c : Char} (h : c ∈ ip.render) :
    isAddressChar c := by
  cases ip with
  | v4 b => exact isAddressChar_of_mem_renderQuad h
  | v6 b =>
    rw [render] at h
    split at h
    · rcases List.mem_append.mp h with h | h
      · have hhead : "::ffff:".toList.all isAddressChar = true := by decide
        exact List.all_eq_true.mp hhead c h
      · exact isAddressChar_of_mem_renderQuad h
    · exact isAddressChar_of_mem_renderShort h

/-- No other characters occur in the text of an address, the separators of an entry among them. -/
theorem not_mem_render {ip : Ip} {c : Char} (h : isAddressChar c = false) : c ∉ ip.render := by
  intro hc
  simp [isAddressChar_of_mem_render hc] at h

/-- No character of an address is a blank. -/
theorem isBlank_of_isAddressChar {c : Char} (h : isAddressChar c) : isBlank c = false := by
  simp only [isAddressChar, Bool.or_eq_true, beq_iff_eq] at h
  rcases h with (h | rfl) | rfl
  · exact isBlank_of_digit? (by decide) h
  · rfl
  · rfl

end Ip

/-! ## Canonical texts -/

/-- There is no blank to lose at the ends of an address. -/
theorem trim_of_isAddressChar {cs : List Char} (h : ∀ c ∈ cs, Ip.isAddressChar c) :
    trim cs = cs := by
  have hblank : ∀ c ∈ cs, isBlank c = false := fun c hc ↦ Ip.isBlank_of_isAddressChar (h c hc)
  exact trim_eq_self (fun c hc ↦ hblank c (List.mem_of_mem_head? hc))
    fun c hc ↦ hblank c (List.mem_of_mem_getLast? hc)

/-- The text of an address has no blanks to trim. -/
theorem trim_render (ip : Ip) : trim ip.render = ip.render :=
  trim_of_isAddressChar fun _ hc ↦ Ip.isAddressChar_of_mem_render hc

theorem unbracket_render (ip : Ip) : unbracket ip.render = ip.render :=
  unbracket_eq_self (Ip.not_mem_render (by decide)) (Ip.not_mem_render (by decide))

/-- The text of an address is canonical. -/
theorem canonicalChars_render (ip : Ip) : canonicalChars ip.render = ip.render := by
  simp [canonicalChars, bareAddress, trim_render, unbracket_render, Ip.read?_render]

/-- A canonical text is that of an address, or the bare text of none. -/
theorem canonicalChars_cases (cs : List Char) :
    (∃ ip : Ip, canonicalChars cs = ip.render) ∨
      canonicalChars cs = bareAddress cs ∧ Ip.read? (bareAddress cs) = none := by
  cases h : Ip.read? (bareAddress cs) with
  | some ip => exact .inl ⟨ip, by simp [canonicalChars, h]⟩
  | none => exact .inr ⟨by simp [canonicalChars, h], rfl⟩

/-- A canonical text has no brackets to remove. -/
theorem unbracket_canonicalChars (cs : List Char) :
    unbracket (canonicalChars cs) = canonicalChars cs := by
  rcases canonicalChars_cases cs with ⟨ip, h⟩ | ⟨h, -⟩
  · rw [h, unbracket_render]
  · rw [h, bareAddress, unbracket_unbracket]

/-- A text that is its own canonical form has no blanks around it. -/
theorem trim_of_canonicalChars_eq_self {cs : List Char} (h : canonicalChars cs = cs) :
    trim cs = cs := by
  rcases canonicalChars_cases cs with ⟨ip, hip⟩ | ⟨hbare, -⟩
  · rw [← h, hip, trim_render]
  · have hsub : (unbracket (trim cs)).Sublist (trim cs) := unbracket_sublist _
    rw [← bareAddress, ← hbare, h] at hsub
    exact (trim_sublist cs).eq_of_length_le hsub.length_le

/-- A canonical text is its own unless brackets had hidden blanks at its ends. -/
theorem canonicalChars_idem_iff {cs : List Char} :
    canonicalChars (canonicalChars cs) = canonicalChars cs ↔
      trim (canonicalChars cs) = canonicalChars cs := by
  refine ⟨trim_of_canonicalChars_eq_self, fun htrim ↦ ?_⟩
  rcases canonicalChars_cases cs with ⟨ip, h⟩ | ⟨h, hread⟩
  · rw [h, canonicalChars_render]
  · have hbare : bareAddress (canonicalChars cs) = bareAddress cs := by
      rw [bareAddress, htrim, unbracket_canonicalChars, h]
    rw [canonicalChars, hbare, hread, h]

end BalancerSync
