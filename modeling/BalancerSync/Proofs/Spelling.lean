import BalancerSync.Proofs.Address

/-!
# The spellings of an address

An address has many spellings, with leading zeros, capital letters, a gap or none.  All of them
consist of digits, colons and dots (`Ip.isAddressChar_of_read?`), and canonical texts are equal
exactly when they come from spellings of one address (`canonicalAddress_identifies`).
-/

namespace BalancerSync

open Text

namespace Ip

/-! ## The characters of a spelling -/

variable {c : Char} {cs : List Char}

/-- A separator of an address may stand between any fields. -/
theorem isAddressChar_of_splitOn (sep : Char) (hsep : isAddressChar sep)
    (h : ∀ f ∈ splitOn sep cs, c ∈ f → isAddressChar c) (hc : c ∈ cs) : isAddressChar c := by
  by_cases heq : c = sep
  · rwa [heq]
  · obtain ⟨f, hf, hcf⟩ := exists_mem_splitOn hc heq
    exact h f hf hcf

/-- Digits and dots are all that four octets have. -/
theorem isAddressChar_of_readQuad? {os : List Nat} (h : readQuad? cs = some os) (hc : c ∈ cs) :
    isAddressChar c := by
  rw [readQuad?] at h
  split at h
  · refine isAddressChar_of_splitOn '.' rfl (fun f hf hcf ↦ ?_) hc
    obtain ⟨o, ho⟩ := Option.isSome_iff_exists.mp (isSome_of_mapM h hf)
    have hdigit : (digit? 16 c).isSome := isSome_digit?_mono (by decide) (readOctet?_digits ho hcf)
    simp [isAddressChar, hdigit]
  · cases h

/-- A group is made of hexadecimal digits. -/
theorem isAddressChar_of_readGroup? (h : (readGroup? cs).isSome) (hc : c ∈ cs) :
    isAddressChar c := by
  obtain ⟨g, hg⟩ := Option.isSome_iff_exists.mp h
  rw [readGroup?] at hg
  split at hg
  · simp [isAddressChar, isSome_digit?_of_readDigits? hg hc]
  · cases hg

/-- Fields between colons are groups, or four octets at the end. -/
theorem isAddressChar_of_readFields? {fs : List (List Char)} {gs : List Nat} {f : List Char}
    (h : readFields? fs = some gs) (hf : f ∈ fs) (hc : c ∈ f) : isAddressChar c := by
  induction fs generalizing gs with
  | nil => cases hf
  | cons g fs ih =>
    cases fs with
    | nil =>
      -- Only the last field may be a dotted quad.
      obtain rfl := List.mem_singleton.mp hf
      cases hquad : readQuad? f with
      | some os => exact isAddressChar_of_readQuad? hquad hc
      | none =>
        simp only [readFields?, hquad] at h
        obtain ⟨n, hn, -⟩ := Option.map_eq_some_iff.mp h
        exact isAddressChar_of_readGroup? (Option.isSome_of_eq_some hn) hc
    | cons g' fs =>
      simp only [readFields?, Option.bind_eq_bind, Option.bind_eq_some_iff] at h
      obtain ⟨n, hn, ns, hns, -⟩ := h
      rcases List.mem_cons.mp hf with rfl | hf
      · exact isAddressChar_of_readGroup? (Option.isSome_of_eq_some hn) hc
      · exact ih hns hf

theorem isAddressChar_of_readHead? {gs : List Nat} (h : readHead? cs = some gs) (hc : c ∈ cs) :
    isAddressChar c := by
  rw [readHead?, if_neg (by simpa using List.ne_nil_of_mem hc)] at h
  exact isAddressChar_of_splitOn ':' rfl
    (fun f hf ↦ isAddressChar_of_readGroup? (isSome_of_mapM h hf)) hc

theorem isAddressChar_of_readTail? {gs : List Nat} (h : readTail? cs = some gs) (hc : c ∈ cs) :
    isAddressChar c := by
  rw [readTail?, if_neg (by simpa using List.ne_nil_of_mem hc)] at h
  exact isAddressChar_of_splitOn ':' rfl (fun f hf ↦ isAddressChar_of_readFields? h hf) hc

/-- The gap of a short spelling is where two colons meet. -/
theorem eq_of_cutGap {front back : List Char} (h : cutGap cs = some (front, back)) :
    cs = front ++ ':' :: ':' :: back := by
  induction cs using cutGap.induct generalizing front with
  | case1 r =>
    rw [cutGap] at h
    cases h
    rfl
  | case2 c r hne ih =>
    rw [cutGap] at h
    · obtain ⟨⟨a, b⟩, hr, heq⟩ := Option.map_eq_some_iff.mp h
      cases heq
      rw [ih hr, List.cons_append]
    · exact hne
  | case3 => cases h

theorem isAddressChar_of_readGroups? {gs : List Nat} (h : readGroups? cs = some gs) (hc : c ∈ cs) :
    isAddressChar c := by
  rw [readGroups?] at h
  split at h
  · obtain ⟨htail, -⟩ := Option.filter_eq_some_iff.mp h
    exact isAddressChar_of_readTail? htail hc
  · next front back hgap =>
    simp only [Option.bind_eq_bind, Option.bind_eq_some_iff] at h
    obtain ⟨hs, hhead, ts, htail, -⟩ := h
    rw [eq_of_cutGap hgap] at hc
    simp only [List.mem_append, List.mem_cons] at hc
    rcases hc with hc | rfl | rfl | hc
    · exact isAddressChar_of_readHead? hhead hc
    · rfl
    · rfl
    · exact isAddressChar_of_readTail? htail hc

/-- Nothing else is read as part of an address. -/
theorem isAddressChar_of_read? {ip : Ip} (h : read? cs = some ip) (hc : c ∈ cs) :
    isAddressChar c := by
  rw [read?] at h
  split at h
  · next os hquad => exact isAddressChar_of_readQuad? hquad hc
  · obtain ⟨gs, hgs, -⟩ := Option.map_eq_some_iff.mp h
    exact isAddressChar_of_readGroups? hgs hc

/-! ## Texts of different addresses -/

/-- Different addresses are written differently, since each is read back from its text. -/
theorem render_injective : Function.Injective render := by
  intro x y h
  have hread : some x = some y := by rw [← read?_render x, h, read?_render]
  exact Option.some.inj hread

/-- Only the longer family is written with colons. -/
theorem colon_mem_render_iff (ip : Ip) : ':' ∈ ip.render ↔ ip.family = .v6 := by
  cases ip with
  | v4 b => exact iff_of_false (colon_not_mem_renderQuad b) (by simp)
  | v6 b => exact iff_of_true (colon_mem_render_v6 b) rfl

end Ip

/-! ## One text for one address -/

variable {a b : String} {x y : Ip}

/-- The canonical text of an address is what its address is written as. -/
theorem canonicalAddress_of_read? (h : Ip.read? (bareAddress a.toList) = some x) :
    canonicalAddress a = String.ofList x.render := by
  simp [canonicalAddress, canonicalChars, h]

/-- Two spellings have the same canonical text if and only if they denote the same address.  The
text denotes it too, shows its family, has no mark in it that separates or encloses addresses, and
is its own canonical text. -/
theorem canonicalAddress_identifies (ha : Ip.read? (bareAddress a.toList) = some x)
    (hb : Ip.read? (bareAddress b.toList) = some y) :
    (canonicalAddress a = canonicalAddress b ↔ x = y) ∧
      Ip.read? (canonicalAddress a).toList = some x ∧
      (':' ∈ (canonicalAddress a).toList ↔ x.family = .v6) ∧
      (∀ c ∈ ['[', ']', '_', ','], c ∉ (canonicalAddress a).toList) ∧
      canonicalAddress (canonicalAddress a) = canonicalAddress a := by
  rw [canonicalAddress_of_read? ha, canonicalAddress_of_read? hb]
  refine ⟨?_, ?_, ?_, ?_, ?_⟩
  · rw [String.ofList_inj, Ip.render_injective.eq_iff]
  · rw [String.toList_ofList, Ip.read?_render]
  · rw [String.toList_ofList, Ip.colon_mem_render_iff]
  · intro c hc
    have hmarks : ['[', ']', '_', ','].all (!Ip.isAddressChar ·) = true := by decide
    have hmark : Ip.isAddressChar c = false := by simpa using List.all_eq_true.mp hmarks c hc
    rw [String.toList_ofList]
    exact Ip.not_mem_render hmark
  · simp only [canonicalAddress, String.toList_ofList, canonicalChars_render]

/-- Capitals, leading zeros and the choice of the gap make no difference, the family does. -/
theorem canonicalAddress_identifies_on_sample :
    Ip.read? (bareAddress " [0:0:0::FFFF:10.0.0.1]".toList) = some (.v6 0xffff0a000001) ∧
      Ip.read? (bareAddress "10.0.0.1".toList) = some (.v4 0x0a000001) ∧
      canonicalAddress " [0:0:0::FFFF:10.0.0.1]" ≠ canonicalAddress "10.0.0.1" := by
  have ha : Ip.read? (bareAddress " [0:0:0::FFFF:10.0.0.1]".toList) =
      some (.v6 0xffff0a000001) := by decide +kernel
  have hb : Ip.read? (bareAddress "10.0.0.1".toList) = some (.v4 0x0a000001) := by decide +kernel
  refine ⟨ha, hb, fun h ↦ ?_⟩
  cases (canonicalAddress_identifies ha hb).1.mp h

end BalancerSync
