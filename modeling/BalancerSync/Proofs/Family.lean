import BalancerSync.Proofs.Range
import BalancerSync.Record.Row
import BalancerSync.Validation
import Mathlib.Data.Set.Insert

/-!
# Families of virtual addresses

A member whose address is of another family than the virtual addresses is refused.  The verdict is
found in one pass over the texts of the virtual addresses, but all that it depends on is which
families they name (`ipVersionDiffers_iff`): one family conflicts with the other, both or none
conflict with nothing.  So order and repetition do not count, nor do texts that name no address.
-/

namespace BalancerSync

open Text

/-! ## Texts that name an address -/

/-- Without the blanks and brackets around all of it, the text is an address, or one with a slash
and more behind it. -/
inductive Names (text : String) (ip : Ip) : Prop
  | alone (h : Ip.read? (bareAddress text.toList) = some ip)
  | slashed (host rest : List Char) (h : bareAddress text.toList = host ++ '/' :: rest)
      (hip : Ip.read? host = some ip)

/-- A text names the address that is read at its start. -/
theorem names_iff {text : String} {ip : Ip} : Names text ip ↔ readHost? text = some ip := by
  rw [readHost?]
  constructor
  · rintro (h | ⟨host, rest, h, hip⟩)
    · rwa [before_of_not_mem (Cidr.slash_not_mem_of_read? h)]
    · rwa [h, before_append_cons (Cidr.slash_not_mem_of_read? hip)]
  · intro h
    rcases hcut : cut '/' (bareAddress text.toList) with _ | ⟨host, rest⟩
    · rw [before_of_not_mem (cut_eq_none_iff.mp hcut)] at h
      exact .alone h
    · obtain ⟨hsplit, hhost⟩ := cut_eq_some_iff.mp hcut
      rw [hsplit, before_append_cons hhost] at h
      exact .slashed host rest hsplit h

/-- The families of the addresses that some texts name. -/
def families (vips : List String) : Set Ip.Family :=
  {f | ∃ v ∈ vips, ∃ ip, Names v ip ∧ ip.family = f}

/-- The families are those of the addresses that can be read. -/
theorem mem_families_iff {vips : List String} {f : Ip.Family} :
    f ∈ families vips ↔ f ∈ (vips.filterMap readHost?).map Ip.family := by
  simp only [families, Set.mem_ofPred_eq, names_iff, List.mem_map, List.mem_filterMap]
  constructor
  · rintro ⟨v, hv, ip, hip, hf⟩
    exact ⟨ip, ⟨v, hv, hip⟩, hf⟩
  · rintro ⟨ip, ⟨v, hv, hip⟩, hf⟩
    exact ⟨v, hv, ip, hip, hf⟩

/-! ## The verdict -/

/-- An address is in conflict with virtual addresses of one family, if it is of the other. -/
theorem ipVersionDiffers_iff {vips : List String} {address : String} :
    ipVersionDiffers vips address = true ↔
      ∃ f, families vips = {f} ∧ ∃ ip, Names address ip ∧ ip.family ≠ f := by
  have hmember (f : Ip.Family) : (readHost? address).any (·.family != f) = true ↔
      ∃ ip, Names address ip ∧ ip.family ≠ f := by
    simp only [names_iff]
    cases readHost? address <;> simp
  unfold ipVersionDiffers
  split
  · next hnone =>
    refine iff_of_false (by simp) ?_
    rintro ⟨f, hf, -⟩
    have hmem : f ∈ families vips := hf ▸ Set.mem_singleton f
    rw [mem_families_iff, hnone] at hmem
    cases hmem
  · next f fs hsome =>
    have hfirst : f ∈ families vips := by
      rw [mem_families_iff, hsome]
      exact List.mem_cons_self
    -- The first family is the only one if no other comes after it.
    have honly : (!fs.any (· != f)) = true ↔ families vips = {f} := by
      rw [Set.eq_singleton_iff_unique_mem]
      simp only [mem_families_iff, hsome, List.mem_cons]
      simp
    rw [Bool.and_eq_true, honly, hmember]
    constructor
    · rintro ⟨hf, hip⟩
      exact ⟨f, hf, hip⟩
    · rintro ⟨g, hg, hip⟩
      obtain rfl : f = g := by simpa [hg] using hfirst
      exact ⟨hg, hip⟩

/-- Virtual addresses of the same families lead to the same verdict. -/
theorem ipVersionDiffers_congr {vips vips' : List String} (h : families vips = families vips')
    (address : String) : ipVersionDiffers vips address = ipVersionDiffers vips' address := by
  rw [Bool.eq_iff_iff, ipVersionDiffers_iff, ipVersionDiffers_iff, h]

/-- The families depend only on which texts there are. -/
theorem families_congr {vips vips' : List String} (h : ∀ v, v ∈ vips ↔ v ∈ vips') :
    families vips = families vips' := by
  simp only [families, h]

/-- A text that names no address adds no family. -/
theorem families_insert {v : String} (hv : ∀ ip, ¬ Names v ip) (front back : List String) :
    families (front ++ v :: back) = families (front ++ back) := by
  ext f
  simp only [families, Set.mem_ofPred_eq, List.mem_append, List.mem_cons]
  constructor
  · rintro ⟨u, hu | rfl | hu, ip, hip, hf⟩
    · exact ⟨u, .inl hu, ip, hip, hf⟩
    · exact absurd hip (hv ip)
    · exact ⟨u, .inr hu, ip, hip, hf⟩
  · rintro ⟨u, hu | hu, hrest⟩
    · exact ⟨u, .inl hu, hrest⟩
    · exact ⟨u, .inr (.inr hu), hrest⟩

/-! ## The virtual addresses of a row -/

namespace Row

/-- The texts that the metadata of a row has for its virtual addresses: the primary one, and what
stands between the commas of the additional ones. -/
inductive Lists (r : Row) : String → Prop
  | primary (value : String) (h : Dictionary.get? r.externalIds "neutron:vip" = some value) :
      Lists r value
  | additional (value : String) (entry : List Char)
      (h : Dictionary.get? r.externalIds "neutron:additional_vips" = some value)
      (hentry : entry ∈ splitOn ',' value.toList) (hne : trim entry ≠ []) :
      Lists r (String.ofList (trim entry))

/-- The families of the virtual addresses of a row. -/
def vipFamilies (r : Row) : Set Ip.Family :=
  {f | ∃ v, r.Lists v ∧ ∃ ip, Names v ip ∧ ip.family = f}

/-- A list has what stands between its commas, without blanks and unless it is empty. -/
theorem mem_readList_iff {value v : String} :
    v ∈ readList value ↔
      ∃ entry ∈ splitOn ',' value.toList, trim entry ≠ [] ∧ String.ofList (trim entry) = v := by
  simp [readList, and_assoc]

/-- An empty text is not listed. -/
theorem mem_vips_iff {r : Row} {v : String} : v ∈ r.vips ↔ r.Lists v ∧ v ≠ "" := by
  rw [vips, List.mem_append, Option.mem_toList, vip?, Metadata.text?,
    Option.filter_eq_some_iff, bne_iff_ne, additionalVips, Metadata.text?]
  constructor
  · rintro (⟨hvip, hne⟩ | hv)
    · exact ⟨.primary v hvip, hne⟩
    · split at hv
      · next value hvalue =>
        obtain ⟨entry, hentry, hne, rfl⟩ := mem_readList_iff.mp hv
        refine ⟨.additional value entry (Option.filter_eq_some_iff.mp hvalue).1 hentry hne, ?_⟩
        simpa using hne
      · cases hv
  · rintro ⟨⟨_, hvip⟩ | ⟨value, entry, hvalue, hentry, hne⟩, hv⟩
    · exact .inl ⟨hvip, hv⟩
    · -- A value without an entry that counts would be no value.
      have hfull : value ≠ "" := by
        rintro rfl
        obtain rfl : entry = [] := by simpa [splitOn] using hentry
        exact hne rfl
      right
      rw [Option.filter_eq_some_iff.mpr ⟨hvalue, by simpa using hfull⟩]
      exact mem_readList_iff.mpr ⟨entry, hentry, hne, rfl⟩

/-- The families of a row's virtual addresses can be told from its metadata alone. -/
theorem families_vips (r : Row) : families r.vips = r.vipFamilies := by
  have hblank (ip : Ip) : ¬ Names "" ip := by
    rw [names_iff]
    have hnone : readHost? "" = none := by decide
    simp [hnone]
  ext f
  constructor
  · rintro ⟨v, hv, hrest⟩
    exact ⟨v, (mem_vips_iff.mp hv).1, hrest⟩
  · rintro ⟨v, hv, ip, hip, hf⟩
    refine ⟨v, mem_vips_iff.mpr ⟨hv, ?_⟩, ip, hip, hf⟩
    rintro rfl
    exact hblank ip hip

end Row

/-- A member's address is in conflict with a row exactly if the virtual addresses of the row are of
one family and the address is of the other.  So it makes no difference in which order the virtual
addresses are given or how often, nor whether there are texts among them that name none, and rows
with addresses of both families take every member. -/
theorem ipVersionDiffers_depends_on_families (row : Row) (address : String) :
    (ipVersionDiffers row.vips address = true ↔
      ∃ f, row.vipFamilies = {f} ∧ ∃ ip, Names address ip ∧ ip.family ≠ f) ∧
    (∀ vips vips' : List String, vips.Perm vips' →
      ipVersionDiffers vips address = ipVersionDiffers vips' address) ∧
    (∀ vips : List String, ∀ v ∈ vips,
      ipVersionDiffers (v :: vips) address = ipVersionDiffers vips address) ∧
    (∀ (front back : List String) (v : String), (∀ ip, ¬ Names v ip) →
      ipVersionDiffers (front ++ v :: back) address =
        ipVersionDiffers (front ++ back) address) ∧
    (∀ vips : List String, .v4 ∈ families vips → .v6 ∈ families vips →
      ipVersionDiffers vips address = false) := by
  refine ⟨?_, ?_, ?_, ?_, ?_⟩
  · rw [ipVersionDiffers_iff, row.families_vips]
  · intro vips vips' hperm
    exact ipVersionDiffers_congr (families_congr fun v ↦ hperm.mem_iff) address
  · intro vips v hv
    refine ipVersionDiffers_congr (families_congr fun u ↦ ?_) address
    simpa using fun hu : u = v ↦ hu ▸ hv
  · intro front back v hv
    exact ipVersionDiffers_congr (families_insert hv front back) address
  · intro vips h4 h6
    rw [Bool.eq_false_iff, Ne, ipVersionDiffers_iff]
    rintro ⟨f, hf, -⟩
    rw [hf] at h4 h6
    cases h4.trans h6.symm

namespace Sample

/-- A row with addresses of both families, and with two texts that are none. -/
def bothFamilies : Row where
  uuid := "u1"
  name := "lb1"
  protocol := none
  externalIds :=
    [("neutron:vip", "10.0.0.5"), ("neutron:additional_vips", "junk, , [fd00::5/64]")]

end Sample

theorem ipVersionDiffers_depends_on_families_on_sample :
    Sample.bothFamilies.vips = ["10.0.0.5", "junk", "[fd00::5/64]"] ∧
    .v4 ∈ families Sample.bothFamilies.vips ∧ .v6 ∈ families Sample.bothFamilies.vips ∧
    ipVersionDiffers Sample.bothFamilies.vips "fd00::9" = false ∧
    (∀ ip, ¬ Names "junk" ip) ∧
    ipVersionDiffers ["10.0.0.5", "junk"] "fd00::9" = ipVersionDiffers ["10.0.0.5"] "fd00::9" := by
  have hvips : Sample.bothFamilies.vips = ["10.0.0.5", "junk", "[fd00::5/64]"] := by decide +kernel
  have h4 : .v4 ∈ families Sample.bothFamilies.vips :=
    mem_families_iff.mpr (by rw [hvips]; decide +kernel)
  have h6 : .v6 ∈ families Sample.bothFamilies.vips :=
    mem_families_iff.mpr (by rw [hvips]; decide +kernel)
  have hjunk (ip : Ip) : ¬ Names "junk" ip := by
    have hnone : readHost? "junk" = none := by decide +kernel
    simp [names_iff, hnone]
  obtain ⟨-, -, -, hinsert, hboth⟩ :=
    ipVersionDiffers_depends_on_families Sample.bothFamilies "fd00::9"
  exact ⟨hvips, h4, h6, hboth _ h4 h6, hjunk, hinsert ["10.0.0.5"] [] "junk" hjunk⟩

end BalancerSync
