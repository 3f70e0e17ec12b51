import BalancerSync.Proofs.Entries
import BalancerSync.Proofs.Spelling

/-!
# Entries that come back as they are

An entry is recorded as a text and read back later.  A text that is read has its fields in place
(`MemberEntry.Parse`), and whatever it is read as has no separator in a field.  So the entries that
come back are exactly the legible ones (`MemberEntry.read_render_iff_legible`), and what has been
read once is read again unless its address is left with a blank at an end or with nothing at all
(`MemberEntry.read_again_iff`).
-/

namespace BalancerSync

open Text

/-! ## Canonical texts at their ends -/

variable {cs : List Char}

/-- To make a text canonical brings in no characters but those of addresses. -/
theorem not_mem_canonicalChars {c : Char} (h : c ∉ cs) (hc : Ip.isAddressChar c = false) :
    c ∉ canonicalChars cs := by
  rcases canonicalChars_cases cs with ⟨ip, hip⟩ | ⟨hbare, -⟩
  · rw [hip]
    exact Ip.not_mem_render hc
  · rw [hbare]
    exact fun hmem ↦ h ((trim_sublist cs).subset ((unbracket_sublist _).subset hmem))

/-- A canonical text is there and has no blank at its ends if and only if the same holds of what
the blanks and brackets have left. -/
theorem canonicalChars_trimmed_iff :
    canonicalChars cs ≠ [] ∧ trim (canonicalChars cs) = canonicalChars cs ↔
      bareAddress cs ≠ [] ∧ trim (bareAddress cs) = bareAddress cs := by
  cases h : Ip.read? (bareAddress cs) with
  | none => simp [canonicalChars, h]
  | some ip =>
    -- Neither is empty, since the empty text is no address.
    have hempty : Ip.read? [] = none := rfl
    have hrender : ip.render ≠ [] := by
      intro hnil
      simpa [hnil, hempty] using Ip.read?_render ip
    have hbare : bareAddress cs ≠ [] := by
      intro hnil
      simp [hnil, hempty] at h
    have htrim : trim (bareAddress cs) = bareAddress cs :=
      trim_of_isAddressChar fun c hc ↦ Ip.isAddressChar_of_read? h hc
    have hcanonical : canonicalChars cs = ip.render := by simp [canonicalChars, h]
    rw [hcanonical]
    exact iff_of_true ⟨hrender, trim_render ip⟩ ⟨hbare, htrim⟩

namespace MemberEntry

/-! ## Texts that are read -/

/-- The fields of an entry are its tag, an identifier, an endpoint and perhaps a subnet, and no
others. -/
theorem readFields_eq_ok_iff {fields : List (List Char)} {id endpoint : List Char}
    {subnet : Option (List Char)} :
    readFields fields = .ok (id, endpoint, subnet) ↔
      fields = tag :: id :: endpoint :: subnet.toList := by
  constructor
  · intro h
    unfold readFields at h
    split at h
    · split at h
      · next ht => cases h; rw [ht]; rfl
      · cases h
    · split at h
      · next ht => cases h; rw [ht]; rfl
      · cases h
    · split at h <;> cases h
    · cases h
  · rintro rfl
    cases subnet <;> rfl

/-- An endpoint is cut at its last colon, into a host that is not empty and a port. -/
theorem readEndpoint_eq_ok_iff {endpoint address : List Char} {p : UInt16} :
    readEndpoint endpoint = .ok (address, p) ↔
      ∃ host digits, cutLast ':' endpoint = some (host, digits) ∧ unbracket host = address ∧
        address ≠ [] ∧ readWord16? digits = some p := by
  constructor
  · intro h
    rw [readEndpoint] at h
    cases hcut : cutLast ':' endpoint with
    | none => simp [hcut] at h
    | some parts =>
      obtain ⟨host, digits⟩ := parts
      by_cases hnil : unbracket host = []
      · simp [hcut, hnil] at h
      · cases hport : readWord16? digits with
        | none => simp [hcut, hnil, hport] at h
        | some q =>
          simp only [hcut, hport, List.isEmpty_iff, if_neg hnil, Except.ok.injEq,
            Prod.mk.injEq] at h
          obtain ⟨rfl, rfl⟩ := h
          exact ⟨host, digits, rfl, rfl, hnil, hport⟩
  · rintro ⟨host, digits, hcut, rfl, hne, hport⟩
    simp [readEndpoint, hcut, hport, hne]

/-- What a text that is read as an entry consists of: the fields between the separators, and the two
sides of the last colon of the endpoint.  There is something in the id, and in the host besides its
brackets. -/
structure Parse (cs : List Char) where
  id : List Char
  endpoint : List Char
  subnet : Option (List Char)
  host : List Char
  digits : List Char
  port : UInt16
  fields : splitOn '_' (trim cs) = tag :: id :: endpoint :: subnet.toList
  id_ne : id ≠ []
  cut : cutLast ':' endpoint = some (host, digits)
  inside_ne : unbracket host ≠ []
  port_read : readWord16? digits = some port

namespace Parse

/-- The address as it stands between the brackets, if there are any. -/
def inside (x : Parse cs) : List Char := unbracket x.host

def entry (x : Parse cs) : MemberEntry :=
  of (String.ofList x.id) (String.ofList x.inside) x.port (x.subnet.map String.ofList)

/-- An entry that was read has an identifier. -/
theorem id_entry_ne (x : Parse cs) : x.entry.id ≠ "" := by
  simpa [entry, of] using x.id_ne

theorem toList_address_entry (x : Parse cs) : x.entry.address.toList = canonicalChars x.inside := by
  simp [entry, of, canonicalAddress]

/-- No field of an entry that was read has the separator. -/
theorem separator_not_mem (x : Parse cs) {f : List Char}
    (h : f ∈ tag :: x.id :: x.endpoint :: x.subnet.toList) : '_' ∉ f := by
  rw [← x.fields] at h
  exact not_mem_of_mem_splitOn h

/-- The last field ends where the text ends, which is not in a blank. -/
theorem dropEnd_subnet (x : Parse cs) {s : List Char} (h : x.subnet = some s) :
    dropEnd isBlank s = s := by
  have htext : trim cs = (tag ++ '_' :: x.id ++ '_' :: x.endpoint) ++ '_' :: s := by
    rw [← join_splitOn '_' (trim cs), x.fields, h]
    simp [join]
  apply dropEnd_eq_self
  intro c hc
  have hlast : c ∈ (trim cs).getLast? := by
    rw [htext, List.getLast?_append_of_ne_nil _ (List.cons_ne_nil '_' s), List.getLast?_cons]
    simp [Option.mem_def.mp hc]
  exact getLast?_dropEnd isBlank _ c hlast

theorem subnet_eq_of_mem (x : Parse cs) {s : String} (h : s ∈ x.entry.subnetId) :
    x.subnet = some s.toList := by
  obtain ⟨hs, -⟩ := Option.mem_filter_iff.mp h
  obtain ⟨t, ht, rfl⟩ := Option.map_eq_some_iff.mp hs
  rw [ht, String.toList_ofList]

/-- No field of what is read has a separator in it. -/
theorem separable_entry (x : Parse cs) : x.entry.Separable where
  id_field := by
    simpa [entry, of] using x.separator_not_mem (f := x.id) (by simp)
  address_field := by
    have hendpoint : '_' ∉ x.endpoint := x.separator_not_mem (by simp)
    rw [(cutLast_eq_some_iff.mp x.cut).1] at hendpoint
    have hinside : '_' ∉ x.inside := fun hmem ↦
      hendpoint (List.mem_append_left _ ((unbracket_sublist x.host).subset hmem))
    rw [toList_address_entry]
    exact not_mem_canonicalChars hinside (by decide)
  subnet_field := by
    intro s hs
    have hsubnet := x.subnet_eq_of_mem hs
    exact x.separator_not_mem (by simp [hsubnet])
  subnet_trimmed := by
    intro s hs
    exact x.dropEnd_subnet (x.subnet_eq_of_mem hs)

end Parse

/-- A text is read as an entry if and only if it has the fields of one. -/
theorem readChars_eq_ok_iff {e : MemberEntry} :
    readChars cs = .ok e ↔ ∃ x : Parse cs, x.entry = e := by
  constructor
  · intro h
    rw [readChars] at h
    cases hfields : readFields (splitOn '_' (trim cs)) with
    | error f => simp [hfields, bind, Except.bind] at h
    | ok parts =>
      obtain ⟨id, endpoint, subnet⟩ := parts
      by_cases hid : id = []
      · simp [hfields, hid, bind, Except.bind, throw, throwThe, MonadExceptOf.throw] at h
      · cases hendpoint : readEndpoint endpoint with
        | error f =>
          simp [hfields, hid, hendpoint, bind, Except.bind] at h
        | ok place =>
          obtain ⟨address, port⟩ := place
          obtain ⟨host, digits, hcut, rfl, hinside, hport⟩ := readEndpoint_eq_ok_iff.mp hendpoint
          refine ⟨⟨id, endpoint, subnet, host, digits, port, readFields_eq_ok_iff.mp hfields, hid,
            hcut, hinside, hport⟩, ?_⟩
          simpa [hfields, hid, hendpoint, Parse.entry, Parse.inside, bind, Except.bind, pure,
            Except.pure] using h
  · rintro ⟨x, rfl⟩
    have hfields := readFields_eq_ok_iff.mpr x.fields
    have hendpoint : readEndpoint x.endpoint = .ok (x.inside, x.port) :=
      readEndpoint_eq_ok_iff.mpr ⟨x.host, x.digits, x.cut, rfl, x.inside_ne, x.port_read⟩
    have hid : x.id.isEmpty = false := by simpa using x.id_ne
    rw [readChars, hfields]
    simp [hid, hendpoint, Parse.entry, bind, Except.bind, pure, Except.pure]

/-! ## Entries that are read again -/

/-- The text of an entry is read as its characters are. -/
theorem read_render (e : MemberEntry) : read e.render = readChars e.renderChars := by
  rw [read, render, String.toList_ofList]

/-- An entry is read back from its text if and only if it is legible.  The text of any other is no
entry, or another one. -/
theorem read_render_iff_legible (id address : String) (port : UInt16) (subnetId : Option String) :
    (read (of id address port subnetId).render = .ok (of id address port subnetId) ↔
        (of id address port subnetId).Legible) ∧
      (¬ (of id address port subnetId).Legible →
        (∃ f, read (of id address port subnetId).render = .error f) ∨
          ∃ e, e ≠ of id address port subnetId ∧
            read (of id address port subnetId).render = .ok e) := by
  generalize he : of id address port subnetId = e
  have hiff : read e.render = .ok e ↔ e.Legible := by
    rw [read_render]
    constructor
    · intro h
      -- What has been read is separable, so its text has just the fields of the entry.
      obtain ⟨x, hx⟩ := readChars_eq_ok_iff.mp h
      have hsep : e.Separable := hx ▸ x.separable_entry
      have hid : e.id ≠ "" := hx ▸ x.id_entry_ne
      obtain ⟨hne, htrim⟩ := (readChars_renderChars_eq_ok_iff hsep hid he.symm).mp h
      exact ⟨hid, hsep.id_field, hne, hsep.address_field, htrim, hsep.subnet_field,
        hsep.subnet_trimmed⟩
    · intro h
      exact (readChars_renderChars_eq_ok_iff h.separable h.id_ne he.symm).mpr
        ⟨h.address_ne, h.address_trimmed⟩
  refine ⟨hiff, fun hnot ↦ ?_⟩
  cases hread : read e.render with
  | error f => exact .inl ⟨f, rfl⟩
  | ok e' =>
    refine .inr ⟨e', ?_, rfl⟩
    rintro rfl
    exact hnot (hiff.mp hread)

/-- A separator in the id moves the address to the place of the subnet. -/
example : read (of "m1_10.0.0.9:81" "10.0.0.1" 80 none).render =
    .ok ⟨"m1", "10.0.0.9", 81, some "10.0.0.1:80"⟩ := by
  cbv

/-- What has been read has an id.  It has an address and is read again from its own text if and only
if the blanks and brackets around the address leave something of it with no blank at its ends,
which is so if there is no blank next to the brackets on their inner side. -/
theorem read_again_iff {raw : String} {e : MemberEntry} (h : read raw = .ok e) :
    e.id ≠ "" ∧ ∃ x : Parse raw.toList, x.entry = e ∧
      (e.address ≠ "" ∧ read e.render = .ok e ↔
        bareAddress x.inside ≠ [] ∧ trim (bareAddress x.inside) = bareAddress x.inside) ∧
      (trim x.inside = x.inside → e.address ≠ "" ∧ read e.render = .ok e) := by
  obtain ⟨x, rfl⟩ := readChars_eq_ok_iff.mp h
  have hiff : x.entry.address ≠ "" ∧ read x.entry.render = .ok x.entry ↔
      bareAddress x.inside ≠ [] ∧ trim (bareAddress x.inside) = bareAddress x.inside := by
    have hne : x.entry.address ≠ "" ↔ canonicalChars x.inside ≠ [] := by
      rw [← x.toList_address_entry]
      simp
    rw [← canonicalChars_trimmed_iff, ← hne, ← x.toList_address_entry, read_render,
      readChars_renderChars_eq_ok_iff x.separable_entry x.id_entry_ne rfl, ← and_assoc, and_self]
  refine ⟨x.id_entry_ne, x, rfl, hiff, fun htrim ↦ hiff.mpr ?_⟩
  have hbare : bareAddress x.inside = x.inside := by
    rw [bareAddress, htrim, Parse.inside, unbracket_unbracket]
  rw [hbare]
  exact ⟨x.inside_ne, htrim⟩

/-- Blanks inside the brackets do no harm to the text of an address. -/
theorem read_again_on_sample :
    read "member_m1_[ FD00::0010 ]:80" = .ok ⟨"m1", "fd00::10", 80, none⟩ ∧
      read (⟨"m1", "fd00::10", 80, none⟩ : MemberEntry).render =
        .ok ⟨"m1", "fd00::10", 80, none⟩ := by
  have h : read "member_m1_[ FD00::0010 ]:80" = .ok ⟨"m1", "fd00::10", 80, none⟩ := by
    decide +kernel
  obtain ⟨-, x, hx, hiff, -⟩ := read_again_iff h
  have hcanonical : canonicalChars x.inside = "fd00::10".toList := by
    rw [← x.toList_address_entry, hx]
  refine ⟨h, (hiff.mpr (canonicalChars_trimmed_iff.mp ?_)).2⟩
  rw [hcanonical]
  decide

/-- An address of blanks is read as one that is empty, and then no longer as an address. -/
theorem read_accepts_blank_address :
    read "member_m1_ :80" = .ok ⟨"m1", "", 80, none⟩ ∧
      read (⟨"m1", "", 80, none⟩ : MemberEntry).render = .error .address := by
  decide +kernel

end MemberEntry

end BalancerSync
