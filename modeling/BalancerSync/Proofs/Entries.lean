import BalancerSync.Proofs.Address
import BalancerSync.Record.Entry
import Mathlib.Data.List.Basic
import Mathlib.Tactic.MkIffOfInductiveProp

/-!
# Pools that are read back

The backend keeps the members of a pool in one text, in which anything may have got between the
entries.  An entry is read back from its text if nothing in it can be taken for a separator and no
blank at its end is lost (`MemberEntry.Legible`); then a pool whose segments are such entries and
texts that are none is read as the entries, in order (`MemberEntry.readPool_intercalate`).
-/

namespace BalancerSync

open Text

namespace MemberEntry

/-! ## Entries that can be read -/

/-- Nothing in the entry is a separator of fields, its id and address are there, and no blank at the
end of a field is lost. -/
@[mk_iff]
structure Legible (e : MemberEntry) : Prop where
  id_ne : e.id ≠ ""
  id_field : '_' ∉ e.id.toList
  address_ne : e.address ≠ ""
  address_field : '_' ∉ e.address.toList
  address_trimmed : trim e.address.toList = e.address.toList
  subnet_field : ∀ s ∈ e.subnetId, '_' ∉ s.toList
  subnet_trimmed : ∀ s ∈ e.subnetId, dropEnd isBlank s.toList = s.toList

/-- The fields of the entry's text are those of the entry: there is no separator in any of them, and
no blank at the end of the last. -/
structure Separable (e : MemberEntry) : Prop where
  id_field : '_' ∉ e.id.toList
  address_field : '_' ∉ e.address.toList
  subnet_field : ∀ s ∈ e.subnetId, '_' ∉ s.toList
  subnet_trimmed : ∀ s ∈ e.subnetId, dropEnd isBlank s.toList = s.toList

/-- A legible entry can be taken apart at its separators. -/
theorem Legible.separable {e : MemberEntry} (h : e.Legible) : e.Separable :=
  ⟨h.id_field, h.address_field, h.subnet_field, h.subnet_trimmed⟩

/-- A legible entry without separators of entries in it. -/
@[mk_iff]
structure Encodable (e : MemberEntry) : Prop extends Legible e where
  id_entry : ',' ∉ e.id.toList
  address_entry : ',' ∉ e.address.toList
  subnet_entry : ∀ s ∈ e.subnetId, ',' ∉ s.toList

instance (e : MemberEntry) : Decidable e.Legible := decidable_of_iff' _ (legible_iff e)

instance (e : MemberEntry) : Decidable e.Encodable := decidable_of_iff' _ (encodable_iff e)

/-! ## The fields of an entry -/

/-- What is neither in the address nor a digit, bracket or colon is not in the endpoint. -/
theorem not_mem_renderEndpoint {c : Char} {address : List Char} (h : c ∉ address)
    (hdigit : digit? 10 c = none) (hmark : c ∉ ['[', ']', ':']) (port : UInt16) :
    c ∉ renderEndpoint address port := by
  have hport := not_mem_showNat hdigit port.toNat
  simp only [List.mem_cons, List.not_mem_nil, or_false, not_or] at hmark
  obtain ⟨hopen, hclose, hcolon⟩ := hmark
  simp only [renderEndpoint]
  split <;> simp [*]

/-- The address is between the brackets, if there are any, and the port after the last colon. -/
theorem readEndpoint_renderEndpoint {address : List Char} (hbare : unbracket address = address)
    (port : UInt16) :
    readEndpoint (renderEndpoint address port) =
      if address.isEmpty then .error .address else .ok (address, port) := by
  have hcolon : ':' ∉ showNat port.toNat := not_mem_showNat (by decide) port.toNat
  have hhost : unbracket (if address.contains ':' then '[' :: address ++ [']'] else address) =
      address := by
    split
    · rw [unbracket_brackets, hbare]
    · exact hbare
  simp only [readEndpoint, renderEndpoint, cutLast_append_cons hcolon, hhost,
    readWord16?_showNat]

/-- Between the separators, an entry has its tag and its fields. -/
theorem splitOn_renderChars {e : MemberEntry} (h : e.Separable) :
    splitOn '_' e.renderChars =
      tag :: e.id.toList :: renderEndpoint e.address.toList e.port
        :: (e.subnetId.map String.toList).toList := by
  have htag : '_' ∉ tag := by decide
  have hendpoint : '_' ∉ renderEndpoint e.address.toList e.port :=
    not_mem_renderEndpoint h.address_field (by decide) (by decide) e.port
  simp only [renderChars, List.append_assoc, List.cons_append]
  rw [splitOn_append_cons htag, splitOn_append_cons h.id_field]
  cases hs : e.subnetId with
  | none => simp [renderSubnet, splitOn_of_not_mem hendpoint]
  | some s =>
    rw [renderSubnet, splitOn_append_cons hendpoint, splitOn_of_not_mem (h.subnet_field s hs)]
    rfl

theorem getLast?_append_cons {c d : Char} {front back : List Char}
    (h : c ∈ (front ++ d :: back).getLast?) : c = d ∨ c ∈ back.getLast? := by
  rw [List.getLast?_append_of_ne_nil _ (List.cons_ne_nil d back), List.getLast?_cons] at h
  cases hback : back.getLast? with
  | none => exact .inl (by simpa [hback, eq_comm] using h)
  | some x => exact .inr (by simpa [hback] using h)

/-- An entry ends in a digit, or in its subnet. -/
theorem isBlank_getLast?_renderChars {e : MemberEntry} (h : e.Separable) :
    ∀ c ∈ e.renderChars.getLast?, isBlank c = false := by
  intro c hc
  cases hs : e.subnetId with
  | none =>
    simp only [renderChars, hs, renderSubnet, List.append_nil, renderEndpoint] at hc
    rw [← List.cons_append, ← List.append_assoc] at hc
    rcases getLast?_append_cons hc with rfl | hc
    · rfl
    · exact isBlank_of_digit? (by decide) (digit?_of_mem_showNat (List.mem_of_mem_getLast? hc))
  | some s =>
    simp only [renderChars, hs, renderSubnet] at hc
    rcases getLast?_append_cons hc with rfl | hc
    · rfl
    · rw [← h.subnet_trimmed s hs] at hc
      exact getLast?_dropEnd isBlank s.toList c hc

/-- An entry has no blanks around it. -/
theorem trim_renderChars {e : MemberEntry} (h : e.Separable) :
    trim e.renderChars = e.renderChars := by
  apply trim_eq_self
  · rintro c ⟨⟩
    rfl
  · exact isBlank_getLast?_renderChars h

/-- An entry that may be recorded has no comma, so that it is one segment. -/
theorem comma_not_mem_renderChars {e : MemberEntry} (h : e.Encodable) : ',' ∉ e.renderChars := by
  have htag : ',' ∉ tag := by decide
  have hendpoint : ',' ∉ renderEndpoint e.address.toList e.port :=
    not_mem_renderEndpoint h.address_entry (by decide) (by decide) e.port
  have hsubnet : ',' ∉ renderSubnet e.subnetId := by
    cases hs : e.subnetId with
    | none => exact List.not_mem_nil
    | some s => simpa [renderSubnet] using h.subnet_entry s hs
  simp [renderChars, htag, h.id_entry, hendpoint, hsubnet]

/-! ## Entries read back -/

/-- Blanks around an entry make no difference. -/
theorem readChars_trim (cs : List Char) : readChars (trim cs) = readChars cs := by
  rw [readChars, readChars, trim_trim]

section Fields

variable {id address : String} {port : UInt16} {subnetId : Option String} {e : MemberEntry}

/-- An entry is that of its own fields: its address has its canonical text by then, which loses
nothing but blanks at its ends. -/
theorem of_fields_iff (he : e = of id address port subnetId) :
    of e.id e.address e.port e.subnetId = e ↔ trim e.address.toList = e.address.toList := by
  have haddress : canonicalAddress e.address = e.address ↔
      trim e.address.toList = e.address.toList := by
    simp only [he, of, canonicalAddress, String.toList_ofList, String.ofList_inj,
      canonicalChars_idem_iff]
  rw [← haddress]
  subst he
  simp [of, Option.filter_filter]

/-- The address of a new entry has no brackets left. -/
theorem unbracket_address (he : e = of id address port subnetId) :
    unbracket e.address.toList = e.address.toList := by
  simp only [he, of, canonicalAddress, String.toList_ofList, unbracket_canonicalChars]

/-- The text of an entry is read as the entry of its fields, unless there is no address in it. -/
theorem readChars_renderChars (h : e.Separable) (hid : e.id ≠ "")
    (hbare : unbracket e.address.toList = e.address.toList) :
    readChars e.renderChars =
      if e.address = "" then .error .address else .ok (of e.id e.address e.port e.subnetId) := by
  have hfields (endpoint : List Char) :
      readFields (tag :: e.id.toList :: endpoint :: (e.subnetId.map String.toList).toList) =
        .ok (e.id.toList, endpoint, e.subnetId.map String.toList) := by
    cases e.subnetId <;> rfl
  have hid : e.id.toList.isEmpty = false := by simpa using hid
  have hsubnet : (e.subnetId.map String.toList).map String.ofList = e.subnetId := by
    simp [Option.map_map, Function.comp_def]
  have hendpoint : readEndpoint (renderEndpoint e.address.toList e.port) =
      if e.address = "" then .error .address else .ok (e.address.toList, e.port) := by
    rw [readEndpoint_renderEndpoint hbare]
    simp
  rw [readChars, trim_renderChars h, splitOn_renderChars h, hfields]
  split
  · next haddress =>
    rw [if_pos haddress] at hendpoint
    simp [hid, hendpoint, bind, Except.bind]
  · next haddress =>
    rw [if_neg haddress] at hendpoint
    simp [hid, hendpoint, hsubnet, bind, Except.bind, pure, Except.pure]

/-- A separable entry is read back from its text if its address is there and has no blank at its
ends, and only then. -/
theorem readChars_renderChars_eq_ok_iff (h : e.Separable) (hid : e.id ≠ "")
    (he : e = of id address port subnetId) :
    readChars e.renderChars = .ok e ↔
      e.address ≠ "" ∧ trim e.address.toList = e.address.toList := by
  rw [readChars_renderChars h hid (unbracket_address he), ← of_fields_iff he]
  split
  · next haddress => simp [haddress]
  · next haddress => simp [haddress]

end Fields

/-! ## Pools -/

/-- A piece of a recorded pool: the entry of a member that can be read, or a text that is none. -/
inductive Segment
  | entry (id address : String) (port : UInt16) (subnetId : Option String)
      (h : (of id address port subnetId).Encodable)
  | other (text : String) (comma : ',' ∉ text.toList) (h : ∃ f, read text = .error f)

namespace Segment

def text : Segment → String
  | entry id address port subnetId _ => (of id address port subnetId).render
  | other text _ _ => text

def entry? : Segment → Option MemberEntry
  | entry id address port subnetId _ => some (of id address port subnetId)
  | other .. => none

/-- No segment has a comma. -/
theorem comma_not_mem_text (x : Segment) : ',' ∉ x.text.toList := by
  cases x with
  | entry id address port subnetId h => simpa [text, render] using comma_not_mem_renderChars h
  | other text comma h => exact comma

/-- A segment is read as the entry it stands for, or as none. -/
theorem toOption_readChars_text (x : Segment) : (readChars x.text.toList).toOption = x.entry? := by
  cases x with
  | entry id address port subnetId h =>
    rw [text, render, String.toList_ofList, (readChars_renderChars_eq_ok_iff
      h.toLegible.separable h.id_ne rfl).mpr ⟨h.address_ne, h.address_trimmed⟩]
    rfl
  | other text comma h =>
    obtain ⟨f, hf⟩ := h
    exact congrArg Except.toOption hf

end Segment

/-- Blanks around a field make no difference, since the field is trimmed in any case. -/
theorem readPool_eq (value : String) :
    readPool value = (splitOn ',' value.toList).filterMap fun cs ↦ (readChars cs).toOption := by
  simp only [readPool, List.filterMap_map, Function.comp_def, readChars_trim]

/-- Segments are told apart at the commas. -/
theorem splitOn_intercalate {segments : List Segment} (hne : segments ≠ []) :
    splitOn ',' (",".intercalate (segments.map Segment.text)).toList =
      segments.map (·.text.toList) := by
  have hjoin : (",".intercalate (segments.map Segment.text)).toList =
      join ',' (segments.map (·.text.toList)) := by
    rw [String.toList_intercalate, List.map_map]
    exact intercalate_eq_join ',' _
  rw [hjoin]
  apply splitOn_join (by simpa using hne)
  intro cs hcs
  obtain ⟨x, -, rfl⟩ := List.mem_map.mp hcs
  exact x.comma_not_mem_text

/-- The text of a pool is read as the entries in it, in order, whatever stands between them. -/
theorem readPool_intercalate (segments : List Segment) :
    readPool (",".intercalate (segments.map Segment.text)) = segments.filterMap Segment.entry? := by
  cases segments with
  | nil => rfl
  | cons x xs =>
    rw [readPool_eq, splitOn_intercalate (List.cons_ne_nil x xs), List.filterMap_map]
    apply List.filterMap_congr
    intro y hy
    exact y.toOption_readChars_text

/-- What is no entry is passed over, between two entries as well as at the end. -/
theorem readPool_passes_over_bogus :
    readPool (",".intercalate
      ["member_m1_10.0.0.1:80_sub", " bogus ", "member_m2_[fd00::10]:443", ""]) =
        [of "m1" "10.0.0.1" 80 (some "sub"), of "m2" " [FD00::0010]" 443 none] :=
  readPool_intercalate [
    .entry "m1" "10.0.0.1" 80 (some "sub") (by decide),
    .other " bogus " (by decide) ⟨.tag, rfl⟩,
    .entry "m2" " [FD00::0010]" 443 none (by decide),
    .other "" (by decide) ⟨.tag, rfl⟩]

end MemberEntry

end BalancerSync
