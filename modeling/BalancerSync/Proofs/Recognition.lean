import BalancerSync.Proofs.Batch
import Mathlib.Data.List.Nodup

/-!
# Recognised members

Where ids tell members apart, a batch finds for each member the one entry that may be the member's.
It recognises the member if the entry has the subnet that the member is placed in.  An entry from
the time when subnets were not recorded has none, so its member is not recognised: it is created
once more, and then its entry is deleted.
-/

namespace BalancerSync

variable {σ : Type}

open Bag

/-- The entry is that of the member as far as id, address and port go. -/
structure MemberEntry.Records (e : MemberEntry) (m : Member) : Prop where
  id : e.id = m.id
  address : e.address = canonicalAddress (m.address.nonEmpty.getD "")
  port : e.port = m.port.asOption.getD 0

/-- The request deletes the entry, or tells that its member left. -/
def ChangeRequest.Removes (r : ChangeRequest) (e : MemberEntry) : Prop :=
  (r.operation = .memberDelete ∨ r.operation = .handleMemberDvr) ∧ r.text? "id" = some e.id

namespace Driver

/-- The subnet that is recorded for a member in this subnet. -/
def recordedSubnet (subnet : String) : Option String := (some subnet).filter (· != "")

/-- Of an entry that records a member, only the subnet decides whether it is the entry of that
member. -/
theorem eq_entryOf_iff {e : MemberEntry} {m : Member} (h : e.Records m) (subnet : String) :
    e = entryOf m subnet ↔ e.subnetId = recordedSubnet subnet := by
  obtain ⟨id, address, port, subnetId⟩ := e
  obtain ⟨rfl, rfl, rfl⟩ := h
  simp [entryOf, MemberEntry.of, recordedSubnet]

/-- What is sent about entries that are left over is about their ids. -/
theorem exists_mem_of_mem_deletions {poolId : String} {es : List MemberEntry} {r : ChangeRequest}
    (h : r ∈ deletions poolId es) : ∃ e ∈ es, r.text? "id" = some e.id := by
  obtain ⟨e, he, hr⟩ := List.mem_flatMap.1 h
  refine ⟨e, he, ?_⟩
  rcases List.mem_pair.1 hr with rfl | rfl
  · rfl
  · rfl

/-- The members of a batch stand in their order, each with its own subnet. -/
theorem members_of_placed {row : Row} {found : Except DriverError (Option (String × String))}
    {members : List Member} {resolved : List (Member × String)}
    (h : List.Forall₂ (fun m p ↦ p.1 = m ∧ batchSubnet row found m = .ok p.2) members resolved) :
    resolved.map (·.1) = members ∧ ∀ p ∈ resolved, batchSubnet row found p.1 = .ok p.2 := by
  induction h with
  | nil => exact ⟨rfl, fun p hp ↦ nomatch hp⟩
  | cons hp _ ih =>
    obtain ⟨rfl, hsubnet⟩ := hp
    refine ⟨congrArg (_ :: ·) ih.1, ?_⟩
    intro p hp
    rcases List.mem_cons.1 hp with rfl | hp
    · exact hsubnet
    · exact ih.2 p hp

/-- The operation for a member of a batch whose ids are distinct. -/
def recognition (recorded : List MemberEntry) (e : MemberEntry) : Operation :=
  if e ∈ recorded then .memberUpdate else .memberCreate

section Distinct

variable {poolId : String} {recorded : List MemberEntry} {resolved : List (Member × String)}

/-- Members with distinct ids have distinct entries. -/
theorem nodup_batchEntries (h : ((resolved.map (·.1)).map (·.id)).Nodup) :
    (batchEntries resolved).Nodup := by
  have hids : (batchEntries resolved).map (·.id) = (resolved.map (·.1)).map (·.id) := by
    simp [batchEntries, entryOf, MemberEntry.of]
  rw [← hids] at h
  exact h.of_map _

/-- If no entry is asked for twice, each member is matched by whether its entry is recorded at
all. -/
theorem batchRequests_of_nodup (h : (batchEntries resolved).Nodup) :
    batchRequests resolved (firsts (recorded.count ·) (batchEntries resolved)) =
      resolved.map fun p ↦ .member (recognition recorded (entryOf p.1 p.2)) p.1 (some p.2) := by
  rw [firsts_of_nodup h, batchRequests, batchEntries, List.map_map, List.zipWith_map_right,
    List.zipWith_self]
  refine List.map_congr_left ?_
  rintro ⟨m, subnet⟩ -
  by_cases hmem : entryOf m subnet ∈ recorded <;> simp [recognition, hmem]

/-- The entry of one member is no other member's. -/
theorem mem_batchEntries_iff (h : ((resolved.map (·.1)).map (·.id)).Nodup) {m : Member}
    {subnet : String} (hp : (m, subnet) ∈ resolved) {e : MemberEntry} (hid : e.id = m.id) :
    e ∈ batchEntries resolved ↔ e = entryOf m subnet := by
  constructor
  · intro he
    obtain ⟨p, hp', rfl⟩ := List.mem_map.1 he
    rw [List.map_map] at h
    rw [List.inj_on_of_nodup_map h hp' hp hid]
  · rintro rfl
    exact List.mem_map.2 ⟨(m, subnet), hp, rfl⟩

/-- With distinct members the plan has one request for each of them, and then the deletions of what
is left. -/
theorem batchPlan_eq_append (h : ((resolved.map (·.1)).map (·.id)).Nodup) :
    batchPlan poolId recorded resolved =
      (resolved.map fun p ↦ .member (recognition recorded (entryOf p.1 p.2)) p.1 (some p.2)) ++
        deletions poolId (recorded.diff (batchEntries resolved)) := by
  rw [batchPlan, batchRequests_of_nodup (nodup_batchEntries h)]

/-- The request for a member stands at the place of the member in the batch. -/
theorem getElem?_batchPlan (h : ((resolved.map (·.1)).map (·.id)).Nodup) {i : Nat} {m : Member}
    {subnet : String} (hi : resolved[i]? = some (m, subnet)) :
    (batchPlan poolId recorded resolved)[i]? =
      some (.member (recognition recorded (entryOf m subnet)) m (some subnet)) := by
  have hlt : i < resolved.length := (List.getElem?_eq_some_iff.1 hi).1
  rw [batchPlan_eq_append h, List.getElem?_append_left (by simpa using hlt), List.getElem?_map, hi]
  rfl

variable {e : MemberEntry} {m : Member} {subnet : String}

/-- Of the recorded entries only the one with the member's id may be the member's. -/
theorem entryOf_mem_iff (hrecorded : (recorded.map (·.id)).Nodup) (he : e ∈ recorded)
    (hm : e.Records m) : entryOf m subnet ∈ recorded ↔ e.subnetId = recordedSubnet subnet := by
  rw [← eq_entryOf_iff hm]
  constructor
  · intro hmem
    exact List.inj_on_of_nodup_map hrecorded he hmem hm.id
  · rintro rfl
    exact he

/-- A recorded member is recognised exactly when its entry has the subnet that it is resolved to. -/
theorem recognition_of_records (hrecorded : (recorded.map (·.id)).Nodup) (he : e ∈ recorded)
    (hm : e.Records m) : recognition recorded (entryOf m subnet) =
      if e.subnetId = recordedSubnet subnet then .memberUpdate else .memberCreate := by
  simp only [recognition, entryOf_mem_iff hrecorded he hm]

/-- An entry is left over if no member of the batch takes it up. -/
theorem mem_leftover_iff (hrecorded : (recorded.map (·.id)).Nodup) :
    e ∈ recorded.diff (batchEntries resolved) ↔ e ∈ recorded ∧ e ∉ batchEntries resolved :=
  (hrecorded.of_map _).mem_sdiff_iff

/-- An entry that is not left over stays: nothing that is sent removes it. -/
theorem not_removes_of_mem_batchPlan (hmembers : ((resolved.map (·.1)).map (·.id)).Nodup)
    (hrecorded : (recorded.map (·.id)).Nodup) (he : e ∈ recorded)
    (hkept : e ∈ batchEntries resolved) {r : ChangeRequest}
    (hr : r ∈ batchPlan poolId recorded resolved) : ¬ r.Removes e := by
  rintro ⟨hop, hid⟩
  rw [batchPlan_eq_append hmembers, List.mem_append] at hr
  rcases hr with hr | hr
  · obtain ⟨p, -, rfl⟩ := List.mem_map.1 hr
    simp only [ChangeRequest.member, recognition] at hop
    split at hop <;> rcases hop with hop | hop <;> cases hop
  · obtain ⟨x, hx, hxid⟩ := exists_mem_of_mem_deletions hr
    rw [hid, Option.some_inj] at hxid
    obtain ⟨hxmem, hxleft⟩ := (mem_leftover_iff hrecorded).1 hx
    obtain rfl := List.inj_on_of_nodup_map hrecorded he hxmem hxid
    exact hxleft hkept

end Distinct

/-- A batch recognises a member in an entry with the member's id, address and port if the entry has
the member's subnet: then the member is updated, and nothing removes the entry. If the entry has
another subnet or, as in old records, none, the member is created, and the entry is deleted with a
notice that its member left. -/
theorem updateMembers_recognises_same_subnet (d : Driver σ) {poolId key : String} {row : Row}
    {w : σ} {members : List Member} {s s' : Session σ}
    (hfind : findByPoolId d.backend poolId s.world = (.ok (some (key, row)), w))
    (hok : (d.updateMembers poolId members).run s = (.ok (), s'))
    (hmembers : (members.map (·.id)).Nodup) (hentries : ((row.entries key).map (·.id)).Nodup) :
    ∃ sent, s'.emitted = s.emitted ++ sent ∧
      ∀ (i : Nat) (m : Member), members[i]? = some m →
        ∃ subnet, batchSubnet row (d.rowSubnet row w) m = .ok subnet ∧
          ∀ e ∈ row.entries key, e.Records m →
            (e.subnetId = recordedSubnet subnet →
              sent[i]? = some (.member .memberUpdate m (some subnet)) ∧
              ∀ r ∈ sent, ¬ r.Removes e) ∧
            (e.subnetId ≠ recordedSubnet subnet →
              sent[i]? = some (.member .memberCreate m (some subnet)) ∧
              .deleteEntry e poolId ∈ sent ∧ .entryDeleted e poolId ∈ sent) := by
  obtain ⟨v, -, hrun⟩ := d.run_updateMembers hfind members
  rw [hrun] at hok
  obtain ⟨resolved, hresolved, hsubmit⟩ := Act.check_bind_eq_ok.1 hok
  obtain rfl := Act.submit_eq_ok hsubmit
  obtain ⟨hfirst, hplaced⟩ := members_of_placed (batchSubnets_eq_ok.1 hresolved)
  refine ⟨batchPlan poolId (row.entries key) resolved, Session.sent_emitted _ _, ?_⟩
  intro i m hi
  obtain ⟨⟨m, subnet⟩, hp, rfl⟩ : ∃ p, resolved[i]? = some p ∧ p.1 = m := by
    rw [← hfirst, List.getElem?_map] at hi
    exact Option.map_eq_some_iff.1 hi
  have hmem : (m, subnet) ∈ resolved := List.mem_of_getElem? hp
  rw [← hfirst] at hmembers
  refine ⟨subnet, hplaced (m, subnet) hmem, ?_⟩
  intro e he hm
  rw [getElem?_batchPlan hmembers hp, recognition_of_records hentries he hm]
  -- No other member of the batch has this id, so the entry is kept for `m` or not at all.
  have hkept : e ∈ batchEntries resolved ↔ e.subnetId = recordedSubnet subnet := by
    rw [mem_batchEntries_iff hmembers hmem hm.id, eq_entryOf_iff hm]
  constructor
  · intro hsubnet
    rw [if_pos hsubnet]
    refine ⟨rfl, ?_⟩
    intro r hr
    exact not_removes_of_mem_batchPlan hmembers hentries he (hkept.2 hsubnet) hr
  · intro hsubnet
    rw [if_neg hsubnet]
    have hgone := (mem_leftover_iff hentries).2 ⟨he, mt hkept.1 hsubnet⟩
    refine ⟨rfl, ?_, ?_⟩
    · exact List.mem_append_right _ (List.mem_flatMap.2 ⟨e, hgone, by simp⟩)
    · exact List.mem_append_right _ (List.mem_flatMap.2 ⟨e, hgone, by simp⟩)

end Driver

namespace Sample

/-- A pool with an entry that has a subnet, and one from the time when there were none. -/
def mixedRow : Row :=
  ⟨"u1", "lb1", none, [("pool_p1", "member_m2_10.0.0.6:80_sub,member_m3_10.0.0.7:80")]⟩

def mixedDriver : Driver Unit :=
  { driver with backend := (Store.empty.insertLoadBalancer mixedRow).frozen }

/-- The member of the entry without a subnet. -/
def olderMember : Member := { recordedMember with id := "m3", address := .value "10.0.0.7" }

def olderEntry : MemberEntry := ⟨"m3", "10.0.0.7", 80, none⟩

end Sample

theorem Sample.mixedRow_entries : mixedRow.entries "pool_p1" = [entry, olderEntry] := by
  decide +kernel

theorem Sample.findByPoolId_mixedDriver :
    findByPoolId mixedDriver.backend "p1" () = (.ok (some ("pool_p1", mixedRow)), ()) := by
  have hfind : (findByPoolId mixedDriver.backend "p1" ()).1 = .ok (some ("pool_p1", mixedRow)) := by
    decide +kernel
  exact Prod.ext hfind rfl

theorem Sample.olderEntry_records : olderEntry.Records olderMember := by
  constructor <;> decide +kernel

theorem Sample.entry_records : entry.Records recordedMember := by
  constructor <;> decide +kernel

theorem updateMembers_recognises_on_sample :
    ∃ sent, ((Sample.mixedDriver.updateMembers "p1"
        [Sample.recordedMember, Sample.olderMember]).run (.start ())).2.emitted = sent ∧
      sent[0]? = some (.member .memberUpdate Sample.recordedMember (some "sub")) ∧
      (∀ r ∈ sent, ¬ r.Removes Sample.entry) ∧
      sent[1]? = some (.member .memberCreate Sample.olderMember (some "sub")) ∧
      .deleteEntry Sample.olderEntry "p1" ∈ sent := by
  have hok : ((Sample.mixedDriver.updateMembers "p1"
      [Sample.recordedMember, Sample.olderMember]).run (.start ())).1 = .ok () := by
    decide +kernel
  obtain ⟨sent, hsent, hall⟩ := Driver.updateMembers_recognises_same_subnet Sample.mixedDriver
    Sample.findByPoolId_mixedDriver (Act.run_eq_of_fst hok) (by decide)
    (by rw [Sample.mixedRow_entries]; decide)
  rw [Sample.mixedRow_entries] at hall
  obtain ⟨subnet, hsubnet, hnew⟩ := hall 0 Sample.recordedMember rfl
  obtain ⟨subnet', hsubnet', hold⟩ := hall 1 Sample.olderMember rfl
  obtain rfl : "sub" = subnet := Except.ok.inj (Eq.trans (by decide +kernel) hsubnet)
  obtain rfl : "sub" = subnet' := Except.ok.inj (Eq.trans (by decide +kernel) hsubnet')
  obtain ⟨hupdate, hkept⟩ := (hnew Sample.entry (by simp) Sample.entry_records).1 (by decide)
  obtain ⟨hcreate, hdelete, -⟩ :=
    (hold Sample.olderEntry (by simp) Sample.olderEntry_records).2 (by decide)
  exact ⟨sent, hsent, hupdate, hkept, hcreate, hdelete⟩

/-- A member whose entry has no subnet is created once more, after which its entry is deleted,
although the entry has the member's id, address and port. -/
theorem updateMembers_removes_older_member :
    Sample.olderEntry ∈ Sample.mixedRow.entries "pool_p1" ∧
    Sample.olderEntry.Records Sample.olderMember ∧ Sample.olderEntry.subnetId = none ∧
    ((Sample.mixedDriver.updateMembers "p1"
        [Sample.recordedMember, Sample.olderMember]).run (.start ())).1 = .ok () ∧
    ((Sample.mixedDriver.updateMembers "p1"
        [Sample.recordedMember, Sample.olderMember]).run (.start ())).2.emitted =
      [.member .memberUpdate Sample.recordedMember (some "sub"),
        .member .memberCreate Sample.olderMember (some "sub"),
        .deleteEntry Sample.olderEntry "p1", .entryDeleted Sample.olderEntry "p1"] := by
  have hresolved : Driver.batchSubnets Sample.mixedRow
      (Sample.mixedDriver.rowSubnet Sample.mixedRow ())
      [Sample.recordedMember, Sample.olderMember] =
        .ok [(Sample.recordedMember, "sub"), (Sample.olderMember, "sub")] := by decide +kernel
  have hknown : firsts ([Sample.entry, Sample.olderEntry].count ·)
      (Driver.batchEntries [(Sample.recordedMember, "sub"), (Sample.olderMember, "sub")]) =
        [true, false] := by decide +kernel
  have hleft : [Sample.entry, Sample.olderEntry].diff
      (Driver.batchEntries [(Sample.recordedMember, "sub"), (Sample.olderMember, "sub")]) =
        [Sample.olderEntry] := by decide +kernel
  obtain ⟨v, -, hrun⟩ := Sample.mixedDriver.run_updateMembers (s := .start ())
    Sample.findByPoolId_mixedDriver [Sample.recordedMember, Sample.olderMember]
  refine ⟨by rw [Sample.mixedRow_entries]; simp, Sample.olderEntry_records, rfl,
    by decide +kernel, ?_⟩
  rw [hrun, hresolved, Sample.mixedRow_entries]
  change ((Act.submit _).run _).2.emitted = _
  rw [Act.submit_of_open rfl, Session.sent_emitted, Driver.batchPlan, hknown, hleft]
  rfl

end BalancerSync
