import BalancerSync.Proofs.Batch
import BalancerSync.Proofs.Fixed

/-!
# A batch and its members one by one

A member is checked and placed in one way when it is created by itself and in another when all
members of its pool are replaced: the batch looks the pool up once, and asks for the subnet of the
virtual address when it first needs it.  With collaborators whose answers stay the same, both come
to the same subnet, so a batch can be sent if each of its members could be created.
-/

namespace BalancerSync

variable {σ : Type}

open Bag

namespace Driver

variable {d : Driver σ}

/-! ## One way to place a member -/

/-- What a subnet is required for shows in the error only. -/
theorem requireSubnet_eq_ok_iff (action action' : MemberAction) (address subnet : String)
    (found : Option (String × String)) :
    requireSubnet action address found = .ok subnet ↔
      requireSubnet action' address found = .ok subnet := by
  rcases found with _ | ⟨id, cidr⟩
  · simp [requireSubnet]
  · by_cases h : addressInCidr address cidr = true <;> simp [requireSubnet, h]

/-- Which subnet a member ends up in does not depend on how a refusal is worded. -/
theorem memberSubnet_eq_ok_iff (refusal refusal' : Refusal) (action action' : MemberAction)
    (row : Row) (found : Except DriverError (Option (String × String))) (m : Member)
    (subnet : String) :
    memberSubnet refusal action row found m = .ok subnet ↔
      memberSubnet refusal' action' row found m = .ok subnet := by
  unfold memberSubnet
  by_cases hmonitor : m.hasMonitorOptions = true
  · simp [hmonitor]
  by_cases hconflict : conflicts row m = true
  · simp [hmonitor, hconflict]
  cases hown : m.subnetId.nonEmpty with
  | some own => simp [hmonitor, hconflict]
  | none =>
    rcases found with e | subnet?
    · simp [hmonitor, hconflict, Except.bind]
    · simpa [hmonitor, hconflict, Except.bind] using
        requireSubnet_eq_ok_iff action action' _ subnet subnet?

/-- With fixed answers the subnet of a row is the same in all worlds. -/
theorem rowSubnet_fixed (hn : d.network.Fixed) (row : Row) (v w : σ) :
    d.rowSubnet row v = d.rowSubnet row w := by
  unfold rowSubnet
  cases row.vipSubnetId? with
  | none => rfl
  | some id => exact congrArg knownSubnet (hn.subnet id v w)

/-! ## One member -/

section Creation

variable (hn : d.network.Fixed) {m : Member} {key : String} {row : Row}
  (hrow : ∀ w, (findByPoolId d.backend m.poolId w).1 = .ok (some (key, row)))

include hrow

theorem run_findRow (s : Session σ) :
    ∃ v, (Act.askBackend (findByPoolId d.backend m.poolId)).run s =
      (.ok (some (key, row)), { s with world := v }) := by
  refine ⟨(findByPoolId d.backend m.poolId s.world).2, ?_⟩
  rw [Act.askBackend, Act.run_ask, hrow]
  rfl

/-- Whether the families conflict is decided by the row and the member alone. -/
theorem run_ipConflict (s : Session σ) :
    ∃ v, (d.ipConflict m).run s = (.ok (conflicts row m), { s with world := v }) := by
  unfold ipConflict conflicts
  cases m.address.nonEmpty with
  | none => exact ⟨s.world, rfl⟩
  | some address =>
    obtain ⟨v, hv⟩ := run_findRow hrow s
    exact ⟨v, Act.run_bind_of_ok hv _⟩

/-- A conflict of families is an error, and nothing else is. -/
theorem run_refuseConflict (s : Session σ) :
    ∃ v, (d.refuseConflict m).run s =
      (if conflicts row m then .error .ipVersionMixing else .ok (), { s with world := v }) := by
  obtain ⟨v, hv⟩ := run_ipConflict hrow s
  refine ⟨v, (Act.run_bind_of_ok hv _).trans ?_⟩
  cases conflicts row m <;> rfl

include hn

/-- A member goes into its own subnet, or else into that of the row if its address lies there. -/
theorem run_resolveSubnet (w : σ) (action : MemberAction) (s : Session σ) :
    ∃ v, (d.resolveSubnet m action).run s =
      (match m.subnetId.nonEmpty with
        | some subnet => .ok subnet
        | none => (d.rowSubnet row w).bind (requireSubnet action (m.address.nonEmpty.getD "")),
        { s with world := v }) := by
  unfold resolveSubnet
  cases m.subnetId.nonEmpty with
  | some subnet => exact ⟨s.world, rfl⟩
  | none =>
    obtain ⟨v, hv⟩ := run_findRow hrow s
    have hpool : (d.subnetOfPool m.poolId).run s =
        (d.rowSubnet row w, { s with world := d.afterRowSubnet row v }) := by
      refine (Act.run_bind_of_ok hv _).trans ((d.run_subnetOfRow row _).trans ?_)
      rw [rowSubnet_fixed hn row v w]
    refine ⟨d.afterRowSubnet row v, ?_⟩
    rcases hfound : d.rowSubnet row w with e | found
    · rw [hfound] at hpool
      exact Act.run_bind_of_error hpool _
    · rw [hfound] at hpool
      exact Act.run_bind_of_ok hpool _

/-- A member that is created is looked at in its row, and then sent with its notice. -/
theorem run_createMember (w : σ) (s : Session σ) :
    ∃ v, (d.createMember m).run s =
      (Act.check (memberSubnet .memberMonitor .creation row (d.rowSubnet row w) m) >>= fun subnet ↦
        Act.submit [.member .memberCreate m (some subnet), .memberAdded m subnet]).run
          { s with world := v } := by
  unfold createMember memberSubnet
  by_cases hmonitor : m.hasMonitorOptions = true
  · refine ⟨s.world, ?_⟩
    rw [validateMonitorOptions, hmonitor]
    rfl
  obtain ⟨v, hv⟩ := run_refuseConflict hrow s
  have hcheck : validateMonitorOptions m = .ok () := by
    simp [validateMonitorOptions, refuseUnless, hmonitor]
  rw [hcheck, if_neg hmonitor, Act.run_bind_of_ok (Act.run_check _ s)]
  by_cases hconflict : conflicts row m = true
  · rw [if_pos hconflict] at hv ⊢
    exact ⟨v, Act.run_bind_of_error hv _⟩
  · rw [if_neg hconflict] at hv ⊢
    obtain ⟨v', hv'⟩ := run_resolveSubnet hn hrow w .creation { s with world := v }
    refine ⟨v', ?_⟩
    rw [Act.run_bind_of_ok hv, placeMember, Act.run_bind, hv']
    exact (Act.run_bind _ _ _).symm

/-- A member can be created if the applier is open and a batch would find a subnet for it. -/
theorem createMember_eq_ok_iff (w : σ) (s : Session σ) :
    ((d.createMember m).run s).1 = .ok () ↔
      s.isOpen = true ∧ ∃ subnet, batchSubnet row (d.rowSubnet row w) m = .ok subnet := by
  obtain ⟨v, hrun⟩ := run_createMember hn hrow w s
  have hiff := memberSubnet_eq_ok_iff .memberMonitor .batchMonitor .creation .batchUpdate row
    (d.rowSubnet row w) m
  simp only [batchSubnet, ← hiff]
  rw [hrun]
  rcases memberSubnet .memberMonitor .creation row (d.rowSubnet row w) m with e | subnet
  · simp [Act.run_bind]
  · rw [Act.run_bind_of_ok (Act.run_check _ _)]
    cases ho : s.isOpen with
    | true => simp [Act.submit_of_open]
    | false => simp [Act.submit_of_closed]

/-- A member that is created goes into the subnet that a batch would find. -/
theorem createMember_sends {w : σ} {s : Session σ} {subnet : String}
    (ho : s.isOpen = true) (h : batchSubnet row (d.rowSubnet row w) m = .ok subnet) :
    ((d.createMember m).run s).2.emitted =
      s.emitted ++ [.member .memberCreate m (some subnet), .memberAdded m subnet] := by
  obtain ⟨v, hrun⟩ := run_createMember hn hrow w s
  rw [hrun, (memberSubnet_eq_ok_iff _ _ _ _ _ _ _ _).1 h,
    Act.run_bind_of_ok (Act.run_check _ _), Act.submit_of_open (by exact ho)]
  rfl

end Creation

/-! ## All members of a pool -/

/-- A batch finds its subnets if it does so for each of its members. -/
theorem exists_batchSubnets_iff {row : Row}
    {found : Except DriverError (Option (String × String))} {ms : List Member} :
    (∃ resolved, batchSubnets row found ms = .ok resolved) ↔
      ∀ m ∈ ms, ∃ subnet, batchSubnet row found m = .ok subnet := by
  induction ms with
  | nil => simp [batchSubnets, pure, Except.pure]
  | cons m ms ih =>
    rw [batchSubnets_cons, List.forall_mem_cons, ← ih]
    rcases batchSubnet row found m with e | subnet
    · simp
    · rcases batchSubnets row found ms with e | resolved <;> simp [Except.map]

/-- A batch has nothing to send only if there is nothing new and nothing recorded. -/
theorem batchPlan_eq_nil_iff (poolId : String) {recorded : List MemberEntry}
    {resolved : List (Member × String)} :
    batchPlan poolId recorded resolved = [] ↔ resolved = [] ∧ recorded = [] := by
  cases resolved with
  | nil => cases recorded <;> simp [batchPlan, batchRequests, batchEntries, deletions]
  | cons p resolved => simp [batchPlan, batchRequests, batchEntries, firsts_cons]

section Batches

variable {poolId key : String} {row : Row} {s : Session σ} {w : σ} {members : List Member}
  (hfind : findByPoolId d.backend poolId s.world = (.ok (some (key, row)), w))

include hfind

/-- A batch can be sent if its members have subnets and the applier is open; with a closed one,
only if there is nothing to send. -/
theorem updateMembers_eq_ok_iff :
    ((d.updateMembers poolId members).run s).1 = .ok () ↔
      (∃ resolved, batchSubnets row (d.rowSubnet row w) members = .ok resolved) ∧
        (s.isOpen = true ∨ members = [] ∧ row.entries key = []) := by
  obtain ⟨v, -, hrun⟩ := d.run_updateMembers hfind members
  rw [hrun]
  rcases hresolved : batchSubnets row (d.rowSubnet row w) members with e | resolved
  · simp [Act.run_bind]
  · have hnil : resolved = [] ↔ members = [] := by
      rw [← List.length_eq_zero_iff, ← (batchSubnets_eq_ok.1 hresolved).length_eq,
        List.length_eq_zero_iff]
    rw [Act.run_bind_of_ok (Act.run_check _ _), ← hnil, ← batchPlan_eq_nil_iff poolId]
    cases ho : s.isOpen with
    | true => simp [Act.submit_of_open]
    | false => simp [Act.submit_of_closed]

theorem updateMembers_sends {resolved : List (Member × String)}
    (h : batchSubnets row (d.rowSubnet row w) members = .ok resolved)
    (hok : ((d.updateMembers poolId members).run s).1 = .ok ()) :
    ((d.updateMembers poolId members).run s).2.emitted =
      s.emitted ++ batchPlan poolId (row.entries key) resolved := by
  obtain ⟨v, -, hrun⟩ := d.run_updateMembers hfind members
  rw [hrun, h, Act.run_bind_of_ok (Act.run_check _ _)] at hok ⊢
  rw [Act.submit_eq_ok (Act.run_eq_of_fst hok)]
  rfl

/-- A batch is sent as a whole or not at all. -/
theorem updateMembers_sends_nothing
    (h : ((d.updateMembers poolId members).run s).1 ≠ .ok ()) :
    ((d.updateMembers poolId members).run s).2.emitted = s.emitted := by
  obtain ⟨v, -, hrun⟩ := d.run_updateMembers hfind members
  rw [hrun] at h ⊢
  generalize batchSubnets row (d.rowSubnet row w) members = r at h ⊢
  rcases r with e | resolved
  · rfl
  · rw [Act.run_bind_of_ok (Act.run_check _ _)] at h ⊢
    cases ho : s.isOpen with
    | true => simp [Act.submit_of_open, ho] at h
    | false => simp [Act.submit_of_closed]

/-- Only members without a subnet make the batch ask for one, and then it asks once. -/
theorem updateMembers_world :
    ((d.updateMembers poolId members).run s).2.world = w ∨
      (∃ m ∈ members, m.subnetId.nonEmpty = none) ∧ ∃ id,
        ((d.updateMembers poolId members).run s).2.world = (d.network.subnet id w).2 := by
  obtain ⟨v, hv, hrun⟩ := d.run_updateMembers hfind members
  have hworld : ((d.updateMembers poolId members).run s).2.world = v := by
    rw [hrun]
    rcases batchSubnets row (d.rowSubnet row w) members with e | resolved
    · rfl
    · rw [Act.run_bind_of_ok (Act.run_check _ _), Act.submit_world]
  rw [hworld]
  rcases hv with rfl | ⟨⟨m, hm, hneed⟩, rfl⟩
  · exact .inl rfl
  · unfold afterRowSubnet
    cases row.vipSubnetId? with
    | none => exact .inl rfl
    | some id => exact .inr ⟨⟨m, hm, (needsSubnet_iff.1 hneed).2.2⟩, id, rfl⟩

end Batches

/-- What holds of the request for each member, be it known or new, holds of the batch in order. -/
theorem forall₂_batchRequests {row : Row} {found : Except DriverError (Option (String × String))}
    {P : Member → ChangeRequest → Prop} {members : List Member}
    {resolved : List (Member × String)} {marks : List Bool}
    (h : batchSubnets row found members = .ok resolved) (hmarks : marks.length = resolved.length)
    (hP : ∀ m ∈ members, ∀ (subnet : String) (known : Bool), batchSubnet row found m = .ok subnet →
      P m (.member (if known then .memberUpdate else .memberCreate) m (some subnet))) :
    List.Forall₂ P members (batchRequests resolved marks) := by
  have hplaced := batchSubnets_eq_ok.1 h
  clear h
  induction hplaced generalizing marks with
  | nil => exact .nil
  | @cons m p members resolved hp _ ih =>
    obtain ⟨m', subnet⟩ := p
    obtain ⟨rfl, hsubnet⟩ := hp
    obtain ⟨known, marks, rfl⟩ := List.exists_cons_of_length_eq_add_one hmarks
    exact .cons (hP m' (by simp) subnet known hsubnet)
      (ih (by simpa using hmarks) fun m hm ↦ hP m (List.mem_cons_of_mem _ hm))

/-- The request carries what the creation of the member sends first, as an update perhaps. -/
def SentLike (d : Driver σ) (s : Session σ) (m : Member) (r : ChangeRequest) : Prop :=
  ∃ first rest, ((d.createMember m).run s).2.emitted = s.emitted ++ first :: rest ∧
    r.info = first.info ∧ first.operation = .memberCreate ∧
    (r.operation = .memberCreate ∨ r.operation = .memberUpdate)

/-- A batch agrees with the creation of its members one by one. It succeeds if all of them do; with
a closed applier, where none of them does, only if there are no members and no entries. It sends
for each member what its creation sends, or nothing at all, and asks for one subnet at most. -/
theorem updateMembers_agrees_with_createMember (hb : d.backend.Fixed) (hn : d.network.Fixed)
    {poolId key : String} {row : Row} {members : List Member} (s : Session σ)
    (hfind : (findByPoolId d.backend poolId s.world).1 = .ok (some (key, row)))
    (hpool : ∀ m ∈ members, m.poolId = poolId) :
    (((d.updateMembers poolId members).run s).1 = .ok () ↔
      (∀ m ∈ members, ((d.createMember m).run s).1 = .ok ()) ∧
        (s.isOpen = true ∨ members ≠ [] ∨ row.entries key = [])) ∧
    (((d.updateMembers poolId members).run s).1 = .ok () →
      ∃ requests rest, ((d.updateMembers poolId members).run s).2.emitted =
          s.emitted ++ requests ++ rest ∧
        List.Forall₂ (d.SentLike s) members requests) ∧
    (((d.updateMembers poolId members).run s).1 ≠ .ok () →
      ((d.updateMembers poolId members).run s).2.emitted = s.emitted) ∧
    (((d.updateMembers poolId members).run s).2.world =
        (findByPoolId d.backend poolId s.world).2 ∨
      (∃ m ∈ members, m.subnetId.nonEmpty = none) ∧
        ∃ id, ((d.updateMembers poolId members).run s).2.world =
          (d.network.subnet id (findByPoolId d.backend poolId s.world).2).2) := by
  have hfound : findByPoolId d.backend poolId s.world =
      (.ok (some (key, row)), (findByPoolId d.backend poolId s.world).2) := Prod.ext hfind rfl
  generalize (findByPoolId d.backend poolId s.world).2 = w at hfound ⊢
  have hrow (m : Member) (hm : m ∈ members) (v : σ) :
      (findByPoolId d.backend m.poolId v).1 = .ok (some (key, row)) := by
    rw [hpool m hm, (Backend.Question.findByPoolId d.backend poolId).fixed hb v s.world, hfind]
  have hcreate (m : Member) (hm : m ∈ members) :=
    createMember_eq_ok_iff hn (hrow m hm) w s
  refine ⟨?_, fun hok ↦ ?_, updateMembers_sends_nothing hfound, updateMembers_world hfound⟩
  · rw [updateMembers_eq_ok_iff hfound, exists_batchSubnets_iff]
    cases ho : s.isOpen with
    | true => simp +contextual [hcreate, ho]
    | false =>
      cases members with
      | nil => simp
      | cons m ms => simp [hcreate, ho]
  · obtain ⟨⟨resolved, hresolved⟩, ho⟩ := (updateMembers_eq_ok_iff hfound).1 hok
    refine ⟨_, _, (updateMembers_sends hfound hresolved hok).trans
      (List.append_assoc _ _ _).symm, forall₂_batchRequests hresolved (by simp [batchEntries]) ?_⟩
    intro m hm subnet known hsubnet
    -- With a member there was something to send, so the applier must have been open.
    have hopen : s.isOpen = true := ho.resolve_right fun h ↦ by simp [h.1] at hm
    refine ⟨_, _, createMember_sends hn (hrow m hm) hopen hsubnet, ?_, rfl, ?_⟩
    · rfl
    · cases known
      · exact .inl rfl
      · exact .inr rfl

end Driver

/-- One member is recorded and one is not. -/
theorem updateMembers_agrees_on_sample :
    (∀ m ∈ [Sample.recordedMember, Sample.member],
      ((Sample.driver.createMember m).run (.start ())).1 = .ok ()) ∧
    ∃ requests rest, ((Sample.driver.updateMembers "p1"
        [Sample.recordedMember, Sample.member]).run (.start ())).2.emitted = requests ++ rest ∧
      List.Forall₂ (Sample.driver.SentLike (.start ()))
        [Sample.recordedMember, Sample.member] requests := by
  have hfind : (findByPoolId Sample.driver.backend "p1" (Session.start ()).world).1 =
      .ok (some ("pool_p1", Sample.row)) := by decide +kernel
  have hpool : ∀ m ∈ [Sample.recordedMember, Sample.member], m.poolId = "p1" := by
    simp [Sample.recordedMember, Sample.member]
  obtain ⟨hiff, hsent, -, -⟩ := Driver.updateMembers_agrees_with_createMember (d := Sample.driver)
    (Backend.fixed_of_subsingleton _) (Network.fixed_of_subsingleton _) (.start ()) hfind hpool
  have hok : ((Sample.driver.updateMembers "p1"
      [Sample.recordedMember, Sample.member]).run (.start ())).1 = .ok () := by decide +kernel
  exact ⟨(hiff.1 hok).1, hsent hok⟩

/-- With a closed applier, a batch without members fails on the entries it would have to delete,
although there is no member whose creation would fail. -/
theorem updateMembers_fails_without_members :
    ¬(((Sample.driver.updateMembers "p1" []).run { Session.start () with isOpen := false }).1 =
        .ok () ↔
      ∀ m ∈ ([] : List Member),
        ((Sample.driver.createMember m).run { Session.start () with isOpen := false }).1 =
          .ok ()) := by
  have hfails : ((Sample.driver.updateMembers "p1" []).run
      { Session.start () with isOpen := false }).1 ≠ .ok () := by decide +kernel
  exact fun h ↦ hfails (h.2 fun m hm ↦ nomatch hm)

end BalancerSync
