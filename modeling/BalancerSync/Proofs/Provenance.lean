import BalancerSync.Proofs.Capability
import BalancerSync.Proofs.Inference

/-!
# Where the subnet of a member comes from

A member is sent in its own subnet if it has one.  If not, the subnet is that of its load balancer's
virtual address, or one of which the network layer has just told that it contains the member's
address, be it asked for the subnet of a row or for all subnets of a network.  There is no other
way for a subnet to get into a request.
-/

namespace BalancerSync

variable {σ α : Type}

/-! ## What is heard -/

/-- The subnets and the recorded members of pools that somebody tells of. -/
structure Testimony where
  subnet : Subnet → Prop
  entry : String → MemberEntry → Prop

/-- What the collaborators of a driver may tell. -/
def Driver.testimony (d : Driver σ) : Testimony where
  subnet sn := (∃ id w, (d.network.subnet id w).1 = .ok sn) ∨
    ∃ id w sns, (d.network.networkSubnets id w).1 = .ok sns ∧ sn ∈ sns
  entry := d.Recorded

/-- What the answers on a tape tell. -/
def Tape.testimony (tape : Tape) : Testimony where
  subnet sn := ⟨.subnet, .ok sn⟩ ∈ tape ∨ ∃ sns, ⟨.subnets, .ok sns⟩ ∈ tape ∧ sn ∈ sns
  entry poolId e := ∃ row key,
    (⟨.poolRow, .ok (some row)⟩ ∈ tape ∨ ∃ rows, ⟨.rows, .ok rows⟩ ∈ tape ∧ row ∈ rows) ∧
      (key = poolKey poolId ∨ key = disabledPoolKey poolId) ∧ e ∈ row.entries key

/-- The subnet of a member and where it comes from, given that of the virtual address. -/
structure Provenance (T : Testimony) (vip? : Option String) (m : Member) (subnet : String) :
    Prop where
  own : ∀ own, m.subnetId.nonEmpty = some own → subnet = own
  inferred : m.subnetId.nonEmpty = none → vip? = some subnet ∨
    ∃ sn, T.subnet sn ∧ sn.id = subnet ∧
      addressInCidr (m.address.nonEmpty.getD "") sn.cidr = true

namespace Provenance

variable {T T' : Testimony} {vip? : Option String} {m : Member} {subnet : String}

/-- The subnet that a member has itself needs no other source. -/
theorem of_own (h : m.subnetId.nonEmpty = some subnet) : Provenance T vip? m subnet where
  own own hown := Option.some.inj (h.symm.trans hown)
  inferred hnone := by
    rw [h] at hnone
    cases hnone

/-- Without a subnet of its own, a member takes that of the virtual address or one that contains its
address. -/
theorem of_inferred (hnone : m.subnetId.nonEmpty = none)
    (h : vip? = some subnet ∨ ∃ sn, T.subnet sn ∧ sn.id = subnet ∧
      addressInCidr (m.address.nonEmpty.getD "") sn.cidr = true) :
    Provenance T vip? m subnet where
  own own hown := by
    rw [hnone] at hown
    cases hown
  inferred _ := h

/-- More testimony takes away no source. -/
theorem mono (hT : ∀ sn, T.subnet sn → T'.subnet sn) (h : Provenance T vip? m subnet) :
    Provenance T' vip? m subnet where
  own := h.own
  inferred hnone := (h.inferred hnone).imp_right fun ⟨sn, hsn, hid, hcidr⟩ ↦
    ⟨sn, hT sn hsn, hid, hcidr⟩

/-- The virtual address is one more way. -/
theorem with_vip (h : Provenance T none m subnet) (vip? : Option String) :
    Provenance T vip? m subnet where
  own := h.own
  inferred hnone := .inr ((h.inferred hnone).resolve_left (by simp))

/-- A member may be given a subnet before it is sent. If that one comes from somewhere, so does the
one that the member is sent in. -/
theorem of_given {f : Field String} (hnone : m.subnetId.nonEmpty = none)
    (hf : ∀ given, f.nonEmpty = some given → Provenance T vip? m given)
    (h : Provenance T none { m with subnetId := f } subnet) : Provenance T vip? m subnet := by
  cases hgiven : f.nonEmpty with
  | some given =>
    obtain rfl := h.own given hgiven
    exact hf subnet hgiven
  | none => exact of_inferred hnone (.inr ((h.inferred hgiven).resolve_left (by simp)))

end Provenance

/-! ## Requests for members -/

/-- Whether a request is for a member, and no notice. -/
def Operation.placesMember : Operation → Bool
  | memberCreate | memberSync | memberUpdate | memberDelete => true
  | _ => false

/-- The members that a call is given, with the subnet of the virtual address if the call is given
that too, and whether it deletes members that are only recorded. -/
structure Roster where
  members : List Member
  vipSubnet? : Option String
  replaces : Bool

namespace Roster

/-- The request is for one of the members, in a subnet that comes from somewhere; or it deletes a
member of which somebody told that it is recorded. -/
def Justifies (R : Roster) (T : Testimony) (r : ChangeRequest) : Prop :=
  (∃ m ∈ R.members, ∃ subnet, Provenance T R.vipSubnet? m subnet ∧
    (r = .member r.operation m (some subnet) ∨
      r = .deleteMember m.id (textJson m.address) (portJson m.port) m.poolId (some subnet))) ∨
  (R.replaces = true ∧ ∃ poolId e, T.entry poolId e ∧ r = .deleteEntry e poolId)

/-- What is justified stays so with more testimony. -/
theorem Justifies.mono {R : Roster} {T T' : Testimony} {r : ChangeRequest}
    (hsubnet : ∀ sn, T.subnet sn → T'.subnet sn)
    (hentry : ∀ poolId e, T.entry poolId e → T'.entry poolId e) (h : R.Justifies T r) :
    R.Justifies T' r := by
  rcases h with ⟨m, hm, subnet, hsubnet', hr⟩ | ⟨hreplaces, poolId, e, he, hr⟩
  · exact .inl ⟨m, hm, subnet, hsubnet'.mono hsubnet, hr⟩
  · exact .inr ⟨hreplaces, poolId, e, hentry poolId e he, hr⟩

/-- All requests for members among what is sent are justified. -/
def Covers (R : Roster) (T : Testimony) (o : Sending) : Prop :=
  ∀ r ∈ o.requests, r.operation.placesMember = true → R.Justifies T r

section Covers

variable {R : Roster} {T : Testimony} {m : Member} {subnet : String}

/-- Requests that are not for members need no justification. -/
theorem covers_of_other {o : Sending} (h : ∀ r ∈ o.requests, r.operation.placesMember = false) :
    R.Covers T o := by
  intro r hr hplaces
  rw [h r hr] at hplaces
  cases hplaces

/-- A member with its notice may be sent in a subnet that comes from somewhere. -/
theorem covers_member (hm : m ∈ R.members) (h : Provenance T R.vipSubnet? m subnet)
    (op : Operation) : R.Covers T (.member op m subnet) :=
  List.forall_mem_cons.2 ⟨fun _ ↦ .inl ⟨m, hm, subnet, h, .inl rfl⟩,
    List.forall_mem_singleton.2 fun hplaces ↦ by cases hplaces⟩

/-- A member of a batch may be sent in a subnet that comes from somewhere, though it has no notice.
-/
theorem covers_batchMember (hm : m ∈ R.members) (h : Provenance T R.vipSubnet? m subnet)
    (op : Operation) : R.Covers T (.batchMember op m subnet) :=
  List.forall_mem_singleton.2 fun _ ↦ .inl ⟨m, hm, subnet, h, .inl rfl⟩

theorem covers_deleteMember (hm : m ∈ R.members) (h : Provenance T R.vipSubnet? m subnet) :
    R.Covers T (.deleteMember m subnet) :=
  List.forall_mem_cons.2 ⟨fun _ ↦ .inl ⟨m, hm, subnet, h, .inr rfl⟩,
    List.forall_mem_singleton.2 fun hplaces ↦ by cases hplaces⟩

/-- A call that replaces members may delete what is recorded. -/
theorem covers_deleteEntry (hreplaces : R.replaces = true) {poolId : String} {e : MemberEntry}
    (he : T.entry poolId e) : R.Covers T (.deleteEntry e poolId) :=
  List.forall_mem_cons.2 ⟨fun _ ↦ .inr ⟨hreplaces, poolId, e, he, rfl⟩,
    List.forall_mem_singleton.2 fun hplaces ↦ by cases hplaces⟩

end Covers

/-- A member of the roster may be sent as if this were its subnet. -/
structure Allows (R : Roster) (T : Testimony) (m : Member) (f : Field String) : Prop where
  mem : m ∈ R.members
  provenance : ∀ subnet, Provenance T none { m with subnetId := f } subnet →
    Provenance T R.vipSubnet? m subnet

namespace Allows

variable {R : Roster} {T : Testimony} {m : Member}

/-- The subnet field of the member itself is always allowed. -/
theorem own (hm : m ∈ R.members) : R.Allows T m m.subnetId :=
  ⟨hm, fun _ h ↦ h.with_vip _⟩

/-- A subnet may be filled in where there is none, if it comes from somewhere. -/
theorem given (hm : m ∈ R.members) (hnone : m.subnetId.nonEmpty = none) {given : String}
    (h : Provenance T R.vipSubnet? m given) : R.Allows T m (.value given) := by
  refine ⟨hm, fun subnet ↦ .of_given hnone fun given' hgiven' ↦ ?_⟩
  obtain rfl : given = given' := Option.some.inj (Option.filter_eq_some_iff.1 hgiven').1
  exact h

end Allows

end Roster

namespace Driver

variable {d : Driver σ}

/-! ## Subnets that are found -/

/-- The subnet of a row was told by the network layer. -/
theorem testimony_of_rowSubnet {row : Row} {w : σ} {id cidr : String}
    (h : d.rowSubnet row w = .ok (some (id, cidr))) :
    ∃ sn, d.testimony.subnet sn ∧ sn.id = id ∧ sn.cidr = cidr := by
  unfold rowSubnet at h
  cases hvip : row.vipSubnetId? with
  | none =>
    rw [hvip] at h
    cases h
  | some vip =>
    rw [hvip] at h
    dsimp only at h
    rcases hsubnet : (d.network.subnet vip w).1 with e | sn <;> rw [hsubnet] at h
    · simp only [knownSubnet] at h
      split at h <;> cases h
    · cases h
      exact ⟨sn, .inl ⟨vip, w, hsubnet⟩, rfl, rfl⟩

/-- The subnet that is found for a pool is that of its row. -/
theorem testimony_of_subnetOfPool {poolId id cidr : String} {s t : Session σ}
    (h : (d.subnetOfPool poolId).run s = (.ok (some (id, cidr)), t)) :
    ∃ sn, d.testimony.subnet sn ∧ sn.id = id ∧ sn.cidr = cidr := by
  obtain ⟨found, u, -, h⟩ := Act.bind_eq_ok.1 h
  rcases found with _ | ⟨key, row⟩
  · cases h
  · rw [d.run_subnetOfRow] at h
    exact testimony_of_rowSubnet (congrArg Prod.fst h)

/-- What is required of a subnet is that it contains the member. -/
theorem provenance_of_requireSubnet {m : Member} {action : MemberAction}
    {found : Option (String × String)} {subnet : String} (hnone : m.subnetId.nonEmpty = none)
    (hfound : ∀ id cidr, found = some (id, cidr) →
      ∃ sn, d.testimony.subnet sn ∧ sn.id = id ∧ sn.cidr = cidr)
    (h : requireSubnet action (m.address.nonEmpty.getD "") found = .ok subnet) :
    Provenance d.testimony none m subnet := by
  rcases found with _ | ⟨id, cidr⟩
  · cases h
  cases hcontains : addressInCidr (m.address.nonEmpty.getD "") cidr with
  | true =>
    obtain rfl : id = subnet := by simpa [requireSubnet, hcontains] using h
    obtain ⟨sn, hsn, hid, rfl⟩ := hfound id cidr rfl
    exact .of_inferred hnone (.inr ⟨sn, hsn, hid, hcontains⟩)
  | false => simp [requireSubnet, hcontains] at h

/-- A member that is resolved on its own takes no virtual address into account. -/
theorem provenance_of_resolveSubnet {m : Member} {action : MemberAction} {subnet : String}
    {s t : Session σ} (h : (d.resolveSubnet m action).run s = (.ok subnet, t)) :
    Provenance d.testimony none m subnet := by
  unfold resolveSubnet at h
  cases hown : m.subnetId.nonEmpty with
  | some own =>
    rw [hown] at h
    cases h
    exact .of_own hown
  | none =>
    rw [hown] at h
    obtain ⟨found, u, hfound, h⟩ := Act.bind_eq_ok.1 h
    refine provenance_of_requireSubnet hown (fun id cidr hsome ↦ ?_) (congrArg Prod.fst h)
    subst hsome
    exact testimony_of_subnetOfPool hfound

/-- The subnet that a member is given in a cascade is that of the virtual address, or one of its
network's subnets that contains the member. -/
theorem provenance_of_cascadeSubnet {lb : LoadBalancer} {m : Member} {subnet : String}
    {s t : Session σ} (hnone : m.subnetId.nonEmpty = none)
    (h : (d.cascadeSubnet lb m).run s = (.ok (some subnet), t)) :
    Provenance d.testimony lb.vipSubnetId.nonEmpty m subnet := by
  apply Provenance.of_inferred hnone
  unfold cascadeSubnet at h
  rw [hnone] at h
  cases hvip : lb.vipSubnetId.nonEmpty with
  | some vip =>
    rw [hvip] at h
    cases h
    exact .inl rfl
  | none =>
    rw [hvip] at h
    dsimp only at h
    split at h
    · next network address _ haddress =>
      obtain ⟨sns, u, hsns, h⟩ := Act.bind_eq_ok.1 h
      obtain ⟨sn, hfind, hid⟩ := Option.map_eq_some_iff.1 (Except.ok.inj (congrArg Prod.fst h))
      refine .inr ⟨sn, .inr ⟨network, s.world, sns, ?_, List.mem_of_find?_eq_some hfind⟩, hid, ?_⟩
      · rw [Act.askNetwork, Act.run_ask] at hsns
        rcases hanswer : (d.network.networkSubnets network s.world).1 with e | sns' <;>
          rw [hanswer] at hsns <;> cases hsns
        rfl
      · rw [haddress]
        simpa using List.find?_some hfind
    · cases h

/-- In a batch, each member has been resolved with a subnet that comes from somewhere. -/
theorem provenance_of_resolveBatch {row : Row} {ms : List Member} {s t : Session σ}
    {resolved : List (Member × String)}
    (h : (d.resolveBatch row none ms).run s = (.ok resolved, t)) :
    ∀ p ∈ resolved, p.1 ∈ ms ∧ Provenance d.testimony none p.1 p.2 := by
  obtain ⟨_, -, hrun⟩ := d.run_resolveBatch row ms s
  have hsubnets := batchSubnets_eq_ok.1 (congrArg Prod.fst (hrun.symm.trans h))
  intro p hp
  obtain ⟨m, hm, rfl, hsubnet⟩ := exists_left_of_forall₂ hsubnets p hp
  refine ⟨hm, ?_⟩
  unfold batchSubnet memberSubnet at hsubnet
  -- Neither a member that is refused nor one in conflict with its row has been resolved.
  split at hsubnet
  · cases hsubnet
  split at hsubnet
  · cases hsubnet
  cases hown : p.1.subnetId.nonEmpty with
  | some own =>
    rw [hown] at hsubnet
    cases hsubnet
    exact .of_own hown
  | none =>
    rw [hown] at hsubnet
    dsimp only at hsubnet
    rcases hfound : d.rowSubnet row s.world with e | found <;> rw [hfound] at hsubnet
    · cases hsubnet
    · refine provenance_of_requireSubnet hown (fun id cidr hsome ↦ ?_) hsubnet
      subst hsome
      exact testimony_of_rowSubnet hfound

/-! ## What is sent for members -/

section Sends

variable {R : Roster}

/-- Single requests for other objects are always covered. -/
theorem covers_emit (o : Sending) {r : ChangeRequest} (hr : o.requests = [r])
    (hother : r.operation.placesMember = false) (hprobes : o.probes = false) :
    d.Sends (R.Covers d.testimony) (Act.emit r) := by
  refine .emit o hr (Roster.covers_of_other ?_) hprobes
  rw [hr]
  exact List.forall_mem_singleton.2 hother

/-! ### Members -/

section Members

variable {m : Member} {f : Field String}

/-- A member may be placed in a subnet that has been filled in for it. -/
theorem covers_placeMember (h : R.Allows d.testimony m f) (op : Operation) :
    d.Sends (R.Covers d.testimony) (d.placeMember op { m with subnetId := f }) :=
  (Sends.asks (d.asks_resolveSubnet _ _)).bind fun subnet _ _ hsubnet ↦
    .submit_requests (.member op m subnet)
      (Roster.covers_member h.mem (h.provenance subnet (provenance_of_resolveSubnet hsubnet)) op)
      rfl

theorem covers_createMember (h : R.Allows d.testimony m f) :
    d.Sends (R.Covers d.testimony) (d.createMember { m with subnetId := f }) :=
  .check_bind fun _ _ ↦ (Sends.asks (d.asks_refuseConflict _)).andThen fun _ ↦
    covers_placeMember h .memberCreate

theorem covers_syncMember (h : R.Allows d.testimony m f) :
    d.Sends (R.Covers d.testimony) (d.syncMember { m with subnetId := f }) :=
  .check_bind fun _ _ ↦ covers_placeMember h .memberSync

theorem covers_deleteMember (hm : m ∈ R.members) :
    d.Sends (R.Covers d.testimony) (d.deleteMember m) :=
  (Sends.asks (d.asks_resolveSubnet m _)).bind fun subnet _ _ hsubnet ↦
    .submit_requests (.deleteMember m subnet)
      (Roster.covers_deleteMember hm ((provenance_of_resolveSubnet hsubnet).with_vip _)) rfl

theorem covers_deleteEntry (hreplaces : R.replaces = true) {poolId : String} {e : MemberEntry}
    (he : d.Recorded poolId e) : d.Sends (R.Covers d.testimony) (deleteEntry poolId e) :=
  .submit_requests (.deleteEntry e poolId) (Roster.covers_deleteEntry hreplaces he) rfl

/-- A batch is covered: it places its own members and deletes only what the row of the pool has. -/
theorem covers_updateMembers {ms : List Member} (hms : ∀ m ∈ ms, m ∈ R.members)
    (hreplaces : R.replaces = true) (poolId : String) :
    d.Sends (R.Covers d.testimony) (d.updateMembers poolId ms) := by
  apply sends_updateMembers_of_parts
  · intro row s t resolved hresolved p hp op _
    obtain ⟨hmem, hsubnet⟩ := provenance_of_resolveBatch hresolved p hp
    exact Roster.covers_batchMember (hms p.1 hmem) (hsubnet.with_vip _) op
  · intro e he
    exact Roster.covers_deleteEntry hreplaces he

end Members

/-! ### Listeners, pools and health monitors -/

theorem covers_placeListener {op : Operation} (hop : op.placesMember = false) (l : Listener) :
    d.Sends (R.Covers d.testimony) (placeListener op l) :=
  .check_bind fun _ _ ↦ .check_bind fun _ _ ↦ covers_emit (.listener op l) rfl hop rfl

theorem covers_placePool {op : Operation} (hop : op.placesMember = false) (p : Pool) :
    d.Sends (R.Covers d.testimony) (placePool op p) :=
  .check_bind fun _ _ ↦ .check_bind fun _ _ ↦ .check_bind fun _ _ ↦
    covers_emit (.pool op p) rfl hop rfl

theorem covers_placeHealthMonitor {op : Operation} (hop : op.placesMember = false)
    (h : HealthMonitor) : d.Sends (R.Covers d.testimony) (d.placeHealthMonitor op h) := by
  rw [placeHealthMonitor_eq_askProbe]
  exact sends_probed (.monitor op h) rfl fun _ ↦
    Roster.covers_of_other (List.forall_mem_singleton.2 hop)

theorem covers_createPool (p : Pool) : d.Sends (R.Covers d.testimony) (d.createPool p) :=
  (covers_placePool rfl p).andThen fun _ ↦ .forM fun h _ ↦ covers_placeHealthMonitor rfl h

/-- With a pool its members are deleted, so these have to be on the roster. -/
theorem covers_deletePool {p : Pool} (hms : ∀ m ∈ p.members.items, m ∈ R.members) :
    d.Sends (R.Covers d.testimony) (d.deletePool p) :=
  (Sends.forM fun h _ ↦ covers_emit (.deleteMonitor h) rfl rfl rfl).andThen fun _ ↦
    (Sends.forM fun m hm ↦ covers_deleteMember (hms m hm)).andThen fun _ ↦
      covers_emit (.deletePool p) rfl rfl rfl

/-! ### Load balancers -/

section Balancers

variable {lb : LoadBalancer} {m : Member} (hvip : R.vipSubnet? = lb.vipSubnetId.nonEmpty)

include hvip

/-- In a cascade the virtual address of the load balancer is one more source. -/
theorem covers_cascadeMember (hm : m ∈ R.members) :
    d.Sends (R.Covers d.testimony) (d.cascadeMember lb m) := by
  unfold cascadeMember
  cases hown : m.subnetId.nonEmpty with
  | some own => exact covers_createMember (.own hm)
  | none =>
    refine (Sends.asks (d.asks_cascadeSubnet lb m)).bind fun found _ _ hfound ↦ ?_
    cases found with
    | some given =>
      have hgiven := provenance_of_cascadeSubnet hown hfound
      rw [← hvip] at hgiven
      exact covers_createMember (.given hm hown hgiven)
    | none => exact covers_createMember (.own hm)

/-- In a pass a member inherits the subnet of the virtual address before it is resolved. -/
theorem covers_inheritMember (hm : m ∈ R.members) :
    d.Sends (R.Covers d.testimony) (d.syncMember (inheritSubnet lb m)) := by
  unfold inheritSubnet
  split
  · next given hnone hgiven =>
    exact covers_syncMember (.given hm hnone (.of_inferred hnone (.inl (hvip.trans hgiven))))
  · exact covers_syncMember (.own hm)

variable (hms : ∀ p ∈ lb.pools.items, ∀ m ∈ p.members.items, m ∈ R.members)

include hms

/-- A creation is covered if the members of all its pools are on the roster. -/
theorem covers_createLoadBalancer :
    d.Sends (R.Covers d.testimony) (d.createLoadBalancer lb) :=
  (covers_emit (.balancer .lbCreate lb) rfl rfl rfl).andThen fun _ ↦
    (Sends.forM fun l _ ↦ covers_placeListener rfl l).andThen fun _ ↦
      .forM fun p hp ↦ (covers_createPool p).andThen fun _ ↦
        .forM fun m hm ↦ covers_cascadeMember hvip (hms p hp m hm)

variable (hreplaces : R.replaces = true)

include hreplaces

/-- A pass over a pool is covered, since what it deletes is recorded in rows of the backend. -/
theorem covers_syncPool {rows : List Row} (hrows : ∀ row ∈ rows, d.backend.Gives row) {p : Pool}
    (hp : p ∈ lb.pools.items) : d.Sends (R.Covers d.testimony) (d.syncPool lb rows p) := by
  apply sends_syncPool_of_parts hrows
  · rintro op (rfl | rfl) <;> exact covers_placePool rfl p
  · intro m hm
    exact covers_inheritMember hvip (hms p hp m hm)
  · intro e he
    exact covers_deleteEntry hreplaces he
  · rintro op h (rfl | rfl) <;> exact covers_placeHealthMonitor rfl h

theorem covers_syncRows {rows : List Row} (hrows : ∀ row ∈ rows, d.backend.Gives row) :
    d.Sends (R.Covers d.testimony) (d.syncRows lb rows) :=
  (covers_emit (.balancer .lbSync lb) rfl rfl rfl).andThen fun _ ↦
    (Sends.forM fun l _ ↦ covers_placeListener rfl l).andThen fun _ ↦
      (Sends.forM fun _ hp ↦ covers_syncPool hvip hms hreplaces hrows hp).andThen fun _ ↦
        covers_emit (.purgeMonitors lb.id) rfl rfl rfl

theorem covers_syncLoadBalancer : d.Sends (R.Covers d.testimony) (d.syncLoadBalancer lb) :=
  sends_syncLoadBalancer_of_parts (covers_createLoadBalancer hvip hms) fun _ hrows ↦
    covers_syncRows hvip hms hreplaces hrows

end Balancers

end Sends

/-! ## Calls -/

end Driver

/-- What a call that sends requests for members is given. A batch and a pass delete recorded
members. -/
def Command.roster? : Command → Option Roster
  | .createMember m | .syncMember m | .deleteMember m => some ⟨[m], none, false⟩
  | .deletePool p => some ⟨p.members.items, none, false⟩
  | .updateMembers _ ms => some ⟨ms, none, true⟩
  | .createLoadBalancer lb => some ⟨lb.members, lb.vipSubnetId.nonEmpty, false⟩
  | .syncLoadBalancer lb => some ⟨lb.members, lb.vipSubnetId.nonEmpty, true⟩
  | _ => none

namespace Driver

/-- All that a call sends for members is justified by what its collaborators may tell. -/
theorem covers_reply (d : Driver σ) {c : Command} {R : Roster} (h : c.roster? = some R) :
    d.Sends (R.Covers d.testimony) (d.reply c) := by
  have hmembers (lb : LoadBalancer) :
      ∀ p ∈ lb.pools.items, ∀ m ∈ p.members.items, m ∈ lb.members :=
    fun p hp m hm ↦ List.mem_flatMap.2 ⟨p, hp, hm⟩
  unfold Command.roster? at h
  split at h <;> cases h
  · exact (covers_createMember (.own (by simp))).andThen fun _ ↦ .pure _
  · exact (covers_syncMember (.own (by simp))).andThen fun _ ↦ .pure _
  · exact (covers_deleteMember (by simp)).andThen fun _ ↦ .pure _
  · exact (covers_deletePool fun m hm ↦ hm).andThen fun _ ↦ .pure _
  · exact (covers_updateMembers (fun m hm ↦ hm) rfl _).andThen fun _ ↦ .pure _
  · exact (covers_createLoadBalancer rfl (hmembers _)).andThen fun _ ↦ .pure _
  · exact (covers_syncLoadBalancer rfl (hmembers _) rfl).andThen fun _ ↦ .pure _

end Driver

/-! ## What is on a tape -/

namespace Tape

variable {tape : Tape} {config : DriverConfig}

/-- A driver that reads from a tape hears only of subnets that are on the tape. -/
theorem testimony_subnet {sn : Subnet} (h : (tape.driver config).testimony.subnet sn) :
    tape.testimony.subnet sn := by
  rcases h with ⟨id, n, hsn⟩ | ⟨id, n, sns, hsns, hsn⟩
  · exact .inl (mem_of_next hsn)
  · exact .inr ⟨sns, mem_of_next hsns, hsn⟩

/-- A driver that reads from a tape hears only of entries that are on the tape. -/
theorem testimony_entry {poolId : String} {e : MemberEntry}
    (h : (tape.driver config).testimony.entry poolId e) : tape.testimony.entry poolId e := by
  obtain ⟨row, key, hrow, hkey, he⟩ := h
  refine ⟨row, key, ?_, hkey, he⟩
  rcases hrow with ⟨id, rows, n, hrows, hrow⟩ | ⟨key', n, hrow⟩
  · exact .inr ⟨rows, mem_of_next hrows, hrow⟩
  · exact .inl (mem_of_next hrow)

end Tape

namespace Driver

/-- Whatever the collaborators answer, each request for a member that a call sends is for a member
that it is given, in the member's own subnet if it has one. If it has none, the subnet is that of
the virtual address of the load balancer that the call is given, or the network layer has told this
very call of it and it contains the member's address. Only batches and passes delete members that
they are not given, and they have been told by the backend that those are recorded. -/
theorem reply_sends_members_in_their_subnets (d : Driver σ) {c : Command} {R : Roster}
    (hc : c.roster? = some R) (s : Session σ) :
    ∃ r t rs, (d.reply c).run s = (r, t) ∧
      (d.taped.reply c).run (s.taping []) = (r, t.taping (d.answers c s)) ∧
      t.emitted = s.emitted ++ rs ∧
      ∀ x ∈ rs, x.operation.placesMember = true → R.Justifies (d.answers c s).testimony x := by
  obtain ⟨tape, rs, r, t, htakes, -⟩ := (Routine.call c).takes d s
  refine ⟨r, t, rs, htakes.run, ?_, htakes.emitted_eq, ?_⟩
  · rw [answers_eq htakes]
    exact htakes.taped []
  · -- Read from the tape, the answers of this call are all that anybody can tell.
    rw [answers_eq htakes]
    obtain ⟨es, hpath, hes⟩ := (tape.driver d.config).covers_reply hc (s.reading 0 [])
    rw [htakes.read tape 0 [] (List.prefix_refl _)] at hpath
    have hrs : rs = requestsOf es := hpath.emitted_eq
    intro x hx hplaces
    rw [hrs] at hx
    obtain ⟨o, ho, hx⟩ := mem_requestsOf.1 hx
    exact (hes o ho x hx hplaces).mono (fun _ ↦ Tape.testimony_subnet)
      fun _ _ ↦ Tape.testimony_entry

end Driver

/-- The network tells of its only subnet when the load balancer is created, and the member is sent
in it. -/
theorem createLoadBalancer_is_told_of_subnet :
    .member .memberCreate Sample.homeless (some "sub-net") ∈
      ((Sample.bareDriver.reply (.createLoadBalancer Sample.networkBalancer)).run
        (.start ())).2.emitted ∧
    Roster.Justifies ⟨[Sample.homeless], none, false⟩
      (Tape.testimony [⟨.subnets, .ok [⟨"sub-net", "net1", "10.0.0.0/24", some 4⟩]⟩,
        ⟨.poolRow, .ok none⟩, ⟨.poolRow, .ok none⟩])
      (.member .memberCreate Sample.homeless (some "sub-net")) := by
  obtain ⟨r, t, rs, hrun, -, hemitted, hall⟩ :=
    Sample.bareDriver.reply_sends_members_in_their_subnets
      (c := .createLoadBalancer Sample.networkBalancer) rfl (.start ())
  have hsent : ∃ before after, rs =
      before ++ .member .memberCreate Sample.homeless (some "sub-net") :: after := by
    obtain rfl : _ = rs := (congrArg (·.2.emitted) hrun).trans hemitted
    exact ⟨[_, _], [_], rfl⟩
  obtain ⟨before, after, rfl⟩ := hsent
  rw [hrun, hemitted]
  exact ⟨by simp, hall _ (by simp) rfl⟩

end BalancerSync
