import BalancerSync.Proofs.Calls
import BalancerSync.Proofs.Routine

/-!
# Every operation is a routine

The operations of the driver, one after another from the subnet of a member to a whole run.  Only
those that come to a health monitor are more than quiet, and only a run goes on after a failure.
-/

namespace BalancerSync

variable {σ α : Type}

/-! ## Checks -/

/-- A check of something else than health checks. -/
theorem refuseUnless_ne_unchecked {ok : Bool} {why : Refusal} (h : why ≠ .healthChecks) :
    refuseUnless ok why ≠ .error (.unsupported .healthChecks) := by
  intro herror
  cases Driver.eq_of_refuseUnless_eq_error herror
  exact h rfl

/-- A session persistence that is refused says nothing of health checks. -/
theorem validatePersistence_ne_unchecked (p : Option SessionPersistence) :
    validatePersistence p ≠ .error (.unsupported .healthChecks) := by
  cases p with
  | none => simp [validatePersistence]
  | some p => exact refuseUnless_ne_unchecked (by simp)

theorem Driver.requireSubnet_ne_unchecked (action : MemberAction) (address : String)
    (found : Option (String × String)) :
    requireSubnet action address found ≠ .error (.unsupported .healthChecks) := by
  intro h
  cases eq_of_requireSubnet_eq_error h

namespace Routine

variable {k : Manner}

/-! ## Subnets and members -/

section Members

/-- The subnet of a row is asked for, and a missing one passes. -/
theorem subnetOfRow (row : Row) : Routine k fun _ d ↦ d.subnetOfRow row := by
  unfold Driver.subnetOfRow
  cases row.vipSubnetId? with
  | none => exact .pure _
  | some id =>
    refine .tryAsk (.subnet id) fun r ↦ ?_
    cases r with
    | ok subnet => exact .pure _
    | error e =>
      change Routine k fun _ _ ↦
        if e.isNotFound then Pure.pure none else MonadExcept.throw (.api e)
      split
      · exact .pure _
      · exact .throw (by simp)

theorem subnetOfPool (poolId : String) : Routine k fun _ d ↦ d.subnetOfPool poolId := by
  refine .bind (.askBackend (.findByPoolId poolId)) fun found ↦ ?_
  rcases found with _ | ⟨_, row⟩
  · exact .pure _
  · exact .subnetOfRow row

/-- A member's subnet is its own, or that of its pool after a check. -/
theorem resolveSubnet (m : Member) (action : MemberAction) :
    Routine k fun _ d ↦ d.resolveSubnet m action := by
  unfold Driver.resolveSubnet
  cases m.subnetId.nonEmpty with
  | some subnet => exact .pure subnet
  | none =>
    exact .bind (.subnetOfPool m.poolId) fun found ↦
      .check (Driver.requireSubnet_ne_unchecked action _ found)

/-- A new load balancer's subnets are asked for only if a member needs one. -/
theorem cascadeSubnet (lb : LoadBalancer) (m : Member) :
    Routine k fun _ d ↦ d.cascadeSubnet lb m := by
  unfold Driver.cascadeSubnet
  split
  · exact .pure _
  · exact .pure _
  · split
    · exact .bind (.askNetwork (.subnets _)) fun _ ↦ .pure _
    · exact .pure _

theorem refuseConflict (m : Member) : Routine k fun _ d ↦ d.refuseConflict m := by
  have hconflict : Routine k fun _ d ↦ d.ipConflict m := by
    unfold Driver.ipConflict
    cases m.address.nonEmpty with
    | none => exact .pure false
    | some address =>
      refine .bind (.askBackend (.findByPoolId m.poolId)) fun found ↦ ?_
      rcases found with _ | ⟨_, row⟩ <;> exact .pure _
  refine .bind hconflict fun differs ↦ ?_
  cases differs
  · exact .pure ()
  · exact .throw (by simp)

theorem placeMember {op : Operation} (hop : op.probes = false) (m : Member) :
    Routine k fun _ d ↦ d.placeMember op m :=
  .bind (.resolveSubnet m .creation) fun subnet ↦ .submit (by simpa using ⟨hop, rfl⟩)

/-- A new member is checked, its pool is asked for, and it is sent. -/
theorem createMember (m : Member) : Routine k fun _ d ↦ d.createMember m :=
  .bind (.check (refuseUnless_ne_unchecked (by simp))) fun _ ↦
    .bind (.refuseConflict m) fun _ ↦ .placeMember rfl m

theorem syncMember (m : Member) : Routine k fun _ d ↦ d.syncMember m :=
  .bind (.check (refuseUnless_ne_unchecked (by simp))) fun _ ↦ .placeMember rfl m

/-- A member that goes is sent with its notice, once its subnet is known. -/
theorem deleteMember (m : Member) : Routine k fun _ d ↦ d.deleteMember m :=
  .bind (.resolveSubnet m .deletion) fun subnet ↦ .submit (by simpa using ⟨rfl, rfl⟩)

theorem updateMember (old new : Member) : Routine k fun _ d ↦ d.updateMember old new :=
  .bind (.check (refuseUnless_ne_unchecked (by simp))) fun _ ↦
    .bind (.refuseConflict new) fun _ ↦ .emit rfl

theorem deleteEntry (poolId : String) (e : MemberEntry) :
    Routine k fun _ _ ↦ Driver.deleteEntry poolId e :=
  .submit (by simpa using ⟨rfl, rfl⟩)

/-- A refusal that comes before everything else. -/
theorem refuseIf {c : Prop} [Decidable c] {e : DriverError} {p : ∀ τ : Type, Driver τ → Act τ α}
    (he : e ≠ .unsupported .healthChecks) (hp : Routine k p) :
    Routine k fun τ d ↦ if c then (MonadExcept.throw e : Act τ Unit) >>= fun _ ↦ p τ d
      else p τ d := by
  by_cases hc : c
  · simp only [hc, if_true]
    exact .bind (.throw he) fun _ ↦ hp
  · simpa only [hc, if_false] using hp

/-- The subnets of a batch, by induction on its members. -/
theorem resolveBatch (row : Row) (known : Option (Option (String × String)))
    (ms : List Member) : Routine k fun _ d ↦ d.resolveBatch row known ms := by
  induction ms generalizing known with
  | nil => exact .pure []
  | cons m ms ih =>
    refine .refuseIf (by simp) (.refuseIf (by simp) ?_)
    cases m.subnetId.nonEmpty with
    | some subnet => exact .bind (ih known) fun _ ↦ .pure _
    | none =>
      have hrest (found : Option (String × String)) : Routine k fun _ d ↦
          Act.check (Driver.requireSubnet .batchUpdate (m.address.nonEmpty.getD "") found) >>=
            fun subnet ↦ d.resolveBatch row (some found) ms >>= fun rest ↦
              Pure.pure ((m, subnet) :: rest) :=
        .bind (.check (Driver.requireSubnet_ne_unchecked _ _ found)) fun _ ↦
          .bind (ih (some found)) fun _ ↦ .pure _
      cases known with
      | some found => exact .bind (.pure found) hrest
      | none => exact .bind (.subnetOfRow row) hrest

/-- A batch asks for everything before it sends. -/
theorem updateMembers (poolId : String) (ms : List Member) :
    Routine k fun _ d ↦ d.updateMembers poolId ms := by
  refine .bind (.askBackend (.requirePool poolId)) fun (key, row) ↦
    .bind (.resolveBatch row none ms) fun resolved ↦ .submit ?_
  rw [List.forall_mem_append]
  constructor
  · obtain ⟨os, hos, hfrom⟩ := Driver.matchBatch_eq_requests (row.entries key) resolved
    rw [hos, List.forall_mem_flatMap]
    intro o ho
    obtain ⟨op, hop, p, -, rfl⟩ := hfrom o ho
    rw [Sending.requests, List.forall_mem_singleton]
    rcases hop with rfl | rfl <;> rfl
  · rw [Driver.deletions, List.forall_mem_flatMap]
    intro e _
    simpa using ⟨rfl, rfl⟩

end Members

/-! ## Listeners, pools and health monitors -/

section Pools

theorem placeListener {op : Operation} (hop : op.probes = false) (l : Listener) :
    Routine k fun _ _ ↦ Driver.placeListener op l :=
  .bind (.check (refuseUnless_ne_unchecked (by simp))) fun _ ↦
    .bind (.check (refuseUnless_ne_unchecked (by simp))) fun _ ↦ .emit hop

theorem updateListener (old new : Listener) : Routine k fun _ _ ↦ Driver.updateListener old new :=
  .bind (.check (refuseUnless_ne_unchecked (by simp))) fun _ ↦ .emit rfl

/-- A pool is checked and sent; its health monitor is not part of it. -/
theorem placePool {op : Operation} (hop : op.probes = false) (p : Pool) :
    Routine k fun _ _ ↦ Driver.placePool op p :=
  .bind (.check (refuseUnless_ne_unchecked (by simp))) fun _ ↦
    .bind (.check (refuseUnless_ne_unchecked (by simp))) fun _ ↦
      .bind (.check (validatePersistence_ne_unchecked _)) fun _ ↦ .emit hop

/-- A check that is made only in some cases. -/
theorem checkIf {isSet : Bool} {r : Except DriverError Unit}
    {p : ∀ τ : Type, Driver τ → Act τ Unit} (hr : r ≠ .error (.unsupported .healthChecks))
    (hp : Routine k p) :
    Routine k fun τ d ↦ if isSet = true then Act.check r >>= fun _ ↦ p τ d else p τ d := by
  cases isSet with
  | true => exact .bind (.check hr) fun _ ↦ hp
  | false => exact hp

/-- An update of a pool checks what is set and is sent. -/
theorem updatePool (old new : Pool) : Routine k fun _ _ ↦ Driver.updatePool old new :=
  .checkIf (refuseUnless_ne_unchecked (by simp)) <|
    .checkIf (refuseUnless_ne_unchecked (by simp)) <|
      .checkIf (validatePersistence_ne_unchecked _) (.emit rfl)

/-- To delete a health monitor, nobody is asked about health checks. -/
theorem deletePool (p : Pool) : Routine k fun _ d ↦ d.deletePool p :=
  .bind (.forM (fun _ ↦ .emit rfl) _) fun _ ↦ .bind (.forM .deleteMember _) fun _ ↦ .emit rfl

theorem createHealthMonitor (hk : k ≠ .quiet) (h : HealthMonitor) :
    Routine k fun _ d ↦ d.createHealthMonitor h := .probe (.create h) hk

theorem updateHealthMonitor (hk : k ≠ .quiet) (old new : HealthMonitor) :
    Routine k fun _ d ↦ d.updateHealthMonitor old new := .probe (.update old new) hk

/-- A health monitor that is known already is probed for as well. -/
theorem syncHealthMonitor (hk : k ≠ .quiet) (h : HealthMonitor) :
    Routine k fun _ d ↦ d.syncHealthMonitor h := by
  refine .bind (.askBackend (.monitorKnown h.id)) fun known ↦ ?_
  cases known with
  | true => exact .probe (.sync h) hk
  | false => exact .probe (.create h) hk

theorem createPool (hk : k ≠ .quiet) (p : Pool) : Routine k fun _ d ↦ d.createPool p :=
  .bind (.placePool rfl p) fun _ ↦ .forM (.createHealthMonitor hk) _

end Pools

/-! ## Load balancers -/

section Balancers

theorem cascadeMember (lb : LoadBalancer) (m : Member) :
    Routine k fun _ d ↦ d.cascadeMember lb m := by
  unfold Driver.cascadeMember
  cases m.subnetId.nonEmpty with
  | some subnet => exact .createMember m
  | none =>
    refine .bind (.cascadeSubnet lb m) fun found ↦ ?_
    cases found <;> exact .createMember _

/-- A new load balancer may have health monitors in its pools. -/
theorem createLoadBalancer (hk : k ≠ .quiet) (lb : LoadBalancer) :
    Routine k fun _ d ↦ d.createLoadBalancer lb :=
  .bind (.emit rfl) fun _ ↦
    .bind (.forM (fun l ↦ .placeListener rfl l) _) fun _ ↦
      .forM (fun p ↦ .bind (.createPool hk p) fun _ ↦ .forM (.cascadeMember lb) _) _

theorem recordedElsewhere (poolId : String) : Routine k fun _ d ↦ d.recordedElsewhere poolId := by
  refine .tryAsk (.retryOnNotFound (.requirePool poolId)) fun r ↦ ?_
  rcases r with e | ⟨key, row⟩
  · change Routine k fun _ _ ↦
      if e.isRowNotFound then Pure.pure [] else MonadExcept.throw (.backend e)
    split
    · exact .pure _
    · exact .throw (by simp)
  · exact .pure _

theorem syncPool (hk : k ≠ .quiet) (lb : LoadBalancer) (rows : List Row) (p : Pool) :
    Routine k fun _ d ↦ d.syncPool lb rows p := by
  have hop : (if (findInRows rows p.id).isSome then Operation.poolSync else .poolCreate).probes =
      false := by
    split <;> rfl
  have hrest (recorded : List MemberEntry) : Routine k fun _ d ↦
      (Driver.orphans p.members.items recorded).forM (Driver.deleteEntry p.id) >>= fun _ ↦
        p.healthMonitor.asOption.toList.forM d.syncHealthMonitor :=
    .bind (.forM (.deleteEntry p.id) _) fun _ ↦ .forM (.syncHealthMonitor hk) _
  refine .bind (.placePool hop p) fun _ ↦ .bind (.forM (fun m ↦ .syncMember _) _) fun _ ↦ ?_
  cases findInRows rows p.id with
  | some found => exact .bind (.pure _) hrest
  | none => exact .bind (.recordedElsewhere p.id) hrest

theorem syncRows (hk : k ≠ .quiet) (lb : LoadBalancer) (rows : List Row) :
    Routine k fun _ d ↦ d.syncRows lb rows :=
  .bind (.emit rfl) fun _ ↦
    .bind (.forM (fun l ↦ .placeListener rfl l) _) fun _ ↦
      .bind (.forM (.syncPool hk lb rows) _) fun _ ↦ .emit rfl

/-- A pass fails with its first failure, so it is strict. -/
theorem syncLoadBalancer (hk : k ≠ .quiet) (lb : LoadBalancer) :
    Routine k fun _ d ↦ d.syncLoadBalancer lb := by
  refine .tryAsk (.retryOnNotFound (.rows lb.id)) fun r ↦ ?_
  rcases r with e | rows
  · change Routine k fun _ d ↦ if e.isRowNotFound then
      d.createLoadBalancer lb >>= fun _ ↦ Pure.pure SyncOutcome.recreated
        else MonadExcept.throw (.backend e)
    split
    · exact .bind (.createLoadBalancer hk lb) fun _ ↦ .pure _
    · exact .throw (by simp)
  · exact .bind (.syncRows hk lb rows) fun _ ↦ .pure _

end Balancers

/-! ## Floating addresses and ports -/

section Ports

/-- The floating address has nothing to do with health checks. -/
theorem syncVipFip (lb : LoadBalancer) : Routine k fun _ d ↦ d.syncVipFip lb := by
  unfold Driver.syncVipFip
  cases lb.vipNetworkId.nonEmpty with
  | none => exact .pure false
  | some network =>
    have hrows : Routine k fun _ d ↦ d.rowsForFip lb.id := by
      refine .tryAsk (.rows lb.id) fun r ↦ ?_
      rcases r with e | rows <;> exact .pure _
    refine .bind hrows fun rows? ↦ ?_
    cases rows? with
    | none => exact .pure false
    | some rows =>
      dsimp only
      cases Driver.vipPort? lb rows with
      | none => exact .pure false
      | some portId =>
        refine .tryAsk (.floatingIps portId) fun r ↦ ?_
        rcases r with e | fips
        · exact .pure false
        refine .tryAsk (.logicalPort portId) fun r ↦ ?_
        rcases r with e | port?
        · exact .pure false
        change Routine k fun _ _ ↦ Driver.applyFip _ _ _ _
        unfold Driver.applyFip
        split
        · exact .pure true
        · exact .bind (.emit rfl) fun _ ↦ .pure true
        · exact .pure false

theorem releaseVip (portId : String) : Routine k fun _ d ↦ d.releaseVip portId :=
  .tryAsk (.release portId) fun _ ↦ .pure ()

theorem allocateVip (r : PortRequest) : Routine k fun _ d ↦ d.allocateVip r := by
  refine .bind (.ask (.allocation r) (by simp [Driver.allocationError])) fun p ↦ ?_
  cases p.ipAddress with
  | some address => exact .pure _
  | none => exact .bind (.releaseVip p.portId) fun _ ↦ .throw (by simp)

/-- Ports are allocated one by one, and all given back if one fails. -/
theorem allocateAdditional (lbId : String) (projectId : Option String) (primary : VipPort)
    (done : List VipPort) (rs : List VipRequest) :
    Routine k fun _ d ↦ d.allocateAdditional lbId projectId primary done rs := by
  induction rs generalizing done with
  | nil => exact .pure done
  | cons r rs ih =>
    refine .bind (.tryCatch (.allocateVip _) fun e he ↦ ?_) fun _ ↦ ih _
    exact .bind (.forM (fun p : VipPort ↦ .releaseVip p.portId) _) fun _ ↦ .throw he

theorem createVipPort (lbId : String) (projectId : Option String) (vip : VipRequest)
    (additional : List VipRequest) :
    Routine k fun _ d ↦ d.createVipPort lbId projectId vip additional :=
  .bind (.allocateVip _) fun primary ↦
    .bind (.allocateAdditional lbId projectId primary [] additional) fun _ ↦ .pure _

end Ports

/-! ## Runs -/

section Runs

/-- The failure of a pass is entered in the report, so the run is lenient. -/
theorem syncListed (report : SyncReport) (id : String) :
    Routine .lenient fun _ d ↦ d.syncListed report id := by
  refine .tryAsk (.balancer id) fun r ↦ ?_
  rcases r with e | lb
  · exact .pure _
  refine .bind (.attempt (.syncLoadBalancer (by simp) lb)) fun r ↦ ?_
  rcases r with e | outcome
  · cases e with
    | applierClosed => exact .throw (by simp)
    | _ => exact .pure _
  · exact .bind (.syncVipFip lb) fun _ ↦ .pure _

/-- The first passes, by induction on the list. -/
theorem syncAll (report : SyncReport) (ids : List String) :
    Routine .lenient fun _ d ↦ d.syncAll report ids := by
  induction ids generalizing report with
  | nil => exact .pure _
  | cons id ids ih => exact .bind (.syncListed report id) fun _ ↦ .bind (ih _) fun _ ↦ .pure _

theorem syncAgain (report : SyncReport) (lbs : List LoadBalancer) :
    Routine .lenient fun _ d ↦ d.syncAgain report lbs := by
  induction lbs generalizing report with
  | nil => exact .pure _
  | cons lb lbs ih =>
    refine .bind (.attempt (.syncLoadBalancer (by simp) lb)) fun r ↦ ?_
    rcases r with e | outcome
    · cases e with
      | applierClosed => exact .throw (by simp)
      | _ => exact ih _
    · exact ih _

theorem sync (filters : Filters) : Routine .lenient fun _ d ↦ d.sync filters :=
  .bind (.fetch (.balancerIds filters)) fun ids ↦
    .bind (.syncAll .empty ids) fun _ ↦ .syncAgain _ _

end Runs

end Routine

/-! ## Calls with their results -/

/-- The result of a call that goes well. -/
inductive Reply
  | done
  | ports (primary : VipPort) (additional : List VipPort)
  | outcome (o : SyncOutcome)
  | agrees (yes : Bool)
  | report (r : SyncReport)

/-- What a call does, with its result. -/
def Driver.reply (d : Driver σ) : Command → Act σ Reply
  | .createVipPort lbId projectId vip additional => do
    let (primary, ports) ← d.createVipPort lbId projectId vip additional
    return .ports primary ports
  | .syncLoadBalancer lb => return .outcome (← d.syncLoadBalancer lb)
  | .syncVipFip lb => return .agrees (← d.syncVipFip lb)
  | .sync filters => return .report (← d.sync filters)
  | c => do
    d.perform c
    return .done

/-- A call is performed like one whose result is wanted. -/
theorem Driver.perform_eq_reply (d : Driver σ) (c : Command) :
    d.perform c = d.reply c >>= fun _ ↦ pure () := by
  cases c <;> simp [perform, reply]

/-- A call is a routine, and a lenient one only if it is a run. -/
theorem Routine.reply {k : Manner} (hk : k ≠ .quiet) {c : Command}
    (hc : ∀ filters, c = .sync filters → k = .lenient) : Routine k fun _ d ↦ d.reply c := by
  cases c with
  | createLoadBalancer lb => exact .bind (.createLoadBalancer hk lb) fun _ ↦ .pure _
  | updateLoadBalancer new => exact .bind (.emit rfl) fun _ ↦ .pure _
  | deleteLoadBalancer lb cascade => exact .bind (.emit rfl) fun _ ↦ .pure _
  | failover id => exact .bind (.throw (by simp)) fun _ ↦ .pure _
  | createVipPort lbId projectId vip additional =>
    exact .bind (.createVipPort lbId projectId vip additional) fun _ ↦ .pure _
  | createListener l => exact .bind (.placeListener rfl l) fun _ ↦ .pure _
  | updateListener old new => exact .bind (.updateListener old new) fun _ ↦ .pure _
  | deleteListener l => exact .bind (.emit rfl) fun _ ↦ .pure _
  | createPool p => exact .bind (.createPool hk p) fun _ ↦ .pure _
  | updatePool old new => exact .bind (.updatePool old new) fun _ ↦ .pure _
  | deletePool p => exact .bind (.deletePool p) fun _ ↦ .pure _
  | createMember m => exact .bind (.createMember m) fun _ ↦ .pure _
  | syncMember m => exact .bind (.syncMember m) fun _ ↦ .pure _
  | updateMember old new => exact .bind (.updateMember old new) fun _ ↦ .pure _
  | deleteMember m => exact .bind (.deleteMember m) fun _ ↦ .pure _
  | updateMembers poolId ms => exact .bind (.updateMembers poolId ms) fun _ ↦ .pure _
  | createHealthMonitor h => exact .bind (.createHealthMonitor hk h) fun _ ↦ .pure _
  | updateHealthMonitor old new => exact .bind (.updateHealthMonitor hk old new) fun _ ↦ .pure _
  | deleteHealthMonitor h => exact .bind (.emit rfl) fun _ ↦ .pure _
  | syncLoadBalancer lb => exact .bind (.syncLoadBalancer hk lb) fun _ ↦ .pure _
  | syncVipFip lb => exact .bind (.syncVipFip lb) fun _ ↦ .pure _
  | sync filters =>
    obtain rfl := hc filters rfl
    exact .bind (.sync filters) fun _ ↦ .pure _

/-- Every call is a routine. -/
theorem Routine.call (c : Command) : Routine .lenient fun _ d ↦ d.reply c :=
  .reply (by simp) fun _ _ ↦ rfl

end BalancerSync
