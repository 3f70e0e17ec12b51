import BalancerSync.Driver.Sync
import BalancerSync.Proofs.Action

/-!
# What the actions of the driver are built from

All that a pass does is put together from a few kinds of steps: it checks an object, it asks a
collaborator, it looks up whether there are health checks, and it sends a request.  `Driver.Built`
says so of an action, and what holds of every step and survives sequencing holds of all of them.
The requests that an action may send are a parameter; an action that may send none only asks.
-/

namespace BalancerSync

variable {σ α β : Type}

/-! ## Questions -/

/-- The calls of the backend that a lookup consists of. -/
inductive Backend.Question (b : Backend σ) : {α : Type} → Call σ BackendError α → Prop
  | findLoadBalancers (id : String) : Question b (b.findLoadBalancers id)
  | findByPoolKey (key : String) : Question b (b.findByPoolKey key)
  | hasHealthMonitor (id : String) : Question b (b.hasHealthMonitor id)
  | logicalPort (id : String) : Question b (b.logicalPort id)
  | pure {α : Type} (a : α) : Question b (pure a)
  | throw {α : Type} (e : BackendError) : Question b (throw e : Call σ BackendError α)
  | bind {α β : Type} {call : Call σ BackendError α} {f : α → Call σ BackendError β} :
      Question b call → (∀ a, Question b (f a)) → Question b (call >>= f)
  | retry {α : Type} {call : Call σ BackendError α} (n : Nat) :
      Question b call → Question b (retry call n)

/-- The questions about subnets and floating addresses. -/
inductive Network.Question (n : Network σ) : {α : Type} → Call σ ApiError α → Prop
  | floatingIps (id : String) : Question n (n.floatingIps id)
  | subnet (id : String) : Question n (n.subnet id)
  | networkSubnets (id : String) : Question n (n.networkSubnets id)

namespace Backend.Question

variable (b : Backend σ)

/-- Looking for a pool under both of its keys is a question. -/
theorem findByPoolId (poolId : String) : b.Question (findByPoolId b poolId) := by
  refine .bind (.findByPoolKey _) fun r ↦ ?_
  cases r with
  | some row => exact .pure _
  | none => exact .bind (.findByPoolKey _) fun _ ↦ .pure _

theorem requirePool (poolId : String) : b.Question (requirePool b poolId) := by
  refine .bind (findByPoolId b poolId) fun r ↦ ?_
  cases r with
  | some found => exact .pure found
  | none => exact .throw _

end Backend.Question

/-! ## Steps -/

namespace Driver

/-- The action is made of checks, questions and requests that satisfy `R`.  Failures that are
looked at are those of one question. -/
inductive Built (d : Driver σ) (R : ChangeRequest → Prop) : {α : Type} → Act σ α → Prop
  | pure {α : Type} (a : α) : Built d R (pure a)
  | bind {α β : Type} {act : Act σ α} {f : α → Act σ β} :
      Built d R act → (∀ a, Built d R (f a)) → Built d R (act >>= f)
  | check {α β : Type} {r : Except DriverError α} {f : α → Act σ β} :
      r ≠ .error .applierClosed → (∀ a, r = .ok a → Built d R (f a)) →
        Built d R (Act.check r >>= f)
  | backend {α : Type} {call : Call σ BackendError α} :
      d.backend.Question call → Built d R (Act.askBackend call)
  | tryBackend {α β : Type} {call : Call σ BackendError α} {f : Except DriverError α → Act σ β} :
      d.backend.Question call →
        (∀ r : Except BackendError α, Built d R (f (r.mapError .backend))) →
          Built d R (Act.observe (Act.askBackend call) >>= f)
  | network {α : Type} {call : Call σ ApiError α} :
      d.network.Question call → Built d R (Act.askNetwork call)
  | tryNetwork {α β : Type} {call : Call σ ApiError α} {f : Except DriverError α → Act σ β} :
      d.network.Question call →
        (∀ r : Except ApiError α, Built d R (f (r.mapError .api))) →
          Built d R (Act.observe (Act.askNetwork call) >>= f)
  | healthChecks : Built d R d.healthChecksSupported
  | emit {r : ChangeRequest} : R r → Built d R (Act.emit r)

/-- The action sends nothing. -/
abbrev Asks (d : Driver σ) (act : Act σ α) : Prop := d.Built (fun _ ↦ False) act

/-- The action may send anything. -/
abbrev Acts (d : Driver σ) (act : Act σ α) : Prop := d.Built (fun _ ↦ True) act

namespace Built

variable {d : Driver σ} {R R' : ChangeRequest → Prop}

/-- An action that sends only some requests sends only those of a larger kind. -/
theorem mono {act : Act σ α} (h : d.Built R act) (hR : ∀ r, R r → R' r) : d.Built R' act := by
  induction h with
  | pure a => exact .pure a
  | bind _ _ ih ihf => exact .bind ih ihf
  | check hr _ ihf => exact .check hr ihf
  | backend hq => exact .backend hq
  | tryBackend hq _ ih => exact .tryBackend hq ih
  | network hq => exact .network hq
  | tryNetwork hq _ ih => exact .tryNetwork hq ih
  | healthChecks => exact .healthChecks
  | emit hr => exact .emit (hR _ hr)

/-- A check at the end of an action. -/
theorem verdict {r : Except DriverError α} (hr : r ≠ .error .applierClosed) :
    d.Built R (Act.check r) := by
  rw [← bind_pure (Act.check r)]
  exact .check hr fun a _ ↦ .pure a

/-- A failure is like a check that does not pass, unless it is that of the applier. -/
theorem throw {e : DriverError} (he : e ≠ .applierClosed) :
    d.Built R (throw e : Act σ α) :=
  verdict (r := .error e) (by simpa using he)

theorem forM {f : α → Act σ Unit} (hf : ∀ a, d.Built R (f a)) (xs : List α) :
    d.Built R (xs.forM f) := by
  induction xs with
  | nil => exact .pure ()
  | cons x xs ih => exact .bind (hf x) fun _ ↦ ih

theorem submit {rs : List ChangeRequest} (hR : ∀ r ∈ rs, R r) : d.Built R (Act.submit rs) := by
  induction rs with
  | nil => exact .pure ()
  | cons r rs ih =>
    exact .bind (.emit (hR r (by simp))) fun _ ↦ ih fun r' h ↦ hR r' (by simp [h])

end Built

/-! ## The health-check capability -/

/-- A known capability is not asked for again. -/
theorem healthChecksSupported_of_known (d : Driver σ) {s : Session σ} {known : Bool}
    (h : s.healthChecks = some known) : d.healthChecksSupported.run s = (.ok known, s) := by
  rw [healthChecksSupported, Act.run_bind_of_ok (Act.run_get s), h]
  rfl

/-- An unknown capability is asked for, and kept unless the question fails. -/
theorem healthChecksSupported_of_unknown (d : Driver σ) {s : Session σ}
    (h : s.healthChecks = none) : d.healthChecksSupported.run s =
      match d.backend.supportsHealthChecks s.world with
      | (.ok answer, w) => (.ok answer, { s with world := w, healthChecks := some answer })
      | (.error e, w) => (.error (.backend e), { s with world := w }) := by
  rw [healthChecksSupported, Act.run_bind_of_ok (Act.run_get s), h]
  rcases hw : d.backend.supportsHealthChecks s.world with ⟨e | answer, w⟩
  · exact (Act.run_bind_of_error (e := .backend e) (t := { s with world := w }) (by
      simp [Act.askBackend, hw]) _).trans (by simp [h])
  · refine (Act.run_bind_of_ok (a := answer) (t := { s with world := w }) ?_ _).trans rfl
    simp [Act.askBackend, hw]

/-! ## Silence -/

/-- The look-up of health checks may change what is remembered, but sends nothing. -/
theorem silent_healthChecksSupported (d : Driver σ) : d.healthChecksSupported.Silent := by
  rintro ⟨world, _ | known, emitted, isOpen⟩ rs o
  · rw [d.healthChecksSupported_of_unknown rfl, d.healthChecksSupported_of_unknown rfl]
    rcases d.backend.supportsHealthChecks world with ⟨e | answer, w⟩ <;> rfl
  · rw [d.healthChecksSupported_of_known rfl, d.healthChecksSupported_of_known rfl]

/-- An action that sends nothing does not depend on what was sent. -/
theorem Asks.silent {d : Driver σ} {act : Act σ α} (h : d.Asks act) : act.Silent := by
  induction h with
  | pure a => exact .pure a
  | bind _ _ ih ihf => exact ih.bind ihf
  | @check _ _ r _ _ _ ihf =>
    intro s rs o
    cases r with
    | error e => rfl
    | ok a => exact ihf a rfl s rs o
  | backend _ | network _ => exact .ask _ _
  | tryBackend _ _ ih | tryNetwork _ _ ih => exact .tryAsk ih
  | healthChecks => exact silent_healthChecksSupported d
  | emit hr => exact hr.elim

/-! ## The questions of the driver -/

/-- An action that sends nothing sends only requests of whatever kind. -/
theorem Asks.built {d : Driver σ} {R : ChangeRequest → Prop} {act : Act σ α} (h : d.Asks act) :
    d.Built R act :=
  Built.mono h fun _ ↦ False.elim

section Questions

variable (d : Driver σ)

/-- The subnet of a row is asked for without sending; that it is not there is no failure. -/
theorem asks_subnetOfRow (row : Row) : d.Asks (d.subnetOfRow row) := by
  unfold subnetOfRow
  cases row.vipSubnetId? with
  | none => exact .pure _
  | some id =>
    refine .tryNetwork (.subnet id) fun r ↦ ?_
    cases r with
    | ok subnet => exact .pure _
    | error e =>
      change d.Asks (if e.isNotFound then pure none else throw (.api e))
      split
      · exact .pure _
      · exact .throw (by simp)

theorem asks_subnetOfPool (poolId : String) : d.Asks (d.subnetOfPool poolId) := by
  refine .bind (.backend (.findByPoolId _ poolId)) fun found ↦ ?_
  rcases found with _ | ⟨_, row⟩
  · exact .pure _
  · exact d.asks_subnetOfRow row

/-- The only fault of a subnet is that it is not there, or not the address's. -/
theorem eq_of_requireSubnet_eq_error {action : MemberAction} {address : String}
    {found : Option (String × String)} {e : DriverError}
    (h : requireSubnet action address found = .error e) :
    e = .unsupported (.subnetRequired action) := by
  rcases found with _ | ⟨id, cidr⟩
  · exact (Except.error.inj h).symm
  · rw [requireSubnet] at h
    split at h
    · cases h
    · exact (Except.error.inj h).symm

theorem requireSubnet_ne_closed (action : MemberAction) (address : String)
    (found : Option (String × String)) :
    requireSubnet action address found ≠ .error .applierClosed := by
  intro h
  cases eq_of_requireSubnet_eq_error h

/-- The subnet of a member is found out before anything is sent. -/
theorem asks_resolveSubnet (m : Member) (action : MemberAction) :
    d.Asks (d.resolveSubnet m action) := by
  unfold resolveSubnet
  cases m.subnetId.nonEmpty with
  | some subnet => exact .pure subnet
  | none =>
    exact .bind (d.asks_subnetOfPool m.poolId) fun found ↦
      .verdict (requireSubnet_ne_closed action _ found)

theorem asks_cascadeSubnet (lb : LoadBalancer) (m : Member) : d.Asks (d.cascadeSubnet lb m) := by
  unfold cascadeSubnet
  split
  · exact .pure _
  · exact .pure _
  · split
    · exact .bind (.network (.networkSubnets _)) fun _ ↦ .pure _
    · exact .pure _

/-- A conflict of families is found out by asking for the row of the pool. -/
theorem asks_refuseConflict (m : Member) : d.Asks (d.refuseConflict m) := by
  have hc : d.Asks (d.ipConflict m) := by
    unfold ipConflict
    cases m.address.nonEmpty with
    | none => exact .pure false
    | some address =>
      refine .bind (.backend (.findByPoolId _ _)) fun found ↦ ?_
      rcases found with _ | ⟨_, row⟩ <;> exact .pure _
  refine .bind hc fun differs ↦ ?_
  cases differs
  · exact .pure ()
  · exact .throw (by simp)

/-- The recorded members of a pool are asked for without sending; a pool that never appears has
none. -/
theorem asks_recordedElsewhere (poolId : String) : d.Asks (d.recordedElsewhere poolId) := by
  refine .tryBackend (.retry _ (.requirePool _ poolId)) fun r ↦ ?_
  rcases r with e | ⟨key, row⟩
  · change d.Asks (if e.isRowNotFound then pure [] else throw (.backend e))
    split
    · exact .pure _
    · exact .throw (by simp)
  · exact .pure _

/-- The rows for a floating address are asked for without sending. -/
theorem asks_rowsForFip (lbId : String) : d.Asks (d.rowsForFip lbId) := by
  refine .tryBackend (.findLoadBalancers lbId) fun r ↦ ?_
  rcases r with e | rows <;> exact .pure _

end Questions

/-! ## The operations of the driver -/

/-- A check fails only with its own refusal. -/
theorem eq_of_refuseUnless_eq_error {ok : Bool} {why : Refusal} {e : DriverError}
    (h : refuseUnless ok why = .error e) : e = .unsupported why := by
  cases ok with
  | false => exact (Except.error.inj h).symm
  | true => cases h

/-- A refusal is not mistaken for a closed applier. -/
theorem refuseUnless_ne_closed (ok : Bool) (why : Refusal) :
    refuseUnless ok why ≠ .error .applierClosed := by
  intro h
  cases eq_of_refuseUnless_eq_error h

theorem validatePersistence_ne_closed (p : Option SessionPersistence) :
    validatePersistence p ≠ .error .applierClosed := by
  cases p with
  | none => simp [validatePersistence]
  | some p => exact refuseUnless_ne_closed _ _

theorem validateHealthMonitor_ne_closed (h : HealthMonitor) (supported creating : Bool) :
    validateHealthMonitor h supported creating ≠ .error .applierClosed := by
  unfold validateHealthMonitor
  split
  · simp
  split
  · simp
  split
  · simp
  · exact refuseUnless_ne_closed _ _

section Operations

variable (d : Driver σ)

theorem acts_emit (r : ChangeRequest) : d.Acts (Act.emit r) := .emit trivial

theorem acts_submit (rs : List ChangeRequest) : d.Acts (Act.submit rs) :=
  .submit fun _ _ ↦ trivial

theorem acts_placeListener (op : Operation) (l : Listener) : d.Acts (placeListener op l) :=
  .check (refuseUnless_ne_closed _ _) fun _ _ ↦
    .check (refuseUnless_ne_closed _ _) fun _ _ ↦ d.acts_emit _

theorem acts_placePool (op : Operation) (p : Pool) : d.Acts (placePool op p) :=
  .check (refuseUnless_ne_closed _ _) fun _ _ ↦
    .check (refuseUnless_ne_closed _ _) fun _ _ ↦
      .check (validatePersistence_ne_closed _) fun _ _ ↦ d.acts_emit _

/-- A health monitor is placed by a look-up, a check and a request. -/
theorem acts_placeHealthMonitor (op : Operation) (h : HealthMonitor) :
    d.Acts (d.placeHealthMonitor op h) :=
  .bind .healthChecks fun supported ↦
    .check (validateHealthMonitor_ne_closed h supported true) fun _ _ ↦ d.acts_emit _

/-- A member is placed by finding its subnet and sending it with its notice. -/
theorem acts_placeMember (op : Operation) (m : Member) : d.Acts (d.placeMember op m) :=
  .bind (d.asks_resolveSubnet m .creation).built fun _ ↦ d.acts_submit _

/-- A member is created by checks, by a question about its pool, and by placing it. -/
theorem acts_createMember (m : Member) : d.Acts (d.createMember m) :=
  .check (refuseUnless_ne_closed _ _) fun _ _ ↦
    .bind (d.asks_refuseConflict m).built fun _ ↦ d.acts_placeMember .memberCreate m

theorem acts_syncMember (m : Member) : d.Acts (d.syncMember m) :=
  .check (refuseUnless_ne_closed _ _) fun _ _ ↦ d.acts_placeMember .memberSync m

/-- A pool is created by placing it and then its health monitor, if it has one. -/
theorem acts_createPool (p : Pool) : d.Acts (d.createPool p) :=
  .bind (d.acts_placePool .poolCreate p) fun _ ↦ .forM (d.acts_placeHealthMonitor .hmCreate) _

/-- A member of a new load balancer is created once its subnet is filled in. -/
theorem acts_cascadeMember (lb : LoadBalancer) (m : Member) : d.Acts (d.cascadeMember lb m) := by
  unfold cascadeMember
  cases m.subnetId.nonEmpty with
  | some subnet => exact d.acts_createMember m
  | none =>
    refine .bind (d.asks_cascadeSubnet lb m).built fun found ↦ ?_
    cases found <;> exact d.acts_createMember _

/-- A load balancer is created by sending it and then creating its children. -/
theorem acts_createLoadBalancer (lb : LoadBalancer) : d.Acts (d.createLoadBalancer lb) :=
  .bind (d.acts_emit _) fun _ ↦
    .bind (.forM (d.acts_placeListener .listenerCreate) _) fun _ ↦
      .forM (fun p ↦ .bind (d.acts_createPool p) fun _ ↦ .forM (d.acts_cascadeMember lb) _) _

theorem acts_syncHealthMonitor (h : HealthMonitor) : d.Acts (d.syncHealthMonitor h) :=
  .bind (.backend (.hasHealthMonitor h.id)) fun _ ↦ d.acts_placeHealthMonitor _ h

/-- A pool is synchronised by placing it, its members and its health monitor, and by deleting
recorded members that are gone. -/
theorem acts_syncPool (lb : LoadBalancer) (rows : List Row) (p : Pool) :
    d.Acts (d.syncPool lb rows p) := by
  have rest (recorded : List MemberEntry) : d.Acts (do
      (orphans p.members.items recorded).forM (deleteEntry p.id)
      p.healthMonitor.asOption.toList.forM d.syncHealthMonitor) :=
    .bind (.forM (fun e ↦ d.acts_submit _) _) fun _ ↦ .forM d.acts_syncHealthMonitor _
  refine .bind (d.acts_placePool _ p) fun _ ↦
    .bind (.forM (fun m ↦ d.acts_syncMember _) _) fun _ ↦ ?_
  cases findInRows rows p.id with
  | some found => exact .bind (.pure _) rest
  | none => exact .bind (d.asks_recordedElsewhere p.id).built rest

/-- A load balancer that has rows is synchronised by sending it and then synchronising its children.
-/
theorem acts_syncRows (lb : LoadBalancer) (rows : List Row) : d.Acts (d.syncRows lb rows) :=
  .bind (d.acts_emit _) fun _ ↦
    .bind (.forM (d.acts_placeListener .listenerSync) _) fun _ ↦
      .bind (.forM (d.acts_syncPool lb rows) _) fun _ ↦ d.acts_emit _

/-- A pass synchronises or creates, depending on what the look-up finds. -/
theorem acts_syncLoadBalancer (lb : LoadBalancer) : d.Acts (d.syncLoadBalancer lb) := by
  refine .tryBackend (.retry _ (.findLoadBalancers lb.id)) fun r ↦ ?_
  rcases r with e | rows
  · change d.Acts (if e.isRowNotFound then
      d.createLoadBalancer lb >>= fun _ ↦ pure SyncOutcome.recreated else throw (.backend e))
    split
    · exact .bind (d.acts_createLoadBalancer lb) fun _ ↦ .pure _
    · exact .throw (by simp)
  · exact .bind (d.acts_syncRows lb rows) fun _ ↦ .pure _

/-- A floating address is synchronised by questions whose failures are looked at, and perhaps a
request. -/
theorem acts_syncVipFip (lb : LoadBalancer) : d.Acts (d.syncVipFip lb) := by
  unfold syncVipFip
  cases lb.vipNetworkId.nonEmpty with
  | none => exact .pure false
  | some network =>
    refine .bind (d.asks_rowsForFip lb.id).built fun rows? ↦ ?_
    cases rows? with
    | none => exact .pure false
    | some rows =>
      dsimp only
      cases vipPort? lb rows with
      | none => exact .pure false
      | some portId =>
        refine .tryNetwork (.floatingIps portId) fun r ↦ ?_
        rcases r with e | fips
        · exact .pure false
        refine .tryBackend (.logicalPort portId) fun r ↦ ?_
        rcases r with e | port?
        · exact .pure false
        change d.Acts (applyFip _ _ _ _)
        unfold applyFip
        split
        · exact .pure true
        · exact .bind (d.acts_emit _) fun _ ↦ .pure true
        · exact .pure false

end Operations

end Driver

end BalancerSync
