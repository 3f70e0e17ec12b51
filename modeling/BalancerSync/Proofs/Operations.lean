import BalancerSync.Driver.VipPort
import BalancerSync.Proofs.Recorded

/-!
# What each operation sends

Every operation of the driver checks an object before it sends anything for it.  So each of them is
a path on which only supported objects are sent, and among those only listeners and members that it
was given.
-/

namespace BalancerSync

variable {σ α β : Type}

/-- What stands on the right of a relation of lists has something on the left. -/
theorem exists_left_of_forall₂ {R : α → β → Prop} {xs : List α} {ys : List β}
    (h : List.Forall₂ R xs ys) : ∀ y ∈ ys, ∃ x ∈ xs, R x y := by
  induction h with
  | nil => simp
  | @cons x y xs ys hxy _ ih =>
    refine List.forall_mem_cons.2 ⟨⟨x, by simp, hxy⟩, fun y' hy' ↦ ?_⟩
    obtain ⟨x', hx', hxy'⟩ := ih y' hy'
    exact ⟨x', List.mem_cons_of_mem x hx', hxy'⟩

/-! ## Operations -/

namespace Driver

variable {d : Driver σ} {S : Scope}

/-! ### Listeners and pools -/

/-- The listener that is sent has passed its checks. -/
theorem sends_placeListener {op : Operation} {l : Listener}
    (hop : op = .listenerCreate ∨ op = .listenerSync) (hl : S.listener l) :
    d.Sends (d.Sound S) (placeListener op l) :=
  .check_bind fun _ hprotocol ↦ .check_bind fun _ hcidrs ↦
    .emit (.listener op l) rfl ⟨⟨hop, hl, items_of_validateAllowedCidrs hcidrs, hprotocol⟩, trivial⟩
      rfl

theorem sends_updateListener (old new : Listener) :
    d.Sends (d.Sound S) (updateListener old new) :=
  .check_bind fun _ _ ↦ .emit (.updateListener old new) rfl ⟨trivial, trivial⟩ rfl

theorem sends_placePool {op : Operation} (hop : op = .poolCreate ∨ op = .poolSync) (p : Pool) :
    d.Sends (d.Sound S) (placePool op p) :=
  .check_bind fun _ hprotocol ↦ .check_bind fun _ halgorithm ↦ .check_bind fun _ hpersistence ↦
    .emit (.pool op p) rfl ⟨⟨hop, hprotocol, halgorithm, hpersistence⟩, trivial⟩ rfl

/-- A persistence that is left out is none. -/
theorem sends_updatePool (old new : Pool) :
    d.Sends (d.Sound S) (updatePool old new) := by
  have hcheck (isSet : Bool) (r : Except DriverError Unit) {next : Unit → Act σ Unit}
      (hnext : (isSet = true → r = .ok ()) → d.Sends (d.Sound S) (next ())) :
      d.Sends (d.Sound S) (if isSet = true then Act.check r >>= next else next ()) := by
    split
    · exact .check_bind fun _ hr ↦ hnext fun _ ↦ hr
    · next h => exact hnext fun h' ↦ absurd h' h
  refine hcheck _ _ fun _ ↦ hcheck _ _ fun _ ↦ hcheck _ _ fun hpersistence ↦
    .emit (.updatePool old new) rfl ⟨?_, trivial⟩ rfl
  change validatePersistence new.sessionPersistence.asOption = .ok ()
  cases hnew : new.sessionPersistence with
  | unset => rfl
  | null | value p => exact hnew ▸ hpersistence (by rw [hnew]; rfl)

/-! ### Health monitors -/

/-- Checks a health monitor, with the help of the backend. -/
def askProbe (d : Driver σ) (h : HealthMonitor) (creating : Bool) : Act σ Unit := do
  let supported ← d.healthChecksSupported
  Act.check (validateHealthMonitor h supported creating)

/-- The answer on health checks is remembered from then on. -/
theorem healthChecks_of_run {s t : Session σ} {supported : Bool}
    (h : d.healthChecksSupported.run s = (.ok supported, t)) : t.healthChecks = some supported := by
  rcases hknown : s.healthChecks with _ | known
  · rw [d.healthChecksSupported_of_unknown hknown] at h
    rcases hanswer : d.backend.supportsHealthChecks s.world with ⟨e | answer, w⟩
    · simp [hanswer] at h
    · obtain ⟨rfl, rfl⟩ : answer = supported ∧ _ = t := by simpa [hanswer] using h
      rfl
  · rw [d.healthChecksSupported_of_known hknown] at h
    obtain ⟨rfl, rfl⟩ : known = supported ∧ s = t := by simpa using h
    exact hknown

/-- A health monitor passes only if the backend has said that it has health checks. -/
theorem askProbe_eq_ok {h : HealthMonitor} {creating : Bool} {s t : Session σ}
    (hrun : (d.askProbe h creating).run s = (.ok (), t)) :
    validateHealthMonitor h true creating = .ok () ∧ t.healthChecks = some true := by
  obtain ⟨supported, u, hsupported, hcheck⟩ := Act.bind_eq_ok.1 hrun
  obtain ⟨hvalid, rfl⟩ : validateHealthMonitor h supported creating = .ok () ∧ u = t := by
    simpa using hcheck
  obtain rfl := supported_of_validateHealthMonitor hvalid
  exact ⟨hvalid, healthChecks_of_run hsupported⟩

theorem asks_askProbe (h : HealthMonitor) (creating : Bool) : d.Asks (d.askProbe h creating) :=
  .bind .healthChecks fun supported ↦
    .verdict (validateHealthMonitor_ne_closed h supported creating)

/-- A request for a health monitor that has been checked. -/
theorem sends_probed {P : Sending → Prop} {h : HealthMonitor} {creating : Bool} (o : Sending)
    {r : ChangeRequest} (hr : o.requests = [r])
    (ho : validateHealthMonitor h true creating = .ok () → P o) :
    d.Sends P (d.askProbe h creating >>= fun _ ↦ Act.emit r) := by
  have hsubmit : d.askProbe h creating >>= (fun _ ↦ Act.emit r) =
      (d.askProbe h creating >>= fun _ ↦ pure o.requests) >>= Act.submit := by
    simp [hr, Act.submit_singleton]
  rw [hsubmit]
  refine .due (.bind (asks_askProbe h creating) fun _ ↦ .pure _) fun s rs t hrs ↦ ?_
  obtain ⟨_, hprobe, rfl⟩ := Act.bind_pure_eq_ok.1 hrs
  obtain ⟨hvalid, hsupported⟩ := askProbe_eq_ok hprobe
  exact ⟨[o], by simp, by simpa using ⟨ho hvalid, fun _ ↦ hsupported⟩⟩

/-- A health monitor is placed after it was checked. -/
theorem placeHealthMonitor_eq_askProbe (op : Operation) (h : HealthMonitor) :
    d.placeHealthMonitor op h = d.askProbe h true >>= fun _ ↦ Act.emit (.healthMonitor op h) := by
  simp [placeHealthMonitor, askProbe]

/-- The health monitor that is sent has passed its check. -/
theorem sends_placeHealthMonitor {op : Operation} (hop : op = .hmCreate ∨ op = .hmSync)
    (h : HealthMonitor) : d.Sends (d.Sound S) (d.placeHealthMonitor op h) := by
  rw [placeHealthMonitor_eq_askProbe]
  exact sends_probed (.monitor op h) rfl fun hvalid ↦ ⟨⟨hop, hvalid⟩, trivial⟩

/-- The new state of a health monitor has passed its check. -/
theorem sends_updateHealthMonitor (old new : HealthMonitor) :
    d.Sends (d.Sound S) (d.updateHealthMonitor old new) := by
  have hupdate : d.updateHealthMonitor old new =
      d.askProbe new false >>= fun _ ↦ Act.emit (.updateHealthMonitor old new) := by
    simp [updateHealthMonitor, askProbe]
  rw [hupdate]
  exact sends_probed (.updateMonitor old new) rfl fun _ ↦ ⟨trivial, trivial⟩

/-- A pool and its health monitor are each sent after their checks. -/
theorem sends_createPool (p : Pool) : d.Sends (d.Sound S) (d.createPool p) :=
  (sends_placePool (.inl rfl) p).andThen fun _ ↦
    .forM fun h _ ↦ sends_placeHealthMonitor (.inl rfl) h

/-! ### Members -/

section Members

variable {m : Member} (hm : S.member m)

include hm

/-- The subnet that a member is given does not show in what is sent. -/
theorem sends_placeMember {op : Operation} (hop : op = .memberCreate ∨ op = .memberSync)
    (hoptions : m.hasMonitorOptions = false) (f : Field String) :
    d.Sends (d.Sound S) (d.placeMember op { m with subnetId := f }) :=
  (Sends.asks (d.asks_resolveSubnet _ _)).andThen fun subnet ↦
    .submit_requests (.member op m subnet) ⟨⟨hop, hm, hoptions⟩, trivial⟩ rfl

/-- The creation of a member is sound, whichever subnet it has been given. -/
theorem sends_createMember (f : Field String) :
    d.Sends (d.Sound S) (d.createMember { m with subnetId := f }) :=
  .check_bind fun _ hvalid ↦
    (Sends.asks (d.asks_refuseConflict _)).andThen fun _ ↦
      sends_placeMember hm (.inl rfl) (hasMonitorOptions_of_validate hvalid) f

theorem sends_syncMember (f : Field String) :
    d.Sends (d.Sound S) (d.syncMember { m with subnetId := f }) :=
  .check_bind fun _ hvalid ↦
    sends_placeMember hm (.inr rfl) (hasMonitorOptions_of_validate hvalid) f

theorem sends_updateMember (old : Member) :
    d.Sends (d.Sound S) (d.updateMember old m) :=
  .check_bind fun _ hvalid ↦
    (Sends.asks (d.asks_refuseConflict _)).andThen fun _ ↦
      .emit (.updateMember old m) rfl ⟨⟨hm, hasMonitorOptions_of_validate hvalid⟩, trivial⟩ rfl

/-- A member of a new load balancer is sound with the subnet that it gets from there. -/
theorem sends_cascadeMember (lb : LoadBalancer) :
    d.Sends (d.Sound S) (d.cascadeMember lb m) := by
  unfold cascadeMember
  cases m.subnetId.nonEmpty with
  | some subnet => exact sends_createMember hm m.subnetId
  | none =>
    refine (Sends.asks (d.asks_cascadeSubnet lb m)).andThen fun found ↦ ?_
    cases found with
    | some subnet => exact sends_createMember hm _
    | none => exact sends_createMember hm m.subnetId

/-- The synchronisation of a member is sound with the subnet that it inherits. -/
theorem sends_inheritMember (lb : LoadBalancer) :
    d.Sends (d.Sound S) (d.syncMember (inheritSubnet lb m)) := by
  unfold inheritSubnet
  split
  · exact sends_syncMember hm _
  · exact sends_syncMember hm m.subnetId

end Members

theorem sends_deleteMember (m : Member) : d.Sends (d.Sound S) (d.deleteMember m) :=
  (Sends.asks (d.asks_resolveSubnet m _)).andThen fun subnet ↦
    .submit_requests (.deleteMember m subnet) ⟨trivial, trivial⟩ rfl

/-- The deletion of an entry is sound if the entry is recorded. -/
theorem sends_deleteEntry {poolId : String} {e : MemberEntry} (h : d.Recorded poolId e) :
    d.Sends (d.Sound S) (deleteEntry poolId e) :=
  .submit_requests (.deleteEntry e poolId) ⟨trivial, h⟩ rfl

/-- The deletion of a pool is sound, with its members and its health monitor. -/
theorem sends_deletePool (p : Pool) : d.Sends (d.Sound S) (d.deletePool p) :=
  (Sends.forM fun h _ ↦ .emit (.deleteMonitor h) rfl ⟨trivial, trivial⟩ rfl).andThen fun _ ↦
    (Sends.forM fun m _ ↦ sends_deleteMember m).andThen fun _ ↦
      .emit (.deletePool p) rfl ⟨trivial, trivial⟩ rfl

/-! ### Batches -/

theorem sends_resolveBatch {P : Sending → Prop} (row : Row) (ms : List Member) :
    d.Sends P (d.resolveBatch row none ms) := by
  induction ms with
  | nil => exact .pure []
  | cons m ms ih =>
    by_cases hneed : needsSubnet row m = true
    · rw [d.resolveBatch_ask hneed]
      refine (Sends.asks (d.asks_subnetOfRow row)).andThen fun found ↦ ?_
      rw [resolveBatch_of_known]
      exact .check _
    · rw [d.resolveBatch_cons (.ok none) fun h ↦ absurd h hneed]
      exact .check_bind fun _ _ ↦ ih.andThen fun _ ↦ .pure _

/-- The members of a batch that is resolved have no monitor options. -/
theorem hasMonitorOptions_of_resolveBatch {row : Row} {ms : List Member} {s t : Session σ}
    {resolved : List (Member × String)}
    (h : (d.resolveBatch row none ms).run s = (.ok resolved, t)) :
    ∀ p ∈ resolved, p.1 ∈ ms ∧ p.1.hasMonitorOptions = false := by
  obtain ⟨_, -, hrun⟩ := d.run_resolveBatch row ms s
  have hsubnets := batchSubnets_eq_ok.1 (congrArg Prod.fst (hrun.symm.trans h))
  intro p hp
  obtain ⟨m, hm, rfl, hsubnet⟩ := exists_left_of_forall₂ hsubnets p hp
  refine ⟨hm, ?_⟩
  cases hoptions : p.1.hasMonitorOptions with
  | false => rfl
  | true => simp [memberSubnet, hoptions] at hsubnet

/-- Each member of a batch is sent on its own. -/
theorem matchBatch_eq_requests (recorded : List MemberEntry)
    (resolved : List (Member × String)) :
    ∃ os : List Sending, (matchBatch recorded resolved).1 = os.flatMap Sending.requests ∧
      ∀ o ∈ os, ∃ op, (op = .memberCreate ∨ op = .memberUpdate) ∧
        ∃ p ∈ resolved, o = .batchMember op p.1 p.2 := by
  induction resolved generalizing recorded with
  | nil => exact ⟨[], rfl, by simp⟩
  | cons p resolved ih =>
    obtain ⟨m, subnet⟩ := p
    obtain ⟨os, hos, hfrom⟩ := ih (recorded.erase (entryOf m subnet))
    refine ⟨.batchMember (if recorded.contains (entryOf m subnet) then .memberUpdate
      else .memberCreate) m subnet :: os, ?_, ?_⟩
    · change _ :: (matchBatch _ resolved).1 = _
      rw [hos]
      rfl
    · refine List.forall_mem_cons.2 ⟨⟨_, ?_, (m, subnet), by simp, rfl⟩, fun o ho ↦ ?_⟩
      · split <;> simp
      · obtain ⟨op, hop, p, hp, rfl⟩ := hfrom o ho
        exact ⟨op, hop, p, List.mem_cons_of_mem _ hp, rfl⟩

/-- A batch sends the members that it has resolved, and deletes entries that are recorded. -/
theorem sends_updateMembers_of_parts {P : Sending → Prop} {poolId : String} {ms : List Member}
    (hmember : ∀ row s t resolved, (d.resolveBatch row none ms).run s = (.ok resolved, t) →
      ∀ p ∈ resolved, ∀ op, op = .memberCreate ∨ op = .memberUpdate →
        P (.batchMember op p.1 p.2))
    (hentry : ∀ e, d.Recorded poolId e → P (.deleteEntry e poolId)) :
    d.Sends P (d.updateMembers poolId ms) := by
  refine (Sends.ask fun w ↦ .backend (.requirePool _ poolId) w).bind fun (key, row) _ _ hrow ↦
    (sends_resolveBatch row ms).bind fun resolved _ _ hresolved ↦ ?_
  obtain ⟨os, hos, hfrom⟩ := matchBatch_eq_requests (row.entries key) resolved
  have hdeletions (es : List MemberEntry) : deletions poolId es =
      (es.map (Sending.deleteEntry · poolId)).flatMap Sending.requests := by
    rw [List.flatMap_map]
    rfl
  change d.Sends _ (Act.submit ((matchBatch (row.entries key) resolved).1 ++
    deletions poolId (matchBatch (row.entries key) resolved).2))
  rw [hos, hdeletions, ← List.flatMap_append]
  refine .submit _ fun o ho ↦ ?_
  rcases List.mem_append.1 ho with ho | ho
  · obtain ⟨op, hop, p, hp, rfl⟩ := hfrom o ho
    exact ⟨hmember row _ _ resolved hresolved p hp op hop, rfl⟩
  · obtain ⟨e, he, rfl⟩ := List.mem_map.1 ho
    rw [matchBatch_eq] at he
    have hrecorded := (List.diff_sublist _ _).subset he
    exact ⟨hentry e (recorded_of_askPool hrow e hrecorded), rfl⟩

/-- A batch is sound if its members are in the scope; the entries that go are recorded. -/
theorem sends_updateMembers {ms : List Member} (hm : ∀ m ∈ ms, S.member m) (poolId : String) :
    d.Sends (d.Sound S) (d.updateMembers poolId ms) := by
  apply sends_updateMembers_of_parts
  · intro row s t resolved hresolved p hp op hop
    obtain ⟨hmem, hoptions⟩ := hasMonitorOptions_of_resolveBatch hresolved p hp
    exact ⟨⟨hop, hm p.1 hmem, hoptions⟩, trivial⟩
  · intro e he
    exact ⟨trivial, he⟩

/-! ### Load balancers -/

/-- A pass over a pool deletes only entries that are recorded, and probes with one of two
operations. -/
theorem sends_syncPool_of_parts {P : Sending → Prop} {lb : LoadBalancer} {rows : List Row}
    {p : Pool} (hrows : ∀ row ∈ rows, d.backend.Gives row)
    (hpool : ∀ op, op = .poolCreate ∨ op = .poolSync → d.Sends P (placePool op p))
    (hmember : ∀ m ∈ p.members.items, d.Sends P (d.syncMember (inheritSubnet lb m)))
    (hentry : ∀ e, d.Recorded p.id e → d.Sends P (deleteEntry p.id e))
    (hmonitor : ∀ op h, op = .hmCreate ∨ op = .hmSync → d.Sends P (d.placeHealthMonitor op h)) :
    d.Sends P (d.syncPool lb rows p) := by
  have hprobe (h : HealthMonitor) : d.Sends P (d.syncHealthMonitor h) := by
    refine (Sends.ask fun w ↦ .backend (.hasHealthMonitor h.id) w).andThen fun known ↦ ?_
    exact hmonitor _ h (by split <;> simp)
  have hrest (recorded : List MemberEntry) (h : ∀ e ∈ recorded, d.Recorded p.id e) :
      d.Sends P (do
        (orphans p.members.items recorded).forM (deleteEntry p.id)
        p.healthMonitor.asOption.toList.forM d.syncHealthMonitor) :=
    (Sends.forM fun e he ↦ hentry e (h e (List.mem_of_mem_filter he))).andThen fun _ ↦
      .forM fun h _ ↦ hprobe h
  refine (hpool _ (by split <;> simp)).andThen fun _ ↦ (Sends.forM hmember).andThen fun _ ↦ ?_
  rcases hfound : findInRows rows p.id with _ | ⟨key, row⟩
  · exact (Sends.asks (d.asks_recordedElsewhere p.id)).bind fun recorded _ _ hrecorded ↦
      hrest recorded (recorded_of_recordedElsewhere hrecorded)
  · exact hrest (row.entries key) (recorded_of_findInRows hrows hfound)

/-- A pass goes over the rows that the backend gives out, or it is a creation. -/
theorem sends_syncLoadBalancer_of_parts {P : Sending → Prop} {lb : LoadBalancer}
    (hcreate : d.Sends P (d.createLoadBalancer lb))
    (hrows : ∀ rows, (∀ row ∈ rows, d.backend.Gives row) → d.Sends P (d.syncRows lb rows)) :
    d.Sends P (d.syncLoadBalancer lb) := by
  refine .tryAsk (fun w ↦ .backend (.retry _ (.findLoadBalancers lb.id)) w) fun w ↦ ?_
  rcases hfound : (retryOnNotFound d.config.effectiveAttempts
    (d.backend.findLoadBalancers lb.id) w).1 with e | rows
  · change d.Sends _ (if e.isRowNotFound then
      d.createLoadBalancer lb >>= fun _ ↦ pure SyncOutcome.recreated else throw (.backend e))
    split
    · exact hcreate.andThen fun _ ↦ .pure _
    · exact .throw _
  · exact (hrows rows (gives_of_retry hfound)).andThen fun _ ↦ .pure _

section Balancers

variable {lb : LoadBalancer} (hl : ∀ l ∈ lb.listeners.items, S.listener l)
  (hm : ∀ p ∈ lb.pools.items, ∀ m ∈ p.members.items, S.member m)

include hm

/-- The pass of a pool is sound if all its rows come from the backend. -/
theorem sends_syncPool {rows : List Row} (hrows : ∀ row ∈ rows, d.backend.Gives row) {p : Pool}
    (hp : p ∈ lb.pools.items) :
    d.Sends (d.Sound S) (d.syncPool lb rows p) :=
  sends_syncPool_of_parts hrows (fun _ hop ↦ sends_placePool hop p)
    (fun m h ↦ sends_inheritMember (hm p hp m h) lb) (fun _ he ↦ sends_deleteEntry he)
    fun _ h hop ↦ sends_placeHealthMonitor hop h

include hl

/-- A creation is sound if all listeners and members are in the scope. -/
theorem sends_createLoadBalancer : d.Sends (d.Sound S) (d.createLoadBalancer lb) :=
  (Sends.emit (.balancer .lbCreate lb) rfl ⟨.inl rfl, trivial⟩ rfl).andThen fun _ ↦
    (Sends.forM fun l h ↦ sends_placeListener (.inl rfl) (hl l h)).andThen fun _ ↦
      .forM fun p hp ↦ (sends_createPool p).andThen fun _ ↦
        .forM fun m h ↦ sends_cascadeMember (hm p hp m h) lb

/-- A pass over rows is sound if they come from the backend. -/
theorem sends_syncRows {rows : List Row} (hrows : ∀ row ∈ rows, d.backend.Gives row) :
    d.Sends (d.Sound S) (d.syncRows lb rows) :=
  (Sends.emit (.balancer .lbSync lb) rfl ⟨.inr rfl, trivial⟩ rfl).andThen fun _ ↦
    (Sends.forM fun l h ↦ sends_placeListener (.inr rfl) (hl l h)).andThen fun _ ↦
      (Sends.forM fun _ hp ↦ sends_syncPool hm hrows hp).andThen fun _ ↦
        .emit (.purgeMonitors lb.id) rfl ⟨trivial, trivial⟩ rfl

/-- A pass is sound, since its rows do come from the backend. -/
theorem sends_syncLoadBalancer : d.Sends (d.Sound S) (d.syncLoadBalancer lb) :=
  sends_syncLoadBalancer_of_parts (sends_createLoadBalancer hl hm) fun _ hrows ↦
    sends_syncRows hl hm hrows

end Balancers

/-! ### Floating addresses -/

/-- A request for a floating address is sound as it is. -/
theorem sends_syncFipOnPort (lbId portId : String) (rows : List Row) :
    d.Sends (d.Sound S) (d.syncFipOnPort lbId portId rows) := by
  refine .tryAsk (fun w ↦ .network (.floatingIps portId) w) fun w ↦ ?_
  rcases (d.network.floatingIps portId w).1 with e | fips
  · exact .pure false
  refine .tryAsk (fun w ↦ .backend (.logicalPort portId) w) fun w ↦ ?_
  rcases (d.backend.logicalPort portId w).1 with e | port?
  · exact .pure false
  change d.Sends _ (applyFip lbId portId _ _)
  unfold applyFip
  split
  · exact .pure true
  · exact (Sends.emit (.vipFip lbId portId _ _) rfl ⟨trivial, trivial⟩ rfl).andThen fun _ ↦
      .pure true
  · exact .pure false

theorem sends_syncVipFip (lb : LoadBalancer) :
    d.Sends (d.Sound S) (d.syncVipFip lb) := by
  unfold syncVipFip
  cases lb.vipNetworkId.nonEmpty with
  | none => exact .pure false
  | some network =>
    refine (Sends.asks (d.asks_rowsForFip lb.id)).andThen fun rows? ↦ ?_
    cases rows? with
    | none => exact .pure false
    | some rows =>
      dsimp only
      cases vipPort? lb rows with
      | none => exact .pure false
      | some portId => exact sends_syncFipOnPort lb.id portId rows

/-! ### Ports -/

section Ports

variable {P : Sending → Prop}

theorem sends_releaseVip (portId : String) : d.Sends P (d.releaseVip portId) :=
  (Sends.ask fun w ↦ .releasePort portId w).observe.andThen fun _ ↦ .pure ()

theorem sends_allocateVip (r : PortRequest) : d.Sends P (d.allocateVip r) := by
  refine (Sends.ask fun w ↦ .allocatePort r w).andThen fun p ↦ ?_
  cases p.ipAddress with
  | some address => exact .pure _
  | none => exact (sends_releaseVip p.portId).andThen fun _ ↦ .throw _

/-- Allocating ports sends nothing, by induction on the requests. -/
theorem sends_allocateAdditional (lbId : String) (projectId : Option String) (primary : VipPort)
    (done : List VipPort) (rs : List VipRequest) :
    d.Sends P (d.allocateAdditional lbId projectId primary done rs) := by
  induction rs generalizing done with
  | nil => exact .pure done
  | cons r rs ih =>
    refine .andThen (.tryCatch (sends_allocateVip _) fun e ↦ ?_) fun _ ↦ ih _
    exact (Sends.forM fun p _ ↦ sends_releaseVip p.portId).andThen fun _ ↦ .throw e

/-- No request is sent for a port. -/
theorem sends_createVipPort (lbId : String) (projectId : Option String) (vip : VipRequest)
    (additional : List VipRequest) :
    d.Sends P (d.createVipPort lbId projectId vip additional) :=
  (sends_allocateVip _).andThen fun primary ↦
    (sends_allocateAdditional lbId projectId primary [] additional).andThen fun _ ↦ .pure _

end Ports

/-! ### Runs -/

/-- A load balancer that the catalog gives out. -/
def Fetched (d : Driver σ) (lb : LoadBalancer) : Prop :=
  ∃ id w, (d.catalog.loadBalancer id w).1 = .ok lb

/-- What is synchronised again was given out by the catalog. -/
theorem fetched_of_syncListed {report report' : SyncReport} {id : String}
    {created : List LoadBalancer} {s t : Session σ}
    (h : (d.syncListed report id).run s = (.ok (report', created), t)) :
    ∀ lb ∈ created, d.Fetched lb := by
  unfold syncListed at h
  rw [Act.run_observe_bind, Act.askCatalog, Act.run_ask] at h
  rcases hlb : d.catalog.loadBalancer id s.world with ⟨e | lb, w⟩ <;> rw [hlb] at h
  · obtain ⟨⟨-, rfl⟩, -⟩ : (_ ∧ [] = created) ∧ _ = t := by simpa using h
    simp
  have hfetched : d.Fetched lb := ⟨id, s.world, congrArg Prod.fst hlb⟩
  dsimp only [Except.mapError_ok] at h
  rw [Act.run_observe_bind] at h
  rcases hpass : (d.syncLoadBalancer lb).run { s with world := w } with ⟨e | outcome, u⟩ <;>
    rw [hpass] at h
  · cases e with
    | applierClosed => cases h
    | _ =>
      obtain ⟨⟨-, rfl⟩, -⟩ : (_ ∧ [] = created) ∧ u = t := by simpa using h
      simp
  · obtain ⟨_, _, -, h⟩ := Act.bind_eq_ok.1 h
    obtain ⟨⟨-, rfl⟩, -⟩ : (_ ∧ (if outcome = .recreated then [lb] else []) = created) ∧ _ = t := by
      simpa using h
    split
    · simpa using hfetched
    · simp

/-- The load balancers that were created have been fetched. -/
theorem fetched_of_syncAll {report report' : SyncReport} {ids : List String}
    {created : List LoadBalancer} {s t : Session σ}
    (h : (d.syncAll report ids).run s = (.ok (report', created), t)) :
    ∀ lb ∈ created, d.Fetched lb := by
  induction ids generalizing report report' created s t with
  | nil =>
    obtain ⟨⟨-, rfl⟩, -⟩ : (report = report' ∧ [] = created) ∧ s = t := by simpa [syncAll] using h
    simp
  | cons id ids ih =>
    unfold syncAll at h
    obtain ⟨⟨report₁, first⟩, s₁, hfirst, h⟩ := Act.bind_eq_ok.1 h
    obtain ⟨⟨report₂, rest⟩, s₂, hrest, h⟩ := Act.bind_eq_ok.1 h
    obtain ⟨⟨-, rfl⟩, -⟩ : (report₂ = report' ∧ first ++ rest = created) ∧ s₂ = t := by
      simpa using h
    exact List.forall_mem_append.2 ⟨fetched_of_syncListed hfirst, ih hrest⟩

section Runs

variable (hl : ∀ lb, d.Fetched lb → ∀ l ∈ lb.listeners.items, S.listener l)
  (hm : ∀ lb, d.Fetched lb → ∀ p ∈ lb.pools.items, ∀ m ∈ p.members.items, S.member m)

include hl hm

/-- A listed load balancer is fetched before its pass, so it is in the scope. -/
theorem sends_syncListed (report : SyncReport) (id : String) :
    d.Sends (d.Sound S) (d.syncListed report id) := by
  refine .tryAsk (fun w ↦ .loadBalancer id w) fun w ↦ ?_
  rcases hlb : (d.catalog.loadBalancer id w).1 with e | lb
  · exact .pure _
  have hfetched : d.Fetched lb := ⟨id, w, hlb⟩
  refine (sends_syncLoadBalancer (hl lb hfetched) (hm lb hfetched)).observe.andThen fun r ↦ ?_
  rcases r with e | outcome
  · cases e with
    | applierClosed => exact .throw _
    | _ => exact .pure _
  · exact (sends_syncVipFip lb).andThen fun _ ↦ .pure _

/-- The first passes are sound, by induction on the list. -/
theorem sends_syncAll (report : SyncReport) (ids : List String) :
    d.Sends (d.Sound S) (d.syncAll report ids) := by
  induction ids generalizing report with
  | nil => exact .pure _
  | cons id ids ih =>
    exact (sends_syncListed hl hm report id).andThen fun listed ↦
      (ih listed.1).andThen fun _ ↦ .pure _

/-- The second passes are sound, since their load balancers have been fetched. -/
theorem sends_syncAgain (report : SyncReport) {lbs : List LoadBalancer}
    (h : ∀ lb ∈ lbs, d.Fetched lb) : d.Sends (d.Sound S) (d.syncAgain report lbs) := by
  induction lbs generalizing report with
  | nil => exact .pure _
  | cons lb lbs ih =>
    obtain ⟨hlb, hlbs⟩ := List.forall_mem_cons.1 h
    refine (sends_syncLoadBalancer (hl lb hlb) (hm lb hlb)).observe.andThen fun r ↦ ?_
    rcases r with e | outcome
    · cases e with
      | applierClosed => exact .throw _
      | _ => exact ih _ hlbs
    · exact ih _ hlbs

/-- A run is sound if all that may be fetched is in the scope. -/
theorem sends_sync (filters : Filters) : d.Sends (d.Sound S) (d.sync filters) :=
  (Sends.ask fun w ↦ .loadBalancerIds filters w).andThen fun ids ↦
    (sends_syncAll hl hm .empty ids).bind fun _ _ _ hrun ↦
      sends_syncAgain hl hm _ (fetched_of_syncAll hrun)

end Runs

end Driver

end BalancerSync
