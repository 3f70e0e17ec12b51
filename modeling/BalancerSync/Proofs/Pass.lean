import BalancerSync.Proofs.Built
import BalancerSync.Store.Basic
import Mathlib.Control.Monad.Basic

/-!
# What a pass sends

The pass of a load balancer that has rows comes to one item after another: the load balancer, its
listeners, and for each pool the pool, its members, the members that are only recorded and the
health monitor.  Each item asks what it has to, and only then sends, all that it sends at once.  So
a pass that ends well sends the requests of all items, and one that fails those of the items
before the failing one.
-/

namespace BalancerSync

variable {σ : Type}

/-! ## The requests -/

/-- Whether one of the rows has the pool, be it enabled or disabled. -/
def holdsPool (rows : List Row) (poolId : String) : Bool :=
  rows.any fun r ↦ Dictionary.has r.externalIds (poolKey poolId)
    || Dictionary.has r.externalIds (disabledPoolKey poolId)

namespace Pass

def poolRequest (rows : List Row) (p : Pool) : ChangeRequest :=
  .pool (if holdsPool rows p.id then .poolSync else .poolCreate) p

def memberRequests (m : Member) (subnet : String) : List ChangeRequest :=
  [.member .memberSync m (some subnet), .memberAdded m subnet]

/-- Recorded members leave if no member of the pool has their id. -/
def orphanRequests (p : Pool) (recorded : List MemberEntry) : List ChangeRequest :=
  (recorded.filter fun e ↦ e.id ∉ p.members.items.map (·.id)).flatMap fun e ↦
    [.deleteEntry e p.id, .entryDeleted e p.id]

def monitorRequest (h : HealthMonitor) (known : Bool) : ChangeRequest :=
  .healthMonitor (if known then .hmSync else .hmCreate) h

/-- What is to be found out about a pool: the subnets of its members, the members that are
recorded, and whether its health monitor is known. -/
structure Answers where
  subnets : List String
  recorded : List MemberEntry
  known : Bool
  deriving DecidableEq, Repr

def poolRequests (rows : List Row) (p : Pool) (a : Answers) : List ChangeRequest :=
  poolRequest rows p :: (List.zipWith memberRequests p.members.items a.subnets).flatten
    ++ orphanRequests p a.recorded
    ++ p.healthMonitor.asOption.toList.map (monitorRequest · a.known)

/-- The requests of a pass, given the answers for each pool. -/
def requests (lb : LoadBalancer) (rows : List Row) (as : List Answers) : List ChangeRequest :=
  .loadBalancer .lbSync lb :: lb.listeners.items.map (.listener .listenerSync)
    ++ (List.zipWith (poolRequests rows) lb.pools.items as).flatten
    ++ [.purgeHealthMonitors lb.id]

/-! ## The items -/

/-- What a pass comes to. -/
inductive Item
  | balancer
  | listener (l : Listener)
  | pool (p : Pool)
  | member (m : Member)
  /-- The members that are recorded for a pool. -/
  | recorded (p : Pool)
  | monitor (h : HealthMonitor)
  | purge

def poolItems (p : Pool) : List Item :=
  .pool p :: p.members.items.map .member ++ .recorded p
    :: p.healthMonitor.asOption.toList.map .monitor

def items (lb : LoadBalancer) : List Item :=
  .balancer :: lb.listeners.items.map .listener ++ lb.pools.items.flatMap poolItems ++ [.purge]

end Pass

namespace Driver

open Pass

variable (d : Driver σ)

/-- The members recorded for a pool: in the rows at hand, else elsewhere. -/
def recordedFor (rows : List Row) (poolId : String) : Act σ (List MemberEntry) :=
  match findInRows rows poolId with
  | some (key, row) => return row.entries key
  | none => d.recordedElsewhere poolId

/-- Whether a health monitor that may be placed is known. -/
def askMonitor (h : HealthMonitor) : Act σ Bool := do
  let known ← Act.askBackend (d.backend.hasHealthMonitor h.id)
  let supported ← d.healthChecksSupported
  Act.check (validateHealthMonitor h supported true)
  return known

def askMonitor? : Option HealthMonitor → Act σ Bool
  | some h => d.askMonitor h
  | none => return false

/-- Asks all questions about a pool. -/
def askPool (lb : LoadBalancer) (rows : List Row) (p : Pool) : Act σ Answers := do
  let subnets ← p.members.items.mapM fun m ↦ d.resolveSubnet (inheritSubnet lb m) .creation
  let recorded ← d.recordedFor rows p.id
  return ⟨subnets, recorded, ← d.askMonitor? p.healthMonitor.asOption⟩

/-- The requests of an item, found out without sending any. -/
def due (lb : LoadBalancer) (rows : List Row) : Item → Act σ (List ChangeRequest)
  | .balancer => return [.loadBalancer .lbSync lb]
  | .listener l => do
    Act.check (validateProtocol l.protocol)
    Act.check (validateAllowedCidrs l.allowedCidrs)
    return [.listener .listenerSync l]
  | .pool p => do
    Act.check (validateProtocol p.protocol)
    Act.check (validateAlgorithm p.algorithm)
    Act.check (validatePersistence p.sessionPersistence.asOption)
    return [poolRequest rows p]
  | .member m => do
    Act.check (validateMonitorOptions m)
    return memberRequests m (← d.resolveSubnet (inheritSubnet lb m) .creation)
  | .recorded p => return orphanRequests p (← d.recordedFor rows p.id)
  | .monitor h => return [monitorRequest h (← d.askMonitor h)]
  | .purge => return [.purgeHealthMonitors lb.id]

/-! ## Items ask before they send -/

theorem asks_recordedFor (rows : List Row) (poolId : String) :
    d.Asks (d.recordedFor rows poolId) := by
  unfold recordedFor
  cases findInRows rows poolId with
  | some found => exact .pure _
  | none => exact d.asks_recordedElsewhere poolId

/-- Whether a health monitor is known and may be placed is found out without sending. -/
theorem asks_askMonitor (h : HealthMonitor) : d.Asks (d.askMonitor h) :=
  .bind (.backend (.hasHealthMonitor h.id)) fun known ↦
    .bind .healthChecks fun supported ↦
      .check (validateHealthMonitor_ne_closed h supported true) fun _ _ ↦ .pure known

theorem asks_due (lb : LoadBalancer) (rows : List Row) (x : Item) : d.Asks (d.due lb rows x) := by
  cases x with
  | balancer => exact .pure _
  | listener l =>
    exact .check (refuseUnless_ne_closed _ _) fun _ _ ↦
      .check (refuseUnless_ne_closed _ _) fun _ _ ↦ .pure _
  | pool p =>
    exact .check (refuseUnless_ne_closed _ _) fun _ _ ↦
      .check (refuseUnless_ne_closed _ _) fun _ _ ↦
        .check (validatePersistence_ne_closed _) fun _ _ ↦ .pure _
  | member m =>
    exact .check (refuseUnless_ne_closed _ _) fun _ _ ↦
      .bind (d.asks_resolveSubnet _ _) fun _ ↦ .pure _
  | recorded p => exact .bind (d.asks_recordedFor rows p.id) fun _ ↦ .pure _
  | monitor h => exact .bind (d.asks_askMonitor h) fun _ ↦ .pure _
  | purge => exact .pure _

theorem silent_due (lb : LoadBalancer) (rows : List Row) (x : Item) :
    (d.due lb rows x).Silent := (d.asks_due lb rows x).silent

/-! ## A pass is its items -/

/-- A pool is found in rows that have it, under whichever key. -/
theorem isSome_findInRows (rows : List Row) (poolId : String) :
    (findInRows rows poolId).isSome = holdsPool rows poolId := by
  have hkey (row : Row) : (row.poolKey? poolId).isSome =
      (Dictionary.has row.externalIds (poolKey poolId)
        || Dictionary.has row.externalIds (disabledPoolKey poolId)) := by
    unfold Row.poolKey?
    cases Dictionary.has row.externalIds (poolKey poolId) <;>
      cases Dictionary.has row.externalIds (disabledPoolKey poolId) <;> rfl
  rw [Bool.eq_iff_iff]
  simp [findInRows, holdsPool, hkey]

/-! The subnet that a member inherits shows only in the subnet that it is placed in. -/

section Inherit

variable (lb : LoadBalancer) (m : Member)

theorem validateMonitorOptions_inheritSubnet :
    validateMonitorOptions (inheritSubnet lb m) = validateMonitorOptions m := by
  unfold inheritSubnet
  split <;> rfl

/-- The request of a member says the same with an inherited subnet. -/
theorem member_inheritSubnet (op : Operation) (subnet : Option String) :
    ChangeRequest.member op (inheritSubnet lb m) subnet = .member op m subnet := by
  unfold inheritSubnet
  split <;> rfl

theorem memberAdded_inheritSubnet (subnet : String) :
    ChangeRequest.memberAdded (inheritSubnet lb m) subnet = .memberAdded m subnet := by
  unfold inheritSubnet
  split <;> rfl

end Inherit

section Items

variable (lb : LoadBalancer) (rows : List Row)

theorem placeListener_eq_due (l : Listener) :
    placeListener .listenerSync l = d.due lb rows (.listener l) >>= Act.submit := by
  simp [placeListener, due, Act.submit_singleton]

/-- To place a pool is to send what is due for it, which tells a known pool from a new one. -/
theorem placePool_eq_due (p : Pool) :
    placePool (if (findInRows rows p.id).isSome then .poolSync else .poolCreate) p =
      d.due lb rows (.pool p) >>= Act.submit := by
  simp [placePool, due, Act.submit_singleton, isSome_findInRows, poolRequest]

/-- To synchronise a member is to send what is due for it. -/
theorem syncMember_eq_due (m : Member) :
    d.syncMember (inheritSubnet lb m) = d.due lb rows (.member m) >>= Act.submit := by
  simp [syncMember, placeMember, due, memberRequests, validateMonitorOptions_inheritSubnet,
    member_inheritSubnet, memberAdded_inheritSubnet]

/-- Recorded members that are gone are deleted all at once. -/
theorem deleteOrphans_eq_submit (p : Pool) (recorded : List MemberEntry) :
    (orphans p.members.items recorded).forM (deleteEntry p.id) =
      (Act.submit (orphanRequests p recorded) : Act σ Unit) := by
  have h : orphans p.members.items recorded =
      recorded.filter fun e ↦ e.id ∉ p.members.items.map (·.id) := by
    refine List.filter_congr fun e _ ↦ ?_
    rw [Bool.eq_iff_iff]
    simp
  rw [h]
  exact (Act.submit_flatMap _ _).symm

theorem syncHealthMonitor_eq_due (h : HealthMonitor) :
    d.syncHealthMonitor h = d.due lb rows (.monitor h) >>= Act.submit := by
  simp [syncHealthMonitor, placeHealthMonitor, due, askMonitor, Act.submit_singleton,
    monitorRequest]

/-- The pass of a pool comes to its items in order. -/
theorem syncPool_eq_items (p : Pool) :
    d.syncPool lb rows p = (poolItems p).forM fun x ↦ d.due lb rows x >>= Act.submit := by
  have hpool : d.syncPool lb rows p = (do
      placePool (if (findInRows rows p.id).isSome then .poolSync else .poolCreate) p
      p.members.items.forM fun m ↦ d.syncMember (inheritSubnet lb m)
      let recorded ← d.recordedFor rows p.id
      (orphans p.members.items recorded).forM (deleteEntry p.id)
      p.healthMonitor.asOption.toList.forM d.syncHealthMonitor) := by
    unfold syncPool recordedFor
    rcases findInRows rows p.id with _ | ⟨key, row⟩ <;> rfl
  have hrecorded : d.due lb rows (.recorded p) =
      d.recordedFor rows p.id >>= fun recorded ↦ pure (orphanRequests p recorded) := rfl
  rw [hpool, placePool_eq_due d lb, funext (d.syncHealthMonitor_eq_due lb rows)]
  simp only [syncMember_eq_due d lb rows, deleteOrphans_eq_submit]
  simp [poolItems, hrecorded]

/-- The pass of a load balancer that has rows. -/
theorem syncRows_eq_items :
    d.syncRows lb rows = (items lb).forM fun x ↦ d.due lb rows x >>= Act.submit := by
  have hemit (r : ChangeRequest) : (Act.emit r : Act σ Unit) = pure [r] >>= Act.submit := by
    rw [pure_bind, Act.submit_singleton]
  have hpools (ps : List Pool) : ps.forM (d.syncPool lb rows) =
      (ps.flatMap poolItems).forM fun x ↦ d.due lb rows x >>= Act.submit := by
    induction ps with
    | nil => rfl
    | cons p ps ih =>
      rw [List.forM_eq_forM] at ih ⊢
      rw [List.forM_cons, ih, syncPool_eq_items, List.flatMap_cons]
      exact List.forM_append.symm
  unfold syncRows
  rw [hpools, funext (d.placeListener_eq_due lb rows), hemit, hemit]
  simp [items, due]

end Items

/-! ## The answers behind the requests -/

section Answers

variable {d} {lb : LoadBalancer} {rows : List Row} {s t : Session σ}

theorem due_listener_eq_ok {l : Listener} {rs : List ChangeRequest}
    (h : (d.due lb rows (.listener l)).run s = (.ok rs, t)) :
    [.listener .listenerSync l] = rs ∧ s = t := by
  obtain ⟨_, -, h⟩ := Act.check_bind_eq_ok.1 h
  obtain ⟨_, -, h⟩ := Act.check_bind_eq_ok.1 h
  simpa using h

theorem due_pool_eq_ok {p : Pool} {rs : List ChangeRequest}
    (h : (d.due lb rows (.pool p)).run s = (.ok rs, t)) :
    [poolRequest rows p] = rs ∧ s = t := by
  obtain ⟨_, -, h⟩ := Act.check_bind_eq_ok.1 h
  obtain ⟨_, -, h⟩ := Act.check_bind_eq_ok.1 h
  obtain ⟨_, -, h⟩ := Act.check_bind_eq_ok.1 h
  simpa using h

/-- A member that passes is due in the subnet that was found for it. -/
theorem due_member_eq_ok {m : Member} {rs : List ChangeRequest}
    (h : (d.due lb rows (.member m)).run s = (.ok rs, t)) :
    ∃ subnet, (d.resolveSubnet (inheritSubnet lb m) .creation).run s = (.ok subnet, t) ∧
      rs = memberRequests m subnet := by
  obtain ⟨_, -, h⟩ := Act.check_bind_eq_ok.1 h
  obtain ⟨subnet, hsubnet, rfl⟩ := Act.bind_pure_eq_ok.1 h
  exact ⟨subnet, hsubnet, rfl⟩

/-- A health monitor that passes is created or synchronised, depending on the backend. -/
theorem monitorItems_eq_ok {h? : Option HealthMonitor} {blocks : List (List ChangeRequest)}
    (h : ((h?.toList.map Item.monitor).mapM (d.due lb rows)).run s = (.ok blocks, t)) :
    ∃ known, (d.askMonitor? h?).run s = (.ok known, t) ∧
      blocks.flatten = h?.toList.map (monitorRequest · known) := by
  cases h? with
  | none =>
    obtain ⟨rfl, rfl⟩ : [] = blocks ∧ s = t := by simpa using h
    exact ⟨false, rfl, rfl⟩
  | some m =>
    obtain ⟨_, s₁, _, hm, hnil, rfl⟩ := Act.mapM_cons_eq_ok.1 h
    obtain ⟨known, hknown, rfl⟩ := Act.bind_pure_eq_ok.1 hm
    obtain ⟨rfl, rfl⟩ : [] = _ ∧ s₁ = t := by simpa using hnil
    exact ⟨known, hknown, rfl⟩

/-- If all goes well with a pool, its questions are answered and its requests follow from the
answers. -/
theorem poolItems_eq_ok {p : Pool} {blocks : List (List ChangeRequest)}
    (h : ((poolItems p).mapM (d.due lb rows)).run s = (.ok blocks, t)) :
    ∃ a, (d.askPool lb rows p).run s = (.ok a, t) ∧ blocks.flatten = poolRequests rows p a := by
  obtain ⟨_, s₂, _, hfront, hrest, rfl⟩ := Act.mapM_append_eq_ok.1 h
  obtain ⟨_, s₁, _, hpool, hmembers, rfl⟩ := Act.mapM_cons_eq_ok.1 hfront
  obtain ⟨_, s₃, _, horphans, hmonitor, rfl⟩ := Act.mapM_cons_eq_ok.1 hrest
  obtain ⟨rfl, rfl⟩ := due_pool_eq_ok hpool
  rw [List.mapM_map] at hmembers
  obtain ⟨subnets, hsubnets, rfl⟩ :=
    Act.mapM_eq_ok_zipWith (fun m s rs t ↦ due_member_eq_ok) hmembers
  obtain ⟨recorded, hrecorded, rfl⟩ := Act.bind_pure_eq_ok.1 horphans
  obtain ⟨known, hknown, hmonitors⟩ := monitorItems_eq_ok hmonitor
  refine ⟨⟨subnets, recorded, known⟩, ?_, ?_⟩
  · unfold askPool
    rw [Act.run_bind_of_ok hsubnets, Act.run_bind_of_ok hrecorded, Act.run_bind_of_ok hknown,
      Act.run_pure]
  · simp [poolRequests, hmonitors]

/-- If all goes well with the pools, their requests follow from the answers, by induction on
them. -/
theorem poolsItems_eq_ok {ps : List Pool} {blocks : List (List ChangeRequest)}
    (h : ((ps.flatMap poolItems).mapM (d.due lb rows)).run s = (.ok blocks, t)) :
    ∃ as, (ps.mapM (d.askPool lb rows)).run s = (.ok as, t) ∧
      blocks.flatten = (List.zipWith (poolRequests rows) ps as).flatten := by
  induction ps generalizing s blocks with
  | nil =>
    obtain ⟨rfl, rfl⟩ : [] = blocks ∧ s = t := by simpa using h
    exact ⟨[], rfl, rfl⟩
  | cons p ps ih =>
    rw [List.flatMap_cons] at h
    obtain ⟨_, s₁, _, hpool, hpools, rfl⟩ := Act.mapM_append_eq_ok.1 h
    obtain ⟨a, ha, hblock⟩ := poolItems_eq_ok hpool
    obtain ⟨as, has, hblocks⟩ := ih hpools
    refine ⟨a :: as, Act.mapM_cons_eq_ok.2 ⟨a, s₁, as, ha, has, rfl⟩, ?_⟩
    rw [List.flatten_append, hblock, hblocks, List.zipWith_cons_cons, List.flatten_cons]

/-- If all goes well with a load balancer, so it does with each of its pools. -/
theorem items_eq_ok {blocks : List (List ChangeRequest)}
    (h : ((items lb).mapM (d.due lb rows)).run s = (.ok blocks, t)) :
    ∃ as, (lb.pools.items.mapM (d.askPool lb rows)).run s = (.ok as, t) ∧
      blocks.flatten = requests lb rows as := by
  obtain ⟨_, s₁, _, hinit, hpurge, rfl⟩ := Act.mapM_append_eq_ok.1 h
  obtain ⟨_, s₂, _, hfront, hpools, rfl⟩ := Act.mapM_append_eq_ok.1 hinit
  obtain ⟨_, s₃, _, hbalancer, hlisteners, rfl⟩ := Act.mapM_cons_eq_ok.1 hfront
  obtain ⟨rfl, rfl⟩ : [ChangeRequest.loadBalancer .lbSync lb] = _ ∧ s = s₃ := by
    simpa [due] using hbalancer
  rw [List.mapM_map] at hlisteners
  obtain ⟨rfl, rfl⟩ := Act.mapM_eq_ok_map (fun l s rs t ↦ due_listener_eq_ok) hlisteners
  obtain ⟨rfl, rfl⟩ : [[ChangeRequest.purgeHealthMonitors lb.id]] = _ ∧ s₁ = t := by
    simpa [due] using hpurge
  obtain ⟨as, has, hblocks⟩ := poolsItems_eq_ok hpools
  have hflat : (lb.listeners.items.map fun l ↦ [ChangeRequest.listener .listenerSync l]).flatten =
      lb.listeners.items.map (.listener .listenerSync) := by
    rw [← List.flatMap_def, ← List.map_eq_flatMap]
  exact ⟨as, has, by simp [requests, hblocks, hflat]⟩

end Answers

/-! ## Whole passes -/

/-- The look-up of the rows of a load balancer at the start of its pass. -/
def lookUpRows (lb : LoadBalancer) : Act σ (List Row) :=
  Act.askBackend (retryOnNotFound d.config.effectiveAttempts (d.backend.findLoadBalancers lb.id))

/-- With these rows, the pass goes on to synchronise. -/
theorem syncLoadBalancer_of_rows {lb : LoadBalancer} {rows : List Row} {s s₁ : Session σ}
    (h : (d.lookUpRows lb).run s = (.ok rows, s₁)) :
    (d.syncLoadBalancer lb).run s =
      (do d.syncRows lb rows; return SyncOutcome.synced).run s₁ := by
  unfold syncLoadBalancer
  rw [Act.run_observe_bind, ← lookUpRows, h]

end Driver

/-! ## A small load balancer -/

/-- A store that nobody writes to, as the driver asks it. -/
def Store.frozen (s : Store) : Backend σ where
  findLoadBalancers id := fun w ↦ (s.findLoadBalancers id, w)
  findByPoolKey key := fun w ↦ (.ok (s.findByPoolKey key), w)
  hasHealthMonitor id := fun w ↦ (.ok (s.hasHealthMonitor id), w)
  logicalPort id := fun w ↦ (.ok (s.logicalPort id), w)
  supportsHealthChecks := fun w ↦ (.ok s.healthCheckSupported, w)

namespace Sample

def member : Member :=
  { (default : Member) with
    id := "m1", poolId := "p1", address := .value "10.0.0.5", subnetId := .value "sub" }

def pool : Pool :=
  { (default : Pool) with
    id := "p1", protocol := .value "TCP", algorithm := .value "SOURCE_IP_PORT",
    members := .value [member] }

def balancer : LoadBalancer :=
  { (default : LoadBalancer) with id := "lb1", pools := .value [pool] }

/-- The member that is recorded is not the one of the pool. -/
def row : Row := ⟨"u1", "lb1", none, [("pool_p1", "member_m2_10.0.0.6:80_sub")]⟩

def entry : MemberEntry := ⟨"m2", "10.0.0.6", 80, some "sub"⟩

def offline : Network σ where
  allocatePort _ := throw .invalidToken
  releasePort _ := throw .invalidToken
  floatingIps _ := throw .invalidToken
  subnet _ := throw .invalidToken
  networkSubnets _ := throw .invalidToken

/-- It lists a load balancer that is gone when it is asked for. -/
def catalog : Catalog σ where
  loadBalancerIds _ := return ["lb0", "lb1"]
  loadBalancer id :=
    if id = "lb1" then return balancer else throw (.api (.api 404 "load balancer not found"))

def driver : Driver Unit :=
  ⟨(Store.empty.insertLoadBalancer row).frozen, offline, catalog, .default⟩

end Sample

end BalancerSync
