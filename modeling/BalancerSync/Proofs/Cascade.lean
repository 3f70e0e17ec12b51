import BalancerSync.Proofs.Pass
import Mathlib.Data.List.Forall2

/-!
# What a cascade sends

The creation of a load balancer goes down to its children and the deletion of a pool comes up from
them.  Both come to one object after another, and each object asks what it has to before it sends
anything.  So a cascade that fails has sent, in order, the complete requests of the objects before
the failing one: no object is there without the one above it, and no member without its notice.
-/

namespace BalancerSync

variable {σ α β : Type}

/-- What holds of each step and its value holds all along a list of steps. -/
theorem Act.forall₂_of_mapM {f : α → Act σ β} {P : α → β → Prop}
    (hf : ∀ x s b t, run (f x) s = (.ok b, t) → P x b) {xs : List α} {s t : Session σ}
    {bs : List β} (h : run (xs.mapM f) s = (.ok bs, t)) : List.Forall₂ P xs bs := by
  induction xs generalizing s bs with
  | nil =>
    obtain ⟨rfl, -⟩ : [] = bs ∧ s = t := by simpa using h
    exact .nil
  | cons x xs ih =>
    obtain ⟨b, s₁, bs', hb, hbs, rfl⟩ := mapM_cons_eq_ok.1 h
    exact .cons (hf x s b s₁ hb) (ih hbs)

/-! ## Creation -/

namespace Cascade

/-- What the creation of a load balancer comes to. -/
inductive Item
  | balancer
  | listener (l : Listener)
  | pool (p : Pool)
  | monitor (h : HealthMonitor)
  | member (m : Member)
  deriving DecidableEq, Repr

/-- A pool comes before its health monitor, and that before its members. -/
def poolItems (p : Pool) : List Item :=
  .pool p :: p.healthMonitor.asOption.toList.map .monitor ++ p.members.items.map .member

/-- The load balancer comes first, then its listeners, then its pools with their children. -/
def items (lb : LoadBalancer) : List Item :=
  .balancer :: lb.listeners.items.map .listener ++ lb.pools.items.flatMap poolItems

/-- The complete requests of an item: one for each object, and a notice for each member. -/
inductive Complete (lb : LoadBalancer) : Item → List ChangeRequest → Prop
  | balancer : Complete lb .balancer [.loadBalancer .lbCreate lb]
  | listener (l : Listener) : Complete lb (.listener l) [.listener .listenerCreate l]
  | pool (p : Pool) : Complete lb (.pool p) [.pool .poolCreate p]
  | monitor (h : HealthMonitor) : Complete lb (.monitor h) [.healthMonitor .hmCreate h]
  | member (m : Member) (subnet : String) :
      Complete lb (.member m) [.member .memberCreate m (some subnet), .memberAdded m subnet]

end Cascade

namespace Driver

open Cascade

variable (d : Driver σ)

/-- The member as it is created: with the subnet that the cascade finds for it, if it finds one. -/
def fillSubnet (lb : LoadBalancer) (m : Member) : Act σ Member := do
  match m.subnetId.nonEmpty with
  | some _ => return m
  | none =>
    match ← d.cascadeSubnet lb m with
    | some subnet => return { m with subnetId := .value subnet }
    | none => return m

/-- Checks a member that is to be created, and finds its subnet. -/
def askMember (m : Member) : Act σ String := do
  Act.check (validateMonitorOptions m)
  d.refuseConflict m
  d.resolveSubnet m .creation

/-- The requests of an item, found out without sending any. -/
def cascadeDue (lb : LoadBalancer) : Item → Act σ (List ChangeRequest)
  | .balancer => return [.loadBalancer .lbCreate lb]
  | .listener l => do
    Act.check (validateProtocol l.protocol)
    Act.check (validateAllowedCidrs l.allowedCidrs)
    return [.listener .listenerCreate l]
  | .pool p => do
    Act.check (validateProtocol p.protocol)
    Act.check (validateAlgorithm p.algorithm)
    Act.check (validatePersistence p.sessionPersistence.asOption)
    return [.pool .poolCreate p]
  | .monitor h => do
    let supported ← d.healthChecksSupported
    Act.check (validateHealthMonitor h supported true)
    return [.healthMonitor .hmCreate h]
  | .member m => do
    let subnet ← d.fillSubnet lb m >>= d.askMember
    return [.member .memberCreate m (some subnet), .memberAdded m subnet]

/-! ### Items ask before they send -/

/-- A member gets its subnet by questions about its load balancer. -/
theorem asks_fillSubnet (lb : LoadBalancer) (m : Member) : d.Asks (d.fillSubnet lb m) := by
  unfold fillSubnet
  cases m.subnetId.nonEmpty with
  | some subnet => exact .pure m
  | none =>
    refine .bind (d.asks_cascadeSubnet lb m) fun found ↦ ?_
    cases found with
    | some subnet => exact .pure _
    | none => exact .pure m

theorem asks_askMember (m : Member) : d.Asks (d.askMember m) :=
  .check (refuseUnless_ne_closed _ _) fun _ _ ↦
    .bind (d.asks_refuseConflict m) fun _ ↦ d.asks_resolveSubnet m .creation

/-- Every item of a creation asks what it has to before it sends. -/
theorem asks_cascadeDue (lb : LoadBalancer) (x : Item) : d.Asks (d.cascadeDue lb x) := by
  cases x with
  | balancer => exact .pure _
  | listener l =>
    exact .check (refuseUnless_ne_closed _ _) fun _ _ ↦
      .check (refuseUnless_ne_closed _ _) fun _ _ ↦ .pure _
  | pool p =>
    exact .check (refuseUnless_ne_closed _ _) fun _ _ ↦
      .check (refuseUnless_ne_closed _ _) fun _ _ ↦
        .check (validatePersistence_ne_closed _) fun _ _ ↦ .pure _
  | monitor h =>
    exact .bind .healthChecks fun supported ↦
      .check (validateHealthMonitor_ne_closed h supported true) fun _ _ ↦ .pure _
  | member m =>
    exact .bind (.bind (d.asks_fillSubnet lb m) d.asks_askMember) fun _ ↦ .pure _

theorem silent_cascadeDue (lb : LoadBalancer) (x : Item) : (d.cascadeDue lb x).Silent :=
  (d.asks_cascadeDue lb x).silent

/-! ### A creation is its items -/

/-- A new member is sent with its notice, once all about it is known. -/
theorem createMember_eq_ask (m : Member) :
    d.createMember m = d.askMember m >>= fun subnet ↦
      Act.submit [.member .memberCreate m (some subnet), .memberAdded m subnet] := by
  simp [createMember, askMember, placeMember]

/-- A member of a new load balancer gets a subnet, and is then created like any other. -/
theorem cascadeMember_eq_fill (lb : LoadBalancer) (m : Member) :
    d.cascadeMember lb m = d.fillSubnet lb m >>= d.createMember := by
  unfold cascadeMember fillSubnet
  cases m.subnetId.nonEmpty with
  | some subnet => simp
  | none =>
    dsimp only
    rw [bind_assoc]
    congr 1
    funext found
    cases found with
    | some subnet => simp
    | none => simp

theorem cascadeMember_eq_due (lb : LoadBalancer) (m : Member) :
    d.cascadeMember lb m = d.cascadeDue lb (.member m) >>= Act.submit := by
  have hdue : d.cascadeDue lb (.member m) >>= Act.submit =
      d.fillSubnet lb m >>= fun m' ↦ d.askMember m' >>= fun subnet ↦
        Act.submit [.member .memberCreate m (some subnet), .memberAdded m subnet] := by
    simp [cascadeDue]
  rw [cascadeMember_eq_fill, hdue]
  -- The subnet that a member is given shows only in the subnet that it is placed in.
  unfold fillSubnet
  cases m.subnetId.nonEmpty with
  | some subnet => simp [createMember_eq_ask]
  | none =>
    simp only [bind_assoc]
    congr 1
    funext found
    cases found with
    | some subnet =>
      rw [pure_bind, pure_bind, createMember_eq_ask]
      rfl
    | none => rw [pure_bind, pure_bind, createMember_eq_ask]

/-- The creation of a pool comes to the pool, its health monitor and its members. -/
theorem cascadePool_eq_items (lb : LoadBalancer) (p : Pool) :
    d.cascadePool lb p = (poolItems p).forM fun x ↦ d.cascadeDue lb x >>= Act.submit := by
  have hpool : placePool .poolCreate p = d.cascadeDue lb (.pool p) >>= Act.submit := by
    simp [placePool, cascadeDue, Act.submit_singleton]
  have hmonitor (h : HealthMonitor) :
      d.createHealthMonitor h = d.cascadeDue lb (.monitor h) >>= Act.submit := by
    simp [createHealthMonitor, placeHealthMonitor, cascadeDue, Act.submit_singleton]
  unfold cascadePool createPool
  rw [hpool, funext hmonitor, funext (d.cascadeMember_eq_due lb)]
  simp [poolItems]

/-- A creation comes to its items, parents first. -/
theorem createLoadBalancer_eq_items (lb : LoadBalancer) :
    d.createLoadBalancer lb = (items lb).forM fun x ↦ d.cascadeDue lb x >>= Act.submit := by
  have hemit : (Act.emit (.loadBalancer .lbCreate lb) : Act σ Unit) =
      d.cascadeDue lb .balancer >>= Act.submit := by
    simp [cascadeDue, Act.submit_singleton]
  have hlistener (l : Listener) :
      createListener l = d.cascadeDue lb (.listener l) >>= Act.submit := by
    simp [createListener, placeListener, cascadeDue, Act.submit_singleton]
  have hpools (ps : List Pool) : ps.forM (d.cascadePool lb) =
      (ps.flatMap poolItems).forM fun x ↦ d.cascadeDue lb x >>= Act.submit := by
    induction ps with
    | nil => rfl
    | cons p ps ih =>
      rw [List.forM_eq_forM] at ih ⊢
      rw [List.forM_cons, ih, cascadePool_eq_items, List.flatMap_cons]
      exact List.forM_append.symm
  unfold createLoadBalancer
  rw [hemit, funext hlistener, hpools]
  simp [items]

section Answers

variable {d} {lb : LoadBalancer} {s t : Session σ}

/-- What an item sends, it sends completely. -/
theorem cascadeDue_complete {x : Item} {rs : List ChangeRequest}
    (h : (d.cascadeDue lb x).run s = (.ok rs, t)) : Complete lb x rs := by
  cases x with
  | balancer =>
    obtain ⟨rfl, -⟩ : [ChangeRequest.loadBalancer .lbCreate lb] = rs ∧ s = t := by
      simpa [cascadeDue] using h
    exact .balancer
  | listener l =>
    obtain ⟨_, -, h⟩ := Act.check_bind_eq_ok.1 h
    obtain ⟨_, -, h⟩ := Act.check_bind_eq_ok.1 h
    obtain ⟨rfl, -⟩ : [ChangeRequest.listener .listenerCreate l] = rs ∧ s = t := by simpa using h
    exact .listener l
  | pool p =>
    obtain ⟨_, -, h⟩ := Act.check_bind_eq_ok.1 h
    obtain ⟨_, -, h⟩ := Act.check_bind_eq_ok.1 h
    obtain ⟨_, -, h⟩ := Act.check_bind_eq_ok.1 h
    obtain ⟨rfl, -⟩ : [ChangeRequest.pool .poolCreate p] = rs ∧ s = t := by simpa using h
    exact .pool p
  | monitor m =>
    obtain ⟨_, s₁, -, h⟩ := Act.bind_eq_ok.1 h
    obtain ⟨_, -, h⟩ := Act.check_bind_eq_ok.1 h
    obtain ⟨rfl, -⟩ : [ChangeRequest.healthMonitor .hmCreate m] = rs ∧ s₁ = t := by
      simpa using h
    exact .monitor m
  | member m =>
    obtain ⟨subnet, -, rfl⟩ := Act.bind_pure_eq_ok.1 h
    exact .member m subnet

end Answers

/-! ## Deletion -/

/-- The complete requests for a member that is deleted. -/
def Removed (m : Member) (rs : List ChangeRequest) : Prop :=
  ∃ subnet, rs = [.deleteMember m.id (textJson m.address) (portJson m.port) m.poolId (some subnet),
    .memberDeleted m subnet]

/-- The requests for a member that is to be deleted, found out without sending any. -/
def removalDue (m : Member) : Act σ (List ChangeRequest) := do
  let subnet ← d.resolveSubnet m .deletion
  return [.deleteMember m.id (textJson m.address) (portJson m.port) m.poolId (some subnet),
    .memberDeleted m subnet]

/-- What is due when a member goes is found out without sending. -/
theorem silent_removalDue (m : Member) : (d.removalDue m).Silent :=
  Asks.silent (.bind (d.asks_resolveSubnet m .deletion) fun _ ↦ .pure _)

/-- A member that goes is removed with its notice. -/
theorem removalDue_removed {m : Member} {s t : Session σ} {rs : List ChangeRequest}
    (h : (d.removalDue m).run s = (.ok rs, t)) : Removed m rs := by
  obtain ⟨subnet, -, rfl⟩ := Act.bind_pure_eq_ok.1 h
  exact ⟨subnet, rfl⟩

/-- The deletion of a pool comes to its health monitor and its members before the pool. -/
theorem deletePool_eq_due (p : Pool) :
    d.deletePool p =
      Act.submit (p.healthMonitor.asOption.toList.map .deleteHealthMonitor) >>= fun _ ↦
        (p.members.items.forM fun m ↦ d.removalDue m >>= Act.submit) >>= fun _ ↦
          Act.emit (.deletePool p) := by
  have hmonitor : p.healthMonitor.asOption.toList.forM deleteHealthMonitor =
      (Act.submit (p.healthMonitor.asOption.toList.map .deleteHealthMonitor) : Act σ Unit) := by
    cases p.healthMonitor.asOption with
    | none => rfl
    | some h => rfl
  have hmember : d.deleteMember = fun m ↦ d.removalDue m >>= Act.submit := by
    funext m
    simp [deleteMember, removalDue]
  unfold deletePool
  rw [hmonitor, hmember]

/-- A pool is deleted last, after the requests for all of its members. -/
theorem deletePool_sends {p : Pool} {s s' : Session σ} (ho : s.isOpen = true)
    (h : (d.deletePool p).run s = (.ok (), s')) :
    ∃ blocks, List.Forall₂ Removed p.members.items blocks ∧
      s'.emitted = s.emitted ++ p.healthMonitor.asOption.toList.map .deleteHealthMonitor
        ++ blocks.flatten ++ [.deletePool p] := by
  rw [deletePool_eq_due, Act.run_bind_of_ok (Act.submit_of_open ho _)] at h
  obtain ⟨_, s₁, hmembers, hpool⟩ := Act.bind_eq_ok.1 h
  obtain ⟨blocks, t, hblocks, rfl⟩ := Act.forM_submit_ok d.silent_removalDue hmembers
  have hsilent := Act.Silent.mapM d.silent_removalDue p.members.items
  have hopen : (t.sent blocks.flatten).isOpen = true := (hsilent.isOpen_of_run hblocks).trans ho
  have ht : t.emitted = _ := hsilent.emitted_of_run hblocks
  rw [Act.emit_of_open hopen] at hpool
  obtain rfl : _ = s' := (Prod.mk.inj hpool).2
  refine ⟨blocks, Act.forall₂_of_mapM (fun m s rs t ↦ d.removalDue_removed) hblocks, ?_⟩
  rw [Session.sent_emitted, Session.sent_emitted, ht, Session.sent_emitted]

/-- Only a member can make the deletion of a pool fail. -/
theorem deletePool_sends_until {p : Pool} {s s' : Session σ} {e : DriverError}
    (ho : s.isOpen = true) (h : (d.deletePool p).run s = (.error e, s')) :
    ∃ done m rest blocks t u, p.members.items = done ++ m :: rest ∧
      (done.mapM d.removalDue).run
        (s.sent (p.healthMonitor.asOption.toList.map .deleteHealthMonitor)) = (.ok blocks, t) ∧
      (d.removalDue m).run t = (.error e, u) ∧
      List.Forall₂ Removed done blocks ∧
      s'.emitted = s.emitted ++ p.healthMonitor.asOption.toList.map .deleteHealthMonitor
        ++ blocks.flatten := by
  rw [deletePool_eq_due, Act.run_bind_of_ok (Act.submit_of_open ho _)] at h
  rcases Act.bind_eq_error.1 h with hmembers | ⟨_, s₁, hmembers, hpool⟩
  · obtain ⟨done, m, rest, blocks, t, u, hsplit, hblocks, hm, rfl⟩ :=
      Act.forM_submit_error d.silent_removalDue (by exact ho) hmembers
    have ht : t.emitted = _ := (Act.Silent.mapM d.silent_removalDue done).emitted_of_run hblocks
    have hu : u.emitted = t.emitted := (d.silent_removalDue m).emitted_of_run hm
    refine ⟨done, m, rest, blocks, t, u, hsplit, hblocks, hm,
      Act.forall₂_of_mapM (fun m s rs t ↦ d.removalDue_removed) hblocks, ?_⟩
    rw [Session.sent_emitted, hu, ht, Session.sent_emitted]
  · obtain ⟨blocks, t, hblocks, rfl⟩ := Act.forM_submit_ok d.silent_removalDue hmembers
    have hopen : (t.sent blocks.flatten).isOpen = true :=
      ((Act.Silent.mapM d.silent_removalDue p.members.items).isOpen_of_run hblocks).trans ho
    rw [Act.emit_of_open hopen] at hpool
    cases hpool

/-! ## Cascades -/

/-- A cascade that ends well sends the complete requests of all objects, in order. One that fails
sends those of the objects before the one that fails, and nothing else: a creation from the load
balancer down, a deletion from the children of the pool up. -/
theorem cascades_stop_at_failure (lb : LoadBalancer) (p : Pool) {s : Session σ}
    (ho : s.isOpen = true) :
    (∀ s', (d.createLoadBalancer lb).run s = (.ok (), s') →
      ∃ blocks, List.Forall₂ (Complete lb) (items lb) blocks ∧
        s'.emitted = s.emitted ++ blocks.flatten) ∧
    (∀ e s', (d.createLoadBalancer lb).run s = (.error e, s') →
      ∃ done x rest blocks t u, items lb = done ++ x :: rest ∧
        (done.mapM (d.cascadeDue lb)).run s = (.ok blocks, t) ∧
        (d.cascadeDue lb x).run t = (.error e, u) ∧
        List.Forall₂ (Complete lb) done blocks ∧
        s'.emitted = s.emitted ++ blocks.flatten) ∧
    (∀ s', (d.deletePool p).run s = (.ok (), s') →
      ∃ blocks, List.Forall₂ Removed p.members.items blocks ∧
        s'.emitted = s.emitted ++ p.healthMonitor.asOption.toList.map .deleteHealthMonitor
          ++ blocks.flatten ++ [.deletePool p]) ∧
    (∀ e s', (d.deletePool p).run s = (.error e, s') →
      ∃ done m rest blocks t u, p.members.items = done ++ m :: rest ∧
        (done.mapM d.removalDue).run
          (s.sent (p.healthMonitor.asOption.toList.map .deleteHealthMonitor)) = (.ok blocks, t) ∧
        (d.removalDue m).run t = (.error e, u) ∧
        List.Forall₂ Removed done blocks ∧
        s'.emitted = s.emitted ++ p.healthMonitor.asOption.toList.map .deleteHealthMonitor
          ++ blocks.flatten) := by
  have hsilent := d.silent_cascadeDue lb
  have hcomplete : ∀ x s rs t, (d.cascadeDue lb x).run s = (.ok rs, t) → Complete lb x rs :=
    fun _ _ _ _ ↦ cascadeDue_complete
  refine ⟨?_, ?_, fun s' ↦ d.deletePool_sends ho, fun e s' ↦ d.deletePool_sends_until ho⟩
  · intro s' h
    rw [createLoadBalancer_eq_items] at h
    obtain ⟨blocks, t, hblocks, rfl⟩ := Act.forM_submit_ok hsilent h
    -- The questions send nothing, so the blocks are all that was sent.
    have ht : t.emitted = s.emitted := (Act.Silent.mapM hsilent _).emitted_of_run hblocks
    refine ⟨blocks, Act.forall₂_of_mapM hcomplete hblocks, ?_⟩
    rw [Session.sent_emitted, ht]
  · intro e s' h
    rw [createLoadBalancer_eq_items] at h
    obtain ⟨done, x, rest, blocks, t, u, hsplit, hblocks, hx, rfl⟩ :=
      Act.forM_submit_error hsilent ho h
    have ht : t.emitted = s.emitted := (Act.Silent.mapM hsilent done).emitted_of_run hblocks
    have hu : u.emitted = t.emitted := (hsilent x).emitted_of_run hx
    refine ⟨done, x, rest, blocks, t, u, hsplit, hblocks, hx,
      Act.forall₂_of_mapM hcomplete hblocks, ?_⟩
    rw [Session.sent_emitted, hu, ht]

end Driver

namespace Sample

/-- A member that is placed nowhere. -/
def homeless : Member := { member with id := "m3", subnetId := .unset }

def crowdedPool : Pool := { pool with members := .value [member, homeless, member] }

def crowdedBalancer : LoadBalancer := { balancer with pools := .value [crowdedPool] }

end Sample

/-- The second of three members has no subnet, and neither has the load balancer. -/
theorem createLoadBalancer_stops_at_homeless :
    ((Sample.driver.createLoadBalancer Sample.crowdedBalancer).run (.start ())).2.emitted =
      [.loadBalancer .lbCreate Sample.crowdedBalancer, .pool .poolCreate Sample.crowdedPool,
        .member .memberCreate Sample.member (some "sub"), .memberAdded Sample.member "sub"] ∧
    ∃ done x rest blocks, Cascade.items Sample.crowdedBalancer = done ++ x :: rest ∧
      List.Forall₂ (Cascade.Complete Sample.crowdedBalancer) done blocks ∧
      ((Sample.driver.createLoadBalancer Sample.crowdedBalancer).run (.start ())).2.emitted =
        blocks.flatten := by
  have hfails : ((Sample.driver.createLoadBalancer Sample.crowdedBalancer).run (.start ())).1 =
      .error (.unsupported (.subnetRequired .creation)) := by decide +kernel
  obtain ⟨-, hstops, -, -⟩ := Sample.driver.cascades_stop_at_failure Sample.crowdedBalancer
    Sample.crowdedPool (s := .start ()) rfl
  obtain ⟨done, x, rest, blocks, _, _, hsplit, -, -, hcomplete, hsent⟩ :=
    hstops _ _ (Act.run_eq_of_fst hfails)
  exact ⟨rfl, done, x, rest, blocks, hsplit, hcomplete, hsent⟩

end BalancerSync
