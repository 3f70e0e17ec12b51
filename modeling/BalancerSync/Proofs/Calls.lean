import BalancerSync.Proofs.Operations

/-!
# Sequences of calls

A driver lives through any number of calls, and what it keeps from one to the next is whether the
backend has health checks.  Each call is a path on which only supported objects are sent, and so is
a sequence of calls, whatever fails in between.
-/

namespace BalancerSync

variable {σ : Type}

/-! ## Calls -/

/-- A call of the driver. -/
inductive Command
  | createLoadBalancer (lb : LoadBalancer)
  | updateLoadBalancer (new : LoadBalancer)
  | deleteLoadBalancer (lb : LoadBalancer) (cascade : Bool)
  | failover (id : String)
  | createVipPort (lbId : String) (projectId : Option String) (vip : VipRequest)
      (additional : List VipRequest)
  | createListener (l : Listener)
  | updateListener (old new : Listener)
  | deleteListener (l : Listener)
  | createPool (p : Pool)
  | updatePool (old new : Pool)
  | deletePool (p : Pool)
  | createMember (m : Member)
  | syncMember (m : Member)
  | updateMember (old new : Member)
  | deleteMember (m : Member)
  | updateMembers (poolId : String) (ms : List Member)
  | createHealthMonitor (h : HealthMonitor)
  | updateHealthMonitor (old new : HealthMonitor)
  | deleteHealthMonitor (h : HealthMonitor)
  | syncLoadBalancer (lb : LoadBalancer)
  | syncVipFip (lb : LoadBalancer)
  | sync (filters : Filters)

namespace Driver

variable (d : Driver σ)

/-- What a call does, without its result. -/
def perform : Command → Act σ Unit
  | .createLoadBalancer lb => d.createLoadBalancer lb
  | .updateLoadBalancer new => updateLoadBalancer new
  | .deleteLoadBalancer lb cascade => deleteLoadBalancer lb cascade
  | .failover id => failover id
  | .createVipPort lbId projectId vip additional => do
    let _ ← d.createVipPort lbId projectId vip additional
  | .createListener l => createListener l
  | .updateListener old new => updateListener old new
  | .deleteListener l => deleteListener l
  | .createPool p => d.createPool p
  | .updatePool old new => updatePool old new
  | .deletePool p => d.deletePool p
  | .createMember m => d.createMember m
  | .syncMember m => d.syncMember m
  | .updateMember old new => d.updateMember old new
  | .deleteMember m => d.deleteMember m
  | .updateMembers poolId ms => d.updateMembers poolId ms
  | .createHealthMonitor h => d.createHealthMonitor h
  | .updateHealthMonitor old new => d.updateHealthMonitor old new
  | .deleteHealthMonitor h => deleteHealthMonitor h
  | .syncLoadBalancer lb => do let _ ← d.syncLoadBalancer lb
  | .syncVipFip lb => do let _ ← d.syncVipFip lb
  | .sync filters => do let _ ← d.sync filters

/-- Calls one after another. A call that fails does not keep the next one from being made. -/
def performAll (cs : List Command) : Act σ Unit :=
  cs.forM fun c ↦ do let _ ← Act.observe (d.perform c)

/-- The listeners and members that a call is about: those that it is given, or those of the load
balancers that the catalog gives out in a run. -/
def scope : Command → Scope
  | .createLoadBalancer lb | .syncLoadBalancer lb =>
    ⟨(· ∈ lb.listeners.items), fun m ↦ ∃ p ∈ lb.pools.items, m ∈ p.members.items⟩
  | .createListener l => ⟨(· = l), fun _ ↦ False⟩
  | .createMember m | .syncMember m | .updateMember _ m => ⟨fun _ ↦ False, (· = m)⟩
  | .updateMembers _ ms => ⟨fun _ ↦ False, (· ∈ ms)⟩
  | .sync _ =>
    ⟨fun l ↦ ∃ lb, d.Fetched lb ∧ l ∈ lb.listeners.items,
      fun m ↦ ∃ lb, d.Fetched lb ∧ ∃ p ∈ lb.pools.items, m ∈ p.members.items⟩
  | _ => ⟨fun _ ↦ False, fun _ ↦ False⟩

/-- Each call sends only what comes from supported objects that it is given, or from the record. -/
theorem sends_perform (c : Command) : d.Sends (d.Sound (d.scope c)) (d.perform c) := by
  cases c with
  | createLoadBalancer lb =>
    exact sends_createLoadBalancer (fun _ hl ↦ hl) fun p hp _ hm ↦ ⟨p, hp, hm⟩
  | updateLoadBalancer new => exact .emit (.updateBalancer new) rfl ⟨trivial, trivial⟩ rfl
  | deleteLoadBalancer lb cascade =>
    exact .emit (.deleteBalancer lb cascade) rfl ⟨trivial, trivial⟩ rfl
  | failover id => exact .throw _
  | createVipPort lbId projectId vip additional =>
    exact (sends_createVipPort lbId projectId vip additional).andThen fun _ ↦ .pure ()
  | createListener l => exact sends_placeListener (.inl rfl) rfl
  | updateListener old new => exact sends_updateListener old new
  | deleteListener l => exact .emit (.deleteListener l) rfl ⟨trivial, trivial⟩ rfl
  | createPool p => exact sends_createPool p
  | updatePool old new => exact sends_updatePool old new
  | deletePool p => exact sends_deletePool p
  | createMember m => exact sends_createMember (m := m) rfl m.subnetId
  | syncMember m => exact sends_syncMember (m := m) rfl m.subnetId
  | updateMember old new => exact sends_updateMember rfl old
  | deleteMember m => exact sends_deleteMember m
  | updateMembers poolId ms => exact sends_updateMembers (fun _ hm ↦ hm) poolId
  | createHealthMonitor h => exact sends_placeHealthMonitor (.inl rfl) h
  | updateHealthMonitor old new => exact sends_updateHealthMonitor old new
  | deleteHealthMonitor h => exact .emit (.deleteMonitor h) rfl ⟨trivial, trivial⟩ rfl
  | syncLoadBalancer lb =>
    have hpass : d.Sends (d.Sound (d.scope (.syncLoadBalancer lb)))
        (d.syncLoadBalancer lb) :=
      sends_syncLoadBalancer (fun _ hl ↦ hl) fun p hp _ hm ↦ ⟨p, hp, hm⟩
    exact hpass.andThen fun _ ↦ .pure ()
  | syncVipFip lb => exact (sends_syncVipFip lb).andThen fun _ ↦ .pure ()
  | sync filters =>
    have hrun := sends_sync (S := d.scope (.sync filters)) (fun lb hlb _ hl ↦ ⟨lb, hlb, hl⟩)
      (fun lb hlb p hp _ hm ↦ ⟨lb, hlb, p, hp, hm⟩) filters
    exact hrun.andThen fun _ ↦ .pure ()

/-- A sequence of calls is a path, call by call. -/
theorem performAll_path (cs : List Command) (s : Session σ) :
    ∃ blocks, d.Path s blocks.flatten ((d.performAll cs).run s).2 ∧
      List.Forall₂ (fun c es ↦ ∀ o, .sent o ∈ es → o.Supported (d.scope c)) cs blocks := by
  induction cs generalizing s with
  | nil => exact ⟨[], .nil s, .nil⟩
  | cons c cs ih =>
    obtain ⟨es, hpath, hes⟩ := d.sends_perform c s
    obtain ⟨blocks, hrest, hblocks⟩ := ih ((d.perform c).run s).2
    exact ⟨es :: blocks, hpath.append hrest, .cons (fun o ho ↦ (hes o ho).supported) hblocks⟩

/-- Whatever calls are made of a fresh driver, whatever its collaborators answer and whether or not
the applier is open, no request asks for anything that the backend cannot express. Each call sends
what comes from listeners without allowed ranges and members without monitor options among those it
is given. What concerns a health monitor is sent only after the backend's first answer on health
checks, which was yes. -/
theorem performAll_sends_supported (cs : List Command) (w : σ) (isOpen : Bool) :
    ∃ blocks,
      d.Path { Session.start w with isOpen } blocks.flatten
        ((d.performAll cs).run { Session.start w with isOpen }).2 ∧
      ((d.performAll cs).run { Session.start w with isOpen }).2.emitted =
        requestsOf blocks.flatten ∧
      (∀ r ∈ requestsOf blocks.flatten, r.Supported) ∧
      List.Forall₂ (fun c es ↦ ∀ o, .sent o ∈ es → o.Supported (d.scope c)) cs blocks ∧
      ∀ before o after, blocks.flatten = before ++ .sent o :: after →
        (∃ r ∈ o.requests, r.operation.probes = true) →
          firstAnswer before = some true := by
  obtain ⟨blocks, hpath, hblocks⟩ := d.performAll_path cs { Session.start w with isOpen }
  have hsupported : ∀ o, .sent o ∈ blocks.flatten → ∃ c, o.Supported (d.scope c) := by
    intro o ho
    obtain ⟨es, hes, ho⟩ := List.mem_flatten.1 ho
    obtain ⟨c, -, hc⟩ := exists_left_of_forall₂ hblocks es hes
    exact ⟨c, hc o ho⟩
  refine ⟨blocks, hpath, hpath.emitted_eq, fun r hr ↦ ?_, hblocks, fun before o after hes hr ↦ ?_⟩
  · obtain ⟨o, ho, hr⟩ := mem_requestsOf.1 hr
    obtain ⟨c, hc⟩ := hsupported o ho
    exact hc.requests r hr
  · obtain ⟨c, hc⟩ := hsupported o (by simp [hes])
    simpa [Session.start] using hpath.firstAnswer_of_probes hes (hc.probes_of_operation hr)

end Driver

end BalancerSync
