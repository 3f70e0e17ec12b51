import BalancerSync.Proofs.Fixed
import BalancerSync.Proofs.Pass

/-!
# Failures stay where they are

A run comes to one load balancer after another, with one driver and one applier for all of them.
If the collaborators answer the same at all times, it makes no difference that they are shared:
the run sends for each load balancer what a fresh driver would send for it alone, whichever of the
others fail.
-/

namespace BalancerSync

variable {σ α β : Type}

namespace Driver

variable (d : Driver σ)

/-! ## Each load balancer by itself -/

/-- The pass of a load balancer, by a fresh driver. -/
def freshPass (w : σ) (lb : LoadBalancer) : Except DriverError SyncOutcome × Session σ :=
  (d.syncLoadBalancer lb).run (.start w)

/-- The requests of the pass of a load balancer, be it that it fails. -/
def passRequests (w : σ) (lb : LoadBalancer) : List ChangeRequest := (d.freshPass w lb).2.emitted

/-- The requests for a listed load balancer. Its floating address is looked at if its pass goes
well. -/
def block (w : σ) (id : String) : List ChangeRequest :=
  match (d.catalog.loadBalancer id w).1 with
  | .error _ => []
  | .ok lb =>
    match (d.freshPass w lb).1 with
    | .error _ => d.passRequests w lb
    | .ok _ => d.passRequests w lb ++ ((d.syncVipFip lb).run (.start w)).2.emitted

/-- The load balancer, if it has to be created. -/
def created (w : σ) (id : String) : List LoadBalancer :=
  match (d.catalog.loadBalancer id w).1 with
  | .error _ => []
  | .ok lb =>
    match (d.freshPass w lb).1 with
    | .ok .recreated => [lb]
    | _ => []

/-- The requests for listed load balancers: their blocks, and another pass for those that are
created. -/
def runRequests (w : σ) (ids : List String) : List ChangeRequest :=
  ids.flatMap (d.block w) ++ (ids.flatMap (d.created w)).flatMap (d.passRequests w)

/-! ## Floating addresses -/

/-- Looking for the rows of a floating address does not fail. -/
theorem rowsForFip_succeeds (lbId : String) : (d.rowsForFip lbId).Succeeds := by
  refine .bind (.observe_ask _ _) fun r ↦ ?_
  rcases r with e | rows
  · cases e <;> exact .pure _
  · exact .pure _

/-- Bringing the address of a port in line does not fail if the applier is open. -/
theorem syncFipOnPort_succeeds (lbId portId : String) (rows : List Row) :
    (d.syncFipOnPort lbId portId rows).Succeeds := by
  refine .bind (.observe_ask _ _) fun fips ↦ ?_
  rcases fips with e | fips
  · exact .pure false
  refine .bind (.observe_ask _ _) fun port? ↦ ?_
  rcases port? with e | port?
  · exact .pure false
  change (applyFip _ _ _ _).Succeeds
  unfold applyFip
  split
  · exact .pure true
  · exact .bind (.emit _) fun _ ↦ .pure true
  · exact .pure false

/-- Nothing that goes wrong with a floating address is an error. -/
theorem syncVipFip_succeeds (lb : LoadBalancer) : (d.syncVipFip lb).Succeeds := by
  unfold syncVipFip
  cases lb.vipNetworkId.nonEmpty with
  | none => exact .pure false
  | some network =>
    refine .bind (d.rowsForFip_succeeds lb.id) fun rows? ↦ ?_
    cases rows? with
    | none => exact .pure false
    | some rows =>
      dsimp only
      cases vipPort? lb rows with
      | none => exact .pure false
      | some portId => exact d.syncFipOnPort_succeeds lb.id portId rows

/-! ## One after another -/

section Run

variable {d} (hb : d.backend.Fixed) (hn : d.network.Fixed)

include hb hn

/-- A shared driver does for a load balancer what a fresh one does. -/
theorem syncLoadBalancer_uniform (w : σ) (lb : LoadBalancer) :
    d.Uniform (d.syncLoadBalancer lb) :=
  (d.acts_syncLoadBalancer lb).uniform hb hn w

/-- A floating address is synchronised in every ready session as in a fresh one. -/
theorem syncVipFip_uniform (w : σ) (lb : LoadBalancer) : d.Uniform (d.syncVipFip lb) :=
  (d.acts_syncVipFip lb).uniform hb hn w

/-- A listed load balancer sends its block, whatever was done before. -/
theorem syncListed_sends_block (hc : d.catalog.Fixed) (w : σ) {s : Session σ} (hs : d.Ready s)
    (report : SyncReport) (id : String) :
    ∃ report' s', (d.syncListed report id).run s = (.ok (report', d.created w id), s') ∧
      report'.recreated = report.recreated ++ (d.created w id).map (·.id) ∧
      s'.emitted = s.emitted ++ d.block w id ∧ d.Ready s' := by
  have hcatalog := hc.loadBalancer id s.world w
  unfold syncListed block created freshPass passRequests
  rw [Act.run_observe_bind, Act.askCatalog, Act.run_ask, hcatalog]
  rcases (d.catalog.loadBalancer id w).1 with e | lb
  · exact ⟨_, _, rfl, by simp [SyncReport.fail], by simp, hs.world _⟩
  obtain ⟨hpass, hsent, ht⟩ := (syncLoadBalancer_uniform hb hn w lb).eq_start
    (hs.world (d.catalog.loadBalancer id s.world).2) w
  have hopen := (syncLoadBalancer_uniform hb hn w lb).ne_closed w
  dsimp only [Except.mapError_ok]
  rw [Act.run_observe_bind, hpass]
  rcases hfresh : ((d.syncLoadBalancer lb).run (.start w)).1 with e | outcome
  · -- The applier is open, so the error is one that the report takes up.
    cases e with
    | applierClosed => exact absurd hfresh hopen
    | _ => exact ⟨_, _, rfl, by simp [SyncReport.fail], hsent, ht⟩
  · obtain ⟨agrees, s', hfip, -⟩ := d.syncVipFip_succeeds lb _ ht.isOpen
    obtain ⟨-, hfipSent, hs'⟩ := (syncVipFip_uniform hb hn w lb).eq_start ht w
    rw [hfip] at hfipSent hs'
    refine ⟨report.add lb.id outcome, s', ?_, ?_, ?_, hs'⟩
    · refine (Act.run_bind_of_ok hfip _).trans ?_
      cases outcome <;> rfl
    · cases outcome <;> simp [SyncReport.add]
    · rw [hfipSent, hsent, List.append_assoc]
      rfl

/-- The first pass, by induction on the list: each load balancer leaves the session ready for the
next. -/
theorem syncAll_sends_blocks (hc : d.catalog.Fixed) (w : σ) {s : Session σ} (hs : d.Ready s)
    (report : SyncReport) (ids : List String) :
    ∃ report' s', (d.syncAll report ids).run s = (.ok (report', ids.flatMap (d.created w)), s') ∧
      report'.recreated = report.recreated ++ (ids.flatMap (d.created w)).map (·.id) ∧
      s'.emitted = s.emitted ++ ids.flatMap (d.block w) ∧ d.Ready s' := by
  induction ids generalizing report s with
  | nil => exact ⟨report, s, rfl, by simp, by simp, hs⟩
  | cons id ids ih =>
    obtain ⟨report₁, s₁, hlisted, hreport₁, hsent₁, hs₁⟩ :=
      syncListed_sends_block hb hn hc w hs report id
    obtain ⟨report₂, s₂, hrest, hreport₂, hsent₂, hs₂⟩ := ih hs₁ report₁
    refine ⟨report₂, s₂, ?_, ?_, ?_, hs₂⟩
    · unfold syncAll
      rw [Act.run_bind_of_ok hlisted]
      exact (Act.run_bind_of_ok hrest _).trans rfl
    · rw [hreport₂, hreport₁, List.flatMap_cons, List.map_append, List.append_assoc]
    · rw [hsent₂, hsent₁, List.flatMap_cons, List.append_assoc]

/-- The second passes send what those of fresh drivers do. -/
theorem syncAgain_sends_passes (w : σ) {s : Session σ} (hs : d.Ready s) (report : SyncReport)
    (lbs : List LoadBalancer) :
    ∃ report' s', (d.syncAgain report lbs).run s = (.ok report', s') ∧
      report'.recreated = report.recreated ∧
      s'.emitted = s.emitted ++ lbs.flatMap (d.passRequests w) := by
  induction lbs generalizing report s with
  | nil => exact ⟨report, s, rfl, rfl, by simp⟩
  | cons lb lbs ih =>
    obtain ⟨hpass, hsent, ht⟩ := (syncLoadBalancer_uniform hb hn w lb).eq_start hs w
    have hopen := (syncLoadBalancer_uniform hb hn w lb).ne_closed w
    have next (report₁ : SyncReport) : ∃ report' s',
        (d.syncAgain report₁ lbs).run ((d.syncLoadBalancer lb).run s).2 = (.ok report', s') ∧
          report'.recreated = report₁.recreated ∧
          s'.emitted = s.emitted ++ (lb :: lbs).flatMap (d.passRequests w) := by
      obtain ⟨report', s', hrun, hreport, hsent'⟩ := ih ht report₁
      refine ⟨report', s', hrun, hreport, ?_⟩
      rw [hsent', hsent, List.flatMap_cons, List.append_assoc]
      rfl
    unfold syncAgain
    rw [Act.run_observe_bind, hpass]
    rcases hfresh : ((d.syncLoadBalancer lb).run (.start w)).1 with e | outcome
    · cases e with
      | applierClosed => exact absurd hfresh hopen
      | _ => exact next (report.fail lb.id _)
    · exact next report

/-- A run over listed load balancers. -/
theorem sync_sends_blocks (hc : d.catalog.Fixed) (w : σ) {s : Session σ} (hs : d.Ready s)
    (filters : Filters) {ids : List String}
    (h : (d.catalog.loadBalancerIds filters w).1 = .ok ids) :
    ∃ report s', (d.sync filters).run s = (.ok report, s') ∧
      report.recreated = (ids.flatMap (d.created w)).map (·.id) ∧
      s'.emitted = s.emitted ++ d.runRequests w ids := by
  have hlist : ((Act.askCatalog (d.catalog.loadBalancerIds filters)).run s).1 = .ok ids := by
    rw [Act.askCatalog, Act.run_ask, hc.loadBalancerIds filters s.world w, h]
    rfl
  have hs₁ : d.Ready ((Act.askCatalog (d.catalog.loadBalancerIds filters)).run s).2 := hs.world _
  obtain ⟨report₁, s₁, hall, hreport₁, hsent₁, hs₁⟩ :=
    syncAll_sends_blocks hb hn hc w hs₁ .empty ids
  obtain ⟨report₂, s₂, hagain, hreport₂, hsent₂⟩ :=
    syncAgain_sends_passes hb hn w hs₁ report₁ (ids.flatMap (d.created w))
  refine ⟨report₂, s₂, ?_, ?_, ?_⟩
  · unfold sync
    rw [Act.run_bind_of_ok (Act.run_eq_of_fst hlist), Act.run_bind_of_ok hall]
    exact hagain
  · rw [hreport₂, hreport₁]
    rfl
  · rw [hsent₂, hsent₁, List.append_assoc]
    rfl

end Run

/-! ## Runs -/

/-- The driver with a catalog that lists these load balancers. -/
def listing (ids : List String) : Driver σ :=
  { d with catalog := { d.catalog with loadBalancerIds := fun _ ↦ pure ids } }

/-- What a run sends is only rearranged if the list is. -/
theorem runRequests_perm (w : σ) {ids ids' : List String} (h : ids'.Perm ids) :
    (d.runRequests w ids').Perm (d.runRequests w ids) :=
  (h.flatMap_right _).append ((h.flatMap_right _).flatMap_right _)

/-- If the listing fails, nothing is sent. Else the run succeeds, whatever happens to the load
balancers, and sends one block after another, each as if its load balancer were the only one; in
another order it sends the same blocks in that order. -/
theorem sync_isolates_failures (hb : d.backend.Fixed) (hn : d.network.Fixed)
    (hc : d.catalog.Fixed) (w : σ) {s : Session σ} (hs : d.Ready s) (filters : Filters) :
    (∀ e, (d.catalog.loadBalancerIds filters w).1 = .error e →
      ((d.sync filters).run s).1 = .error e ∧
      ((d.sync filters).run s).2.emitted = s.emitted) ∧
    (∀ ids, (d.catalog.loadBalancerIds filters w).1 = .ok ids →
      (∃ report s', (d.sync filters).run s = (.ok report, s') ∧
        report.recreated = (ids.flatMap (d.created w)).map (·.id) ∧
        s'.emitted = s.emitted ++ d.runRequests w ids) ∧
      ∀ ids', ids'.Perm ids →
        (∃ report s', ((d.listing ids').sync filters).run s = (.ok report, s') ∧
          s'.emitted = s.emitted ++ d.runRequests w ids') ∧
        (d.runRequests w ids').Perm (d.runRequests w ids)) := by
  refine ⟨fun e he ↦ ?_, fun ids h ↦ ⟨?_, fun ids' hperm ↦ ⟨?_, ?_⟩⟩⟩
  · have hlist : (Act.askCatalog (d.catalog.loadBalancerIds filters)).run s =
        (.error e, { s with world := (d.catalog.loadBalancerIds filters s.world).2 }) := by
      rw [Act.askCatalog, Act.run_ask, hc.loadBalancerIds filters s.world w, he]
      rfl
    unfold sync
    rw [Act.run_bind_of_error hlist]
    exact ⟨rfl, rfl⟩
  · exact sync_sends_blocks hb hn hc w hs filters h
  · -- Only the listing differs, so the blocks are those of the same collaborators.
    have hc' : (d.listing ids').catalog.Fixed := ⟨fun _ ↦ .pure ids', hc.loadBalancer⟩
    have hs' : (d.listing ids').Ready s := ⟨hs.isOpen, hs.healthChecks⟩
    obtain ⟨report, s', hrun, -, hsent⟩ :=
      sync_sends_blocks (d := d.listing ids') hb hn hc' w hs' filters rfl
    exact ⟨report, s', hrun, hsent⟩
  · exact d.runRequests_perm w hperm

end Driver

theorem sync_passes_over_missing :
    ∃ report s', (Sample.driver.sync []).run (.start ()) = (.ok report, s') ∧
      s'.emitted = Sample.driver.passRequests () Sample.balancer := by
  obtain ⟨-, hlisted⟩ := Sample.driver.sync_isolates_failures
    (Backend.fixed_of_subsingleton _) (Network.fixed_of_subsingleton _)
    (Catalog.fixed_of_subsingleton _) () (Sample.driver.ready_start ()) []
  obtain ⟨⟨report, s', hrun, -, hsent⟩, -⟩ := hlisted ["lb0", "lb1"] rfl
  have hpass : (Sample.driver.freshPass () Sample.balancer).1 = .ok .synced := by decide +kernel
  have hmissing : (Sample.driver.catalog.loadBalancer "lb0" ()).1 =
      .error (.api (.api 404 "load balancer not found")) := rfl
  have hgraph : (Sample.driver.catalog.loadBalancer "lb1" ()).1 = .ok Sample.balancer := rfl
  have hfip : ((Sample.driver.syncVipFip Sample.balancer).run (.start ())).2.emitted = [] := rfl
  refine ⟨report, s', hrun, ?_⟩
  rw [hsent]
  simp [Driver.runRequests, Driver.block, Driver.created, hmissing, hgraph, hpass, hfip]

end BalancerSync
