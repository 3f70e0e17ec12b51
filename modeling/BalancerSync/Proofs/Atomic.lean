import BalancerSync.Proofs.Agreement
import BalancerSync.Proofs.Calls

/-!
# Calls that do all or nothing

A call about one object asks all that it has to before it sends anything, and then sends all of its
requests at once.  So if it fails, be it at the last of several questions or at the last member of a
batch, nothing was sent, and the driver is as it was; all that it may have learned is whether the
backend has health checks.
-/

namespace BalancerSync

variable {σ α : Type}

/-! ## What a failure leaves alone -/

namespace Session

/-- The driver is as it was, except that it may have learned whether the backend has health checks.
What it knew about them it still knows. -/
structure Kept (s t : Session σ) : Prop where
  emitted : t.emitted = s.emitted
  isOpen : t.isOpen = s.isOpen
  healthChecks : ∀ known, s.healthChecks = some known → t.healthChecks = some known

namespace Kept

variable {s t u : Session σ}

theorem refl (s : Session σ) : s.Kept s := ⟨rfl, rfl, fun _ h ↦ h⟩

theorem trans (h : s.Kept t) (h' : t.Kept u) : s.Kept u where
  emitted := h'.emitted.trans h.emitted
  isOpen := h'.isOpen.trans h.isOpen
  healthChecks known hknown := h'.healthChecks known (h.healthChecks known hknown)

/-- Requests that are sent in both sessions make no difference. -/
theorem sent (h : s.Kept t) (rs : List ChangeRequest) : (s.sent rs).Kept (t.sent rs) where
  emitted := by simp [h.emitted]
  isOpen := h.isOpen
  healthChecks := h.healthChecks

end Kept

end Session

/-- Questions keep the driver as it is. -/
theorem Driver.Asks.kept {d : Driver σ} {act : Act σ α} (h : d.Asks act) (s : Session σ) :
    s.Kept (act.run s).2 := by
  obtain ⟨es, hpath, -⟩ := Driver.Sends.asks (P := fun _ ↦ False) h s
  refine ⟨h.silent.emitted_eq s, h.silent.isOpen_eq s, fun known hknown ↦ ?_⟩
  rw [hpath.healthChecks_eq, hknown]
  rfl

/-! ## Actions that ask first and then send -/

/-- In this session the action either fails and keeps the driver as it is, or it succeeds and sends
requests with this property, all at once. -/
def AllOrNothing (act : Act σ Unit) (s : Session σ) (P : List ChangeRequest → Prop) : Prop :=
  (∀ e t, act.run s = (.error e, t) → s.Kept t) ∧
    ∀ t, act.run s = (.ok (), t) → ∃ rs, P rs ∧ (s.sent rs).Kept t

namespace AllOrNothing

variable {s : Session σ} {P : List ChangeRequest → Prop} {act : Act σ α} {f : α → Act σ Unit}

/-- Sending requests one after another is all or nothing, for it fails only at a closed applier. -/
theorem submit {rs : List ChangeRequest} (h : P rs) : AllOrNothing (Act.submit rs) s P := by
  constructor
  · intro e t hrun
    cases ho : s.isOpen with
    | true =>
      rw [Act.submit_of_open ho] at hrun
      cases hrun
    | false =>
      rw [Act.submit_of_closed ho] at hrun
      obtain rfl : s = t := congrArg Prod.snd hrun
      exact .refl s
  · intro t hrun
    obtain rfl := Act.submit_eq_ok hrun
    exact ⟨rs, h, .refl _⟩

theorem emit {r : ChangeRequest} (h : P [r]) : AllOrNothing (Act.emit r) s P := by
  rw [← Act.submit_singleton]
  exact submit h

theorem throw (e : DriverError) : AllOrNothing (throw e) s P := by
  constructor
  · intro e' t hrun
    obtain rfl : s = t := congrArg Prod.snd hrun
    exact .refl s
  · intro t hrun
    cases hrun

/-- What comes first keeps the driver as it is. -/
theorem after (hact : s.Kept (act.run s).2)
    (hf : ∀ a t, act.run s = (.ok a, t) → AllOrNothing (f a) t P) :
    AllOrNothing (act >>= f) s P := by
  constructor
  · intro e u hrun
    rcases Act.bind_eq_error.1 hrun with h | ⟨a, t, h, hnext⟩
    · rw [h] at hact
      exact hact
    · rw [h] at hact
      exact hact.trans ((hf a t h).1 e u hnext)
  · intro u hrun
    obtain ⟨a, t, h, hnext⟩ := Act.bind_eq_ok.1 hrun
    rw [h] at hact
    obtain ⟨rs, hrs, hkept⟩ := (hf a t h).2 u hnext
    exact ⟨rs, hrs, (hact.sent rs).trans hkept⟩

/-- A check that fails comes before anything is sent. -/
theorem check {r : Except DriverError α} (hf : ∀ a, AllOrNothing (f a) s P) :
    AllOrNothing (Act.check r >>= f) s P := by
  refine after (.refl s) fun a t hrun ↦ ?_
  obtain rfl : s = t := congrArg Prod.snd hrun
  exact hf a

/-- A check that is made only on some condition. -/
theorem checkIf {c : Bool} {r : Except DriverError Unit} {next : Unit → Act σ Unit}
    (h : AllOrNothing (next ()) s P) :
    AllOrNothing (if c = true then Act.check r >>= next else next ()) s P := by
  split
  · exact check fun _ ↦ h
  · exact h

end AllOrNothing

/-! ## Single calls -/

/-- Whether a call is about one object, or about the members of one pool. The others cascade, ask
for ports or synchronise. -/
def Command.isSingle : Command → Bool
  | updateLoadBalancer _ | deleteLoadBalancer .. | failover _ => true
  | createListener _ | updateListener .. | deleteListener _ | updatePool .. => true
  | createMember _ | syncMember _ | deleteMember _ | updateMember .. | updateMembers .. => true
  | createHealthMonitor _ | updateHealthMonitor .. | deleteHealthMonitor _ => true
  | createLoadBalancer _ | createVipPort .. | createPool _ | deletePool _ => false
  | syncLoadBalancer _ | syncVipFip _ | sync _ => false

namespace Driver

variable (d : Driver σ)

/-- The requests of a batch: one for each member in order, and two for each of the recorded members
that are removed. -/
def ReplacesMembers (poolId : String) (recorded : List MemberEntry) (ms : List Member)
    (rs : List ChangeRequest) : Prop :=
  ∃ placed removed, rs = placed ++ deletions poolId removed ∧ removed.Sublist recorded ∧
    List.Forall₂ (fun m r ↦ ∃ op subnet, (op = .memberCreate ∨ op = .memberUpdate) ∧
      r = .member op m (some subnet)) ms placed

/-- What a single call sends when it succeeds in a world. -/
def Completes (w : σ) : Command → List ChangeRequest → Prop
  | .updateLoadBalancer new, rs => rs = [.updateLoadBalancer new]
  | .deleteLoadBalancer lb cascade, rs => rs = [.deleteLoadBalancer lb cascade]
  | .createListener l, rs => rs = [.listener .listenerCreate l]
  | .updateListener old new, rs => rs = [.updateListener old new]
  | .deleteListener l, rs => rs = [.deleteListener l]
  | .updatePool old new, rs => rs = [.updatePool old new]
  | .createMember m, rs =>
    ∃ subnet, rs = [.member .memberCreate m (some subnet), .memberAdded m subnet]
  | .syncMember m, rs =>
    ∃ subnet, rs = [.member .memberSync m (some subnet), .memberAdded m subnet]
  | .deleteMember m, rs => Removed m rs
  | .updateMember old new, rs => rs = [.updateMember old new]
  | .updateMembers poolId ms, rs =>
    ∃ key row v, findByPoolId d.backend poolId w = (.ok (some (key, row)), v) ∧
      ReplacesMembers poolId (row.entries key) ms rs
  | .createHealthMonitor h, rs => rs = [.healthMonitor .hmCreate h]
  | .updateHealthMonitor old new, rs => rs = [.updateHealthMonitor old new]
  | .deleteHealthMonitor h, rs => rs = [.deleteHealthMonitor h]
  | _, _ => False

section Operations

variable {d} {s : Session σ} {P : List ChangeRequest → Prop}

/-! ### Pools and members -/

/-- All that an update of a pool does before it sends is to check what is set. -/
theorem allOrNothing_updatePool {old new : Pool} (h : P [.updatePool old new]) :
    AllOrNothing (updatePool old new) s P := by
  unfold updatePool
  refine .checkIf ?_
  refine .checkIf ?_
  refine .checkIf ?_
  exact .emit h

/-- A member and its notice go out together, once its subnet is known. -/
theorem allOrNothing_placeMember {op : Operation} {m : Member}
    (h : ∀ subnet, P [.member op m (some subnet), .memberAdded m subnet]) :
    AllOrNothing (d.placeMember op m) s P :=
  .after ((d.asks_resolveSubnet m .creation).kept s) fun subnet _ _ ↦ .submit (h subnet)

/-- The checks and questions about a new member come before its request. -/
theorem allOrNothing_createMember {m : Member}
    (h : ∀ subnet, P [.member .memberCreate m (some subnet), .memberAdded m subnet]) :
    AllOrNothing (d.createMember m) s P :=
  .check fun _ ↦ .after ((d.asks_refuseConflict m).kept s) fun _ _ _ ↦ allOrNothing_placeMember h

/-- An update of a member sends its one request after the checks. -/
theorem allOrNothing_updateMember {old new : Member} (h : P [.updateMember old new]) :
    AllOrNothing (d.updateMember old new) s P :=
  .check fun _ ↦ .after ((d.asks_refuseConflict new).kept s) fun _ _ _ ↦ .emit h

/-- A member is removed with its notice, or not at all. -/
theorem allOrNothing_deleteMember {m : Member} (h : ∀ rs, Removed m rs → P rs) :
    AllOrNothing (d.deleteMember m) s P :=
  .after ((d.asks_resolveSubnet m .deletion).kept s) fun subnet _ _ ↦
    .submit (h _ ⟨subnet, rfl⟩)

/-- Finding the subnets of a batch sends nothing. -/
theorem kept_resolveBatch (row : Row) (ms : List Member) (s : Session σ) :
    s.Kept ((d.resolveBatch row none ms).run s).2 := by
  obtain ⟨v, -, hrun⟩ := d.run_resolveBatch row ms s
  rw [hrun]
  exact ⟨rfl, rfl, fun _ h ↦ h⟩

/-- All members of a batch are looked at before the first request is sent. -/
theorem allOrNothing_updateMembers {poolId : String} {ms : List Member}
    (h : ∀ key row v rs, findByPoolId d.backend poolId s.world = (.ok (some (key, row)), v) →
      ReplacesMembers poolId (row.entries key) ms rs → P rs) :
    AllOrNothing (d.updateMembers poolId ms) s P := by
  have hquestion := Backend.Question.requirePool d.backend poolId
  refine .after (Asks.kept (.backend hquestion) s) fun ⟨key, row⟩ t hrow ↦ ?_
  refine .after (kept_resolveBatch row ms t) fun resolved u hresolved ↦ .submit ?_
  -- The row was found in the world that the call began in.
  rw [Act.askBackend, Act.run_ask, run_requirePool] at hrow
  rcases hfind : findByPoolId d.backend poolId s.world with ⟨e | _ | ⟨key', row'⟩, w⟩
  · simp [hfind] at hrow
  · simp [hfind] at hrow
  obtain ⟨⟨rfl, rfl⟩, rfl⟩ : (key' = key ∧ row' = row) ∧ _ = t := by simpa [hfind] using hrow
  obtain ⟨v, -, hrun⟩ := d.run_resolveBatch row' ms { s with world := w }
  have hsubnets := congrArg Prod.fst (hrun.symm.trans hresolved)
  rw [matchBatch_eq]
  refine h key' row' w _ hfind ⟨_, _, rfl, List.diff_sublist _ _, ?_⟩
  refine forall₂_batchRequests hsubnets (by simp [batchEntries]) fun m _ subnet known _ ↦ ?_
  refine ⟨_, subnet, ?_, rfl⟩
  cases known
  · exact .inl rfl
  · exact .inr rfl

end Operations

/-! ### All single calls -/

/-- A single call that fails has sent nothing and left the driver as it was, whatever it has asked
before; one that succeeds has sent all that belongs to it, and nothing else. -/
theorem perform_all_or_nothing {c : Command} (hc : c.isSingle = true) (s : Session σ) :
    (∀ e t, (d.perform c).run s = (.error e, t) → s.Kept t) ∧
    (∀ t, (d.perform c).run s = (.ok (), t) →
      ∃ rs, d.Completes s.world c rs ∧ (s.sent rs).Kept t) := by
  change AllOrNothing (d.perform c) s (d.Completes s.world c)
  cases c with
  | updateLoadBalancer new => exact .emit rfl
  | deleteLoadBalancer lb cascade => exact .emit rfl
  | failover id => exact .throw _
  | createListener l => exact .check fun _ ↦ .check fun _ ↦ .emit rfl
  | updateListener old new => exact .check fun _ ↦ .emit rfl
  | deleteListener l => exact .emit rfl
  | updatePool old new => exact allOrNothing_updatePool rfl
  | createMember m => exact allOrNothing_createMember fun subnet ↦ ⟨subnet, rfl⟩
  | syncMember m => exact .check fun _ ↦ allOrNothing_placeMember fun subnet ↦ ⟨subnet, rfl⟩
  | deleteMember m => exact allOrNothing_deleteMember fun _ h ↦ h
  | updateMember old new => exact allOrNothing_updateMember rfl
  | updateMembers poolId ms =>
    exact allOrNothing_updateMembers fun key row v _ hfind h ↦ ⟨key, row, v, hfind, h⟩
  | createHealthMonitor h =>
    exact .after (Asks.kept .healthChecks s) fun _ _ _ ↦ .check fun _ ↦ .emit rfl
  | updateHealthMonitor old new =>
    exact .after (Asks.kept .healthChecks s) fun _ _ _ ↦ .check fun _ ↦ .emit rfl
  | deleteHealthMonitor h => exact .emit rfl
  | createLoadBalancer _ | createVipPort _ _ _ _ | createPool _ | deletePool _ => cases hc
  | syncLoadBalancer _ | syncVipFip _ | sync _ => cases hc

end Driver

/-- The second member of the batch is placed nowhere, so the first one is not sent either. A member
that is placed is sent with its notice. -/
theorem perform_stops_at_homeless :
    (∃ e, ((Sample.driver.perform (.updateMembers "p1"
        [Sample.recordedMember, Sample.homeless])).run (.start ())).1 = .error e) ∧
    ((Sample.driver.perform (.updateMembers "p1"
        [Sample.recordedMember, Sample.homeless])).run (.start ())).2.emitted = [] ∧
    ∃ subnet, ((Sample.driver.perform (.createMember Sample.member)).run (.start ())).2.emitted =
        [.member .memberCreate Sample.member (some subnet), .memberAdded Sample.member subnet] := by
  have hfails : ((Sample.driver.perform (.updateMembers "p1"
      [Sample.recordedMember, Sample.homeless])).run (.start ())).1 =
      .error (.unsupported (.subnetRequired .batchUpdate)) := by decide +kernel
  have hsends : ((Sample.driver.perform (.createMember Sample.member)).run (.start ())).1 =
      .ok () := by decide +kernel
  obtain ⟨hbatch, -⟩ := Sample.driver.perform_all_or_nothing
    (c := .updateMembers "p1" [Sample.recordedMember, Sample.homeless]) rfl (.start ())
  obtain ⟨-, hmember⟩ := Sample.driver.perform_all_or_nothing
    (c := .createMember Sample.member) rfl (.start ())
  obtain ⟨_, ⟨subnet, rfl⟩, hkept⟩ := hmember _ (Act.run_eq_of_fst hsends)
  exact ⟨⟨_, hfails⟩, (hbatch _ _ (Act.run_eq_of_fst hfails)).emitted, subnet, hkept.emitted⟩

end BalancerSync
