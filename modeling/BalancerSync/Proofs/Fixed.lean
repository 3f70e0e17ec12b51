import BalancerSync.Proofs.Built

/-!
# Collaborators whose answers stay the same

If no answer depends on the world, all that an action can learn from the session is whether the
applier is open and whether the backend has health checks.  So a driver with an open applier does
in every session what a fresh one does: it ends in the same way, and it sends the same requests
after those that were sent before.
-/

namespace BalancerSync

variable {σ ε α β : Type}

/-! ## Fixed answers -/

/-- The answer of the call does not depend on the world. -/
def Call.Fixed (call : Call σ ε α) : Prop := ∀ v w, (call v).1 = (call w).1

namespace Call.Fixed

theorem pure (a : α) : Call.Fixed (Pure.pure a : Call σ ε α) := fun _ _ ↦ rfl

theorem throw (e : ε) : Call.Fixed (throw e : Call σ ε α) := fun _ _ ↦ rfl

theorem bind {call : Call σ ε α} {f : α → Call σ ε β} (h : Call.Fixed call)
    (hf : ∀ a, Call.Fixed (f a)) : Call.Fixed (call >>= f) := by
  intro v w
  have hvw := h v w
  rw [Call.run_bind, Call.run_bind]
  generalize call v = x, call w = y at hvw ⊢
  rcases x with ⟨e | a, v'⟩ <;> rcases y with ⟨e' | a', w'⟩ <;> cases hvw
  · rfl
  · exact hf a v' w'

theorem tryCatch {call : Call σ ε α} {handle : ε → Call σ ε α} (h : Call.Fixed call)
    (hf : ∀ e, Call.Fixed (handle e)) : Call.Fixed (tryCatch call handle) := by
  intro v w
  have hvw := h v w
  rw [Call.run_tryCatch, Call.run_tryCatch]
  generalize call v = x, call w = y at hvw ⊢
  rcases x with ⟨e | a, v'⟩ <;> rcases y with ⟨e' | a', w'⟩ <;> cases hvw
  · exact hf e v' w'
  · rfl

/-- Repeated attempts at a call with a fixed answer come to a fixed answer. -/
theorem retry {call : Call σ BackendError α} (h : Call.Fixed call) (n : Nat) :
    Call.Fixed (retry call n) := by
  induction n with
  | zero => exact h
  | succ n ih =>
    refine h.tryCatch fun e ↦ ?_
    split
    · exact ih
    · exact .throw e

end Call.Fixed

structure Backend.Fixed (b : Backend σ) : Prop where
  findLoadBalancers (id : String) : (b.findLoadBalancers id).Fixed
  findByPoolKey (key : String) : (b.findByPoolKey key).Fixed
  hasHealthMonitor (id : String) : (b.hasHealthMonitor id).Fixed
  logicalPort (id : String) : (b.logicalPort id).Fixed
  supportsHealthChecks : b.supportsHealthChecks.Fixed

/-- The answers on subnets and floating addresses are fixed; ports are given out one by one. -/
structure Network.Fixed (n : Network σ) : Prop where
  floatingIps (id : String) : (n.floatingIps id).Fixed
  subnet (id : String) : (n.subnet id).Fixed
  networkSubnets (id : String) : (n.networkSubnets id).Fixed

structure Catalog.Fixed (c : Catalog σ) : Prop where
  loadBalancerIds (filters : Filters) : (c.loadBalancerIds filters).Fixed
  loadBalancer (id : String) : (c.loadBalancer id).Fixed

/-- What the backend is asked has a fixed answer, however many calls that takes. -/
theorem Backend.Question.fixed {b : Backend σ} (hb : b.Fixed) {call : Call σ BackendError α}
    (h : b.Question call) : call.Fixed := by
  induction h with
  | findLoadBalancers id => exact hb.findLoadBalancers id
  | findByPoolKey key => exact hb.findByPoolKey key
  | hasHealthMonitor id => exact hb.hasHealthMonitor id
  | logicalPort id => exact hb.logicalPort id
  | pure a => exact .pure a
  | throw e => exact .throw e
  | bind _ _ ih ihf => exact ih.bind ihf
  | retry n _ ih => exact ih.retry n

/-- What the network layer is asked has a fixed answer. -/
theorem Network.Question.fixed {n : Network σ} (hn : n.Fixed) {call : Call σ ApiError α}
    (h : n.Question call) : call.Fixed := by
  cases h with
  | floatingIps id => exact hn.floatingIps id
  | subnet id => exact hn.subnet id
  | networkSubnets id => exact hn.networkSubnets id

/-! A world that has but one state has no way to change an answer. -/

section Subsingleton

variable [Subsingleton σ]

/-- In a world with a single state every answer is fixed. -/
theorem Call.fixed_of_subsingleton (call : Call σ ε α) : call.Fixed := by
  intro v w
  rw [Subsingleton.elim v w]

theorem Backend.fixed_of_subsingleton (b : Backend σ) : b.Fixed where
  findLoadBalancers id := (b.findLoadBalancers id).fixed_of_subsingleton
  findByPoolKey key := (b.findByPoolKey key).fixed_of_subsingleton
  hasHealthMonitor id := (b.hasHealthMonitor id).fixed_of_subsingleton
  logicalPort id := (b.logicalPort id).fixed_of_subsingleton
  supportsHealthChecks := b.supportsHealthChecks.fixed_of_subsingleton

theorem Network.fixed_of_subsingleton (n : Network σ) : n.Fixed where
  floatingIps id := (n.floatingIps id).fixed_of_subsingleton
  subnet id := (n.subnet id).fixed_of_subsingleton
  networkSubnets id := (n.networkSubnets id).fixed_of_subsingleton

theorem Catalog.fixed_of_subsingleton (c : Catalog σ) : c.Fixed where
  loadBalancerIds filters := (c.loadBalancerIds filters).fixed_of_subsingleton
  loadBalancer id := (c.loadBalancer id).fixed_of_subsingleton

end Subsingleton

/-! ## Uniform actions -/

namespace Driver

/-- The applier is open, and what the driver remembers about health checks is what the backend
says. -/
structure Ready (d : Driver σ) (s : Session σ) : Prop where
  isOpen : s.isOpen = true
  healthChecks : ∀ known, s.healthChecks = some known →
    ∀ w, (d.backend.supportsHealthChecks w).1 = .ok known

/-- A fresh driver is ready. -/
theorem ready_start (d : Driver σ) (w : σ) : d.Ready (.start w) := ⟨rfl, by simp [Session.start]⟩

/-- The world may change: what is remembered stays true. -/
theorem Ready.world {d : Driver σ} {s : Session σ} (h : d.Ready s) (w : σ) :
    d.Ready { s with world := w } := ⟨h.isOpen, h.healthChecks⟩

/-- In all sessions that are ready, the action ends in the same way and sends the same requests,
and it leaves them ready.  It does not find the applier closed. -/
def Uniform (d : Driver σ) (act : Act σ α) : Prop :=
  ∃ r rs, r ≠ .error .applierClosed ∧ ∀ s, d.Ready s →
    (act.run s).1 = r ∧ (act.run s).2.emitted = s.emitted ++ rs ∧ d.Ready (act.run s).2

namespace Uniform

variable {d : Driver σ}

theorem pure (a : α) : d.Uniform (Pure.pure a : Act σ α) :=
  ⟨.ok a, [], by simp, fun s hs ↦ ⟨rfl, by simp, hs⟩⟩

/-- Of two uniform actions, the second goes on from a ready session and sends after the first. -/
theorem bind {act : Act σ α} {f : α → Act σ β} (h : d.Uniform act)
    (hf : ∀ a, d.Uniform (f a)) : d.Uniform (act >>= f) := by
  obtain ⟨r, rs, hr, hact⟩ := h
  rcases r with e | a
  · refine ⟨.error e, rs, by simpa using hr, fun s hs ↦ ?_⟩
    obtain ⟨he, hrest⟩ := hact s hs
    rw [Act.run_bind_of_error (Act.run_eq_of_fst he)]
    exact ⟨rfl, hrest⟩
  · obtain ⟨r', rs', hr', hf⟩ := hf a
    refine ⟨r', rs ++ rs', hr', fun s hs ↦ ?_⟩
    obtain ⟨ha, hrs, ht⟩ := hact s hs
    obtain ⟨hb, hrs', hu⟩ := hf _ ht
    rw [Act.run_bind_of_ok (Act.run_eq_of_fst ha)]
    exact ⟨hb, by rw [hrs', hrs, List.append_assoc], hu⟩

theorem check {r : Except DriverError α} {f : α → Act σ β} (hr : r ≠ .error .applierClosed)
    (hf : ∀ a, r = .ok a → d.Uniform (f a)) : d.Uniform (Act.check r >>= f) := by
  cases r with
  | error e => exact ⟨.error e, [], by simpa using hr, fun s hs ↦ ⟨rfl, by simp [Act.run_bind], hs⟩⟩
  | ok a => exact hf a rfl

/-- The driver looks at the answer to a question, even if it is an error. -/
theorem tryAsk {wrap : ε → DriverError} {call : Call σ ε α} {f : Except DriverError α → Act σ β}
    (w : σ) (hc : call.Fixed) (hf : ∀ r : Except ε α, d.Uniform (f (r.mapError wrap))) :
    d.Uniform (Act.observe (Act.ask wrap call) >>= f) := by
  obtain ⟨r, rs, hr, hact⟩ := hf (call w).1
  refine ⟨r, rs, hr, fun s hs ↦ ?_⟩
  rw [Act.run_observe_bind, Act.run_ask, hc s.world w]
  exact hact _ (hs.world _)

/-- A question with a fixed answer changes only the world. -/
theorem ask {wrap : ε → DriverError} {call : Call σ ε α} (w : σ) (hc : call.Fixed)
    (hwrap : ∀ e, wrap e ≠ .applierClosed) : d.Uniform (Act.ask wrap call) := by
  refine ⟨(call w).1.mapError wrap, [], ?_, fun s hs ↦ ?_⟩
  · rcases (call w).1 with e | a
    · simpa using hwrap e
    · simp
  · rw [Act.run_ask, hc s.world w]
    exact ⟨rfl, by simp, hs.world _⟩

/-- Whether the answer is remembered or asked for makes no difference. -/
theorem healthChecks (w : σ) (hb : d.backend.Fixed) : d.Uniform d.healthChecksSupported := by
  refine ⟨(d.backend.supportsHealthChecks w).1.mapError .backend, [], ?_, fun s hs ↦ ?_⟩
  · rcases (d.backend.supportsHealthChecks w).1 with e | a <;> simp
  · rcases hknown : s.healthChecks with _ | known
    · have hfixed := hb.supportsHealthChecks
      rw [d.healthChecksSupported_of_unknown hknown, hfixed w s.world]
      rcases hanswer : d.backend.supportsHealthChecks s.world with ⟨e | answer, v⟩
      · exact ⟨rfl, by simp, hs.world v⟩
      · refine ⟨rfl, by simp, hs.isOpen, fun known h v' ↦ ?_⟩
        obtain rfl : answer = known := Option.some.inj h
        rw [hfixed v' s.world, hanswer]
    · rw [d.healthChecksSupported_of_known hknown, hs.healthChecks known hknown w]
      exact ⟨rfl, by simp, hs⟩

/-- An open applier takes every request. -/
theorem emit (r : ChangeRequest) : d.Uniform (Act.emit r) := by
  refine ⟨.ok (), [r], by simp, fun s hs ↦ ?_⟩
  rw [Act.emit_of_open hs.isOpen]
  exact ⟨rfl, rfl, hs.isOpen, hs.healthChecks⟩

/-- A ready driver does what a fresh one does. -/
theorem eq_start {act : Act σ α} (h : d.Uniform act) {s : Session σ} (hs : d.Ready s) (w : σ) :
    (act.run s).1 = (act.run (.start w)).1 ∧
      (act.run s).2.emitted = s.emitted ++ (act.run (.start w)).2.emitted ∧
      d.Ready (act.run s).2 := by
  obtain ⟨r, rs, -, hact⟩ := h
  obtain ⟨hr, hrs, ht⟩ := hact s hs
  obtain ⟨hr', hrs', -⟩ := hact _ (d.ready_start w)
  refine ⟨hr.trans hr'.symm, ?_, ht⟩
  rw [hrs, hrs', Session.start_emitted, List.nil_append]

/-- A uniform action does not find the applier closed. -/
theorem ne_closed {act : Act σ α} (h : d.Uniform act) (w : σ) :
    (act.run (.start w)).1 ≠ .error .applierClosed := by
  obtain ⟨r, rs, hr, hact⟩ := h
  rwa [(hact _ (d.ready_start w)).1]

end Uniform

/-- With fixed answers, all actions of the driver are uniform. -/
theorem Built.uniform {d : Driver σ} {R : ChangeRequest → Prop} {act : Act σ α}
    (hb : d.backend.Fixed) (hn : d.network.Fixed) (w : σ) (h : d.Built R act) :
    d.Uniform act := by
  induction h with
  | pure a => exact .pure a
  | bind _ _ ih ihf => exact ih.bind ihf
  | check hr _ ihf => exact .check hr ihf
  | backend hq => exact .ask w (hq.fixed hb) (by simp)
  | tryBackend hq _ ih => exact .tryAsk w (hq.fixed hb) ih
  | network hq => exact .ask w (hq.fixed hn) (by simp)
  | tryNetwork hq _ ih => exact .tryAsk w (hq.fixed hn) ih
  | healthChecks => exact .healthChecks w hb
  | emit _ => exact .emit _

end Driver

end BalancerSync
