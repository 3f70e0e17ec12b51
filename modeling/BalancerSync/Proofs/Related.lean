import BalancerSync.Proofs.Built

/-!
# Worlds that no answer tells apart

If the collaborators answer in the same way in related worlds, and leave related worlds related,
then the driver does the same in sessions whose worlds are related, be the applier open or closed.
The relation may say as well what no call changes, so that no action of the driver does either.
-/

namespace BalancerSync

variable {σ ε α β : Type}

/-! ## Calls -/

/-- The call cannot tell related worlds apart, and leaves them related. -/
def Call.Respects (rel : σ → σ → Prop) (call : Call σ ε α) : Prop :=
  ∀ v w, rel v w → (call v).1 = (call w).1 ∧ rel (call v).2 (call w).2

namespace Call.Respects

variable {rel : σ → σ → Prop}

theorem pure (a : α) : Call.Respects rel (Pure.pure a : Call σ ε α) := fun _ _ h ↦ ⟨rfl, h⟩

theorem throw (e : ε) : Call.Respects rel (throw e : Call σ ε α) := fun _ _ h ↦ ⟨rfl, h⟩

/-- Calls that respect a relation do so one after the other. -/
theorem bind {call : Call σ ε α} {f : α → Call σ ε β} (h : call.Respects rel)
    (hf : ∀ a, (f a).Respects rel) : Call.Respects rel (call >>= f) := by
  intro v w hvw
  obtain ⟨hr, hvw'⟩ := h v w hvw
  rw [Call.run_bind, Call.run_bind]
  generalize call v = x, call w = y at hr hvw' ⊢
  rcases x with ⟨e | a, v'⟩ <;> rcases y with ⟨e' | a', w'⟩ <;> cases hr
  · exact ⟨rfl, hvw'⟩
  · exact hf a v' w' hvw'

/-- To recover from an error keeps the relation if the handler does. -/
theorem tryCatch {call : Call σ ε α} {handle : ε → Call σ ε α} (h : call.Respects rel)
    (hf : ∀ e, (handle e).Respects rel) : Call.Respects rel (tryCatch call handle) := by
  intro v w hvw
  obtain ⟨hr, hvw'⟩ := h v w hvw
  rw [Call.run_tryCatch, Call.run_tryCatch]
  generalize call v = x, call w = y at hr hvw' ⊢
  rcases x with ⟨e | a, v'⟩ <;> rcases y with ⟨e' | a', w'⟩ <;> cases hr
  · exact hf e v' w' hvw'
  · exact ⟨rfl, hvw'⟩

/-- Related worlds see the same number of attempts. -/
theorem retry {call : Call σ BackendError α} (h : call.Respects rel) (n : Nat) :
    Call.Respects rel (retry call n) := by
  induction n with
  | zero => exact h
  | succ n ih =>
    refine h.tryCatch fun e ↦ ?_
    split
    · exact ih
    · exact .throw e

end Call.Respects

/-! ## Collaborators -/

structure Backend.Respects (rel : σ → σ → Prop) (b : Backend σ) : Prop where
  findLoadBalancers (id : String) : (b.findLoadBalancers id).Respects rel
  findByPoolKey (key : String) : (b.findByPoolKey key).Respects rel
  hasHealthMonitor (id : String) : (b.hasHealthMonitor id).Respects rel
  logicalPort (id : String) : (b.logicalPort id).Respects rel
  supportsHealthChecks : b.supportsHealthChecks.Respects rel

/-- As far as subnets and floating addresses are concerned. -/
structure Network.Respects (rel : σ → σ → Prop) (n : Network σ) : Prop where
  floatingIps (id : String) : (n.floatingIps id).Respects rel
  subnet (id : String) : (n.subnet id).Respects rel
  networkSubnets (id : String) : (n.networkSubnets id).Respects rel

/-- All that may be asked of a backend respects the relation if its five questions do. -/
theorem Backend.Question.respects {rel : σ → σ → Prop} {b : Backend σ} (hb : b.Respects rel)
    {call : Call σ BackendError α} (h : b.Question call) : call.Respects rel := by
  induction h with
  | findLoadBalancers id => exact hb.findLoadBalancers id
  | findByPoolKey key => exact hb.findByPoolKey key
  | hasHealthMonitor id => exact hb.hasHealthMonitor id
  | logicalPort id => exact hb.logicalPort id
  | pure a => exact .pure a
  | throw e => exact .throw e
  | bind _ _ ih ihf => exact ih.bind ihf
  | retry n _ ih => exact ih.retry n

theorem Network.Question.respects {rel : σ → σ → Prop} {n : Network σ} (hn : n.Respects rel)
    {call : Call σ ApiError α} (h : n.Question call) : call.Respects rel := by
  cases h with
  | floatingIps id => exact hn.floatingIps id
  | subnet id => exact hn.subnet id
  | networkSubnets id => exact hn.networkSubnets id

/-! ## Actions -/

/-- The sessions differ in nothing but their worlds, which are related. -/
structure Session.Alike (rel : σ → σ → Prop) (s t : Session σ) : Prop where
  world : rel s.world t.world
  healthChecks : s.healthChecks = t.healthChecks
  emitted : s.emitted = t.emitted
  isOpen : s.isOpen = t.isOpen

/-- The action does the same in sessions that are alike, and they stay alike. -/
def Act.Respects (rel : σ → σ → Prop) (act : Act σ α) : Prop :=
  ∀ s t, s.Alike rel t → (act.run s).1 = (act.run t).1 ∧ (act.run s).2.Alike rel (act.run t).2

namespace Act.Respects

variable {rel : σ → σ → Prop}

theorem pure (a : α) : Act.Respects rel (Pure.pure a : Act σ α) := fun _ _ h ↦ ⟨rfl, h⟩

/-- Actions that respect a relation do so one after the other. -/
theorem bind {act : Act σ α} {f : α → Act σ β} (h : act.Respects rel)
    (hf : ∀ a, (f a).Respects rel) : Act.Respects rel (act >>= f) := by
  intro s t hst
  obtain ⟨hr, hst'⟩ := h s t hst
  rw [Act.run_bind, Act.run_bind]
  generalize act.run s = x, act.run t = y at hr hst' ⊢
  rcases x with ⟨e | a, s'⟩ <;> rcases y with ⟨e' | a', t'⟩ <;> cases hr
  · exact ⟨rfl, hst'⟩
  · exact hf a s' t' hst'

/-- After a check only the results that it can have matter. -/
theorem check {r : Except DriverError α} {f : α → Act σ β}
    (hf : ∀ a, r = .ok a → (f a).Respects rel) : Act.Respects rel (Act.check r >>= f) := by
  cases r with
  | error e => exact fun _ _ h ↦ ⟨rfl, h⟩
  | ok a => exact hf a rfl

/-- A question takes sessions in related worlds to sessions in related worlds. -/
theorem ask {wrap : ε → DriverError} {call : Call σ ε α} (hc : call.Respects rel) :
    (Act.ask wrap call).Respects rel := by
  rintro s t ⟨hworld, hchecks, hemitted, hopen⟩
  obtain ⟨hr, hworld'⟩ := hc _ _ hworld
  rw [Act.run_ask, Act.run_ask, hr]
  exact ⟨rfl, hworld', hchecks, hemitted, hopen⟩

/-- The continuation of a question that may fail sees only what the collaborator answers. -/
theorem tryAsk {wrap : ε → DriverError} {call : Call σ ε α} {f : Except DriverError α → Act σ β}
    (hc : call.Respects rel) (hf : ∀ r : Except ε α, (f (r.mapError wrap)).Respects rel) :
    Act.Respects rel (Act.observe (Act.ask wrap call) >>= f) := by
  rintro s t ⟨hworld, hchecks, hemitted, hopen⟩
  obtain ⟨hr, hworld'⟩ := hc _ _ hworld
  rw [Act.run_observe_bind, Act.run_observe_bind, Act.run_ask, Act.run_ask, hr]
  exact hf _ _ _ ⟨hworld', hchecks, hemitted, hopen⟩

theorem healthChecks {d : Driver σ} (hc : d.backend.supportsHealthChecks.Respects rel) :
    d.healthChecksSupported.Respects rel := by
  rintro s t ⟨hworld, hchecks, hemitted, hopen⟩
  rcases hs : s.healthChecks with _ | known
  · obtain ⟨hr, hworld'⟩ := hc _ _ hworld
    rw [d.healthChecksSupported_of_unknown hs,
      d.healthChecksSupported_of_unknown (hchecks.symm.trans hs)]
    generalize d.backend.supportsHealthChecks s.world = x,
      d.backend.supportsHealthChecks t.world = y at hr hworld' ⊢
    rcases x with ⟨e | a, v⟩ <;> rcases y with ⟨e' | a', w⟩ <;> cases hr
    · exact ⟨rfl, hworld', hchecks, hemitted, hopen⟩
    · exact ⟨rfl, hworld', rfl, hemitted, hopen⟩
  · rw [d.healthChecksSupported_of_known hs,
      d.healthChecksSupported_of_known (hchecks.symm.trans hs)]
    exact ⟨rfl, hworld, hchecks, hemitted, hopen⟩

theorem emit (r : ChangeRequest) : Act.Respects rel (Act.emit r) := by
  rintro s t ⟨hworld, hchecks, hemitted, hopen⟩
  cases ho : s.isOpen with
  | true =>
    rw [Act.emit_of_open ho, Act.emit_of_open (hopen.symm.trans ho)]
    exact ⟨rfl, hworld, hchecks, congrArg (· ++ [r]) hemitted, hopen⟩
  | false =>
    rw [Act.emit_of_closed ho, Act.emit_of_closed (hopen.symm.trans ho)]
    exact ⟨rfl, hworld, hchecks, hemitted, hopen⟩

end Act.Respects

/-- What the collaborators cannot tell apart, no action of the driver does. -/
theorem Driver.Built.respects {d : Driver σ} {rel : σ → σ → Prop} {R : ChangeRequest → Prop}
    {act : Act σ α} (hb : d.backend.Respects rel) (hn : d.network.Respects rel)
    (h : d.Built R act) : act.Respects rel := by
  induction h with
  | pure a => exact .pure a
  | bind _ _ ih ihf => exact ih.bind ihf
  | check _ _ ihf => exact .check ihf
  | backend hq => exact .ask (hq.respects hb)
  | tryBackend hq _ ih => exact .tryAsk (hq.respects hb) ih
  | network hq => exact .ask (hq.respects hn)
  | tryNetwork hq _ ih => exact .tryAsk (hq.respects hn) ih
  | healthChecks => exact .healthChecks hb.supportsHealthChecks
  | emit _ => exact .emit _

end BalancerSync
