import BalancerSync.Proofs.Built

/-!
# The driver as a machine

Whatever the driver does, it does in steps of a few kinds: it asks a collaborator, it learns whether
the backend has health checks, and it sends what belongs to one object.  `Driver.Path` is the
relation of these steps.  The answer on health checks is asked for as long as there is none, and
what concerns a health monitor is sent only after it was yes; that holds of every path, so it holds
of all that the driver does, once each action is seen to be a path.
-/

namespace BalancerSync

variable {σ ε α β : Type}

/-! ## What is sent at once -/

/-- What the driver sends at once, with the object that it comes from. -/
inductive Sending
  | balancer (op : Operation) (lb : LoadBalancer)
  | updateBalancer (new : LoadBalancer)
  | deleteBalancer (lb : LoadBalancer) (cascade : Bool)
  | listener (op : Operation) (l : Listener)
  | updateListener (old new : Listener)
  | deleteListener (l : Listener)
  | pool (op : Operation) (p : Pool)
  | updatePool (old new : Pool)
  | deletePool (p : Pool)
  | monitor (op : Operation) (h : HealthMonitor)
  | updateMonitor (old new : HealthMonitor)
  | deleteMonitor (h : HealthMonitor)
  | purgeMonitors (lbId : String)
  /-- A member with the notice that it joined. -/
  | member (op : Operation) (m : Member) (subnet : String)
  /-- A member of a batch. It has no notice. -/
  | batchMember (op : Operation) (m : Member) (subnet : String)
  | updateMember (old new : Member)
  | deleteMember (m : Member) (subnet : String)
  /-- A member that is only known from its record. -/
  | deleteEntry (e : MemberEntry) (poolId : String)
  | vipFip (lbId portId portName fip : String)

namespace Sending

def requests : Sending → List ChangeRequest
  | balancer op lb => [.loadBalancer op lb]
  | updateBalancer new => [.updateLoadBalancer new]
  | deleteBalancer lb cascade => [.deleteLoadBalancer lb cascade]
  | listener op l => [.listener op l]
  | updateListener old new => [.updateListener old new]
  | deleteListener l => [.deleteListener l]
  | pool op p => [.pool op p]
  | updatePool old new => [.updatePool old new]
  | deletePool p => [.deletePool p]
  | monitor op h => [.healthMonitor op h]
  | updateMonitor old new => [.updateHealthMonitor old new]
  | deleteMonitor h => [.deleteHealthMonitor h]
  | purgeMonitors lbId => [.purgeHealthMonitors lbId]
  | member op m subnet => [.member op m (some subnet), .memberAdded m subnet]
  | batchMember op m subnet => [.member op m (some subnet)]
  | updateMember old new => [.updateMember old new]
  | deleteMember m subnet =>
    [.deleteMember m.id (textJson m.address) (portJson m.port) m.poolId (some subnet),
      .memberDeleted m subnet]
  | deleteEntry e poolId => [.deleteEntry e poolId, .entryDeleted e poolId]
  | vipFip lbId portId portName fip => [.syncVipFip lbId portId portName fip]

/-- Whether the backend has to probe members for this. -/
def probes : Sending → Bool
  | monitor .. | updateMonitor .. => true
  | _ => false

end Sending

/-! ## Paths -/

/-- What can be seen of a path. -/
inductive Event
  /-- The backend was asked whether it has health checks. -/
  | heard (answer : Except BackendError Bool)
  | sent (o : Sending)

namespace Event

def requests : Event → List ChangeRequest
  | heard _ => []
  | sent o => o.requests

def answer? : Event → Option (Except BackendError Bool)
  | heard answer => some answer
  | sent _ => none

end Event

/-- All requests of a path, in order. -/
def requestsOf (es : List Event) : List ChangeRequest := es.flatMap Event.requests

/-- The first answer on health checks that is no failure. -/
def firstAnswer (es : List Event) : Option Bool :=
  (es.filterMap Event.answer?).findSome? Except.toOption

@[simp] theorem requestsOf_nil : requestsOf [] = [] := rfl

@[simp] theorem requestsOf_heard (r : Except BackendError Bool) (es : List Event) :
    requestsOf (.heard r :: es) = requestsOf es := rfl

@[simp] theorem requestsOf_sent (o : Sending) (es : List Event) :
    requestsOf (.sent o :: es) = o.requests ++ requestsOf es := rfl

@[simp] theorem requestsOf_append (es es' : List Event) :
    requestsOf (es ++ es') = requestsOf es ++ requestsOf es' := List.flatMap_append

/-- A request of a path belongs to something that was sent on it. -/
theorem mem_requestsOf {r : ChangeRequest} {es : List Event} :
    r ∈ requestsOf es ↔ ∃ o, .sent o ∈ es ∧ r ∈ o.requests := by
  unfold requestsOf
  rw [List.mem_flatMap]
  constructor
  · rintro ⟨e | o, he, hr⟩
    · cases hr
    · exact ⟨o, he, hr⟩
  · rintro ⟨o, ho, hr⟩
    exact ⟨.sent o, ho, hr⟩

@[simp] theorem firstAnswer_nil : firstAnswer [] = none := rfl

@[simp] theorem firstAnswer_sent (o : Sending) (es : List Event) :
    firstAnswer (.sent o :: es) = firstAnswer es := rfl

/-- A failed question gives no answer, so the first answer comes later. -/
theorem firstAnswer_heard (r : Except BackendError Bool) (es : List Event) :
    firstAnswer (.heard r :: es) = (r.toOption <|> firstAnswer es) := by
  rcases r with e | b <;> rfl

namespace Driver

/-- A question, other than the one about health checks, takes one world to another. -/
inductive Asked (d : Driver σ) : σ → σ → Prop
  | backend {α : Type} {call : Call σ BackendError α} (h : d.backend.Question call) (w : σ) :
      Asked d w (call w).2
  | network {α : Type} {call : Call σ ApiError α} (h : d.network.Question call) (w : σ) :
      Asked d w (call w).2
  | allocatePort (r : PortRequest) (w : σ) : Asked d w (d.network.allocatePort r w).2
  | releasePort (id : String) (w : σ) : Asked d w (d.network.releasePort id w).2
  | loadBalancerIds (filters : Filters) (w : σ) :
      Asked d w (d.catalog.loadBalancerIds filters w).2
  | loadBalancer (id : String) (w : σ) : Asked d w (d.catalog.loadBalancer id w).2

/-- What the driver can do in a session, step by step. -/
inductive Path (d : Driver σ) : Session σ → List Event → Session σ → Prop
  | nil (s : Session σ) : Path d s [] s
  | asked {s t : Session σ} {es : List Event} {w : σ} :
      d.Asked s.world w → Path d { s with world := w } es t → Path d s es t
  /-- Nothing is known about health checks yet, and a failure is not remembered. -/
  | heard {s t : Session σ} {es : List Event} {r : Except BackendError Bool} {w : σ} :
      s.healthChecks = none → d.backend.supportsHealthChecks s.world = (r, w) →
        Path d { s with world := w, healthChecks := r.toOption } es t →
          Path d s (.heard r :: es) t
  | sent {s t : Session σ} {es : List Event} {o : Sending} :
      s.isOpen = true → (o.probes = true → s.healthChecks = some true) →
        Path d (s.sent o.requests) es t → Path d s (.sent o :: es) t

namespace Path

variable {d : Driver σ} {s t u : Session σ} {es es' : List Event}

/-- Paths are put together end to end. -/
theorem append (h : d.Path s es t) (h' : d.Path t es' u) : d.Path s (es ++ es') u := by
  induction h with
  | nil s => exact h'
  | asked hasked _ ih => exact .asked hasked (ih h')
  | heard hnone hanswer _ ih => exact .heard hnone hanswer (ih h')
  | sent hopen hprobes _ ih => exact .sent hopen hprobes (ih h')

/-- What was sent stays, and the requests of the path come after it. -/
theorem emitted_eq (h : d.Path s es t) : t.emitted = s.emitted ++ requestsOf es := by
  induction h with
  | nil s => simp
  | asked _ _ ih => exact ih
  | heard _ _ _ ih => exact ih
  | sent _ _ _ ih => simp [ih]

/-- The first answer is remembered for good. -/
theorem healthChecks_eq (h : d.Path s es t) :
    t.healthChecks = (s.healthChecks <|> firstAnswer es) := by
  induction h with
  | nil s => simp
  | asked _ _ ih => exact ih
  | heard hnone _ _ ih =>
    rw [ih, hnone, firstAnswer_heard]
    simp
  | sent _ _ _ ih => exact ih

/-- What concerns a health monitor is sent only if the first answer before it was yes. -/
theorem firstAnswer_of_probes (h : d.Path s es t) {before after : List Event} {o : Sending}
    (hes : es = before ++ .sent o :: after) (ho : o.probes = true) :
    (s.healthChecks <|> firstAnswer before) = some true := by
  induction h generalizing before with
  | nil s => simp at hes
  | asked _ _ ih => exact ih hes
  | heard hnone _ _ ih =>
    cases before with
    | nil => cases hes
    | cons e before =>
      rw [List.cons_append] at hes
      obtain ⟨rfl, hrest⟩ := List.cons.inj hes
      rw [hnone, firstAnswer_heard]
      simpa using ih hrest
  | sent _ hprobes _ ih =>
    cases before with
    | nil =>
      obtain ⟨⟨⟩, rfl⟩ := List.cons.inj hes
      simp [hprobes ho]
    | cons e before =>
      rw [List.cons_append] at hes
      obtain ⟨rfl, hrest⟩ := List.cons.inj hes
      rw [firstAnswer_sent]
      exact ih hrest

end Path

end Driver

/-! ## Actions as paths -/

/-- The failure of an action is looked at. -/
theorem Act.run_tryCatch (act : Act σ α) (handle : DriverError → Act σ α) (s : Session σ) :
    run (tryCatch act handle) s =
      match run act s with
      | (.ok a, t) => (.ok a, t)
      | (.error e, t) => run (handle e) t := by
  refine (Call.run_tryCatch act handle s).trans ?_
  unfold run
  rcases act s with ⟨e | a, t⟩ <;> rfl

namespace Driver

/-- The action is a path on which nothing but this is sent. -/
def Sends (d : Driver σ) (P : Sending → Prop) (act : Act σ α) : Prop :=
  ∀ s, ∃ es, d.Path s es (act.run s).2 ∧ ∀ o, .sent o ∈ es → P o

namespace Sends

variable {d : Driver σ} {P : Sending → Prop} {act : Act σ α} {f : α → Act σ β}

theorem pure (a : α) : d.Sends P (Pure.pure a : Act σ α) := fun s ↦ ⟨[], .nil s, by simp⟩

/-- A check sends nothing, whatever it finds. -/
theorem check (r : Except DriverError α) : d.Sends P (Act.check r : Act σ α) :=
  fun s ↦ ⟨[], .nil s, by simp⟩

theorem throw (e : DriverError) : d.Sends P (throw e : Act σ α) := check (.error e)

/-- What comes next may use what the first part has found out. -/
theorem bind (h : d.Sends P act)
    (hf : ∀ a s t, act.run s = (.ok a, t) → d.Sends P (f a)) : d.Sends P (act >>= f) := by
  intro s
  obtain ⟨es, hpath, hes⟩ := h s
  rcases hact : act.run s with ⟨e | a, t⟩
  · rw [hact] at hpath
    rw [Act.run_bind_of_error hact]
    exact ⟨es, hpath, hes⟩
  · rw [hact] at hpath
    obtain ⟨es', hpath', hes'⟩ := hf a s t hact t
    rw [Act.run_bind_of_ok hact]
    refine ⟨es ++ es', hpath.append hpath', fun o ho ↦ ?_⟩
    exact (List.mem_append.1 ho).elim (hes o) (hes' o)

/-- If every continuation sends only such things, the results of the first action need not be
known. -/
theorem andThen (h : d.Sends P act) (hf : ∀ a, d.Sends P (f a)) : d.Sends P (act >>= f) :=
  h.bind fun a _ _ _ ↦ hf a

/-- What comes after a check may use that it went well. -/
theorem check_bind {r : Except DriverError α} (hf : ∀ a, r = .ok a → d.Sends P (f a)) :
    d.Sends P (Act.check r >>= f) :=
  (check r).bind fun a _ _ h ↦ hf a (congrArg Prod.fst h)

theorem observe (h : d.Sends P act) : d.Sends P (Act.observe act) := h

/-- An action that recovers sends what it sends itself and what its handler sends. -/
theorem tryCatch {handle : DriverError → Act σ α} (h : d.Sends P act)
    (hf : ∀ e, d.Sends P (handle e)) : d.Sends P (tryCatch act handle) := by
  intro s
  obtain ⟨es, hpath, hes⟩ := h s
  rw [Act.run_tryCatch]
  rcases hact : act.run s with ⟨e | a, t⟩ <;> rw [hact] at hpath
  · obtain ⟨es', hpath', hes'⟩ := hf e t
    refine ⟨es ++ es', hpath.append hpath', fun o ho ↦ ?_⟩
    exact (List.mem_append.1 ho).elim (hes o) (hes' o)
  · exact ⟨es, hpath, hes⟩

/-- A question sends nothing; it only has to be one that the driver may ask. -/
theorem ask {wrap : ε → DriverError} {call : Call σ ε α} (h : ∀ w, d.Asked w (call w).2) :
    d.Sends P (Act.ask wrap call) :=
  fun s ↦ ⟨[], .asked (h s.world) (.nil _), by simp⟩

/-- What comes after a question, even after one that failed, depends on nothing but the answer. -/
theorem tryAsk {wrap : ε → DriverError} {call : Call σ ε α} {f : Except DriverError α → Act σ β}
    (h : ∀ w, d.Asked w (call w).2) (hf : ∀ w, d.Sends P (f ((call w).1.mapError wrap))) :
    d.Sends P (Act.observe (Act.ask wrap call) >>= f) := by
  refine (ask h).observe.bind fun a s t hrun ↦ ?_
  obtain rfl : (call s.world).1.mapError wrap = a := Except.ok.inj (congrArg Prod.fst hrun)
  exact hf s.world

/-- The question for health checks is an event of its own, and sends nothing. -/
theorem healthChecks : d.Sends P d.healthChecksSupported := by
  intro s
  rcases hknown : s.healthChecks with _ | known
  · rw [d.healthChecksSupported_of_unknown hknown]
    rcases hanswer : d.backend.supportsHealthChecks s.world with ⟨e | answer, w⟩
    · refine ⟨[.heard (.error e)], .heard hknown hanswer ?_, by simp⟩
      have hsame : { s with world := w, healthChecks := none } = { s with world := w } := by
        rw [← hknown]
      exact hsame ▸ .nil _
    · exact ⟨[.heard (.ok answer)], .heard hknown hanswer (.nil _), by simp⟩
  · rw [d.healthChecksSupported_of_known hknown]
    exact ⟨[], .nil s, by simp⟩

theorem forM {g : α → Act σ Unit} {xs : List α} (h : ∀ x ∈ xs, d.Sends P (g x)) :
    d.Sends P (xs.forM g) := by
  induction xs with
  | nil => exact .pure ()
  | cons x xs ih =>
    obtain ⟨hx, hxs⟩ := List.forall_mem_cons.1 h
    exact hx.andThen fun _ ↦ ih hxs

/-- Questions send nothing. -/
theorem asks (h : d.Asks act) : d.Sends P act := by
  induction h with
  | pure a => exact .pure a
  | bind _ _ ih ihf => exact ih.andThen ihf
  | check _ _ ihf => exact .check_bind fun a ha ↦ ihf a ha
  | backend hq => exact .ask fun w ↦ .backend hq w
  | tryBackend hq _ ih => exact .tryAsk (fun w ↦ .backend hq w) fun w ↦ ih _
  | network hq => exact .ask fun w ↦ .network hq w
  | tryNetwork hq _ ih => exact .tryAsk (fun w ↦ .network hq w) fun w ↦ ih _
  | healthChecks => exact .healthChecks
  | emit hr => exact hr.elim

/-! What is sent at once. -/

/-- The path of an open session on which all of this is sent. -/
theorem path_sent {s : Session σ} (ho : s.isOpen = true) {os : List Sending}
    (h : ∀ o ∈ os, o.probes = true → s.healthChecks = some true) :
    d.Path s (os.map .sent) (s.sent (os.flatMap Sending.requests)) := by
  induction os generalizing s with
  | nil => simpa using Path.nil (d := d) s
  | cons o os ih =>
    obtain ⟨ho', hos⟩ := List.forall_mem_cons.1 h
    have hrest := ih (s := s.sent o.requests) ho hos
    rw [Session.sent_sent] at hrest
    exact .sent ho ho' hrest

/-- The requests are found out first, and then sent. -/
theorem due {act : Act σ (List ChangeRequest)} (hask : d.Asks act)
    (h : ∀ s rs t, act.run s = (.ok rs, t) → ∃ os : List Sending,
      rs = os.flatMap Sending.requests ∧
        ∀ o ∈ os, P o ∧ (o.probes = true → t.healthChecks = some true)) :
    d.Sends P (act >>= Act.submit) := by
  intro s
  obtain ⟨es, hpath, hes⟩ := asks (P := P) hask s
  rcases hact : act.run s with ⟨e | rs, t⟩
  · rw [hact] at hpath
    rw [Act.run_bind_of_error hact]
    exact ⟨es, hpath, hes⟩
  rw [hact] at hpath
  rw [Act.run_bind_of_ok hact]
  obtain ⟨os, rfl, hos⟩ := h s rs t hact
  cases hopen : t.isOpen with
  | false =>
    rw [Act.submit_of_closed hopen]
    exact ⟨es, hpath, hes⟩
  | true =>
    rw [Act.submit_of_open hopen]
    refine ⟨es ++ os.map .sent, hpath.append (path_sent hopen fun o ho ↦ (hos o ho).2), ?_⟩
    intro o ho
    rcases List.mem_append.1 ho with ho | ho
    · exact hes o ho
    · obtain ⟨o', ho', ⟨⟩⟩ := List.mem_map.1 ho
      exact (hos o ho').1

/-- Several objects may be sent one after another, as long as none of them has to be probed. -/
theorem submit (os : List Sending) (h : ∀ o ∈ os, P o ∧ o.probes = false) :
    d.Sends P (Act.submit (os.flatMap Sending.requests)) := by
  rw [← pure_bind (os.flatMap Sending.requests) Act.submit]
  refine due (.pure _) fun s rs t hrs ↦ ⟨os, ?_, fun o ho ↦ ⟨(h o ho).1, ?_⟩⟩
  · exact (Except.ok.inj (congrArg Prod.fst hrs)).symm
  · simp [(h o ho).2]

/-- The requests of one object go out together. -/
theorem submit_requests (o : Sending) (ho : P o) (hprobes : o.probes = false) :
    d.Sends P (Act.submit o.requests) := by
  simpa using submit (d := d) [o] (by simpa using ⟨ho, hprobes⟩)

/-- A request that goes alone. -/
theorem emit (o : Sending) {r : ChangeRequest} (hr : o.requests = [r]) (ho : P o)
    (hprobes : o.probes = false) : d.Sends P (Act.emit r) := by
  rw [← Act.submit_singleton, ← hr]
  exact submit_requests o ho hprobes

end Sends

end Driver

end BalancerSync
