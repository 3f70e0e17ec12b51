import BalancerSync.Proofs.Path
import BalancerSync.Driver.VipPort
import Mathlib.Data.List.Forall2

/-!
# No port is lost

A load balancer gets the ports of all its virtual addresses or none.  To say so of the calls that
the network layer gets, these are noted in the world.  Noting them makes no difference to the
driver, and of what it does the notes tell which ports it was given and which ones it gave back: a
port without an address at once, and the others when a later allocation fails.
-/

namespace BalancerSync

variable {σ ε α β : Type}

/-! ## Notes -/

/-- A call about a port, with its answer. -/
inductive PortCall
  | allocate (r : PortRequest) (answer : Except ApiError AllocatedPort)
  | release (portId : String) (answer : Except ApiError Unit)

namespace PortCall

def request? : PortCall → Option PortRequest
  | allocate r _ => some r
  | release .. => none

/-- The port that was given out. -/
def allocated? : PortCall → Option String
  | allocate _ (.ok p) => some p.portId
  | allocate _ (.error _) | release .. => none

def released? : PortCall → Option String
  | allocate .. => none
  | release portId _ => some portId

/-- The allocations that were attempted, in order. -/
def attempts (calls : List PortCall) : List PortRequest := calls.filterMap request?

/-- The ports that were given out, with or without an address. -/
def allocatedIds (calls : List PortCall) : List String := calls.filterMap allocated?

/-- The ports that were given back, or would have been if that had not failed. -/
def releasedIds (calls : List PortCall) : List String := calls.filterMap released?

@[simp] theorem attempts_append (calls calls' : List PortCall) :
    attempts (calls ++ calls') = attempts calls ++ attempts calls' := List.filterMap_append

@[simp] theorem allocatedIds_append (calls calls' : List PortCall) :
    allocatedIds (calls ++ calls') = allocatedIds calls ++ allocatedIds calls' :=
  List.filterMap_append

@[simp] theorem releasedIds_append (calls calls' : List PortCall) :
    releasedIds (calls ++ calls') = releasedIds calls ++ releasedIds calls' :=
  List.filterMap_append

end PortCall

namespace Call

/-- The call in a world with notes, which it does not touch. -/
def beside (call : Call σ ε α) : Call (σ × List PortCall) ε α := fun w ↦
  ((call w.1).1, ((call w.1).2, w.2))

/-- The call in a world in which it is noted. -/
def noted (note : Except ε α → PortCall) (call : Call σ ε α) : Call (σ × List PortCall) ε α :=
  fun w ↦ ((call w.1).1, ((call w.1).2, w.2 ++ [note (call w.1).1]))

end Call

def Backend.beside (b : Backend σ) : Backend (σ × List PortCall) where
  findLoadBalancers id := (b.findLoadBalancers id).beside
  findByPoolKey key := (b.findByPoolKey key).beside
  hasHealthMonitor id := (b.hasHealthMonitor id).beside
  logicalPort id := (b.logicalPort id).beside
  supportsHealthChecks := b.supportsHealthChecks.beside

def Catalog.beside (c : Catalog σ) : Catalog (σ × List PortCall) where
  loadBalancerIds filters := (c.loadBalancerIds filters).beside
  loadBalancer id := (c.loadBalancer id).beside

def Network.noted (n : Network σ) : Network (σ × List PortCall) where
  allocatePort r := (n.allocatePort r).noted (.allocate r)
  releasePort id := (n.releasePort id).noted (.release id)
  floatingIps id := (n.floatingIps id).beside
  subnet id := (n.subnet id).beside
  networkSubnets id := (n.networkSubnets id).beside

/-- The driver in a world in which all calls about ports are noted. -/
def Driver.noted (d : Driver σ) : Driver (σ × List PortCall) :=
  ⟨d.backend.beside, d.network.noted, d.catalog.beside, d.config⟩

/-- The session with these notes in its world. -/
def Session.noting (s : Session σ) (calls : List PortCall) : Session (σ × List PortCall) :=
  ⟨(s.world, calls), s.healthChecks, s.emitted, s.isOpen⟩

/-! ## Actions and their notes -/

/-- The action ends in this way, and so it does where calls are noted; the notes it leaves are
these. -/
structure Makes (act : Act σ α) (noted : Act (σ × List PortCall) α) (s : Session σ)
    (calls : List PortCall) (r : Except DriverError α) (t : Session σ) : Prop where
  run : act.run s = (r, t)
  noted : ∀ before, noted.run (s.noting before) = (r, t.noting (before ++ calls))

namespace Makes

variable {act : Act σ α} {act' : Act (σ × List PortCall) α} {f : α → Act σ β}
  {f' : α → Act (σ × List PortCall) β} {s t u : Session σ} {calls calls' : List PortCall}

theorem pure (a : α) : Makes (Pure.pure a) (Pure.pure a) s [] (.ok a) s :=
  ⟨rfl, fun before ↦ by simp⟩

theorem throw (e : DriverError) :
    Makes (throw e : Act σ α) (MonadExcept.throw e) s [] (.error e) s :=
  ⟨rfl, fun before ↦ by simp⟩

/-- A question leaves one note, which has the answer. -/
theorem ask (wrap : ε → DriverError) (call : Call σ ε α) (note : Except ε α → PortCall)
    (s : Session σ) :
    Makes (Act.ask wrap call) (Act.ask wrap (call.noted note)) s [note (call s.world).1]
      ((call s.world).1.mapError wrap) { s with world := (call s.world).2 } :=
  ⟨rfl, fun _ ↦ rfl⟩

/-- The notes are the same if the failure of an action is kept as its result. -/
theorem observe {r : Except DriverError α} (h : Makes act act' s calls r t) :
    Makes (Act.observe act) (Act.observe act') s calls (.ok r) t where
  run := by rw [Act.run_observe, h.run]
  noted before := by rw [Act.run_observe, h.noted]

/-- One action after another: the notes of the second follow those of the first. -/
theorem bind {a : α} {r : Except DriverError β} (h : Makes act act' s calls (.ok a) t)
    (hf : Makes (f a) (f' a) t calls' r u) :
    Makes (act >>= f) (act' >>= f') s (calls ++ calls') r u where
  run := by rw [Act.run_bind_of_ok h.run, hf.run]
  noted before := by rw [Act.run_bind_of_ok (h.noted before), hf.noted, List.append_assoc]

/-- After a failure nothing more is noted. -/
theorem bind_error {e : DriverError} (h : Makes act act' s calls (.error e) t) :
    Makes (act >>= f) (act' >>= f') s calls (.error e) t where
  run := Act.run_bind_of_error h.run f
  noted before := Act.run_bind_of_error (h.noted before) f'

/-- A handler that is not needed leaves no notes. -/
theorem tryCatch {handle : DriverError → Act σ α}
    {handle' : DriverError → Act (σ × List PortCall) α} {a : α}
    (h : Makes act act' s calls (.ok a) t) :
    Makes (tryCatch act handle) (tryCatch act' handle') s calls (.ok a) t where
  run := by rw [Act.run_tryCatch, h.run]
  noted before := by rw [Act.run_tryCatch, h.noted]

/-- What a handler notes comes after the notes of the action that failed. -/
theorem tryCatch_error {handle : DriverError → Act σ α}
    {handle' : DriverError → Act (σ × List PortCall) α} {e : DriverError} {r : Except DriverError α}
    (h : Makes act act' s calls (.error e) t)
    (hhandle : Makes (handle e) (handle' e) t calls' r u) :
    Makes (MonadExcept.tryCatch act handle) (MonadExcept.tryCatch act' handle') s
      (calls ++ calls') r u where
  run := by rw [Act.run_tryCatch, h.run]; exact hhandle.run
  noted before := by
    rw [Act.run_tryCatch, h.noted]
    exact (hhandle.noted _).trans (by rw [List.append_assoc])

end Makes

/-! ## Ports that are given out and given back -/

/-- The port of a virtual address, if it has an address. -/
def AllocatedPort.vip? (p : AllocatedPort) : Option VipPort :=
  p.ipAddress.map fun address ↦ ⟨p.portId, address, p.networkId, p.subnetId⟩

/-- Each request was made once and in order, and led to a port with an address. -/
inductive Provided : List PortRequest → List PortCall → List VipPort → Prop
  | nil : Provided [] [] []
  | cons {r : PortRequest} {p : AllocatedPort} {v : VipPort} {rs : List PortRequest}
      {calls : List PortCall} {vs : List VipPort} :
      p.vip? = some v → Provided rs calls vs →
        Provided (r :: rs) (.allocate r (.ok p) :: calls) (v :: vs)

/-- The request was made and was refused, or it led to a port without an address, which was given
back. -/
inductive Denied (r : PortRequest) : List PortCall → Prop
  | refused (e : ApiError) : Denied r [.allocate r (.error e)]
  | bare {p : AllocatedPort} (answer : Except ApiError Unit) :
      p.vip? = none → Denied r [.allocate r (.ok p), .release p.portId answer]

/-- Each of the ports was given back once, in order. -/
def Returned : List VipPort → List PortCall → Prop :=
  List.Forall₂ fun v call ↦ ∃ answer, call = .release v.portId answer

/-- All requests up to this one were made, and this one was denied; then the ports that were held
before and those that were given out since have been given back. -/
inductive Undone (held : List VipPort) (done : List PortRequest) (r : PortRequest) :
    List PortCall → Prop
  | intro {given denied returned : List PortCall} {vs : List VipPort} :
      Provided done given vs → Denied r denied → Returned (held ++ vs) returned →
        Undone held done r (given ++ denied ++ returned)

open PortCall

section Lists

variable {r : PortRequest} {rs : List PortRequest} {calls : List PortCall} {vs : List VipPort}

theorem AllocatedPort.portId_of_vip? {p : AllocatedPort} {v : VipPort} (h : p.vip? = some v) :
    v.portId = p.portId := by
  obtain ⟨address, -, rfl⟩ := Option.map_eq_some_iff.1 h
  rfl

/-- For ports that were all provided, the attempts are the requests, each once. -/
theorem Provided.attempts_eq (h : Provided rs calls vs) : attempts calls = rs := by
  induction h with
  | nil => rfl
  | cons _ _ ih => exact congrArg _ ih

/-- The ports that were provided are those that the network layer gave out. -/
theorem Provided.allocatedIds_eq (h : Provided rs calls vs) :
    allocatedIds calls = vs.map (·.portId) := by
  induction h with
  | nil => rfl
  | cons hv _ ih => exact congrArg₂ _ (AllocatedPort.portId_of_vip? hv).symm ih

/-- As long as all goes well, no port is given back. -/
theorem Provided.releasedIds_eq (h : Provided rs calls vs) : releasedIds calls = [] := by
  induction h with
  | nil => rfl
  | cons _ _ ih => exact ih

/-- A request that is denied is not tried again. -/
theorem Denied.attempts_eq (h : Denied r calls) : attempts calls = [r] := by
  cases h <;> rfl

/-- A port without an address is given back where it is given out. -/
theorem Denied.releasedIds_eq (h : Denied r calls) : releasedIds calls = allocatedIds calls := by
  cases h <;> rfl

theorem Returned.attempts_eq (h : Returned vs calls) : attempts calls = [] := by
  induction h with
  | nil => rfl
  | cons hv _ ih => obtain ⟨answer, rfl⟩ := hv; exact ih

theorem Returned.allocatedIds_eq (h : Returned vs calls) : allocatedIds calls = [] := by
  induction h with
  | nil => rfl
  | cons hv _ ih => obtain ⟨answer, rfl⟩ := hv; exact ih

/-- Ports are given back by their own identifiers. -/
theorem Returned.releasedIds_eq (h : Returned vs calls) :
    releasedIds calls = vs.map (·.portId) := by
  induction h with
  | nil => rfl
  | cons hv _ ih => obtain ⟨answer, rfl⟩ := hv; exact congrArg _ ih

/-- A port that was given out before is one of those that are held from then on. -/
theorem Undone.cons {held : List VipPort} {done : List PortRequest} {r' : PortRequest}
    {p : AllocatedPort} {v : VipPort} (hv : p.vip? = some v)
    (h : Undone (held ++ [v]) done r calls) :
    Undone held (r' :: done) r (.allocate r' (.ok p) :: calls) := by
  obtain ⟨hgiven, hdenied, hreturned⟩ := h
  rw [List.append_assoc] at hreturned
  exact .intro (.cons hv hgiven) hdenied hreturned

/-- What was tried ends with the request that was denied. -/
theorem Undone.attempts_eq {held : List VipPort} (h : Undone held rs r calls) :
    attempts calls = rs ++ [r] := by
  obtain ⟨hgiven, hdenied, hreturned⟩ := h
  rw [attempts_append, attempts_append, hgiven.attempts_eq, hdenied.attempts_eq,
    hreturned.attempts_eq, List.append_nil]

/-- What is given back is what was held before and what has been given out. -/
theorem Undone.releasedIds_perm {held : List VipPort} (h : Undone held rs r calls) :
    (releasedIds calls).Perm (held.map (·.portId) ++ allocatedIds calls) := by
  obtain ⟨hgiven, hdenied, hreturned⟩ := h
  rename_i given denied returned vs
  have hreleased : releasedIds (given ++ denied ++ returned) =
      allocatedIds denied ++ (held.map (·.portId) ++ allocatedIds given) := by
    rw [releasedIds_append, releasedIds_append, hgiven.releasedIds_eq, hdenied.releasedIds_eq,
      hreturned.releasedIds_eq, hgiven.allocatedIds_eq, List.map_append, List.nil_append]
  rw [hreleased, allocatedIds_append, allocatedIds_append, hreturned.allocatedIds_eq,
    List.append_nil]
  exact List.perm_append_comm.trans (by rw [List.append_assoc])

end Lists

/-! ## Allocation -/

namespace Driver

variable (d : Driver σ)

/-- A port is given back once, and an error in doing so is ignored. -/
theorem makes_releaseVip (portId : String) (s : Session σ) :
    ∃ answer t, Makes (d.releaseVip portId) (d.noted.releaseVip portId) s
      [.release portId answer] (.ok ()) t :=
  ⟨_, _, (Makes.ask .api (d.network.releasePort portId) (.release portId) s).observe.bind
    (.pure ())⟩

/-- A port whose release fails does not keep the others from being given back. -/
theorem makes_releaseAll (vs : List VipPort) (s : Session σ) :
    ∃ calls t, Makes (vs.forM fun v ↦ d.releaseVip v.portId)
      (vs.forM fun v ↦ d.noted.releaseVip v.portId) s calls (.ok ()) t ∧ Returned vs calls := by
  induction vs generalizing s with
  | nil => exact ⟨[], s, .pure (), .nil⟩
  | cons v vs ih =>
    obtain ⟨answer, t, hv⟩ := d.makes_releaseVip v.portId s
    obtain ⟨calls, u, hvs, hreturned⟩ := ih t
    exact ⟨_, u, hv.bind hvs, .cons ⟨answer, rfl⟩ hreturned⟩

/-- After a rollback all held ports are given back, and the error is still the one that caused
it. -/
theorem makes_rollback (vs : List VipPort) (e : DriverError) (s : Session σ) :
    ∃ calls t, Makes (do vs.forM fun v ↦ d.releaseVip v.portId; throw e : Act σ α)
      (do vs.forM fun v ↦ d.noted.releaseVip v.portId; throw e) s calls (.error e) t ∧
        Returned vs calls := by
  obtain ⟨calls, t, hrelease, hreturned⟩ := d.makes_releaseAll vs s
  refine ⟨calls, t, ?_, hreturned⟩
  rw [← List.append_nil calls]
  exact hrelease.bind (.throw e)

/-- An allocation gives a port with an address, or it fails and holds nothing. -/
theorem makes_allocateVip (r : PortRequest) (s : Session σ) :
    (∃ p v t, Makes (d.allocateVip r) (d.noted.allocateVip r) s [.allocate r (.ok p)] (.ok v) t ∧
      p.vip? = some v) ∨
    ∃ text calls t, Makes (d.allocateVip r) (d.noted.allocateVip r) s calls
      (.error (.provisioning text)) t ∧ Denied r calls := by
  have hask := Makes.ask allocationError (d.network.allocatePort r) (.allocate r) s
  rcases hp : d.network.allocatePort r s.world with ⟨e | p, w⟩ <;> rw [hp] at hask
  · exact .inr ⟨_, _, _, hask.bind_error, .refused e⟩
  cases haddress : p.ipAddress with
  | some address =>
    refine .inl ⟨p, ⟨p.portId, address, p.networkId, p.subnetId⟩, { s with world := w }, ?_, ?_⟩
    · refine hask.bind (?_ : Makes _ _ _ [] _ _)
      simp only [haddress]
      exact .pure _
    · simp [AllocatedPort.vip?, haddress]
  | none =>
    obtain ⟨answer, t, hrelease⟩ := d.makes_releaseVip p.portId { s with world := w }
    refine .inr ⟨DriverError.unknownFailure, _, t, ?_, .bare (p := p) answer ?_⟩
    · refine hask.bind (?_ : Makes _ _ _ [.release p.portId answer] _ _)
      simp only [haddress]
      exact hrelease.bind (.throw _)
    · simp [AllocatedPort.vip?, haddress]

/-- The requests for ports from the `n`-th additional address on. -/
def additionalRequests (lbId : String) (projectId : Option String) (n : Nat)
    (rs : List VipRequest) : List PortRequest :=
  rs.mapIdx fun i r ↦ r.portRequest (VipRequest.additionalName (n + i) lbId) projectId

theorem additionalRequests_cons (lbId : String) (projectId : Option String) (n : Nat)
    (r : VipRequest) (rs : List VipRequest) :
    additionalRequests lbId projectId n (r :: rs) =
      r.portRequest (VipRequest.additionalName n lbId) projectId
        :: additionalRequests lbId projectId (n + 1) rs := by
  unfold additionalRequests
  rw [List.mapIdx_cons]
  congr 2
  funext i r
  rw [Nat.add_right_comm, Nat.add_assoc]

/-- Further addresses are all provided, or everything that is held at the first denial is undone,
the primary port included. -/
theorem makes_allocateAdditional (lbId : String) (projectId : Option String) (primary : VipPort)
    (held : List VipPort) (rs : List VipRequest) (s : Session σ) :
    (∃ calls vs t, Makes (d.allocateAdditional lbId projectId primary held rs)
        (d.noted.allocateAdditional lbId projectId primary held rs) s calls (.ok (held ++ vs)) t ∧
      Provided (additionalRequests lbId projectId held.length rs) calls vs) ∨
    ∃ text done r rest calls t, Makes (d.allocateAdditional lbId projectId primary held rs)
        (d.noted.allocateAdditional lbId projectId primary held rs) s calls
        (.error (.provisioning text)) t ∧
      additionalRequests lbId projectId held.length rs = done ++ r :: rest ∧
      Undone (primary :: held) done r calls := by
  induction rs generalizing held s with
  | nil =>
    refine .inl ⟨[], [], s, ?_, .nil⟩
    rw [List.append_nil]
    exact .pure held
  | cons r rs ih =>
    rw [additionalRequests_cons]
    set request := r.portRequest (VipRequest.additionalName held.length lbId) projectId
    rcases d.makes_allocateVip request s with ⟨p, v, t, hv, haddress⟩ | ⟨text, calls, t, hdenied, h⟩
    · -- From now on this port is held as well, and is given back with the others.
      have hnext := ih (held ++ [v]) t
      rw [List.length_append, List.length_singleton] at hnext
      rcases hnext with ⟨calls, vs, u, hrest, hprovided⟩ | ⟨text, done, r', rest, calls, u, hrest,
        hsplit, hundone⟩
      · refine .inl ⟨_, v :: vs, u, ?_, .cons haddress hprovided⟩
        rw [List.append_assoc] at hrest
        exact hv.tryCatch.bind hrest
      · refine .inr ⟨text, request :: done, r', rest, _, u, hv.tryCatch.bind hrest, ?_,
          Undone.cons haddress hundone⟩
        rw [hsplit, List.cons_append]
    · obtain ⟨returned, u, hrollback, hreturned⟩ :=
        d.makes_rollback (primary :: held) (.provisioning text) t
      exact .inr ⟨text, [], request, _, _, u, (hdenied.tryCatch_error hrollback).bind_error, rfl,
        .intro .nil h (by rwa [List.append_nil])⟩

/-- The requests for all ports of a load balancer, the one of the primary address first. -/
def portRequests (lbId : String) (projectId : Option String) (vip : VipRequest)
    (additional : List VipRequest) : List PortRequest :=
  vip.portRequest (VipRequest.primaryName lbId) projectId
    :: additionalRequests lbId projectId 0 additional

section Creation

variable (lbId : String) (projectId : Option String) (vip : VipRequest)
  (additional : List VipRequest) (s : Session σ)

/-- Either all addresses are provided, or all is undone. -/
theorem makes_createVipPort :
    (∃ calls primary others t, Makes (d.createVipPort lbId projectId vip additional)
        (d.noted.createVipPort lbId projectId vip additional) s calls (.ok (primary, others)) t ∧
      Provided (portRequests lbId projectId vip additional) calls (primary :: others)) ∨
    ∃ text done r rest calls t, Makes (d.createVipPort lbId projectId vip additional)
        (d.noted.createVipPort lbId projectId vip additional) s calls
        (.error (.provisioning text)) t ∧
      portRequests lbId projectId vip additional = done ++ r :: rest ∧ Undone [] done r calls := by
  rcases d.makes_allocateVip (vip.portRequest (VipRequest.primaryName lbId) projectId) s with
    ⟨p, v, t, hv, haddress⟩ | ⟨text, calls, t, hdenied, h⟩
  · rcases d.makes_allocateAdditional lbId projectId v [] additional t with
      ⟨calls, vs, u, hrest, hprovided⟩ | ⟨text, done, r, rest, calls, u, hrest, hsplit, h⟩
    · exact .inl ⟨_, v, vs, u, hv.bind (hrest.bind (.pure _)), by
        rw [List.append_nil]; exact .cons haddress hprovided⟩
    · exact .inr ⟨text, _, r, rest, _, u, hv.bind hrest.bind_error, congrArg _ hsplit,
        .cons haddress h⟩
  · refine .inr ⟨text, [], _, _, calls, t, hdenied.bind_error, rfl, ?_⟩
    have hundone : Undone [] [] _ ([] ++ calls ++ []) := .intro .nil h .nil
    rwa [List.nil_append, List.append_nil] at hundone

/-- A load balancer gets the ports of all its addresses, by one allocation for each of them in
order; or it gets none, and then no allocation follows the one that failed and each port that was
given out has been given back once, even if a release failed. -/
theorem createVipPort_leaks_nothing :
    ∃ calls result t,
      Makes (d.createVipPort lbId projectId vip additional)
        (d.noted.createVipPort lbId projectId vip additional) s calls result t ∧
      (∀ primary others, result = .ok (primary, others) →
        Provided (portRequests lbId projectId vip additional) calls (primary :: others) ∧
          attempts calls = portRequests lbId projectId vip additional ∧
          releasedIds calls = []) ∧
      ∀ e, result = .error e →
        (∃ text, e = .provisioning text) ∧
        (∃ done r rest, portRequests lbId projectId vip additional = done ++ r :: rest ∧
          Undone [] done r calls ∧ attempts calls = done ++ [r]) ∧
        (releasedIds calls).Perm (allocatedIds calls) := by
  rcases d.makes_createVipPort lbId projectId vip additional s with
    ⟨calls, primary, others, t, hmakes, h⟩ | ⟨text, done, r, rest, calls, t, hmakes, hsplit, h⟩
  · refine ⟨calls, _, t, hmakes, ?_, by simp⟩
    rintro _ _ ⟨⟩
    exact ⟨h, h.attempts_eq, h.releasedIds_eq⟩
  · refine ⟨calls, _, t, hmakes, by simp, ?_⟩
    rintro _ ⟨⟩
    exact ⟨⟨text, rfl⟩, ⟨done, r, rest, hsplit, h, h.attempts_eq⟩, h.releasedIds_perm⟩

end Creation

end Driver

end BalancerSync
