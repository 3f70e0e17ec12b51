import BalancerSync.Proofs.Batch
import BalancerSync.Proofs.Cascade
import BalancerSync.Proofs.Path

/-!
# Only supported options are sent

An object is checked wherever it enters, be it in a call of its own, in a cascade, in a batch or in
a run.  So whatever sequence of calls the driver gets, what it sends does not ask for anything that
the backend cannot express.
-/

namespace BalancerSync

open Json

variable {σ α : Type}

/-! ## Supported requests -/

/-- Whether a health monitor is placed or changed. -/
def Operation.probes : Operation → Bool
  | hmCreate | hmSync | hmUpdate => true
  | _ => false

namespace ChangeRequest

/-- The attribute has the name of some option. -/
def Names (r : ChangeRequest) (key : String) (name : α → String) : Prop :=
  ∃ a, r.get? key = some (.text (name a))

/-- Clients return to the same member, if at all, by a supported persistence. -/
def PersistsByName (r : ChangeRequest) : Prop :=
  r.get? "session_persistence" = none ∨ r.get? "session_persistence" = some .null ∨
    ∃ fields k, r.get? "session_persistence" = some (.object fields) ∧
      Dictionary.get? fields "type" = some (.text (Persistence.name k))

/-- The backend can express all that the request asks for. -/
def Supported (r : ChangeRequest) : Prop :=
  match r.operation with
  | .listenerCreate | .listenerSync => r.Names "protocol" Protocol.name
  | .poolCreate | .poolSync =>
    r.Names "protocol" Protocol.name ∧ r.Names "lb_algorithm" Algorithm.name ∧ r.PersistsByName
  | .poolUpdate => r.PersistsByName
  | .hmCreate | .hmSync => r.Names "type" Probe.name
  | .memberCreate | .memberSync => ∃ subnet, r.get? "subnet_id" = some (.text subnet)
  | _ => True

end ChangeRequest

/-! ## Checked options -/

/-- A check passes exactly when its condition holds. -/
theorem refuseUnless_eq_ok_iff {ok : Bool} {why : Refusal} :
    refuseUnless ok why = .ok () ↔ ok = true := by
  cases ok <;> simp [refuseUnless]

/-- A name is known exactly when some member of the list has it. -/
theorem isSome_named?_iff {all : List α} {name : α → String} {s : String} :
    (named? all name s).isSome = true ↔ ∃ a ∈ all, name a = s := by
  simp [named?]

/-- The value of an attribute that is checked to be the name of an option. -/
theorem exists_name_of_named? {all : List α} {name : α → String} {f : Field String}
    (h : f.asOption.any (fun s ↦ (named? all name s).isSome) = true) :
    ∃ a, f = .value (name a) := by
  cases f with
  | unset => simp at h
  | null => simp at h
  | value s =>
    obtain ⟨a, -, rfl⟩ := isSome_named?_iff.1 (by simpa using h)
    exact ⟨a, rfl⟩

/-- A field that passes the check has a protocol, and not just any text. -/
theorem exists_protocol {f : Field String} (h : validateProtocol f = .ok ()) :
    ∃ p : Protocol, f = .value p.name :=
  exists_name_of_named? (refuseUnless_eq_ok_iff.1 h)

theorem exists_algorithm {f : Field String} (h : validateAlgorithm f = .ok ()) :
    ∃ a : Algorithm, f = .value a.name :=
  exists_name_of_named? (refuseUnless_eq_ok_iff.1 h)

/-- A session persistence that passes is of a supported kind. -/
theorem exists_persistence {p : SessionPersistence} (h : validatePersistence (some p) = .ok ()) :
    ∃ k : Persistence, p.kind = k.name := by
  obtain ⟨k, -, hk⟩ := isSome_named?_iff.1 (refuseUnless_eq_ok_iff.1 h)
  exact ⟨k, hk.symm⟩

/-- Without health checks no monitor is valid. -/
theorem supported_of_validateHealthMonitor {h : HealthMonitor} {supported creating : Bool}
    (hvalid : validateHealthMonitor h supported creating = .ok ()) : supported = true := by
  cases supported with
  | true => rfl
  | false => cases hvalid

/-- A health monitor that passes is of a supported kind. -/
theorem exists_probe {h : HealthMonitor} (hvalid : validateHealthMonitor h true true = .ok ()) :
    ∃ p : Probe, h.kind = .value p.name := by
  unfold validateHealthMonitor at hvalid
  simp only [Bool.not_true, Bool.false_eq_true, if_false] at hvalid
  split at hvalid
  · cases hvalid
  · exact exists_name_of_named? (refuseUnless_eq_ok_iff.1 hvalid)

theorem hasMonitorOptions_of_validate {m : Member} (h : validateMonitorOptions m = .ok ()) :
    m.hasMonitorOptions = false := by
  simpa using refuseUnless_eq_ok_iff.1 h

/-- Allowed ranges pass only if there are none. -/
theorem items_of_validateAllowedCidrs {f : Field (List String)}
    (h : validateAllowedCidrs f = .ok ()) : f.items = [] := by
  simpa using refuseUnless_eq_ok_iff.1 h

/-! ## Supported objects -/

/-- The listeners and members that a call is given. -/
structure Scope where
  listener : Listener → Prop
  member : Member → Prop

/-- What is sent comes from an object of the call that has been checked. A member that is updated
is the one that it is to be. -/
def Sending.Supported (S : Scope) : Sending → Prop
  | balancer op _ => op = .lbCreate ∨ op = .lbSync
  | listener op l => (op = .listenerCreate ∨ op = .listenerSync) ∧
      S.listener l ∧ l.allowedCidrs.items = [] ∧ validateProtocol l.protocol = .ok ()
  | pool op p => (op = .poolCreate ∨ op = .poolSync) ∧
      validateProtocol p.protocol = .ok () ∧ validateAlgorithm p.algorithm = .ok () ∧
      validatePersistence p.sessionPersistence.asOption = .ok ()
  | updatePool _ new => validatePersistence new.sessionPersistence.asOption = .ok ()
  | monitor op h => (op = .hmCreate ∨ op = .hmSync) ∧ validateHealthMonitor h true true = .ok ()
  | member op m _ => (op = .memberCreate ∨ op = .memberSync) ∧
      S.member m ∧ m.hasMonitorOptions = false
  | batchMember op m _ => (op = .memberCreate ∨ op = .memberUpdate) ∧
      S.member m ∧ m.hasMonitorOptions = false
  | updateMember _ new => S.member new ∧ new.hasMonitorOptions = false
  | _ => True

/-- Requests that place or change a health monitor come from nothing else. -/
theorem Sending.Supported.probes_of_operation {S : Scope} {o : Sending} (h : o.Supported S)
    (hr : ∃ r ∈ o.requests, r.operation.probes = true) : o.probes = true := by
  have hany : o.requests.any (·.operation.probes) = true := List.any_eq_true.2 hr
  cases o with
  | monitor | updateMonitor => rfl
  | balancer => obtain rfl | rfl := h <;> cases hany
  | listener | pool | member | batchMember => obtain ⟨rfl | rfl, -⟩ := h <;> cases hany
  | _ => cases hany

/-- The persistence in a request is the one that was checked, or there is none. -/
theorem persistsByName_of_validate {f : Field SessionPersistence} {r : ChangeRequest}
    (h : validatePersistence f.asOption = .ok ())
    (hr : r.get? "session_persistence" =
      if f.isSet then some (persistenceJson f) else none) : r.PersistsByName := by
  cases f with
  | unset => exact .inl hr
  | null => exact .inr (.inl hr)
  | value p =>
    obtain ⟨k, hk⟩ := exists_persistence h
    refine .inr (.inr ⟨_, k, hr, ?_⟩)
    rw [← hk]
    rfl

theorem get?_pool_persistence (op : Operation) (p : Pool) :
    (ChangeRequest.pool op p).get? "session_persistence" =
      if p.sessionPersistence.isSet then some (persistenceJson p.sessionPersistence) else none := by
  unfold ChangeRequest.get? ChangeRequest.pool attributeIf
  cases p.sessionPersistence.isSet <;> rfl

theorem get?_updatePool_persistence (old new : Pool) :
    (ChangeRequest.updatePool old new).get? "session_persistence" =
      if new.sessionPersistence.isSet then some (persistenceJson new.sessionPersistence)
      else none := by
  unfold ChangeRequest.get? ChangeRequest.updatePool attributeIf
  cases new.adminStateUp.isSet <;> cases new.sessionPersistence.isSet <;> rfl

/-- Requests for a supported object are supported. -/
theorem Sending.Supported.requests {S : Scope} {o : Sending} (h : o.Supported S) :
    ∀ r ∈ o.requests, r.Supported := by
  cases o with
  | balancer op lb =>
    rw [Sending.requests, List.forall_mem_singleton]
    obtain rfl | rfl := h <;> trivial
  | listener op l =>
    obtain ⟨hop, -, -, hprotocol⟩ := h
    obtain ⟨p, hp⟩ := exists_protocol hprotocol
    have hname : (ChangeRequest.listener op l).Names "protocol" Protocol.name :=
      ⟨p, congrArg (fun f ↦ some (textJson f)) hp⟩
    rw [Sending.requests, List.forall_mem_singleton]
    obtain rfl | rfl := hop <;> exact hname
  | pool op p =>
    obtain ⟨hop, hprotocol, halgorithm, hpersistence⟩ := h
    obtain ⟨q, hq⟩ := exists_protocol hprotocol
    obtain ⟨a, ha⟩ := exists_algorithm halgorithm
    have hnames : (ChangeRequest.pool op p).Names "protocol" Protocol.name ∧
        (ChangeRequest.pool op p).Names "lb_algorithm" Algorithm.name ∧
        (ChangeRequest.pool op p).PersistsByName :=
      ⟨⟨q, congrArg (fun f ↦ some (textJson f)) hq⟩, ⟨a, congrArg (fun f ↦ some (textJson f)) ha⟩,
        persistsByName_of_validate hpersistence (get?_pool_persistence op p)⟩
    rw [Sending.requests, List.forall_mem_singleton]
    obtain rfl | rfl := hop <;> exact hnames
  | updatePool old new =>
    rw [Sending.requests, List.forall_mem_singleton]
    exact persistsByName_of_validate h (get?_updatePool_persistence old new)
  | monitor op m =>
    obtain ⟨hop, hvalid⟩ := h
    obtain ⟨p, hp⟩ := exists_probe hvalid
    have hname : (ChangeRequest.healthMonitor op m).Names "type" Probe.name :=
      ⟨p, congrArg (fun f ↦ some (textJson f)) hp⟩
    rw [Sending.requests, List.forall_mem_singleton]
    obtain rfl | rfl := hop <;> exact hname
  | member op m subnet =>
    rw [Sending.requests, List.forall_mem_cons, List.forall_mem_singleton]
    obtain ⟨rfl | rfl, -⟩ := h <;> exact ⟨⟨subnet, rfl⟩, trivial⟩
  | batchMember op m subnet =>
    rw [Sending.requests, List.forall_mem_singleton]
    obtain ⟨rfl | rfl, -⟩ := h
    · exact ⟨subnet, rfl⟩
    · trivial
  | deleteMember | deleteEntry =>
    rw [Sending.requests, List.forall_mem_cons, List.forall_mem_singleton]
    exact ⟨trivial, trivial⟩
  | updateBalancer | deleteBalancer | updateListener | deleteListener | deletePool | updateMonitor
  | deleteMonitor | purgeMonitors | updateMember | vipFip =>
    rw [Sending.requests, List.forall_mem_singleton]
    trivial

end BalancerSync
