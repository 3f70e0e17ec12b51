import BalancerSync.Driver.Sync
import BalancerSync.Proofs.Supported
import BalancerSync.Proofs.Tape

/-!
# What operations are made of

Every operation of the driver is a routine: it is put together from checks, questions, requests and
the probing of health monitors in the same way in every world.  So what it does is determined by
the answers that it gets (`Driver.Takes.determined`), and its dealings with health checks are a
list of turns, one for each health monitor that it comes to.
-/

namespace Except

variable {ε α : Type}

/-- What was thrown, if anything was. -/
def failure? : Except ε α → Option ε
  | ok _ => none
  | error e => some e

@[simp] theorem failure?_ok (a : α) : (ok a : Except ε α).failure? = none := rfl

@[simp] theorem failure?_error (e : ε) : (error e : Except ε α).failure? = some e := rfl

@[simp] theorem failure?_eq_some {r : Except ε α} {e : ε} :
    r.failure? = some e ↔ r = .error e := by
  cases r <;> simp

end Except

namespace BalancerSync

variable {σ α β : Type}

/-! ## Health monitors that come to be probed -/

/-- A health monitor that members are to be probed for. -/
inductive Probing
  | create (h : HealthMonitor)
  | sync (h : HealthMonitor)
  | update (old new : HealthMonitor)

namespace Probing

def validate (supported : Bool) : Probing → Except DriverError Unit
  | create h | sync h => validateHealthMonitor h supported true
  | update _ new => validateHealthMonitor new supported false

def request : Probing → ChangeRequest
  | create h => .healthMonitor .hmCreate h
  | sync h => .healthMonitor .hmSync h
  | update old new => .updateHealthMonitor old new

/-- The requests of all three kinds of calls concern the probing of members. -/
theorem probes_request (m : Probing) : m.request.operation.probes = true := by
  cases m <;> rfl

end Probing

/-- What the driver does about a health monitor. -/
def Driver.probe (d : Driver σ) (m : Probing) : Act σ Unit := do
  let supported ← d.healthChecksSupported
  Act.check (m.validate supported)
  Act.emit m.request

/-- A health monitor has come to be probed, with the answer on health checks that it was validated
by. Either the backend was asked for it or it was remembered. -/
structure Turn where
  monitor : Probing
  asked : Bool
  answer : Except BackendError Bool

namespace Turn

/-- How the turn ends. -/
def ends (isOpen : Bool) (x : Turn) : Except DriverError Unit :=
  match x.answer with
  | .error e => .error (.backend e)
  | .ok supported =>
    match x.monitor.validate supported with
    | .error e => .error e
    | .ok _ => if isOpen then .ok () else .error .applierClosed

/-- The request for the health monitor, if all goes well. -/
def requests (isOpen : Bool) (x : Turn) : List ChangeRequest :=
  match x.ends isOpen with
  | .ok _ => [x.monitor.request]
  | .error _ => []

/-- The answer of the backend, if it was asked. -/
def question? (x : Turn) : Option (Except BackendError Bool) :=
  if x.asked then some x.answer else none

end Turn

/-- What is known before and after some turns. The backend is asked as long as nothing is known, a
failure is not remembered, and what is known is used and kept. -/
inductive Remembers : Option Bool → List Turn → Option Bool → Prop
  | nil (known : Option Bool) : Remembers known [] known
  | fail (m : Probing) (e : BackendError) {xs : List Turn} {known : Option Bool} :
      Remembers none xs known → Remembers none (⟨m, true, .error e⟩ :: xs) known
  | learn (m : Probing) (b : Bool) {xs : List Turn} {known : Option Bool} :
      Remembers (some b) xs known → Remembers none (⟨m, true, .ok b⟩ :: xs) known
  | keep (m : Probing) (b : Bool) {xs : List Turn} {known : Option Bool} :
      Remembers (some b) xs known → Remembers (some b) (⟨m, false, .ok b⟩ :: xs) known

/-- What is remembered after one list of turns is known at the start of the next. -/
theorem Remembers.append {known known' known'' : Option Bool} {xs ys : List Turn}
    (h : Remembers known xs known') (h' : Remembers known' ys known'') :
    Remembers known (xs ++ ys) known'' := by
  induction h with
  | nil known => exact h'
  | fail m e _ ih => exact .fail m e (ih h')
  | learn m b _ ih => exact .learn m b (ih h')
  | keep m b _ ih => exact .keep m b (ih h')

/-- A turn that fails is the last, and what it fails with is what the whole fails with. Nothing but
a turn fails for want of health checks. -/
inductive Stops (isOpen : Bool) : List Turn → Option DriverError → Prop
  | done {e? : Option DriverError} : e? ≠ some (.unsupported .healthChecks) → Stops isOpen [] e?
  | fail {x : Turn} {e : DriverError} : x.ends isOpen = .error e → Stops isOpen [x] (some e)
  | go {x : Turn} {xs : List Turn} {e? : Option DriverError} :
      x.ends isOpen = .ok () → Stops isOpen xs e? → Stops isOpen (x :: xs) e?

theorem Stops.single (isOpen : Bool) (x : Turn) : Stops isOpen [x] (x.ends isOpen).failure? := by
  rcases h : x.ends isOpen with e | _
  · exact .fail h
  · exact .go h (.done (by simp))

/-- Turns go on until one of them fails. -/
theorem Stops.append {isOpen : Bool} {xs ys : List Turn} {e? : Option DriverError}
    (h : Stops isOpen xs none) (h' : Stops isOpen ys e?) : Stops isOpen (xs ++ ys) e? := by
  generalize hnone : none = before at h
  induction h with
  | done _ => exact h'
  | fail _ => cases hnone
  | go hx _ ih => exact .go hx (ih hnone)

/-- These turns account for what was learned, asked and requested about health checks. -/
structure Turns (s t : Session σ) (tape : Tape) (rs : List ChangeRequest) (xs : List Turn) :
    Prop where
  remembers : Remembers s.healthChecks xs t.healthChecks
  questions : tape.onHealthChecks = xs.filterMap Turn.question?
  requests : rs.filter (·.operation.probes) = xs.flatMap (Turn.requests s.isOpen)

namespace Turns

variable {s t u : Session σ} {tape tape' : Tape} {rs rs' : List ChangeRequest} {xs ys : List Turn}

/-- An action without turns learns nothing, asks nothing and sends nothing about health monitors. -/
theorem none (hknown : t.healthChecks = s.healthChecks) (htape : tape.onHealthChecks = [])
    (hrs : rs.filter (·.operation.probes) = []) : Turns s t tape rs [] :=
  ⟨hknown ▸ .nil _, htape, hrs⟩

/-- Turns of one action after another, while the applier stays as it is. -/
theorem append (h : Turns s t tape rs xs) (h' : Turns t u tape' rs' ys)
    (hopen : t.isOpen = s.isOpen) : Turns s u (tape ++ tape') (rs ++ rs') (xs ++ ys) where
  remembers := h.remembers.append h'.remembers
  questions := by
    rw [Tape.onHealthChecks_append, h.questions, h'.questions, List.filterMap_append]
  requests := by
    rw [List.filter_append, h.requests, h'.requests, hopen, List.flatMap_append]

end Turns

/-! ## Routines -/

/-- How an operation deals with health checks: it has no health monitors, it fails with the first
of them that fails, or it goes on with the next load balancer. -/
inductive Manner
  | quiet
  | strict
  | lenient

/-- An action that is put together from these parts, in the same way in every world. -/
inductive Routine : {α : Type} → Manner → (∀ τ : Type, Driver τ → Act τ α) → Prop
  | pure {α : Type} {k : Manner} (a : α) : Routine k fun _ _ ↦ (pure a : Act _ α)
  | check {α : Type} {k : Manner} {r : Except DriverError α} :
      r ≠ .error (.unsupported .healthChecks) → Routine k fun _ _ ↦ Act.check r
  | bind {α β : Type} {k : Manner} {p : ∀ τ : Type, Driver τ → Act τ α}
      {f : α → ∀ τ : Type, Driver τ → Act τ β} :
      Routine k p → (∀ a, Routine k (f a)) → Routine k fun τ d ↦ p τ d >>= fun a ↦ f a τ d
  | tryCatch {α : Type} {k : Manner} {p : ∀ τ : Type, Driver τ → Act τ α}
      {f : DriverError → ∀ τ : Type, Driver τ → Act τ α} :
      Routine .quiet p → (∀ e, e ≠ .unsupported .healthChecks → Routine k (f e)) →
        Routine k fun τ d ↦ tryCatch (p τ d) fun e ↦ f e τ d
  | ask {ε α : Type} {k : Manner} {q : ∀ τ : Type, Driver τ → Call τ ε α}
      {wrap : ε → DriverError} :
      Inquiry q → (∀ e, wrap e ≠ .unsupported .healthChecks) →
        Routine k fun τ d ↦ Act.ask wrap (q τ d)
  | tryAsk {ε α β : Type} {k : Manner} {q : ∀ τ : Type, Driver τ → Call τ ε α}
      {wrap : ε → DriverError} {f : Except DriverError α → ∀ τ : Type, Driver τ → Act τ β} :
      Inquiry q → (∀ r : Except ε α, Routine k (f (r.mapError wrap))) →
        Routine k fun τ d ↦ Act.observe (Act.ask wrap (q τ d)) >>= fun r ↦ f r τ d
  | emit {k : Manner} {x : ChangeRequest} :
      x.operation.probes = false → Routine k fun _ _ ↦ Act.emit x
  | probe {k : Manner} (m : Probing) : k ≠ .quiet → Routine k fun _ d ↦ d.probe m
  | attempt {α : Type} {p : ∀ τ : Type, Driver τ → Act τ α} :
      Routine .strict p → Routine .lenient fun τ d ↦ Act.observe (p τ d)
  | fetch {α : Type} {q : ∀ τ : Type, Driver τ → Call τ DriverError α} :
      Inquiry q → Routine .lenient fun τ d ↦ Act.askCatalog (q τ d)

/-- The dealings with health checks of an action in this manner that fails like this. -/
def Accounts (k : Manner) (s t : Session σ) (tape : Tape) (rs : List ChangeRequest)
    (e? : Option DriverError) : Prop :=
  k ≠ .lenient → ∃ xs, Turns s t tape rs xs ∧ Stops s.isOpen xs e? ∧ (k = .quiet → xs = [])

namespace Accounts

variable {k : Manner} {s t u : Session σ} {tape tape' : Tape} {rs rs' : List ChangeRequest}
  {e? : Option DriverError}

/-- An action without turns is accounted for in every manner, unless it refuses health checks. -/
theorem of_no_turns (h : Turns s t tape rs []) (he : e? ≠ some (.unsupported .healthChecks)) :
    Accounts k s t tape rs e? :=
  fun _ ↦ ⟨[], h, .done he, fun _ ↦ rfl⟩

theorem none (hknown : t.healthChecks = s.healthChecks) (htape : tape.onHealthChecks = [])
    (hrs : rs.filter (·.operation.probes) = []) (he : e? ≠ some (.unsupported .healthChecks)) :
    Accounts k s t tape rs e? := of_no_turns (.none hknown htape hrs) he

/-- Accounts add up in sequence, in every manner. -/
theorem append (h : Accounts k s t tape rs Option.none) (h' : Accounts k t u tape' rs' e?)
    (hopen : t.isOpen = s.isOpen) : Accounts k s u (tape ++ tape') (rs ++ rs') e? := by
  intro hk
  obtain ⟨xs, hxs, hstops, hquiet⟩ := h hk
  obtain ⟨ys, hys, hstops', hquiet'⟩ := h' hk
  rw [hopen] at hstops'
  exact ⟨xs ++ ys, hxs.append hys hopen, hstops.append hstops',
    fun hk ↦ by rw [hquiet hk, hquiet' hk, List.append_nil]⟩

end Accounts

/-- What follows the answer on health checks depends on nothing else. -/
theorem Driver.takes_verdict (d : Driver σ) (m : Probing) (b : Bool) (s : Session σ) :
    ∃ rs r t,
      Takes d (fun _ _ ↦ Act.check (m.validate b) >>= fun _ ↦ Act.emit m.request) s [] rs r t ∧
      t.healthChecks = s.healthChecks ∧
      ∀ asked, (⟨m, asked, .ok b⟩ : Turn).ends s.isOpen = r ∧
        rs.filter (·.operation.probes) = (⟨m, asked, .ok b⟩ : Turn).requests s.isOpen := by
  cases hvalid : m.validate b with
  | error e =>
    refine ⟨[], .error e, s, .bind_error (.check _), rfl, fun asked ↦ ?_⟩
    simp [Turn.requests, Turn.ends, hvalid]
  | ok _ =>
    cases hopen : s.isOpen with
    | false =>
      refine ⟨_, _, _, .bind (.check _) (.emit_closed hopen _), rfl, fun asked ↦ ?_⟩
      simp [Turn.requests, Turn.ends, hvalid]
    | true =>
      refine ⟨_, _, _, .bind (.check _) (.emit hopen _), rfl, fun asked ↦ ?_⟩
      simp [Turn.requests, Turn.ends, hvalid, m.probes_request]

/-- A health monitor that is probed takes one turn. -/
theorem Driver.takes_probe (d : Driver σ) (m : Probing) (s : Session σ) :
    ∃ tape rs r t x, Takes d (fun _ d ↦ d.probe m) s tape rs r t ∧ Turns s t tape rs [x] ∧
      x.ends s.isOpen = r := by
  cases hknown : s.healthChecks with
  | some b =>
    obtain ⟨rs, r, t, htakes, hhealth, hturn⟩ := d.takes_verdict m b s
    refine ⟨_, _, r, t, ⟨m, false, .ok b⟩, .bind (.known hknown) htakes, ⟨?_, rfl, ?_⟩,
      (hturn false).1⟩
    · rw [hhealth, hknown]
      exact .keep m b (.nil _)
    · simpa using (hturn false).2
  | none =>
    rcases hb : d.backend.supportsHealthChecks s.world with ⟨e | b, v⟩
    · refine ⟨_, _, _, _, ⟨m, true, .error e⟩, .bind_error (.learn hknown hb), ⟨?_, rfl, rfl⟩, rfl⟩
      rw [hknown]
      exact .fail m e (.nil _)
    · obtain ⟨rs, r, t, htakes, hhealth, hturn⟩ :=
        d.takes_verdict m b { s with world := v, healthChecks := some b }
      refine ⟨_, _, r, t, ⟨m, true, .ok b⟩, .bind (.learn hknown hb) htakes, ⟨?_, rfl, ?_⟩,
        (hturn true).1⟩
      · rw [hhealth, hknown]
        exact .learn m b (.nil _)
      · simpa using (hturn true).2

namespace Routine

/-- What a routine does is determined by its answers, and its turns account for it. -/
theorem takes {k : Manner} {p : ∀ τ : Type, Driver τ → Act τ α} (h : Routine k p) (d : Driver σ)
    (s : Session σ) :
    ∃ tape rs r t, Takes d p s tape rs r t ∧ Accounts k s t tape rs r.failure? := by
  induction h generalizing s with
  | pure a => exact ⟨_, _, _, _, .pure a, .none rfl rfl rfl (by simp)⟩
  | @check _ _ r hr => exact ⟨_, _, _, _, .check r, .none rfl rfl rfl (by simpa using hr)⟩
  | bind _ _ ih ihf =>
    obtain ⟨tape, rs, e | a, t, hp, haccounts⟩ := ih s
    · exact ⟨_, _, _, _, hp.bind_error, haccounts⟩
    · obtain ⟨tape', rs', r', u, hf, haccounts'⟩ := ihf a t
      exact ⟨_, _, _, _, hp.bind hf, haccounts.append haccounts' hp.isOpen_eq⟩
  | @tryCatch _ k _ _ _ _ ih ihf =>
    obtain ⟨tape, rs, r, t, hp, haccounts⟩ := ih s
    obtain ⟨xs, hxs, hstops, hquiet⟩ := haccounts (by simp)
    -- Only what is quiet is recovered from, so no turn was taken before the handler.
    obtain rfl := hquiet rfl
    rcases r with e | a
    · have he : e ≠ .unsupported .healthChecks := by
        cases hstops with
        | done hne => simpa using hne
      obtain ⟨tape', rs', r', u, hf, haccounts'⟩ := ihf e he t
      have hfirst : Accounts k s t tape rs none := .of_no_turns hxs (by simp)
      exact ⟨_, _, _, _, hp.tryCatch_error hf, hfirst.append haccounts' hp.isOpen_eq⟩
    · exact ⟨_, _, _, _, hp.tryCatch, .of_no_turns hxs (by simp)⟩
  | ask hq hwrap =>
    obtain ⟨tape, r, v, hears⟩ := hq.hears d s.world
    refine ⟨_, _, _, _, .ask _ hears, .none rfl hears.quiet rfl ?_⟩
    cases r with
    | error e => simpa using hwrap e
    | ok a => simp
  | @tryAsk _ _ _ k _ _ _ hq _ ihf =>
    obtain ⟨tape, r, v, hears⟩ := hq.hears d s.world
    obtain ⟨tape', rs', r', u, hf, haccounts⟩ := ihf r { s with world := v }
    refine ⟨_, _, _, _, .bind (.observe (.ask _ hears)) hf, ?_⟩
    have hfirst : Accounts k s { s with world := v } tape [] none :=
      .none rfl hears.quiet rfl (by simp)
    exact hfirst.append haccounts rfl
  | @emit k x hx =>
    cases hopen : s.isOpen with
    | true => exact ⟨_, _, _, _, .emit hopen x, .none rfl rfl (by simpa using hx) (by simp)⟩
    | false => exact ⟨_, _, _, _, .emit_closed hopen x, .none rfl rfl rfl (by simp)⟩
  | probe m hk =>
    obtain ⟨tape, rs, r, t, x, hprobe, hturns, hends⟩ := d.takes_probe m s
    subst hends
    exact ⟨_, _, _, _, hprobe, fun _ ↦ ⟨[x], hturns, .single _ x, fun hquiet ↦ absurd hquiet hk⟩⟩
  | attempt _ ih =>
    obtain ⟨tape, rs, r, t, hp, -⟩ := ih s
    -- What goes on after a failure has no account of its own; its stages have one each.
    exact ⟨_, _, _, _, hp.observe, fun hk ↦ absurd rfl hk⟩
  | fetch hq =>
    obtain ⟨tape, r, v, hears⟩ := hq.hears d s.world
    exact ⟨_, _, _, _, .ask _ hears, fun hk ↦ absurd rfl hk⟩

/-! ## Parts -/

variable {k : Manner}

/-- An error that does not mention health checks belongs to every manner. -/
theorem throw {e : DriverError} (he : e ≠ .unsupported .healthChecks) :
    Routine k fun _ _ ↦ (throw e : Act _ α) :=
  check (r := .error e) (by simpa using he)

/-- A question to the backend is a routine of its own. -/
theorem askBackend {q : ∀ τ : Type, Driver τ → Call τ BackendError α} (hq : Inquiry q) :
    Routine k fun τ d ↦ Act.askBackend (q τ d) :=
  .ask hq (by simp)

theorem askNetwork {q : ∀ τ : Type, Driver τ → Call τ ApiError α} (hq : Inquiry q) :
    Routine k fun τ d ↦ Act.askNetwork (q τ d) :=
  .ask hq (by simp)

theorem forM {f : α → ∀ τ : Type, Driver τ → Act τ Unit} (hf : ∀ a, Routine k (f a))
    (xs : List α) : Routine k fun τ d ↦ xs.forM fun x ↦ f x τ d := by
  induction xs with
  | nil => exact .pure ()
  | cons x xs ih => exact .bind (hf x) fun _ ↦ ih

/-- Requests may be sent as they are if none of them is about probing. -/
theorem submit {rs : List ChangeRequest} (h : ∀ x ∈ rs, x.operation.probes = false) :
    Routine k fun _ _ ↦ Act.submit rs := by
  induction rs with
  | nil => exact .pure ()
  | cons x rs ih =>
    obtain ⟨hx, hrs⟩ := List.forall_mem_cons.1 h
    exact .bind (.emit hx) fun _ ↦ ih hrs

end Routine

namespace Inquiry

theorem rows (id : String) : Inquiry fun _ d ↦ d.backend.findLoadBalancers id :=
  .ask .rows _ (by decide) (fun _ _ ↦ rfl) fun _ _ ↦ rfl

theorem poolRow (key : String) : Inquiry fun _ d ↦ d.backend.findByPoolKey key :=
  .ask .poolRow _ (by decide) (fun _ _ ↦ rfl) fun _ _ ↦ rfl

theorem monitorKnown (id : String) : Inquiry fun _ d ↦ d.backend.hasHealthMonitor id :=
  .ask .monitorKnown _ (by decide) (fun _ _ ↦ rfl) fun _ _ ↦ rfl

theorem logicalPort (id : String) : Inquiry fun _ d ↦ d.backend.logicalPort id :=
  .ask .logicalPort _ (by decide) (fun _ _ ↦ rfl) fun _ _ ↦ rfl

theorem allocation (r : PortRequest) : Inquiry fun _ d ↦ d.network.allocatePort r :=
  .ask .allocation _ (by decide) (fun _ _ ↦ rfl) fun _ _ ↦ rfl

theorem release (id : String) : Inquiry fun _ d ↦ d.network.releasePort id :=
  .ask .release _ (by decide) (fun _ _ ↦ rfl) fun _ _ ↦ rfl

theorem floatingIps (id : String) : Inquiry fun _ d ↦ d.network.floatingIps id :=
  .ask .floatingIps _ (by decide) (fun _ _ ↦ rfl) fun _ _ ↦ rfl

theorem subnet (id : String) : Inquiry fun _ d ↦ d.network.subnet id :=
  .ask .subnet _ (by decide) (fun _ _ ↦ rfl) fun _ _ ↦ rfl

theorem subnets (id : String) : Inquiry fun _ d ↦ d.network.networkSubnets id :=
  .ask .subnets _ (by decide) (fun _ _ ↦ rfl) fun _ _ ↦ rfl

theorem balancerIds (filters : Filters) : Inquiry fun _ d ↦ d.catalog.loadBalancerIds filters :=
  .ask .balancerIds _ (by decide) (fun _ _ ↦ rfl) fun _ _ ↦ rfl

theorem balancer (id : String) : Inquiry fun _ d ↦ d.catalog.loadBalancer id :=
  .ask .balancer _ (by decide) (fun _ _ ↦ rfl) fun _ _ ↦ rfl

/-- The look-up of a pool asks for its enabled key first, and for the other one if there is no
row. -/
theorem findByPoolId (poolId : String) :
    Inquiry fun _ d ↦ BalancerSync.findByPoolId d.backend poolId := by
  refine .bind (.poolRow _) fun r ↦ ?_
  cases r with
  | some row => exact .pure _
  | none => exact .bind (.poolRow _) fun _ ↦ .pure _

/-- A pool that has to be there is looked up in the same way. -/
theorem requirePool (poolId : String) :
    Inquiry fun _ d ↦ BalancerSync.requirePool d.backend poolId := by
  refine .bind (.findByPoolId poolId) fun r ↦ ?_
  cases r with
  | some found => exact .pure found
  | none => exact .throw _

/-- A look-up is tried as often as the driver is told to. -/
theorem retryOnNotFound {q : ∀ τ : Type, Driver τ → Call τ BackendError α} (hq : Inquiry q) :
    Inquiry fun τ d ↦ BalancerSync.retryOnNotFound d.config.effectiveAttempts (q τ d) :=
  .retry (fun c ↦ max c.effectiveAttempts.toNat 1 - 1) hq

end Inquiry

end BalancerSync
