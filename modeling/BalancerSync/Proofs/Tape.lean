import BalancerSync.Driver.VipPort
import BalancerSync.Proofs.Path

/-!
# Answers on tape

All that the driver learns of its collaborators are their answers.  They can be put on a tape while
they come in, which makes no difference to the driver; and they can be read back from a tape, by
collaborators who do nothing else.
-/

namespace BalancerSync

variable {σ α β : Type}

/-! ## Answers -/

/-- What is asked for. -/
inductive Topic
  | rows
  | poolRow
  | monitorKnown
  | logicalPort
  | healthChecks
  | allocation
  | release
  | floatingIps
  | subnet
  | subnets
  | balancerIds
  | balancer
  deriving DecidableEq, Repr

namespace Topic

/-- How a question can fail. -/
abbrev Error : Topic → Type
  | rows | poolRow | monitorKnown | logicalPort | healthChecks => BackendError
  | allocation | release | floatingIps | subnet | subnets => ApiError
  | balancerIds | balancer => DriverError

abbrev Value : Topic → Type
  | rows => List Row
  | poolRow => Option Row
  | monitorKnown | healthChecks => Bool
  | logicalPort => Option LogicalPort
  | allocation => AllocatedPort
  | release => Unit
  | floatingIps => List String
  | subnet => Subnet
  | subnets => List Subnet
  | balancerIds => List String
  | balancer => LoadBalancer

/-- The failure of a question that is not on the tape. -/
def silence : (k : Topic) → k.Error
  | rows | poolRow | monitorKnown | logicalPort | healthChecks => .unavailable "no answer"
  | allocation | release | floatingIps | subnet | subnets => .transport "no answer"
  | balancerIds | balancer => .api (.transport "no answer")

end Topic

/-- An answer of a collaborator. -/
structure Answer where
  topic : Topic
  result : Except topic.Error topic.Value

/-- Answers in the order in which they came. -/
abbrev Tape := List Answer

/-- The answer on health checks, if it is one. -/
def Answer.onHealthChecks? : Answer → Option (Except BackendError Bool)
  | ⟨.healthChecks, r⟩ => some r
  | _ => none

namespace Tape

/-- The answers on health checks, in order. -/
def onHealthChecks (tape : Tape) : List (Except BackendError Bool) :=
  tape.filterMap Answer.onHealthChecks?

/-- What was heard on health checks, on two tapes one after the other. -/
theorem onHealthChecks_append (tape tape' : Tape) :
    (tape ++ tape').onHealthChecks = tape.onHealthChecks ++ tape'.onHealthChecks :=
  List.filterMap_append

end Tape

/-! ## Putting answers on tape -/

/-- The call in a world in which its answer is put on a tape. -/
def Call.taped (k : Topic) (call : Call σ k.Error k.Value) :
    Call (σ × Tape) k.Error k.Value := fun w ↦
  ((call w.1).1, ((call w.1).2, w.2 ++ [⟨k, (call w.1).1⟩]))

def Backend.taped (b : Backend σ) : Backend (σ × Tape) where
  findLoadBalancers id := Call.taped .rows (b.findLoadBalancers id)
  findByPoolKey key := Call.taped .poolRow (b.findByPoolKey key)
  hasHealthMonitor id := Call.taped .monitorKnown (b.hasHealthMonitor id)
  logicalPort id := Call.taped .logicalPort (b.logicalPort id)
  supportsHealthChecks := Call.taped .healthChecks b.supportsHealthChecks

def Network.taped (n : Network σ) : Network (σ × Tape) where
  allocatePort r := Call.taped .allocation (n.allocatePort r)
  releasePort id := Call.taped .release (n.releasePort id)
  floatingIps id := Call.taped .floatingIps (n.floatingIps id)
  subnet id := Call.taped .subnet (n.subnet id)
  networkSubnets id := Call.taped .subnets (n.networkSubnets id)

def Catalog.taped (c : Catalog σ) : Catalog (σ × Tape) where
  loadBalancerIds filters := Call.taped .balancerIds (c.loadBalancerIds filters)
  loadBalancer id := Call.taped .balancer (c.loadBalancer id)

/-- The driver in a world in which all answers are put on a tape. -/
def Driver.taped (d : Driver σ) : Driver (σ × Tape) :=
  ⟨d.backend.taped, d.network.taped, d.catalog.taped, d.config⟩

/-! ## Reading answers back -/

namespace Tape

/-- The next answer on a tape. The world tells how many have been read. -/
def next (tape : Tape) (k : Topic) : Call Nat k.Error k.Value := fun n ↦
  match tape[n]? with
  | some a => if h : a.topic = k then (h ▸ a.result, n + 1) else (.error k.silence, n + 1)
  | none => (.error k.silence, n + 1)

def backend (tape : Tape) : Backend Nat where
  findLoadBalancers _ := tape.next .rows
  findByPoolKey _ := tape.next .poolRow
  hasHealthMonitor _ := tape.next .monitorKnown
  logicalPort _ := tape.next .logicalPort
  supportsHealthChecks := tape.next .healthChecks

def network (tape : Tape) : Network Nat where
  allocatePort _ := tape.next .allocation
  releasePort _ := tape.next .release
  floatingIps _ := tape.next .floatingIps
  subnet _ := tape.next .subnet
  networkSubnets _ := tape.next .subnets

def catalog (tape : Tape) : Catalog Nat where
  loadBalancerIds _ := tape.next .balancerIds
  loadBalancer _ := tape.next .balancer

/-- The driver whose collaborators read their answers from a tape. -/
def driver (tape : Tape) (config : DriverConfig) : Driver Nat :=
  ⟨tape.backend, tape.network, tape.catalog, config⟩

theorem next_of_getElem? {tape : Tape} {k : Topic} {n : Nat} {r : Except k.Error k.Value}
    (h : tape[n]? = some ⟨k, r⟩) : tape.next k n = (r, n + 1) := by
  simp [next, h]

/-- The next answer on the rest of a tape is the one that is read. -/
theorem next_of_prefix {tape : Tape} {k : Topic} {n : Nat} {r : Except k.Error k.Value}
    (h : [⟨k, r⟩] <+: tape.drop n) : tape.next k n = (r, n + 1) := by
  obtain ⟨rest, hrest⟩ := h
  apply next_of_getElem?
  rw [← Nat.add_zero n, ← List.getElem?_drop, ← hrest]
  rfl

/-- What is read from a tape is on it. -/
theorem mem_of_next {tape : Tape} {k : Topic} {n : Nat} {a : k.Value}
    (h : (tape.next k n).1 = .ok a) : ⟨k, .ok a⟩ ∈ tape := by
  unfold next at h
  split at h
  · next b hb =>
    split at h
    · next hk =>
      subst hk
      have hresult : b.result = .ok a := h
      rw [← hresult]
      exact List.mem_of_getElem? hb
    · cases h
  · cases h

end Tape

/-! ## Sessions -/

namespace Session

/-- The session with a tape in its world. -/
def taping (s : Session σ) (tape : Tape) : Session (σ × Tape) :=
  ⟨(s.world, tape), s.healthChecks, s.emitted, s.isOpen⟩

/-- The session after so many answers have been read and these requests were sent. -/
def reading (s : Session σ) (n : Nat) (rs : List ChangeRequest) : Session Nat :=
  ⟨n, s.healthChecks, rs, s.isOpen⟩

end Session

/-! ## Calls on tape -/

/-- In this world the call leads to this result by way of these answers, none of which is about
health checks. -/
structure Hears (d : Driver σ) {ε : Type} (q : ∀ τ : Type, Driver τ → Call τ ε α) (w : σ)
    (tape : Tape) (r : Except ε α) (v : σ) : Prop where
  run : q σ d w = (r, v)
  taped : ∀ before, q _ d.taped (w, before) = (r, (v, before ++ tape))
  read : ∀ (whole : Tape) n, tape <+: whole.drop n →
    q _ (whole.driver d.config) n = (r, n + tape.length)
  quiet : tape.onHealthChecks = []

/-- What stands at the beginning of the rest of a list, part by part. -/
theorem List.append_prefix_drop {xs ys zs : List α} {n : Nat} (h : xs ++ ys <+: zs.drop n) :
    xs <+: zs.drop n ∧ ys <+: zs.drop (n + xs.length) := by
  obtain ⟨rest, hrest⟩ := h
  rw [List.append_assoc] at hrest
  refine ⟨⟨ys ++ rest, hrest⟩, rest, ?_⟩
  rw [← List.drop_drop, ← hrest, List.drop_left]

namespace Hears

variable {d : Driver σ} {ε : Type} {w v u : σ} {tape tape' : Tape}

theorem pure (a : α) : Hears d (fun _ _ ↦ (Pure.pure a : Call _ ε α)) w [] (.ok a) w where
  run := rfl
  taped before := by rw [List.append_nil]; rfl
  read _ _ _ := rfl
  quiet := rfl

theorem throw (e : ε) : Hears d (fun _ _ ↦ (throw e : Call _ ε α)) w [] (.error e) w where
  run := rfl
  taped before := by rw [List.append_nil]; rfl
  read _ _ _ := rfl
  quiet := rfl

/-- What is done with the result of a call hears what the call does and then more. -/
theorem sequel {q : ∀ τ : Type, Driver τ → Call τ ε α} {q' : ∀ τ : Type, Driver τ → Call τ ε β}
    {g : Except ε α → ∀ τ : Type, Driver τ → Call τ ε β} {r : Except ε α} {r' : Except ε β}
    (hq' : ∀ τ (d : Driver τ) w, q' τ d w = g (q τ d w).1 τ d (q τ d w).2)
    (h : Hears d q w tape r v) (hg : Hears d (g r) v tape' r' u) :
    Hears d q' w (tape ++ tape') r' u where
  run := by rw [hq', h.run, hg.run]
  taped before := by rw [hq', h.taped, hg.taped, List.append_assoc]
  read whole n hn := by
    obtain ⟨htape, htape'⟩ := List.append_prefix_drop hn
    rw [hq', h.read whole n htape, hg.read whole _ htape', List.length_append, Nat.add_assoc]
  quiet := by rw [Tape.onHealthChecks_append, h.quiet, hg.quiet, List.append_nil]

/-- What comes after a call that may have failed. -/
def next (f : α → ∀ τ : Type, Driver τ → Call τ ε β) :
    Except ε α → ∀ τ : Type, Driver τ → Call τ ε β
  | .ok a => f a
  | .error e => fun _ _ ↦ MonadExcept.throw e

/-- What comes after an attempt if some more are left. -/
def again (q : ∀ τ : Type, Driver τ → Call τ BackendError α) (n : Nat) :
    Except BackendError α → ∀ τ : Type, Driver τ → Call τ BackendError α
  | .ok a => fun _ _ ↦ Pure.pure a
  | .error e => fun τ d ↦ if e.isRowNotFound then retry (q τ d) n else MonadExcept.throw e

theorem bind_eq_next (q : ∀ τ : Type, Driver τ → Call τ ε α)
    (f : α → ∀ τ : Type, Driver τ → Call τ ε β) (τ : Type) (d : Driver τ) (w : τ) :
    (q τ d >>= fun a ↦ f a τ d) w = next f (q τ d w).1 τ d (q τ d w).2 := by
  rw [Call.run_bind]
  rcases q τ d w with ⟨e | a, v⟩ <;> rfl

theorem retry_eq_again (q : ∀ τ : Type, Driver τ → Call τ BackendError α) (n : Nat) (τ : Type)
    (d : Driver τ) (w : τ) :
    retry (q τ d) (n + 1) w = again q n (q τ d w).1 τ d (q τ d w).2 := by
  rw [retry, Call.run_tryCatch]
  rcases q τ d w with ⟨e | a, v⟩ <;> rfl

end Hears

/-- A call that is put together from questions, none of which is about health checks. It is the
same in every world. -/
inductive Inquiry : {ε α : Type} → (∀ τ : Type, Driver τ → Call τ ε α) → Prop
  | ask (k : Topic) (q : ∀ τ : Type, Driver τ → Call τ k.Error k.Value) (hk : k ≠ .healthChecks)
      (htaped : ∀ τ (d : Driver τ), q _ d.taped = Call.taped k (q τ d))
      (hread : ∀ (whole : Tape) config, q _ (whole.driver config) = whole.next k) : Inquiry q
  | pure {ε α : Type} (a : α) : Inquiry fun _ _ ↦ (pure a : Call _ ε α)
  | throw {ε α : Type} (e : ε) : Inquiry fun _ _ ↦ (throw e : Call _ ε α)
  | bind {ε α β : Type} {q : ∀ τ : Type, Driver τ → Call τ ε α}
      {f : α → ∀ τ : Type, Driver τ → Call τ ε β} :
      Inquiry q → (∀ a, Inquiry (f a)) → Inquiry fun τ d ↦ q τ d >>= fun a ↦ f a τ d
  | retry {α : Type} {q : ∀ τ : Type, Driver τ → Call τ BackendError α}
      (n : DriverConfig → Nat) : Inquiry q → Inquiry fun τ d ↦ retry (q τ d) (n d.config)

namespace Inquiry

/-- Attempts leave their answers on tape one after the other, and are read back in that order. -/
theorem hears_retry {q : ∀ τ : Type, Driver τ → Call τ BackendError α} (d : Driver σ)
    (h : ∀ w, ∃ tape r v, Hears d q w tape r v) (n : Nat) (w : σ) :
    ∃ tape r v, Hears d (fun τ d ↦ BalancerSync.retry (q τ d) n) w tape r v := by
  induction n generalizing w with
  | zero => exact h w
  | succ n ih =>
    obtain ⟨tape, r, v, hq⟩ := h w
    have hagain := Hears.retry_eq_again q n
    rcases r with e | a
    · cases he : e.isRowNotFound with
      | true =>
        obtain ⟨tape', r', u, hrest⟩ := ih v
        have hmore : Hears d (Hears.again q n (.error e)) v tape' r' u := by
          simpa only [Hears.again, he, if_true] using hrest
        exact ⟨_, _, _, hq.sequel hagain hmore⟩
      | false =>
        have hfailed : Hears d (Hears.again q n (.error e)) v [] (.error e) v := by
          simpa only [Hears.again, he, Bool.false_eq_true, if_false] using Hears.throw e
        exact ⟨_, _, _, hq.sequel hagain hfailed⟩
    · exact ⟨_, _, _, hq.sequel hagain (.pure a)⟩

/-- Whatever the world, the answers determine the result. -/
theorem hears {ε : Type} {q : ∀ τ : Type, Driver τ → Call τ ε α} (h : Inquiry q) (d : Driver σ)
    (w : σ) : ∃ tape r v, Hears d q w tape r v := by
  induction h generalizing w with
  | ask k q hk htaped hread =>
    refine ⟨[⟨k, (q σ d w).1⟩], (q σ d w).1, (q σ d w).2, rfl, fun before ↦ ?_, ?_, ?_⟩
    · rw [htaped]
      rfl
    · intro whole n hn
      rw [hread]
      exact Tape.next_of_prefix hn
    · cases k <;> first | rfl | exact absurd rfl hk
  | pure a => exact ⟨_, _, _, .pure a⟩
  | throw e => exact ⟨_, _, _, .throw e⟩
  | @bind _ _ _ q f _ _ ih ihf =>
    obtain ⟨tape, r, v, hq⟩ := ih w
    have hnext := Hears.bind_eq_next q f
    rcases r with e | a
    · exact ⟨_, _, _, hq.sequel hnext (.throw e)⟩
    · obtain ⟨tape', r', u, hf⟩ := ihf a v
      exact ⟨_, _, _, hq.sequel hnext hf⟩
  | retry n _ ih =>
    obtain ⟨tape, r, v, h⟩ := hears_retry d ih (n d.config) w
    exact ⟨tape, r, v, h.run, h.taped, h.read, h.quiet⟩

end Inquiry

/-! ## Actions on tape -/

/-- The first question on health checks is passed on to the backend; only an answer is kept. -/
theorem Driver.run_healthChecksSupported (d : Driver σ) {s : Session σ}
    {b? : Except BackendError Bool} {v : σ} (h : s.healthChecks = none)
    (hb : d.backend.supportsHealthChecks s.world = (b?, v)) :
    d.healthChecksSupported.run s =
      (b?.mapError .backend, { s with world := v, healthChecks := b?.toOption }) := by
  rw [d.healthChecksSupported_of_unknown h, hb]
  rcases b? with e | b
  · exact congrArg _ (congrArg (Session.mk v · s.emitted s.isOpen) h)
  · rfl

/-- In this session the action leads to this result and that session by way of these answers, and
sends these requests. -/
structure Takes (d : Driver σ) (p : ∀ τ : Type, Driver τ → Act τ α) (s : Session σ) (tape : Tape)
    (rs : List ChangeRequest) (r : Except DriverError α) (t : Session σ) : Prop where
  run : (p σ d).run s = (r, t)
  taped : ∀ before, (p _ d.taped).run (s.taping before) = (r, t.taping (before ++ tape))
  read : ∀ (whole : Tape) n sent, tape <+: whole.drop n →
    (p _ (whole.driver d.config)).run (s.reading n sent) =
      (r, t.reading (n + tape.length) (sent ++ rs))
  emitted_eq : t.emitted = s.emitted ++ rs
  isOpen_eq : t.isOpen = s.isOpen

namespace Takes

variable {d : Driver σ} {s t u : Session σ} {tape tape' : Tape} {rs rs' : List ChangeRequest}
  {r : Except DriverError α} {r' : Except DriverError β}

/-- The answers determine what is done, given what is known about health checks and whether the
applier is open. -/
theorem determined {τ : Type} {d' : Driver τ} {p : ∀ τ : Type, Driver τ → Act τ α}
    {s' t' : Session τ} {r' : Except DriverError α} (h : Takes d p s tape rs r t)
    (h' : Takes d' p s' tape rs' r' t') (hconfig : d'.config = d.config)
    (hknown : s'.healthChecks = s.healthChecks) (hopen : s'.isOpen = s.isOpen) :
    r' = r ∧ rs' = rs ∧ t'.healthChecks = t.healthChecks := by
  have hstart : s'.reading 0 [] = s.reading 0 [] := by
    rw [Session.reading, Session.reading, hknown, hopen]
  have hread := h.read tape 0 [] (List.prefix_refl _)
  have hread' := h'.read tape 0 [] (List.prefix_refl _)
  rw [hconfig, hstart, hread] at hread'
  simp only [Session.reading, Prod.mk.injEq, Session.mk.injEq, List.nil_append, true_and] at hread'
  obtain ⟨rfl, hhealth, rfl, -⟩ := hread'
  exact ⟨rfl, rfl, hhealth.symm⟩

theorem check (r : Except DriverError α) : Takes d (fun _ _ ↦ Act.check r) s [] [] r s where
  run := rfl
  taped before := by rw [Act.run_check, List.append_nil]
  read _ _ _ _ := by rw [Act.run_check, List.append_nil]; rfl
  emitted_eq := (List.append_nil _).symm
  isOpen_eq := rfl

theorem pure (a : α) : Takes d (fun _ _ ↦ (Pure.pure a : Act _ α)) s [] [] (.ok a) s :=
  check (.ok a)

theorem throw (e : DriverError) :
    Takes d (fun _ _ ↦ (MonadExcept.throw e : Act _ α)) s [] [] (.error e) s :=
  check (.error e)

/-- The answer to a question is all that it leaves on tape. -/
theorem ask {ε : Type} {q : ∀ τ : Type, Driver τ → Call τ ε α} {r : Except ε α} {v : σ}
    (wrap : ε → DriverError) (h : Hears d q s.world tape r v) :
    Takes d (fun τ d ↦ Act.ask wrap (q τ d)) s tape [] (r.mapError wrap) { s with world := v } where
  run := by rw [Act.run_ask, h.run]
  taped before := by
    rw [Act.run_ask]
    have hq : q _ d.taped (s.taping before).world = (r, (v, before ++ tape)) := h.taped before
    rw [hq]
    rfl
  read whole n sent hn := by
    rw [Act.run_ask]
    have hq : q _ (whole.driver d.config) (s.reading n sent).world = (r, n + tape.length) :=
      h.read whole n hn
    rw [hq, List.append_nil]
    rfl
  emitted_eq := (List.append_nil _).symm
  isOpen_eq := rfl

/-- What is done with the result of an action takes what the action takes and then more. -/
theorem sequel {p : ∀ τ : Type, Driver τ → Act τ α} {p' : ∀ τ : Type, Driver τ → Act τ β}
    {g : Except DriverError α → ∀ τ : Type, Driver τ → Act τ β}
    (hp' : ∀ τ (d : Driver τ) s, (p' τ d).run s =
      (g ((p τ d).run s).1 τ d).run ((p τ d).run s).2)
    (h : Takes d p s tape rs r t) (hg : Takes d (g r) t tape' rs' r' u) :
    Takes d p' s (tape ++ tape') (rs ++ rs') r' u where
  run := by rw [hp', h.run, hg.run]
  taped before := by rw [hp', h.taped, hg.taped, List.append_assoc]
  read whole n sent hn := by
    obtain ⟨htape, htape'⟩ := List.append_prefix_drop hn
    rw [hp', h.read whole n sent htape, hg.read whole _ _ htape', List.length_append,
      Nat.add_assoc, List.append_assoc]
  emitted_eq := by rw [hg.emitted_eq, h.emitted_eq, List.append_assoc]
  isOpen_eq := hg.isOpen_eq.trans h.isOpen_eq

section Sequels

variable {p : ∀ τ : Type, Driver τ → Act τ α}

/-- What comes after an action that may have failed. -/
def next (f : α → ∀ τ : Type, Driver τ → Act τ β) :
    Except DriverError α → ∀ τ : Type, Driver τ → Act τ β
  | .ok a => f a
  | .error e => fun _ _ ↦ MonadExcept.throw e

/-- What comes after an action whose failure is handled. -/
def recover (f : DriverError → ∀ τ : Type, Driver τ → Act τ α) :
    Except DriverError α → ∀ τ : Type, Driver τ → Act τ α
  | .ok a => fun _ _ ↦ Pure.pure a
  | .error e => f e

/-- A sequence goes on with what follows from the result of its first part. -/
theorem run_bind_eq_next (f : α → ∀ τ : Type, Driver τ → Act τ β) (τ : Type) (d : Driver τ)
    (s : Session τ) : (p τ d >>= fun a ↦ f a τ d).run s =
      (next f ((p τ d).run s).1 τ d).run ((p τ d).run s).2 := by
  rw [Act.run_bind]
  rcases (p τ d).run s with ⟨e | a, t⟩ <;> rfl

/-- Recovery, written as a sequence that follows from the outcome. -/
theorem run_tryCatch_eq_recover (f : DriverError → ∀ τ : Type, Driver τ → Act τ α) (τ : Type)
    (d : Driver τ) (s : Session τ) : (tryCatch (p τ d) fun e ↦ f e τ d).run s =
      (recover f ((p τ d).run s).1 τ d).run ((p τ d).run s).2 := by
  rw [Act.run_tryCatch]
  rcases (p τ d).run s with ⟨e | a, t⟩ <;> rfl

/-- In a sequence the tapes are put together, and so are the requests. -/
theorem bind {f : α → ∀ τ : Type, Driver τ → Act τ β} {a : α} (h : Takes d p s tape rs (.ok a) t)
    (hf : Takes d (f a) t tape' rs' r' u) :
    Takes d (fun τ d ↦ p τ d >>= fun a ↦ f a τ d) s (tape ++ tape') (rs ++ rs') r' u :=
  sequel (run_bind_eq_next f) h hf

/-- A failure ends the sequence and its tape. -/
theorem bind_error {f : α → ∀ τ : Type, Driver τ → Act τ β} {e : DriverError}
    (h : Takes d p s tape rs (.error e) t) :
    Takes d (fun τ d ↦ p τ d >>= fun a ↦ f a τ d) s tape rs (.error e) t := by
  simpa only [List.append_nil] using sequel (run_bind_eq_next f) h (throw e)

theorem tryCatch {f : DriverError → ∀ τ : Type, Driver τ → Act τ α} {a : α}
    (h : Takes d p s tape rs (.ok a) t) :
    Takes d (fun τ d ↦ tryCatch (p τ d) fun e ↦ f e τ d) s tape rs (.ok a) t := by
  simpa only [List.append_nil] using sequel (run_tryCatch_eq_recover f) h (pure a)

/-- A handler goes on with the tape where the failed action left it. -/
theorem tryCatch_error {f : DriverError → ∀ τ : Type, Driver τ → Act τ α} {e : DriverError}
    {r' : Except DriverError α} (h : Takes d p s tape rs (.error e) t)
    (hf : Takes d (f e) t tape' rs' r' u) :
    Takes d (fun τ d ↦ MonadExcept.tryCatch (p τ d) fun e ↦ f e τ d) s (tape ++ tape')
      (rs ++ rs') r' u :=
  sequel (run_tryCatch_eq_recover f) h hf

theorem observe (h : Takes d p s tape rs r t) :
    Takes d (fun τ d ↦ Act.observe (p τ d)) s tape rs (.ok r) t := by
  have hobserve : Takes d (fun τ d ↦ Act.observe (p τ d)) s (tape ++ []) (rs ++ []) (.ok r) t :=
    sequel (g := fun r _ _ ↦ Pure.pure r) (fun _ _ _ ↦ rfl) h (pure r)
  simpa only [List.append_nil] using hobserve

end Sequels

/-- While the applier is open, a request goes out and nothing is asked. -/
theorem emit (ho : s.isOpen = true) (x : ChangeRequest) :
    Takes d (fun _ _ ↦ Act.emit x) s [] [x] (.ok ()) (s.sent [x]) where
  run := Act.emit_of_open ho x
  taped before := by
    rw [Act.emit_of_open (by exact ho), List.append_nil]
    rfl
  read _ _ _ _ := by
    rw [Act.emit_of_open (by exact ho)]
    rfl
  emitted_eq := rfl
  isOpen_eq := rfl

/-- A closed applier is an error, and nothing goes out. -/
theorem emit_closed (ho : s.isOpen = false) (x : ChangeRequest) :
    Takes d (fun _ _ ↦ Act.emit x) s [] [] (.error .applierClosed) s where
  run := Act.emit_of_closed ho x
  taped before := by
    rw [Act.emit_of_closed (by exact ho), List.append_nil]
  read _ _ _ _ := by
    rw [Act.emit_of_closed (by exact ho), List.append_nil]
    rfl
  emitted_eq := (List.append_nil _).symm
  isOpen_eq := rfl

/-- A capability that is known is not asked for. -/
theorem known {b : Bool} (h : s.healthChecks = some b) :
    Takes d (fun _ d ↦ d.healthChecksSupported) s [] [] (.ok b) s where
  run := d.healthChecksSupported_of_known h
  taped before := by
    rw [Driver.healthChecksSupported_of_known _ (by exact h), List.append_nil]
  read _ _ _ _ := by
    rw [Driver.healthChecksSupported_of_known _ (by exact h), List.append_nil]
    rfl
  emitted_eq := (List.append_nil _).symm
  isOpen_eq := rfl

/-- A capability that is not known is asked for, and remembered unless the question fails. -/
theorem learn {b? : Except BackendError Bool} {v : σ} (h : s.healthChecks = none)
    (hb : d.backend.supportsHealthChecks s.world = (b?, v)) :
    Takes d (fun _ d ↦ d.healthChecksSupported) s [⟨.healthChecks, b?⟩] []
      (b?.mapError .backend) { s with world := v, healthChecks := b?.toOption } where
  run := d.run_healthChecksSupported h hb
  taped before := by
    refine Driver.run_healthChecksSupported _ (by exact h) ?_
    change Call.taped .healthChecks d.backend.supportsHealthChecks (s.world, before) = _
    rw [Call.taped, hb]
  read whole n sent hn := by
    refine (Driver.run_healthChecksSupported _ (by exact h) (Tape.next_of_prefix hn)).trans ?_
    rw [List.append_nil]
    rfl
  emitted_eq := (List.append_nil _).symm
  isOpen_eq := rfl

end Takes

end BalancerSync
