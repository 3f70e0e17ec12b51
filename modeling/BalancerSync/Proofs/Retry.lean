import BalancerSync.Proofs.Fixed
import BalancerSync.Proofs.Pass
import BalancerSync.Proofs.Related

/-!
# Look-ups that are repeated

A look-up that finds no row is repeated until it finds one, fails in another way, or has been made
as often as it may.  What it comes to is decided by the outcomes alone.  So rows that appear while
the look-up is still repeated make no difference to a pass, and rows that appear later are as good
as none: the load balancer is created.
-/

namespace BalancerSync

variable {σ ε α : Type}

/-! ## Outcomes -/

/-- The outcome is that there is no row. -/
def missed : Except BackendError α → Bool
  | .error e => e.isRowNotFound
  | .ok _ => false

/-- Of `N` attempts with these outcomes, the one with index `n` is the last that is made: those
before it miss, and if it misses as well then none is left. -/
structure Decides (o : Nat → Except BackendError α) (N n : Nat) : Prop where
  lt : n < N
  missed_of_lt : ∀ i < n, missed (o i) = true
  last_of_missed : missed (o n) = true → n + 1 = N

namespace Decides

variable {o : Nat → Except BackendError α} {N n : Nat}

/-- One attempt decides if no other may be made, or if it does not miss. -/
theorem first (hN : 0 < N) (h : missed (o 0) = true → 1 = N) : Decides o N 0 :=
  ⟨hN, by simp, h⟩

/-- After a miss, the rest of the attempts decides. -/
theorem next (h : missed (o 0) = true) (hn : Decides (fun i ↦ o (i + 1)) N n) :
    Decides o (N + 1) (n + 1) where
  lt := Nat.succ_lt_succ hn.lt
  missed_of_lt i hi := by
    cases i with
    | zero => exact h
    | succ i => exact hn.missed_of_lt i (Nat.lt_of_succ_lt_succ hi)
  last_of_missed hm := congrArg (· + 1) (hn.last_of_missed hm)

end Decides

/-! ## Calls made again and again -/

namespace Call

/-- The call, made after it was made `i` times. -/
def nth (call : Call σ ε α) : Nat → Call σ ε α
  | 0 => call
  | i + 1 => fun w ↦ nth call i (call w).2

/-- To wait for the next attempt is to start in the world that this one leaves. -/
theorem nth_succ (call : Call σ ε α) (i : Nat) (w : σ) :
    call.nth (i + 1) w = call.nth i (call w).2 := rfl

end Call

/-- A retried call goes on exactly after a miss. -/
theorem retry_succ (op : Call σ BackendError α) (n : Nat) (w : σ) :
    retry op (n + 1) w = if missed (op w).1 then retry op n (op w).2 else op w := by
  rw [retry, Call.run_tryCatch]
  rcases op w with ⟨e | a, v⟩
  · change (if e.isRowNotFound then retry op n else throw e) v =
      if e.isRowNotFound then retry op n v else (.error e, v)
    split <;> rfl
  · rfl

/-- The call is repeated up to the attempt that decides, and that is what comes of it. -/
theorem exists_decides_retry (op : Call σ BackendError α) (n : Nat) (w : σ) :
    ∃ m, Decides (fun i ↦ (op.nth i w).1) (n + 1) m ∧ retry op n w = op.nth m w := by
  induction n generalizing w with
  | zero => exact ⟨0, .first Nat.one_pos fun _ ↦ rfl, rfl⟩
  | succ n ih =>
    rw [retry_succ]
    split
    · next h =>
      obtain ⟨m, hm, hretry⟩ := ih (op w).2
      exact ⟨m + 1, .next h hm, hretry⟩
    · next h => exact ⟨0, .first (Nat.succ_pos _) fun h' ↦ absurd h' h, rfl⟩

/-- The configured number of attempts is at least one, and within it the first outcome that is no
miss decides. -/
theorem exists_decides_retryOnNotFound (attempts : UInt32) (op : Call σ BackendError α) (w : σ) :
    ∃ n, Decides (fun i ↦ (op.nth i w).1) (max attempts.toNat 1) n ∧
      retryOnNotFound attempts op w = op.nth n w := by
  have hN : max attempts.toNat 1 - 1 + 1 = max attempts.toNat 1 := by omega
  rw [← hN]
  exact exists_decides_retry op _ w

/-- A call with these outcomes, one after another.  The world tells how often it was made. -/
def script (o : Nat → Except BackendError α) : Call Nat BackendError α := fun n ↦ (o n, n + 1)

/-- The outcomes of a script come in order, one for each attempt. -/
theorem nth_script (o : Nat → Except BackendError α) (i n : Nat) :
    (script o).nth i n = (o (n + i), n + i + 1) := by
  induction i generalizing n with
  | zero => rfl
  | succ i ih => rw [Call.nth_succ, script, ih, Nat.add_right_comm, Nat.add_assoc]

/-! ## The number of the attempt -/

/-- The next number, unless it is too large for a word. -/
def nextAttempt? (n : UInt32) : Option { m : UInt32 // m.toNat = n.toNat + 1 } :=
  if h : n.toNat + 1 < UInt32.size then
    some ⟨n + 1, (UInt32.toNat_add n 1).trans (Nat.mod_eq_of_lt h)⟩
  else none

/-- Below another number there is room for the next one. -/
theorem exists_nextAttempt? {n m : UInt32} (h : n < m) : ∃ next, nextAttempt? n = some next := by
  have hn : n.toNat + 1 < UInt32.size :=
    Nat.lt_of_le_of_lt (UInt32.lt_iff_toNat_lt.1 h) m.toNat_lt
  exact ⟨_, dif_pos hn⟩

/-- Makes a call, which is the attempt with this number, and goes on with the next one while there
is no row.  There is no result if the next number is too large. -/
def retryFrom (attempts : UInt32) (op : Call σ BackendError α) (attempt : UInt32) (w : σ) :
    Option (Except BackendError α × σ) :=
  if missed (op w).1 ∧ attempt < attempts then
    match nextAttempt? attempt with
    | none => none
    | some next => retryFrom attempts op next (op w).2
  else some (op w)
termination_by attempts.toNat - attempt.toNat
decreasing_by
  have hlt := UInt32.lt_iff_toNat_lt.1 (And.right ‹_›)
  omega

/-- With `n` attempts left after this one, the loop retries `n` times, and no number on the way is
too large. -/
theorem retryFrom_eq_retry {attempts attempt : UInt32} {n : Nat} (op : Call σ BackendError α)
    (w : σ) (h : attempt.toNat + n = attempts.toNat) :
    retryFrom attempts op attempt w = some (retry op n w) := by
  induction n generalizing attempt w with
  | zero =>
    have hlast : ¬ attempt < attempts := by
      rw [UInt32.lt_iff_toNat_lt]
      omega
    rw [retryFrom, if_neg fun hm ↦ hlast hm.2]
    rfl
  | succ n ih =>
    have hlt : attempt < attempts := by
      rw [UInt32.lt_iff_toNat_lt]
      omega
    -- Below the number of attempts there is always a next number.
    obtain ⟨⟨next, hnext⟩, hsome⟩ := exists_nextAttempt? hlt
    rw [retryFrom, retry_succ, hsome]
    by_cases hm : missed (op w).1 = true
    · rw [if_pos ⟨hm, hlt⟩, if_pos hm]
      change retryFrom attempts op next (op w).2 = _
      exact ih _ (by omega)
    · rw [if_neg fun h' ↦ hm h'.1, if_neg hm]

/-- Makes up to `attempts` calls, numbered from one, and one at least. -/
def retryNumbered (attempts : UInt32) (op : Call σ BackendError α) (w : σ) :
    Option (Except BackendError α × σ) :=
  retryFrom (max attempts 1) op 1 w

theorem toNat_max_one (n : UInt32) : (max n 1).toNat = max n.toNat 1 := by
  change (if n ≤ 1 then 1 else n : UInt32).toNat = _
  split
  · next h => exact (Nat.max_eq_right (UInt32.le_iff_toNat_le.1 h)).symm
  · next h =>
    rw [UInt32.le_iff_toNat_le] at h
    exact (Nat.max_eq_left (Nat.le_of_not_le h)).symm

/-- The loop with its counter never overflows, and gives what the loop without it gives. -/
theorem retryNumbered_eq (attempts : UInt32) (op : Call σ BackendError α) (w : σ) :
    retryNumbered attempts op w = some (retryOnNotFound attempts op w) := by
  refine retryFrom_eq_retry op w ?_
  rw [toNat_max_one]
  change 1 + (max attempts.toNat 1 - 1) = _
  omega

/-! ## Rows that appear late -/

/-- The call in a world with a count, which it leaves alone. -/
def Call.uncounted (call : Call σ ε α) : Call (σ × Nat) ε α := fun w ↦
  ((call w.1).1, ((call w.1).2, w.2))

/-- The call in a world in which it is counted, and in which it misses the first `k` times. -/
def Call.delayed (k : Nat) (miss : Nat → BackendError) (call : Call σ BackendError α) :
    Call (σ × Nat) BackendError α := fun w ↦
  if w.2 < k then (.error (miss w.2), (w.1, w.2 + 1))
  else ((call w.1).1, ((call w.1).2, w.2 + 1))

def Backend.uncounted (b : Backend σ) : Backend (σ × Nat) where
  findLoadBalancers id := (b.findLoadBalancers id).uncounted
  findByPoolKey key := (b.findByPoolKey key).uncounted
  hasHealthMonitor id := (b.hasHealthMonitor id).uncounted
  logicalPort id := (b.logicalPort id).uncounted
  supportsHealthChecks := b.supportsHealthChecks.uncounted

def Network.uncounted (n : Network σ) : Network (σ × Nat) where
  allocatePort r := (n.allocatePort r).uncounted
  releasePort id := (n.releasePort id).uncounted
  floatingIps id := (n.floatingIps id).uncounted
  subnet id := (n.subnet id).uncounted
  networkSubnets id := (n.networkSubnets id).uncounted

def Catalog.uncounted (c : Catalog σ) : Catalog (σ × Nat) where
  loadBalancerIds filters := (c.loadBalancerIds filters).uncounted
  loadBalancer id := (c.loadBalancer id).uncounted

namespace Driver

/-- The driver in a world with a count. -/
def uncounted (d : Driver σ) : Driver (σ × Nat) :=
  ⟨d.backend.uncounted, d.network.uncounted, d.catalog.uncounted, d.config⟩

/-- The driver in a world in which the look-ups of a load balancer's rows are counted, and in which
the first `k` of them miss.  The other answers are the same. -/
def delayed (d : Driver σ) (k : Nat) (miss : Nat → BackendError) : Driver (σ × Nat) :=
  { d.uncounted with
    backend := { d.uncounted.backend with
      findLoadBalancers := fun id ↦ (d.backend.findLoadBalancers id).delayed k miss } }

end Driver

section Delayed

variable {call : Call σ BackendError α} {k : Nat} {miss : Nat → BackendError}

/-- The first `k` calls miss, and the others give the one answer that there is. -/
theorem Call.Fixed.nth_delayed (hc : call.Fixed) (k : Nat) (miss : Nat → BackendError) (v : σ)
    (i : Nat) (w : σ × Nat) :
    ((call.delayed k miss).nth i w).1 =
        (if w.2 + i < k then .error (miss (w.2 + i)) else (call v).1) ∧
      ((call.delayed k miss).nth i w).2.2 = w.2 + i + 1 := by
  induction i generalizing w with
  | zero =>
    change (call.delayed k miss w).1 = _ ∧ (call.delayed k miss w).2.2 = _
    unfold Call.delayed
    split
    · exact ⟨(if_pos ‹_›).symm, rfl⟩
    · exact ⟨(hc w.1 v).trans (if_neg ‹_›).symm, rfl⟩
  | succ i ih =>
    have hcount : (call.delayed k miss w).2.2 = w.2 + 1 := by
      unfold Call.delayed
      split <;> rfl
    obtain ⟨hresult, hmade⟩ := ih (call.delayed k miss w).2
    rw [hcount, Nat.succ_add_eq_add_succ] at hresult hmade
    exact ⟨hresult, hmade⟩

/-- If the rows appear before the attempts are used up, what is found is what is there. -/
theorem Call.Fixed.retry_delayed_of_lt {attempts : UInt32} {w : σ × Nat} (hc : call.Fixed)
    (hmiss : ∀ i, (miss i).isRowNotFound = true) (hw : w.2 = 0)
    (hk : k < max attempts.toNat 1) (v : σ) :
    ∃ w', retryOnNotFound attempts (call.delayed k miss) w = ((call v).1, w') := by
  obtain ⟨n, hn, hretry⟩ := exists_decides_retryOnNotFound attempts (call.delayed k miss) w
  obtain ⟨hresult, -⟩ := hc.nth_delayed k miss v n w
  rw [hw, Nat.zero_add] at hresult
  have hle : k ≤ n := by
    by_contra hlt
    rw [if_pos (Nat.lt_of_not_le hlt)] at hresult
    have hlast := hn.last_of_missed (by rw [hresult]; exact hmiss n)
    omega
  rw [if_neg (Nat.not_lt.2 hle)] at hresult
  exact ⟨_, hretry.trans (Prod.ext hresult rfl)⟩

/-- If they appear later, the attempts are used up and the last of them misses. -/
theorem Call.Fixed.retry_delayed_of_le {attempts : UInt32} {w : σ × Nat} (hc : call.Fixed)
    (hmiss : ∀ i, (miss i).isRowNotFound = true) (hw : w.2 = 0)
    (hk : max attempts.toNat 1 ≤ k) :
    ∃ i v, retryOnNotFound attempts (call.delayed k miss) w =
      (.error (miss i), (v, max attempts.toNat 1)) := by
  obtain ⟨n, hn, hretry⟩ := exists_decides_retryOnNotFound attempts (call.delayed k miss) w
  obtain ⟨hresult, hcount⟩ := hc.nth_delayed k miss w.1 n w
  rw [hw, Nat.zero_add] at hresult hcount
  rw [if_pos (Nat.lt_of_lt_of_le hn.lt hk)] at hresult
  have hlast : n + 1 = max attempts.toNat 1 :=
    hn.last_of_missed (by rw [hresult]; exact hmiss n)
  exact ⟨n, _, hretry.trans (Prod.ext hresult (Prod.ext rfl (hcount.trans hlast)))⟩

end Delayed

/-! ## Counts that nobody looks at -/

/-- Two worlds with these counts. -/
def Counts (a b : Nat) (v w : σ × Nat) : Prop := v.2 = a ∧ w.2 = b

section Counts

variable (a b : Nat)

/-- A call with fixed answers does not see the count. -/
theorem Call.Fixed.uncounted {call : Call σ ε α} (hc : call.Fixed) :
    call.uncounted.Respects (Counts a b) := fun v w h ↦ ⟨hc v.1 w.1, h⟩

theorem Backend.Fixed.uncounted {bk : Backend σ} (hb : bk.Fixed) :
    bk.uncounted.Respects (Counts a b) where
  findLoadBalancers id := (hb.findLoadBalancers id).uncounted a b
  findByPoolKey key := (hb.findByPoolKey key).uncounted a b
  hasHealthMonitor id := (hb.hasHealthMonitor id).uncounted a b
  logicalPort id := (hb.logicalPort id).uncounted a b
  supportsHealthChecks := hb.supportsHealthChecks.uncounted a b

theorem Network.Fixed.uncounted {n : Network σ} (hn : n.Fixed) :
    n.uncounted.Respects (Counts a b) where
  floatingIps id := (hn.floatingIps id).uncounted a b
  subnet id := (hn.subnet id).uncounted a b
  networkSubnets id := (hn.networkSubnets id).uncounted a b

end Counts

/-! ## Passes -/

namespace Driver

/-- What a pass does once the rows have been looked up. -/
def afterLookUp (d : Driver σ) (lb : LoadBalancer) :
    Except BackendError (List Row) → Act σ SyncOutcome
  | .ok rows => do
    d.syncRows lb rows
    return .synced
  | .error e =>
    if e.isRowNotFound then do
      d.createLoadBalancer lb
      return .recreated
    else throw (.backend e)

section AfterLookUp

variable (d : Driver σ) (lb : LoadBalancer)

/-- A pass is the look-up of its rows, and then what follows from the answer. -/
theorem run_syncLoadBalancer {s : Session σ} {r : Except BackendError (List Row)} {w : σ}
    (h : retryOnNotFound d.config.effectiveAttempts (d.backend.findLoadBalancers lb.id) s.world =
      (r, w)) :
    (d.syncLoadBalancer lb).run s = (d.afterLookUp lb r).run { s with world := w } := by
  unfold syncLoadBalancer
  rw [Act.run_observe_bind, Act.askBackend, Act.run_ask, h]
  cases r <;> rfl

theorem acts_afterLookUp (r : Except BackendError (List Row)) : d.Acts (d.afterLookUp lb r) := by
  rcases r with e | rows
  · change d.Acts (if e.isRowNotFound then
      d.createLoadBalancer lb >>= fun _ ↦ pure SyncOutcome.recreated else throw (.backend e))
    split
    · exact .bind (d.acts_createLoadBalancer lb) fun _ ↦ .pure _
    · exact .throw (by simp)
  · exact .bind (d.acts_syncRows lb rows) fun _ ↦ .pure _

end AfterLookUp

section Delayed

variable {d : Driver σ} {miss : Nat → BackendError} {lb : LoadBalancer} {s : Session (σ × Nat)}
  {k : Nat}

theorem max_effectiveAttempts (c : DriverConfig) :
    max c.effectiveAttempts.toNat 1 = max c.lookupAttempts.toNat 1 := by
  rw [DriverConfig.effectiveAttempts, toNat_max_one, Nat.max_assoc, Nat.max_self]

/-- Rows are looked up at the start of a pass only. -/
theorem afterLookUp_delayed (r : Except BackendError (List Row)) :
    (d.delayed k miss).afterLookUp lb r = d.uncounted.afterLookUp lb r := rfl

/-- A delay of the look-up is not to be seen in a creation, which asks for no rows of the load
balancer. -/
theorem createLoadBalancer_delayed :
    (d.delayed k miss).createLoadBalancer lb = d.uncounted.createLoadBalancer lb := rfl

/-- What a driver without counts does, it does in all worlds. -/
theorem alike_of_acts {act : Act (σ × Nat) α} (hb : d.backend.Fixed) (hn : d.network.Fixed)
    (hact : d.uncounted.Acts act) (v w : σ × Nat) :
    (act.run { s with world := v }).1 = (act.run { s with world := w }).1 ∧
      (act.run { s with world := v }).2.Alike (Counts v.2 w.2)
        (act.run { s with world := w }).2 :=
  hact.respects (hb.uncounted v.2 w.2) (hn.uncounted v.2 w.2) _ _ ⟨⟨rfl, rfl⟩, rfl, rfl, rfl⟩

/-- Rows that appear before the attempts are used up might as well have been there. -/
theorem syncLoadBalancer_delayed_of_lt (hb : d.backend.Fixed) (hn : d.network.Fixed)
    (hmiss : ∀ i, (miss i).isRowNotFound = true) (hs : s.world.2 = 0)
    (hk : k < max d.config.lookupAttempts.toNat 1) :
    let late := ((d.delayed k miss).syncLoadBalancer lb).run s
    let present := ((d.delayed 0 miss).syncLoadBalancer lb).run s
    late.1 = present.1 ∧ late.2.emitted = present.2.emitted := by
  intro late present
  have hfound := hb.findLoadBalancers lb.id
  rw [← max_effectiveAttempts] at hk
  obtain ⟨v, hv⟩ := hfound.retry_delayed_of_lt hmiss hs hk s.world.1
  obtain ⟨w, hw⟩ := hfound.retry_delayed_of_lt hmiss hs (Nat.zero_lt_of_lt hk) s.world.1
  have hlate : late = _ := (d.delayed k miss).run_syncLoadBalancer lb hv
  have hpresent : present = _ := (d.delayed 0 miss).run_syncLoadBalancer lb hw
  rw [afterLookUp_delayed] at hlate hpresent
  obtain ⟨hresult, halike⟩ := alike_of_acts (s := s) hb hn (d.uncounted.acts_afterLookUp lb _) v w
  rw [hlate, hpresent]
  exact ⟨hresult, halike.emitted⟩

/-- Rows that appear later might as well be missing: the load balancer is created. -/
theorem syncLoadBalancer_delayed_of_le (hb : d.backend.Fixed) (hn : d.network.Fixed)
    (hmiss : ∀ i, (miss i).isRowNotFound = true) (hs : s.world.2 = 0)
    (hk : max d.config.lookupAttempts.toNat 1 ≤ k) :
    let late := ((d.delayed k miss).syncLoadBalancer lb).run s
    let create := ((d.delayed k miss).createLoadBalancer lb).run s
    late.2.world.2 = max d.config.lookupAttempts.toNat 1 ∧
      late.1 = create.1.map (fun _ ↦ .recreated) ∧ late.2.emitted = create.2.emitted := by
  intro late create
  rw [← max_effectiveAttempts] at hk ⊢
  obtain ⟨i, v, hv⟩ := (hb.findLoadBalancers lb.id).retry_delayed_of_le hmiss hs hk
  have hlate : late = _ := (d.delayed k miss).run_syncLoadBalancer lb hv
  have hafter : (d.delayed k miss).afterLookUp lb (.error (miss i)) =
      (d.delayed k miss).createLoadBalancer lb >>= fun _ ↦ pure .recreated := if_pos (hmiss i)
  rw [hafter, createLoadBalancer_delayed, Act.run_bind_pure] at hlate
  obtain ⟨hresult, halike⟩ := alike_of_acts (s := s) hb hn (d.uncounted.acts_createLoadBalancer lb)
    (v, max d.config.effectiveAttempts.toNat 1) s.world
  rw [hlate]
  exact ⟨halike.world.1, congrArg (Except.map _) hresult, halike.emitted⟩

end Delayed

/-- A call that may be made `N` times is made up to the first outcome that is not a miss, or `N`
times if all of them are, and the outcome of the last call is the result; the numbers of the
attempts stay within their range.  Hence a load balancer whose rows appear while they are still
looked up is synchronised as if they had been there from the start, and one whose rows appear later
is created after `N` look-ups. -/
theorem retry_is_exact_and_invisible {d : Driver σ} {miss : Nat → BackendError}
    (hb : d.backend.Fixed) (hn : d.network.Fixed) (hmiss : ∀ i, (miss i).isRowNotFound = true) :
    (∀ (α : Type) (attempts : UInt32) (o : Nat → Except BackendError α),
      ∃ n, Decides o (max attempts.toNat 1) n ∧
        retryOnNotFound attempts (script o) 0 = (o n, n + 1) ∧
        retryNumbered attempts (script o) 0 = some (o n, n + 1)) ∧
    ∀ (lb : LoadBalancer) (k : Nat) (s : Session (σ × Nat)), s.world.2 = 0 →
      let N := max d.config.lookupAttempts.toNat 1
      let late := ((d.delayed k miss).syncLoadBalancer lb).run s
      let present := ((d.delayed 0 miss).syncLoadBalancer lb).run s
      let create := ((d.delayed k miss).createLoadBalancer lb).run s
      (k < N → late.1 = present.1 ∧ late.2.emitted = present.2.emitted) ∧
      (N ≤ k → late.2.world.2 = N ∧ late.1 = create.1.map (fun _ ↦ .recreated) ∧
        late.2.emitted = create.2.emitted) := by
  constructor
  · intro α attempts o
    obtain ⟨n, hn, hretry⟩ := exists_decides_retryOnNotFound attempts (script o) 0
    simp only [nth_script, Nat.zero_add] at hn hretry
    exact ⟨n, hn, hretry, by rw [retryNumbered_eq, hretry]⟩
  · intro lb k s hs
    exact ⟨syncLoadBalancer_delayed_of_lt hb hn hmiss hs,
      syncLoadBalancer_delayed_of_le hb hn hmiss hs⟩

end Driver

namespace Sample

def miss (_ : Nat) : BackendError := .balancerNotFound "lb1"

/-- A row appears after the first attempt. -/
def outcomes : Nat → Except BackendError Row
  | 0 => .error (miss 0)
  | _ => .ok row

/-- The pass of the load balancer if the first `k` look-ups of its rows miss. -/
def passAfter (k : Nat) : Except DriverError SyncOutcome × Session (Unit × Nat) :=
  ((driver.delayed k miss).syncLoadBalancer balancer).run (.start ((), 0))

end Sample

/-- Three attempts: a script that succeeds at the second, and rows that appear for the third or too
late. -/
theorem retry_is_exact_and_invisible_on_sample :
    retryOnNotFound 3 (script Sample.outcomes) 0 = (.ok Sample.row, 2) ∧
      ((Sample.passAfter 2).1 = .ok .synced ∧
        (Sample.passAfter 2).2.emitted.map (·.operation) =
          [.lbSync, .poolSync, .memberSync, .handleMemberDvr, .memberDelete, .handleMemberDvr,
            .hmPurge]) ∧
      (Sample.passAfter 3).1 = .ok .recreated ∧ (Sample.passAfter 3).2.world.2 = 3 ∧
        (Sample.passAfter 3).2.emitted.map (·.operation) =
          [.lbCreate, .poolCreate, .memberCreate, .handleMemberDvr] := by
  obtain ⟨hloop, hpass⟩ := Sample.driver.retry_is_exact_and_invisible
    (Backend.fixed_of_subsingleton _) (Network.fixed_of_subsingleton _)
    (fun _ ↦ rfl : ∀ i, (Sample.miss i).isRowNotFound = true)
  obtain ⟨n, ⟨hlt, hbefore, hlast⟩, hresult, -⟩ := hloop Row 3 Sample.outcomes
  have hn : n = 1 := by
    rcases n with _ | _ | n
    · exact absurd (hlast rfl) (by decide)
    · rfl
    · exact absurd (hbefore 1 (by omega)) (by decide)
  subst hn
  obtain ⟨hsynced, hsent⟩ := (hpass Sample.balancer 2 (.start ((), 0)) rfl).1 (by decide)
  obtain ⟨hcount, hcreated, hsent'⟩ := (hpass Sample.balancer 3 (.start ((), 0)) rfl).2 (by decide)
  refine ⟨hresult, ⟨?_, ?_⟩, ?_, hcount, ?_⟩
  · rw [Sample.passAfter, hsynced]
    decide +kernel
  · rw [Sample.passAfter, hsent]
    decide +kernel
  · rw [Sample.passAfter, hcreated]
    decide +kernel
  · rw [Sample.passAfter, hsent']
    decide +kernel

end BalancerSync
