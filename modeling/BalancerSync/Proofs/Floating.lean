import BalancerSync.Proofs.Pass

/-!
# Floating addresses settle

What is done about a floating address depends on four findings: the rows of the load balancer, the
port of its virtual address, what the network layer lists for the port and what the logical port
has recorded.  A request is sent only if all of them could be made and the two sides agree on an
address that some row lacks.  Once all rows carry that address, nothing is left to do.
-/

namespace BalancerSync

variable {σ τ : Type}

/-! ## Rows that carry an address -/

/-- The row with this floating address recorded. -/
def Row.withFip (fip : String) (r : Row) : Row :=
  { r with externalIds := Dictionary.insert r.externalIds "neutron:vip_fip" fip }

/-- A row that was given an address carries it. -/
theorem Row.vipFip?_withFip {fip : String} (h : fip ≠ "") (r : Row) :
    (r.withFip fip).vipFip? = some fip := by
  simp [Row.vipFip?, Metadata.text?, Row.withFip, Dictionary.get?_insert, h]

/-- The port of the virtual address is recorded elsewhere. -/
theorem Row.vipPortId?_withFip (fip : String) (r : Row) :
    (r.withFip fip).vipPortId? = r.vipPortId? := by
  simp [Row.vipPortId?, Metadata.text?, Row.withFip, Dictionary.get?_insert]

/-- No text of a row is empty. -/
theorem Metadata.ne_empty_of_text? {m : Metadata} {key s : String} (h : m.text? key = some s) :
    s ≠ "" := by
  simpa using (Option.filter_eq_some_iff.1 h).2

/-- A port never records an empty address. -/
theorem LogicalPort.fip?_ne_empty {p : LogicalPort} {fip : String} (h : p.fip? = some fip) :
    fip ≠ "" := Metadata.ne_empty_of_text? h

/-- Two requests for a floating address are equal only if all that they say is. -/
theorem ChangeRequest.syncVipFip_inj {lbId lbId' portId portId' name name' fip fip' : String} :
    syncVipFip lbId portId name fip = syncVipFip lbId' portId' name' fip' ↔
      lbId = lbId' ∧ portId = portId' ∧ name = name' ∧ fip = fip' := by
  simp [syncVipFip]

/-! ## Decisions -/

namespace FipDecision

variable {external recorded : Option String} {rows : List (Option String)}

/-- Whether the network layer and the logical port agree. -/
def agrees : FipDecision → Bool
  | inSync | apply _ => true
  | missingOnPort _ | mismatch .. | missingExternally _ => false

/-- The requests for an address on a port. -/
def requests (lbId portId portName : String) : FipDecision → List ChangeRequest
  | apply fip => [.syncVipFip lbId portId portName fip]
  | inSync | missingOnPort _ | mismatch .. | missingExternally _ => []

/-- The only request that a decision leads to is for the address to apply. -/
theorem mem_requests {x : FipDecision} {lbId portId portName : String} {r : ChangeRequest} :
    r ∈ x.requests lbId portId portName ↔
      ∃ fip, x = apply fip ∧ r = .syncVipFip lbId portId portName fip := by
  cases x <;> simp [requests]

/-- A decision leads only to a request for the port that it is about. -/
theorem syncVipFip_mem_requests {x : FipDecision} {lbId portId portId' portName portName' : String}
    {fip : String} :
    .syncVipFip lbId portId' portName' fip ∈ x.requests lbId portId portName ↔
      x = apply fip ∧ portId' = portId ∧ portName' = portName := by
  simp only [mem_requests, ChangeRequest.syncVipFip_inj, true_and]
  constructor
  · rintro ⟨_, h, hport, hname, rfl⟩
    exact ⟨h, hport, hname⟩
  · rintro ⟨h, hport, hname⟩
    exact ⟨fip, h, hport, hname, rfl⟩

/-- A decision leads to one request at most. -/
theorem length_requests_le (x : FipDecision) (lbId portId portName : String) :
    (x.requests lbId portId portName).length ≤ 1 := by
  cases x <;> simp [requests]

/-- If the two sides disagree, nothing is sent. -/
theorem requests_of_not_agrees {x : FipDecision} (h : x.agrees = false)
    (lbId portId portName : String) : x.requests lbId portId portName = [] := by
  cases x with
  | inSync | apply _ => cases h
  | missingOnPort _ | mismatch _ _ | missingExternally _ => rfl

/-- An address is written if both sides have it and the rows do not all carry it. -/
theorem decide_eq_apply_iff {fip : String} :
    decide external recorded rows = apply fip ↔
      external = some fip ∧ recorded = some fip ∧ (rows = [] ∨ ∃ r ∈ rows, r ≠ some fip) := by
  rcases external with _ | e <;> rcases recorded with _ | r
  · simp [decide]
  · simp [decide]
  · simp [decide]
  by_cases her : e = r
  · subst her
    have hcarried : (!rows.isEmpty && rows.all (· == some e)) = true ↔
        ¬ (rows = [] ∨ ∃ r ∈ rows, r ≠ some e) := by
      simp
    simp only [decide, ne_eq, not_true, if_false, Option.some.injEq]
    split
    · next h =>
      constructor
      · intro hsync
        cases hsync
      · rintro ⟨rfl, -, hlacks⟩
        exact absurd hlacks (hcarried.1 h)
    · next h =>
      have hlacks := not_not.1 (mt hcarried.2 h)
      constructor
      · rintro ⟨⟩
        exact ⟨rfl, rfl, hlacks⟩
      · rintro ⟨rfl, -, -⟩
        rfl
  · simp only [decide, ne_eq, her, not_false_eq_true, if_true, Option.some.injEq]
    constructor
    · intro hmismatch
      cases hmismatch
    · rintro ⟨rfl, rfl, -⟩
      exact absurd rfl her

/-- If both sides have the address and all rows do, there is nothing left to do. -/
theorem decide_of_carried {fip : String} (hne : rows ≠ []) (h : ∀ r ∈ rows, r = some fip) :
    decide (some fip) (some fip) rows = inSync := by
  have hcarried : (!rows.isEmpty && rows.all (· == some fip)) = true := by
    simpa [hne] using h
  simp [decide, hcarried]

/-- The two sides agree if they know the same address, or both none. -/
theorem agrees_decide : (decide external recorded rows).agrees = true ↔ external = recorded := by
  rcases external with _ | e <;> rcases recorded with _ | r
  · simp [decide, agrees]
  · simp [decide, agrees]
  · simp [decide, agrees]
  by_cases her : e = r
  · subst her
    simp only [decide, ne_eq, not_true, if_false, iff_true]
    split <;> rfl
  · simp [decide, her, agrees]

end FipDecision

/-! ## Findings -/

/-- What is to be found out about the floating address of a load balancer. -/
@[ext]
structure FipFindings where
  rows : List Row
  portId : String
  fips : List String
  port? : Option LogicalPort
  deriving DecidableEq, Repr

namespace FipFindings

variable (k : FipFindings)

/-- The address that the network layer knows, which is the first that it lists. -/
def external : Option String := k.fips.head?

/-- The address that the logical port has recorded. -/
def recorded : Option String := k.port?.bind LogicalPort.fip?

/-- A port that is not there yet goes by its id. -/
def portName : String := (k.port?.map (·.name)).getD k.portId

/-- The load balancer has no rows yet, or one that does not carry the address. -/
def Lacks (fip : String) : Prop := k.rows = [] ∨ ∃ row ∈ k.rows, row.vipFip? ≠ some fip

def decision : FipDecision := .decide k.external k.recorded (k.rows.map Row.vipFip?)

/-- The findings once all rows carry the address. -/
def carrying (fip : String) : FipFindings := { k with rows := k.rows.map (Row.withFip fip) }

variable {k}

/-- An address is to be applied if both sides know it and some row lacks it. -/
theorem decision_eq_apply_iff {fip : String} :
    k.decision = .apply fip ↔
      k.external = some fip ∧ k.recorded = some fip ∧ k.Lacks fip := by
  unfold decision Lacks
  rw [FipDecision.decide_eq_apply_iff]
  simp

theorem recorded_ne_empty {fip : String} (h : k.recorded = some fip) : fip ≠ "" := by
  obtain ⟨port, -, hfip⟩ := Option.bind_eq_some_iff.1 h
  exact LogicalPort.fip?_ne_empty hfip

/-- Once all rows carry the address that both sides agree on, they are in sync. -/
theorem decision_carrying {fip : String} (hexternal : k.external = some fip)
    (hrecorded : k.recorded = some fip) (hrows : k.rows ≠ []) :
    (k.carrying fip).decision = .inSync := by
  have hfip := recorded_ne_empty hrecorded
  have hsides : (k.carrying fip).external = some fip ∧ (k.carrying fip).recorded = some fip :=
    ⟨hexternal, hrecorded⟩
  unfold decision
  rw [hsides.1, hsides.2]
  apply FipDecision.decide_of_carried
  · simpa [carrying] using hrows
  · simp [carrying, Row.vipFip?_withFip hfip]

end FipFindings

/-! ## What can be found out -/

namespace Driver

section Finds

variable (d : Driver σ) (lb : LoadBalancer) (w : σ)

/-- These are the findings about a load balancer on a network: no question fails, except that there
may be no rows, and the port is the one of the load balancer, else of the first row that has one.
Each question is asked in the world that the one before has left. -/
structure Finds (k : FipFindings) : Prop where
  network : ∃ network, lb.vipNetworkId.nonEmpty = some network
  rows : (d.backend.findLoadBalancers lb.id w).1 = .ok k.rows ∨
    k.rows = [] ∧ ∃ table id,
      (d.backend.findLoadBalancers lb.id w).1 = .error (.rowNotFound table id)
  portId : lb.vipPortId.nonEmpty = some k.portId ∨
    lb.vipPortId.nonEmpty = none ∧ ∃ before row after, k.rows = before ++ row :: after ∧
      (∀ r ∈ before, r.vipPortId? = none) ∧ row.vipPortId? = some k.portId
  fips : (d.network.floatingIps k.portId (d.backend.findLoadBalancers lb.id w).2).1 = .ok k.fips
  port : (d.backend.logicalPort k.portId
    (d.network.floatingIps k.portId (d.backend.findLoadBalancers lb.id w).2).2).1 = .ok k.port?

end Finds

/-- The port is the one of the load balancer, else of the first row that has one. -/
theorem vipPort?_eq_some_iff {lb : LoadBalancer} {rows : List Row} {portId : String} :
    vipPort? lb rows = some portId ↔
      lb.vipPortId.nonEmpty = some portId ∨
        lb.vipPortId.nonEmpty = none ∧ ∃ before row after, rows = before ++ row :: after ∧
          (∀ r ∈ before, r.vipPortId? = none) ∧ row.vipPortId? = some portId := by
  unfold vipPort?
  cases lb.vipPortId.nonEmpty with
  | some own => simp
  | none => simp [List.findSome?_eq_some_iff, and_comm]

/-- The rows that were looked up for a floating address. -/
theorem run_rowsForFip (d : Driver σ) (lbId : String) (s : Session σ) :
    ∃ rows?, (d.rowsForFip lbId).run s =
        (.ok rows?, { s with world := (d.backend.findLoadBalancers lbId s.world).2 }) ∧
      ∀ rows, rows? = some rows ↔
        (d.backend.findLoadBalancers lbId s.world).1 = .ok rows ∨
          rows = [] ∧ ∃ table id,
            (d.backend.findLoadBalancers lbId s.world).1 = .error (.rowNotFound table id) := by
  unfold rowsForFip
  rw [Act.run_observe_bind, Act.askBackend, Act.run_ask]
  rcases (d.backend.findLoadBalancers lbId s.world).1 with e | found
  · cases e with
    | rowNotFound table id => exact ⟨some [], rfl, by simp [eq_comm]⟩
    | unavailable detail => exact ⟨none, rfl, by simp⟩
  · exact ⟨some found, rfl, by simp⟩

section Found

variable {d : Driver σ} {lb : LoadBalancer} {s : Session σ} {k k' : FipFindings}

/-- There is only one thing to be found out. -/
theorem Finds.unique (h : d.Finds lb s.world k) (h' : d.Finds lb s.world k') : k = k' := by
  obtain ⟨rows?, -, hrows⟩ := d.run_rowsForFip lb.id s
  have hrow : k.rows = k'.rows :=
    Option.some.inj (((hrows k.rows).2 h.rows).symm.trans ((hrows k'.rows).2 h'.rows))
  have hport : k.portId = k'.portId := by
    have hp := vipPort?_eq_some_iff.2 h.portId
    have hp' := vipPort?_eq_some_iff.2 h'.portId
    rw [← hrow] at hp'
    exact Option.some.inj (hp.symm.trans hp')
  have hfips := h'.fips
  have hlogical := h'.port
  rw [← hport] at hfips hlogical
  have hf : k.fips = k'.fips := Except.ok.inj (h.fips.symm.trans hfips)
  have hl : k.port? = k'.port? := Except.ok.inj (h.port.symm.trans hlogical)
  exact FipFindings.ext hrow hport hf hl

/-- On a known port two more questions are asked, and the decision on their answers is carried out
unless one of them fails. -/
theorem run_syncFipOnPort (d : Driver σ) (lbId portId : String) (rows : List Row) (s : Session σ) :
    (∃ fips port? w, (d.network.floatingIps portId s.world).1 = .ok fips ∧
      (d.backend.logicalPort portId (d.network.floatingIps portId s.world).2).1 = .ok port? ∧
      (d.syncFipOnPort lbId portId rows).run s =
        (applyFip lbId portId (FipFindings.mk rows portId fips port?).portName
          (FipFindings.mk rows portId fips port?).decision).run { s with world := w }) ∨
    (∀ fips port?, (d.network.floatingIps portId s.world).1 = .ok fips →
      (d.backend.logicalPort portId (d.network.floatingIps portId s.world).2).1 ≠ .ok port?) ∧
      ∃ w, (d.syncFipOnPort lbId portId rows).run s = (.ok false, { s with world := w }) := by
  unfold syncFipOnPort
  rw [Act.run_observe_bind, Act.askNetwork, Act.run_ask]
  rcases d.network.floatingIps portId s.world with ⟨e | fips, w⟩
  · exact .inr ⟨by simp, _, rfl⟩
  dsimp only [Except.mapError_ok]
  rw [Act.run_observe_bind, Act.askBackend, Act.run_ask]
  rcases d.backend.logicalPort portId w with ⟨e | port?, w'⟩
  · exact .inr ⟨by simp, _, rfl⟩
  · exact .inl ⟨fips, port?, w', rfl, rfl, rfl⟩

/-- What is done about a floating address: the decision on the findings is carried out, or some of
them could not be made and nothing is done. -/
theorem run_syncVipFip (d : Driver σ) (lb : LoadBalancer) (s : Session σ) :
    (∃ k w, d.Finds lb s.world k ∧ (d.syncVipFip lb).run s =
      (applyFip lb.id k.portId k.portName k.decision).run { s with world := w }) ∨
    (∀ k, ¬ d.Finds lb s.world k) ∧
      ∃ w, (d.syncVipFip lb).run s = (.ok false, { s with world := w }) := by
  unfold syncVipFip
  -- Wherever something is missing the answer is no, and then there are no findings either.
  cases hnetwork : lb.vipNetworkId.nonEmpty with
  | none =>
    right
    refine ⟨fun k h ↦ ?_, s.world, rfl⟩
    obtain ⟨network, hk⟩ := h.network
    cases hnetwork.symm.trans hk
  | some network =>
    obtain ⟨rows?, hlookUp, hrows⟩ := d.run_rowsForFip lb.id s
    dsimp only
    rw [Act.run_bind_of_ok hlookUp]
    cases rows? with
    | none =>
      right
      refine ⟨fun k h ↦ ?_, _, rfl⟩
      cases (hrows k.rows).2 h.rows
    | some rows =>
      have hfound (k : FipFindings) (h : d.Finds lb s.world k) : k.rows = rows :=
        (Option.some.inj ((hrows k.rows).2 h.rows)).symm
      dsimp only
      cases hport : vipPort? lb rows with
      | none =>
        right
        refine ⟨fun k h ↦ ?_, _, rfl⟩
        have hk := vipPort?_eq_some_iff.2 h.portId
        rw [hfound k h, hport] at hk
        cases hk
      | some portId =>
        have hknown (k : FipFindings) (h : d.Finds lb s.world k) : k.portId = portId := by
          have hk := vipPort?_eq_some_iff.2 h.portId
          rw [hfound k h, hport] at hk
          exact (Option.some.inj hk).symm
        dsimp only
        rcases d.run_syncFipOnPort lb.id portId rows
          { s with world := (d.backend.findLoadBalancers lb.id s.world).2 }
          with ⟨fips, port?, w, hfips, hlogical, hrun⟩ | ⟨hnone, w, hrun⟩
        · left
          exact ⟨⟨rows, portId, fips, port?⟩, w, ⟨⟨network, hnetwork⟩, (hrows rows).1 rfl,
            vipPort?_eq_some_iff.1 hport, hfips, hlogical⟩, hrun⟩
        · right
          refine ⟨fun k h ↦ ?_, w, hrun⟩
          have hfips := h.fips
          have hlogical := h.port
          rw [hknown k h] at hfips hlogical
          exact hnone k.fips k.port? hfips hlogical

end Found

/-- A decision is carried out with one request, or none. -/
theorem run_applyFip {s : Session σ} (ho : s.isOpen = true) (lbId portId portName : String)
    (x : FipDecision) :
    (applyFip lbId portId portName x).run s =
      (.ok x.agrees, s.sent (x.requests lbId portId portName)) := by
  cases x with
  | inSync | missingOnPort _ | mismatch _ _ | missingExternally _ =>
    simp [applyFip, FipDecision.agrees, FipDecision.requests]
  | apply fip =>
    unfold applyFip
    rw [Act.run_bind_of_ok (Act.emit_of_open ho _)]
    rfl

/-! ## Once all rows carry the address -/

end Driver

/-- The backend with an address recorded in all of its rows. -/
def Backend.carrying (b : Backend σ) (fip : String) : Backend σ :=
  { b with
    findLoadBalancers := fun id ↦ List.map (Row.withFip fip) <$> b.findLoadBalancers id
    findByPoolKey := fun key ↦ Option.map (Row.withFip fip) <$> b.findByPoolKey key }

theorem Call.run_map {ε α β : Type} (f : α → β) (call : Call σ ε α) (w : σ) :
    (f <$> call) w = ((call w).1.map f, (call w).2) := by
  rw [map_eq_pure_bind, Call.run_bind]
  rcases call w with ⟨e | a, v⟩ <;> rfl

namespace Driver

/-- The driver, when an address has been recorded in all rows. -/
def carrying (d : Driver σ) (fip : String) : Driver σ :=
  { d with backend := d.backend.carrying fip }

section Carrying

variable {d : Driver σ} {lb : LoadBalancer} {w : σ} {k : FipFindings}

/-- Nothing else is found out than before. -/
theorem Finds.carrying (h : d.Finds lb w k) (fip : String) :
    (d.carrying fip).Finds lb w (k.carrying fip) := by
  have hlookUp : (d.carrying fip).backend.findLoadBalancers lb.id w =
      ((d.backend.findLoadBalancers lb.id w).1.map (List.map (Row.withFip fip)),
        (d.backend.findLoadBalancers lb.id w).2) := Call.run_map _ _ w
  refine ⟨h.network, ?_, ?_, ?_, ?_⟩
  · rw [hlookUp]
    rcases h.rows with hrows | ⟨hnone, table, id, hrows⟩
    · left
      rw [hrows]
      rfl
    · right
      rw [hrows]
      exact ⟨by simp [FipFindings.carrying, hnone], table, id, rfl⟩
  · rcases h.portId with hown | ⟨hnone, before, row, after, hrows, hbefore, hrow⟩
    · exact .inl hown
    · refine .inr ⟨hnone, before.map (Row.withFip fip), row.withFip fip,
        after.map (Row.withFip fip), ?_, ?_, ?_⟩
      · simp [FipFindings.carrying, hrows]
      · simpa [Row.vipPortId?_withFip] using hbefore
      · rw [Row.vipPortId?_withFip]
        exact hrow
  · rw [hlookUp]
    exact h.fips
  · rw [hlookUp]
    exact h.port

/-- If both sides agree and all rows carry the address, nothing is sent, be the applier open. -/
theorem run_syncVipFip_carrying {s : Session σ} {fip : String} (hexternal : k.external = some fip)
    (hrecorded : k.recorded = some fip) (hrows : k.rows ≠ [])
    (h : d.Finds lb s.world (k.carrying fip)) :
    ∃ t, (d.syncVipFip lb).run s = (.ok true, t) ∧ t.emitted = s.emitted := by
  rcases d.run_syncVipFip lb s with ⟨k', w, hk', hrun⟩ | ⟨hnone, -⟩
  · obtain rfl := hk'.unique h
    rw [FipFindings.decision_carrying hexternal hrecorded hrows] at hrun
    exact ⟨_, hrun, rfl⟩
  · exact absurd h (hnone _)

end Carrying

/-- A floating address is synchronised without an error and with at most one request. It is written
if everything could be found out, the first address that the network layer lists is the one that
the logical port has recorded, and there are no rows or one that does not carry it. As soon as all
rows carry the address there is nothing left to do. While the two sides disagree, or only one has
an address, nothing is sent and the answer is no. -/
theorem syncVipFip_settles (d : Driver σ) (lb : LoadBalancer) {s : Session σ}
    (ho : s.isOpen = true) :
    ∃ agrees t rs, (d.syncVipFip lb).run s = (.ok agrees, t) ∧ t.emitted = s.emitted ++ rs ∧
      rs.length ≤ 1 ∧
      (∀ r ∈ rs, ∃ k fip, d.Finds lb s.world k ∧
        r = .syncVipFip lb.id k.portId k.portName fip) ∧
      (∀ fip, (∃ portId portName, .syncVipFip lb.id portId portName fip ∈ rs) ↔
        ∃ k, d.Finds lb s.world k ∧
          k.external = some fip ∧ k.recorded = some fip ∧ k.Lacks fip) ∧
      ∀ k, d.Finds lb s.world k →
        (k.external ≠ k.recorded → rs = [] ∧ agrees = false) ∧
        ∀ fip, .syncVipFip lb.id k.portId k.portName fip ∈ rs → k.rows ≠ [] →
          (d.carrying fip).Finds lb s.world (k.carrying fip) ∧
          ∀ (τ : Type) (d' : Driver τ) (s' : Session τ), d'.Finds lb s'.world (k.carrying fip) →
            ∃ t', (d'.syncVipFip lb).run s' = (.ok true, t') ∧ t'.emitted = s'.emitted := by
  rcases d.run_syncVipFip lb s with ⟨k, w, hk, hrun⟩ | ⟨hnone, w, hrun⟩
  · have hopen : { s with world := w }.isOpen = true := ho
    rw [run_applyFip hopen] at hrun
    refine ⟨_, _, k.decision.requests lb.id k.portId k.portName, hrun, rfl,
      FipDecision.length_requests_le .., ?_, ?_, ?_⟩
    · intro r hr
      obtain ⟨fip, -, rfl⟩ := FipDecision.mem_requests.1 hr
      exact ⟨k, fip, hk, rfl⟩
    · intro fip
      constructor
      · rintro ⟨portId, portName, h⟩
        obtain ⟨happly, -⟩ := FipDecision.syncVipFip_mem_requests.1 h
        exact ⟨k, hk, FipFindings.decision_eq_apply_iff.1 happly⟩
      · rintro ⟨k', hk', h⟩
        -- There is only one way to find all this, so `k'` is what the call itself has found.
        obtain rfl := hk.unique hk'
        have happly := FipFindings.decision_eq_apply_iff.2 h
        exact ⟨_, _, FipDecision.syncVipFip_mem_requests.2 ⟨happly, rfl, rfl⟩⟩
    · intro k' hk'
      obtain rfl := hk.unique hk'
      constructor
      · intro hne
        have hagrees : k.decision.agrees = false :=
          Bool.eq_false_iff.2 (mt FipDecision.agrees_decide.1 hne)
        exact ⟨FipDecision.requests_of_not_agrees hagrees .., hagrees⟩
      · intro fip h hrows
        obtain ⟨happly, -⟩ := FipDecision.syncVipFip_mem_requests.1 h
        obtain ⟨hexternal, hrecorded, -⟩ := FipFindings.decision_eq_apply_iff.1 happly
        exact ⟨hk.carrying fip, fun τ d' s' h' ↦
          run_syncVipFip_carrying hexternal hrecorded hrows h'⟩
  · refine ⟨false, _, [], hrun, by simp, by simp, by simp, ?_, ?_⟩
    · intro fip
      constructor
      · rintro ⟨_, _, h⟩
        cases h
      · rintro ⟨k, hk, -⟩
        exact absurd hk (hnone k)
    · intro k hk
      exact absurd hk (hnone k)

end Driver

/-! ## A row that is behind -/

namespace Sample

/-- The load balancer has a virtual address on a network, and does not know its port. -/
def floating : LoadBalancer := { balancer with vipNetworkId := .value "net" }

/-- The port is known to the row. -/
def behind : Row := ⟨"u1", "lb1", none, [("neutron:vip_port_id", "port1")]⟩

def store : Store :=
  (Store.empty.insertLoadBalancer behind).insertLogicalPort
    ⟨"port1", [("neutron:port_fip", "203.0.113.7")]⟩

def floatingDriver : Driver Store :=
  ⟨Store.backend, { offline with floatingIps := fun _ ↦ return ["203.0.113.7"] }, catalog, .default⟩

end Sample

/-- The address is written to the row, and then no more. -/
theorem syncVipFip_catches_up :
    ((Sample.floatingDriver.syncVipFip Sample.floating).run (.start Sample.store)).2.emitted =
      [.syncVipFip "lb1" "port1" "port1" "203.0.113.7"] ∧
    ∃ t, (Sample.floatingDriver.syncVipFip Sample.floating).run
        (.start (Sample.store.insertLoadBalancer (Sample.behind.withFip "203.0.113.7"))) =
          (.ok true, t) ∧ t.emitted = [] := by
  let k : FipFindings := ⟨[Sample.behind], "port1", ["203.0.113.7"],
    some ⟨"port1", [("neutron:port_fip", "203.0.113.7")]⟩⟩
  have hk : Sample.floatingDriver.Finds Sample.floating Sample.store k :=
    ⟨⟨"net", rfl⟩, .inl rfl, .inr ⟨rfl, [], Sample.behind, [], rfl, by simp, rfl⟩, rfl, rfl⟩
  have hsent : ((Sample.floatingDriver.syncVipFip Sample.floating).run
      (.start Sample.store)).2.emitted = [.syncVipFip "lb1" "port1" "port1" "203.0.113.7"] := rfl
  refine ⟨hsent, ?_⟩
  obtain ⟨agrees, t, rs, hrun, ht, -, -, -, hagain⟩ :=
    Sample.floatingDriver.syncVipFip_settles Sample.floating (s := .start Sample.store) rfl
  have hrs : [.syncVipFip "lb1" "port1" "port1" "203.0.113.7"] = rs := by
    rw [← hsent, hrun]
    exact ht
  obtain ⟨-, hrows⟩ := (hagain k hk).2 "203.0.113.7"
    (by rw [← hrs]; exact List.mem_singleton.2 rfl) (List.cons_ne_nil _ _)
  exact hrows Store Sample.floatingDriver
    (.start (Sample.store.insertLoadBalancer (Sample.behind.withFip "203.0.113.7")))
    ⟨⟨"net", rfl⟩, .inl rfl, .inr ⟨rfl, [], Sample.behind.withFip "203.0.113.7", [], rfl, by simp,
      rfl⟩, rfl, rfl⟩

end BalancerSync
