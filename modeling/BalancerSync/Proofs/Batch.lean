import BalancerSync.Proofs.Bag
import BalancerSync.Proofs.Pass
import Mathlib.Data.List.Forall2

/-!
# Replacing the members of a pool

A batch takes the place of all members that are recorded for a pool.  It finds a subnet for each of
its members before it sends anything, asking for the subnet of the virtual address once at most.
Then it matches members and recorded entries: a member that finds an equal entry is an update and
takes the entry away, and the entries that nobody takes are deleted.
-/

namespace BalancerSync

variable {σ : Type}

open Bag

/-- A pool is required to have a row. -/
theorem run_requirePool (b : Backend σ) (poolId : String) (w : σ) :
    requirePool b poolId w =
      match findByPoolId b poolId w with
      | (.ok (some found), v) => (.ok found, v)
      | (.ok none, v) => (.error (.balancerNotFound (poolKey poolId)), v)
      | (.error e, v) => (.error e, v) := by
  rw [requirePool, Call.run_bind]
  rcases findByPoolId b poolId w with ⟨e | _ | found, v⟩ <;> rfl

namespace Driver

variable (d : Driver σ)

/-! ## The subnet of a row -/

/-- What the answer of the network layer says about the subnet of a virtual address. -/
def knownSubnet : Except ApiError Subnet → Except DriverError (Option (String × String))
  | .ok subnet => .ok (some (subnet.id, subnet.cidr))
  | .error e => if e.isNotFound then .ok none else .error (.api e)

/-- The subnet of a row's virtual address, as it is found out in a world. -/
def rowSubnet (row : Row) (w : σ) : Except DriverError (Option (String × String)) :=
  match row.vipSubnetId? with
  | none => .ok none
  | some id => knownSubnet (d.network.subnet id w).1

/-- The world in which the subnet of a row's virtual address has been asked for. -/
def afterRowSubnet (row : Row) (w : σ) : σ :=
  match row.vipSubnetId? with
  | none => w
  | some id => (d.network.subnet id w).2

/-- The subnet of a row is found out without any effect but on the world. -/
theorem run_subnetOfRow (row : Row) (s : Session σ) :
    (d.subnetOfRow row).run s =
      (d.rowSubnet row s.world, { s with world := d.afterRowSubnet row s.world }) := by
  unfold subnetOfRow rowSubnet afterRowSubnet
  cases row.vipSubnetId? with
  | none => rfl
  | some id =>
    change Act.run (Act.observe (Act.askNetwork (d.network.subnet id)) >>= _) s = _
    rw [Act.run_observe_bind, Act.askNetwork, Act.run_ask]
    rcases hsubnet : d.network.subnet id s.world with ⟨e | subnet, w⟩
    · by_cases he : e.isNotFound = true <;> simp [knownSubnet, he, hsubnet]
    · simp [knownSubnet, hsubnet]

/-! ## The subnets of a batch -/

/-- Whether the member's address is of another family than those of the row. -/
def conflicts (row : Row) (m : Member) : Bool :=
  m.address.nonEmpty.any (ipVersionDiffers row.vips)

/-- The subnet that a member of a row is placed in, unless the member is refused: its own, or the
one of the virtual address if it contains the member's address. Only the errors tell for what. -/
def memberSubnet (refusal : Refusal) (action : MemberAction) (row : Row)
    (found : Except DriverError (Option (String × String))) (m : Member) :
    Except DriverError String :=
  if m.hasMonitorOptions then .error (.unsupported refusal)
  else if conflicts row m then .error .ipVersionMixing
  else
    match m.subnetId.nonEmpty with
    | some subnet => .ok subnet
    | none => found.bind (requireSubnet action (m.address.nonEmpty.getD ""))

/-- The subnet of a member of a batch. -/
abbrev batchSubnet : Row → Except DriverError (Option (String × String)) → Member →
    Except DriverError String :=
  memberSubnet .batchMonitor .batchUpdate

/-- All members of a batch with their subnets. -/
def batchSubnets (row : Row) (found : Except DriverError (Option (String × String)))
    (ms : List Member) : Except DriverError (List (Member × String)) :=
  ms.mapM fun m ↦ (batchSubnet row found m).map (m, ·)

/-- A member conflicts if it has an address and that is of the other family. -/
theorem conflicts_iff (row : Row) (m : Member) :
    conflicts row m = true ↔
      m.address.nonEmpty.getD "" ≠ "" ∧
        ipVersionDiffers row.vips (m.address.nonEmpty.getD "") = true := by
  have hne : ∀ a ∈ m.address.nonEmpty, a ≠ "" := by
    intro a ha
    simpa using (Option.mem_filter_iff.1 ha).2
  unfold conflicts
  cases ha : m.address.nonEmpty with
  | none => simp
  | some a => simp [hne a (by simp [ha])]

/-- Whether the subnet of the virtual address is looked at for a member of a batch. -/
def needsSubnet (row : Row) (m : Member) : Bool :=
  !m.hasMonitorOptions && !conflicts row m && m.subnetId.nonEmpty.isNone

/-- A member asks for the subnet of the row if nothing rules it out and it has none of its own. -/
theorem needsSubnet_iff {row : Row} {m : Member} :
    needsSubnet row m = true ↔
      m.hasMonitorOptions = false ∧ conflicts row m = false ∧ m.subnetId.nonEmpty = none := by
  simp [needsSubnet, and_assoc]

/-- A step that asks for nothing: either the subnet of the virtual address is known, or it is not
needed. -/
theorem resolveBatch_cons {row : Row} {known : Option (Option (String × String))} {m : Member}
    (found : Except DriverError (Option (String × String)))
    (h : needsSubnet row m = true → ∃ subnet?, known = some subnet? ∧ found = .ok subnet?)
    (ms : List Member) :
    d.resolveBatch row known (m :: ms) =
      Act.check (batchSubnet row found m) >>= fun subnet ↦
        d.resolveBatch row known ms >>= fun rest ↦ pure ((m, subnet) :: rest) := by
  rw [resolveBatch, batchSubnet, memberSubnet]
  have hswap := conflicts_iff row m
  by_cases hmonitor : m.hasMonitorOptions = true
  · rw [if_pos hmonitor, if_pos hmonitor]
    rfl
  rw [if_neg hmonitor, if_neg hmonitor]
  by_cases hconflict : conflicts row m = true
  · rw [if_pos (hswap.1 hconflict), if_pos hconflict]
    rfl
  rw [if_neg (mt hswap.2 hconflict), if_neg hconflict]
  cases hown : m.subnetId.nonEmpty with
  | some subnet => rfl
  | none =>
    obtain ⟨subnet?, rfl, rfl⟩ := h (needsSubnet_iff.2 (by simp [hmonitor, hconflict, hown]))
    rfl

/-- A member that asks for the subnet of the row goes into it, if its address lies there. -/
theorem batchSubnet_of_needs {row : Row} {m : Member} (h : needsSubnet row m = true)
    (found : Except DriverError (Option (String × String))) :
    batchSubnet row found m =
      found.bind (requireSubnet .batchUpdate (m.address.nonEmpty.getD "")) := by
  obtain ⟨hmonitor, hconflict, hown⟩ := needsSubnet_iff.1 h
  simp [memberSubnet, hmonitor, hconflict, hown]

/-- The first member that needs it has the subnet asked for. -/
theorem resolveBatch_ask {row : Row} {m : Member} (h : needsSubnet row m = true)
    (ms : List Member) :
    d.resolveBatch row none (m :: ms) =
      d.subnetOfRow row >>= fun found ↦ d.resolveBatch row (some found) (m :: ms) := by
  obtain ⟨hmonitor, hconflict, hown⟩ := needsSubnet_iff.1 h
  have hstep (found : Option (String × String)) : d.resolveBatch row (some found) (m :: ms) = _ :=
    d.resolveBatch_cons (.ok found) (fun _ ↦ ⟨found, rfl, rfl⟩) ms
  simp only [hstep]
  rw [resolveBatch, if_neg (by simp [hmonitor]),
    if_neg (mt (conflicts_iff row m).2 (by simp [hconflict]))]
  simp [memberSubnet, hmonitor, hconflict, hown]
  rfl

/-- A list of members with their subnets, step by step. -/
theorem batchSubnets_cons (row : Row) (found : Except DriverError (Option (String × String)))
    (m : Member) (ms : List Member) :
    batchSubnets row found (m :: ms) =
      match batchSubnet row found m with
      | .error e => .error e
      | .ok subnet => (batchSubnets row found ms).map ((m, subnet) :: ·) := by
  rw [batchSubnets, List.mapM_cons]
  cases batchSubnet row found m with
  | error e => rfl
  | ok subnet =>
    change (batchSubnets row found ms >>= fun rest ↦ .ok ((m, subnet) :: rest)) = _
    cases batchSubnets row found ms <;> rfl

/-- Once the subnet of the virtual address is known, nobody is asked any more. -/
theorem resolveBatch_of_known (row : Row) (found : Option (String × String)) (ms : List Member) :
    d.resolveBatch row (some found) ms = Act.check (batchSubnets row (.ok found) ms) := by
  induction ms with
  | nil => rfl
  | cons m ms ih =>
    rw [d.resolveBatch_cons (.ok found) fun _ ↦ ⟨found, rfl, rfl⟩, ih, batchSubnets_cons]
    cases batchSubnet row (.ok found) m with
    | error e => rfl
    | ok subnet => cases batchSubnets row (.ok found) ms <;> rfl

/-- What the loop over the members of a batch returns, and whom it asks: the network layer once at
most, and only if some member needs the subnet of the virtual address. -/
theorem run_resolveBatch (row : Row) (ms : List Member) (s : Session σ) :
    ∃ v, (v = s.world ∨ (∃ m ∈ ms, needsSubnet row m = true) ∧
        v = d.afterRowSubnet row s.world) ∧
      (d.resolveBatch row none ms).run s =
        (batchSubnets row (d.rowSubnet row s.world) ms, { s with world := v }) := by
  induction ms with
  | nil => exact ⟨s.world, .inl rfl, rfl⟩
  | cons m ms ih =>
    rw [batchSubnets_cons]
    by_cases hneed : needsSubnet row m = true
    · -- The subnet is asked for here, and known to all members that follow.
      refine ⟨d.afterRowSubnet row s.world, .inr ⟨⟨m, by simp, hneed⟩, rfl⟩, ?_⟩
      rw [d.resolveBatch_ask hneed, Act.run_bind, d.run_subnetOfRow row s]
      rcases d.rowSubnet row s.world with e | found
      · rw [batchSubnet_of_needs hneed]
        rfl
      · simp only [resolveBatch_of_known, Act.run_check, batchSubnets_cons]
    · rw [d.resolveBatch_cons (d.rowSubnet row s.world) fun h ↦ absurd h hneed]
      rcases batchSubnet row (d.rowSubnet row s.world) m with e | subnet
      · exact ⟨s.world, .inl rfl, rfl⟩
      · obtain ⟨v, hv, hrun⟩ := ih
        refine ⟨v, hv.imp_right fun h ↦ ?_, ?_⟩
        · obtain ⟨⟨m', hmem, hm'⟩, hv⟩ := h
          exact ⟨⟨m', List.mem_cons_of_mem m hmem, hm'⟩, hv⟩
        · rw [Act.run_bind_of_ok (Act.run_check _ s), Act.run_bind_pure, hrun]

/-- A batch is resolved if each of its members is. -/
theorem batchSubnets_eq_ok {row : Row} {found : Except DriverError (Option (String × String))}
    {ms : List Member} {resolved : List (Member × String)} :
    batchSubnets row found ms = .ok resolved ↔
      List.Forall₂ (fun m p ↦ p.1 = m ∧ batchSubnet row found m = .ok p.2) ms resolved := by
  induction ms generalizing resolved with
  | nil => cases resolved <;> simp [batchSubnets, pure, Except.pure]
  | cons m ms ih =>
    rw [batchSubnets_cons, List.forall₂_cons_left_iff]
    simp only [← ih]
    rcases hm : batchSubnet row found m with e | subnet
    · simp
    rcases hrest : batchSubnets row found ms with e | rest
    · simp [Except.map]
    constructor
    · rintro h
      obtain rfl : (m, subnet) :: rest = resolved := by simpa [Except.map] using h
      exact ⟨(m, subnet), rest, ⟨rfl, rfl⟩, rfl, rfl⟩
    · rintro ⟨⟨_, _⟩, _, ⟨rfl, hsubnet⟩, hok, rfl⟩
      cases hsubnet
      cases hok
      rfl

/-! ## The requests of a batch -/

/-- The entries under which the members of a batch are recorded. -/
def batchEntries (resolved : List (Member × String)) : List MemberEntry :=
  resolved.map fun p ↦ entryOf p.1 p.2

/-- One request for each member of a batch, an update for those that are marked as recorded. -/
def batchRequests (resolved : List (Member × String)) (recorded : List Bool) :
    List ChangeRequest :=
  List.zipWith (fun p known ↦
    .member (if known then .memberUpdate else .memberCreate) p.1 (some p.2)) resolved recorded

/-- The loop takes recorded entries away one at a time. What it marks are first occurrences, and
what it leaves is a difference of lists. -/
theorem matchBatch_eq (recorded : List MemberEntry) (resolved : List (Member × String)) :
    matchBatch recorded resolved =
      (batchRequests resolved (firsts (recorded.count ·) (batchEntries resolved)),
        recorded.diff (batchEntries resolved)) := by
  induction resolved generalizing recorded with
  | nil => rfl
  | cons p resolved ih =>
    obtain ⟨m, subnet⟩ := p
    have hcons : batchEntries ((m, subnet) :: resolved) =
        entryOf m subnet :: batchEntries resolved := rfl
    rw [matchBatch, ih, hcons, firsts_count_cons, List.diff_cons]
    simp [batchRequests]

/-- All that a batch sends: its members, and then the deletion of the entries that are left. -/
def batchPlan (poolId : String) (recorded : List MemberEntry)
    (resolved : List (Member × String)) : List ChangeRequest :=
  batchRequests resolved (firsts (recorded.count ·) (batchEntries resolved))
    ++ deletions poolId (recorded.diff (batchEntries resolved))

/-- A batch finds the subnets of all of its members, and then sends all it has to send. Of the
collaborators it asks the backend for the pool and the network layer for a subnet at most. -/
theorem run_updateMembers {poolId key : String} {row : Row} {s : Session σ} {w : σ}
    (h : findByPoolId d.backend poolId s.world = (.ok (some (key, row)), w))
    (members : List Member) :
    ∃ v, (v = w ∨ (∃ m ∈ members, needsSubnet row m = true) ∧ v = d.afterRowSubnet row w) ∧
      (d.updateMembers poolId members).run s =
        (Act.check (batchSubnets row (d.rowSubnet row w) members) >>= fun resolved ↦
          Act.submit (batchPlan poolId (row.entries key) resolved)).run { s with world := v } := by
  have hrequire : requirePool d.backend poolId s.world = (.ok (key, row), w) := by
    rw [run_requirePool, h]
  have hask : (Act.askBackend (requirePool d.backend poolId)).run s =
      (.ok (key, row), { s with world := w }) := by
    rw [Act.askBackend, Act.run_ask, hrequire]
    rfl
  obtain ⟨v, hv, hresolve⟩ := d.run_resolveBatch row members { s with world := w }
  refine ⟨v, hv, ?_⟩
  simp only [updateMembers, Act.run_bind_of_ok hask, matchBatch_eq]
  rw [Act.run_bind, Act.run_bind, Act.run_check, hresolve]
  rfl

/-- Only a pool that has a row is updated. -/
theorem findByPoolId_of_updateMembers {poolId : String} {members : List Member}
    {s s' : Session σ} {u : Unit} (h : (d.updateMembers poolId members).run s = (.ok u, s')) :
    ∃ key row w, findByPoolId d.backend poolId s.world = (.ok (some (key, row)), w) := by
  obtain ⟨⟨key, row⟩, t, hask, -⟩ := Act.bind_eq_ok.1 h
  rw [Act.askBackend, Act.run_ask, run_requirePool] at hask
  rcases hfind : findByPoolId d.backend poolId s.world with ⟨e | _ | ⟨key, row⟩, w⟩
  · simp [hfind] at hask
  · simp [hfind] at hask
  · exact ⟨key, row, w, rfl⟩

end Driver

/-- The member that is recorded in the sample row. -/
def Sample.recordedMember : Member :=
  { Sample.member with id := "m2", address := .value "10.0.0.6", port := .value 80 }

end BalancerSync
