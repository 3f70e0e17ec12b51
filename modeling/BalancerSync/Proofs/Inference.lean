import BalancerSync.Proofs.Batch
import BalancerSync.Proofs.Cascade
import BalancerSync.Proofs.Lookup
import BalancerSync.Proofs.Outcome

/-!
# The subnet that a member is given

A member without a subnet of its own goes to the subnet of its load balancer's virtual address.
When a load balancer without such a subnet is created, the network of the address is searched for a
subnet that contains the member; when it is synchronised, nobody looks there.  So a pass places the
members of new pools where the creation does, as long as it comes to no member whose subnet the
creation had to search for.  At such a member it ends.
-/

namespace BalancerSync

variable {σ α : Type}

/-! ## Requests that place members -/

/-- The attributes of the requests with this operation. -/
def infosOf (op : Operation) (rs : List ChangeRequest) : List Attributes :=
  (rs.filter (·.operation = op)).map (·.info)

@[simp] theorem infosOf_nil (op : Operation) : infosOf op [] = [] := rfl

/-- Requests are looked through in order. -/
theorem infosOf_append (op : Operation) (rs rs' : List ChangeRequest) :
    infosOf op (rs ++ rs') = infosOf op rs ++ infosOf op rs' := by
  simp [infosOf]

/-- The attributes of a member that is placed in a subnet. -/
def placement (m : Member) (subnet : String) : Attributes :=
  (ChangeRequest.member .memberCreate m (some subnet)).info

/-- The creation of a member places it once; the notice places nothing. -/
theorem infosOf_cascade (m : Member) (subnet : String) :
    infosOf .memberCreate [.member .memberCreate m (some subnet), .memberAdded m subnet] =
      [placement m subnet] := rfl

/-- The synchronisation of a member places it once, too. -/
theorem infosOf_pass (m : Member) (subnet : String) :
    infosOf .memberSync (Pass.memberRequests m subnet) = [placement m subnet] := rfl

namespace Outcome

/-- The attributes of the members that are placed under this operation. -/
def placed (op : Operation) (o : Outcome) : List Attributes := infosOf op o.sends

@[simp] theorem placed_done (op : Operation) : placed op done = [] := rfl

/-- After a success, what comes next places its members as well. -/
theorem placed_andThen_of_ok {op : Operation} {a : Outcome} (h : a.ends = .ok ()) (b : Outcome) :
    (a.andThen b).placed op = a.placed op ++ b.placed op := by
  rw [andThen_of_ok h]
  exact infosOf_append op a.sends b.sends

/-- Of these members, the first ones are placed in subnets, and all of them if all goes well. -/
def Places (op : Operation) (ms : List Member) (o : Outcome) : Prop :=
  ∃ reached rest, ms = reached ++ rest ∧
    List.Forall₂ (fun m info ↦ ∃ subnet, info = placement m subnet) reached (o.placed op) ∧
    (o.ends = .ok () → rest = [])

namespace Places

variable {op : Operation} {ms ms' : List Member} {a b : Outcome}

theorem nil (h : a.placed op = []) : a.Places op [] :=
  ⟨[], [], rfl, by rw [h]; exact .nil, fun _ ↦ rfl⟩

theorem placed_eq_nil (h : a.Places op []) : a.placed op = [] := by
  obtain ⟨reached, rest, hms, hplaced, -⟩ := h
  obtain ⟨rfl, -⟩ := List.append_eq_nil_iff.1 hms.symm
  exact List.forall₂_nil_left_iff.1 hplaced

/-- The members of a sequence are placed in order, up to the first failure. -/
theorem andThen (ha : a.Places op ms) (hb : b.Places op ms') :
    (a.andThen b).Places op (ms ++ ms') := by
  obtain ⟨reached, rest, rfl, hplaced, hrest⟩ := ha
  obtain ⟨reached', rest', rfl, hplaced', hrest'⟩ := hb
  rcases hends : a.ends with e | _
  · rw [andThen_of_error hends]
    exact ⟨reached, rest ++ (reached' ++ rest'), by simp, hplaced, by simp [hends]⟩
  · obtain rfl := hrest hends
    refine ⟨reached ++ reached', rest', by simp, ?_, ?_⟩
    · rw [placed_andThen_of_ok hends]
      exact List.rel_append hplaced hplaced'
    · rw [andThen_of_ok hends]
      exact hrest'

/-- If all goes well, a member is placed for each request. -/
theorem length_eq (h : a.Places op ms) (hok : a.ends = .ok ()) :
    (a.placed op).length = ms.length := by
  obtain ⟨reached, rest, rfl, hplaced, hrest⟩ := h
  obtain rfl := hrest hok
  rw [List.append_nil, hplaced.length_eq]

/-- No more members are placed than there are. -/
theorem length_le (h : a.Places op ms) : (a.placed op).length ≤ ms.length := by
  obtain ⟨reached, rest, rfl, hplaced, -⟩ := h
  rw [← hplaced.length_eq, List.length_append]
  exact Nat.le_add_right _ _

/-- Members further down are not reached if something fails. -/
theorem take_append_of_error (h : a.Places op ms) {e : DriverError} (hfail : a.ends = .error e)
    (b : Outcome) (ms' : List Member) :
    (ms ++ ms').take ((a.andThen b).placed op).length = ms.take (a.placed op).length := by
  rw [andThen_of_error hfail, List.take_append_of_le_length h.length_le]

/-- After a success, the members that are placed are all of the first part and some of the next. -/
theorem take_append_of_ok (h : a.Places op ms) (hok : a.ends = .ok ()) (b : Outcome)
    (ms' : List Member) :
    (ms ++ ms').take ((a.andThen b).placed op).length =
      ms.take (a.placed op).length ++ ms'.take (b.placed op).length := by
  have hlength := h.length_eq hok
  rw [placed_andThen_of_ok hok, List.length_append, hlength, List.take_append,
    Nat.add_sub_cancel_left, List.take_of_length_le (Nat.le_add_right _ _),
    List.take_of_length_le (Nat.le_refl _)]

end Places

end Outcome

/-! ## A creation and a pass -/

/-- The member has a subnet of its own, or its load balancer has one. -/
def LoadBalancer.Settles (lb : LoadBalancer) (m : Member) : Prop :=
  m.subnetId.nonEmpty.isSome ∨ lb.vipSubnetId.nonEmpty.isSome

instance (lb : LoadBalancer) (m : Member) : Decidable (lb.Settles m) :=
  inferInstanceAs (Decidable (_ ∨ _))

/-- Nothing but the network says where the member belongs. -/
def LoadBalancer.Loses (lb : LoadBalancer) (m : Member) : Prop :=
  ¬lb.Settles m ∧ m.poolId ∈ lb.pools.items.map (·.id)

/-- The members of all pools. -/
def LoadBalancer.members (lb : LoadBalancer) : List Member :=
  lb.pools.items.flatMap (·.members.items)

/-- What the creation and the pass of a load balancer do with some of its members. -/
structure KeepsPace (lb : LoadBalancer) (ms : List Member) (create sync : Outcome) : Prop where
  created : create.Places .memberCreate ms
  synced : sync.Places .memberSync ms
  /-- The pass does what the creation does, if that searches for no subnet. -/
  follows : (∀ m ∈ ms.take (create.placed .memberCreate).length, lb.Settles m) →
    create.placed .memberCreate <+: sync.placed .memberSync ∧
      (create.ends = .ok () → sync.ends = .ok ())
  /-- The pass does not get past a member whose subnet has to be searched for. -/
  stops : ∀ m ∈ ms.take (sync.placed .memberSync).length, ¬lb.Loses m

namespace KeepsPace

open Outcome

variable {lb : LoadBalancer} {ms ms' : List Member} {create create' sync sync' : Outcome}

theorem done : KeepsPace lb [] .done .done where
  created := .nil rfl
  synced := .nil rfl
  follows _ := ⟨List.prefix_rfl, id⟩
  stops := by simp

/-- Items that place nobody, and of which the second goes well if the first does. -/
theorem quiet {r r' : Except DriverError (List ChangeRequest)}
    (h : ∀ rs, r = .ok rs → infosOf .memberCreate rs = [])
    (h' : ∀ rs, r' = .ok rs → infosOf .memberSync rs = [])
    (hok : ∀ rs, r = .ok rs → ∃ rs', r' = .ok rs') :
    KeepsPace lb [] (.ofDue r) (.ofDue r') := by
  have hcreate : (ofDue r).placed .memberCreate = [] := by
    rcases r with e | rs
    · rfl
    · exact h rs rfl
  have hsync : (ofDue r').placed .memberSync = [] := by
    rcases r' with e | rs
    · rfl
    · exact h' rs rfl
  refine ⟨.nil hcreate, .nil hsync, fun _ ↦ ⟨?_, fun hends ↦ ?_⟩, by simp⟩
  · rw [hcreate]
    exact List.nil_prefix
  · rcases r with e | rs
    · cases hends
    · obtain ⟨rs', rfl⟩ := hok rs rfl
      rfl

/-- Items that place one and the same member. -/
theorem place {m : Member} {r r' : Except DriverError (List ChangeRequest)}
    (h : ∀ rs, r = .ok rs → ∃ subnet, infosOf .memberCreate rs = [placement m subnet] ∧
      (lb.Settles m → ∃ rs', r' = .ok rs' ∧ infosOf .memberSync rs' = [placement m subnet]))
    (h' : ∀ rs, r' = .ok rs → ¬lb.Loses m ∧
      ∃ subnet, infosOf .memberSync rs = [placement m subnet]) :
    KeepsPace lb [m] (.ofDue r) (.ofDue r') := by
  have places (op : Operation) (r : Except DriverError (List ChangeRequest))
      (hr : ∀ rs, r = .ok rs → ∃ subnet, infosOf op rs = [placement m subnet]) :
      (ofDue r).Places op [m] := by
    rcases r with e | rs
    · exact ⟨[], [m], rfl, .nil, by simp [ofDue]⟩
    · obtain ⟨subnet, hinfos⟩ := hr rs rfl
      exact ⟨[m], [], rfl, by rw [placed, ofDue, hinfos]; exact .cons ⟨subnet, rfl⟩ .nil, by simp⟩
  refine ⟨places _ r fun rs hrs ↦ ?_, places _ r' fun rs hrs ↦ (h' rs hrs).2, ?_, ?_⟩
  · obtain ⟨subnet, hinfos, -⟩ := h rs hrs
    exact ⟨subnet, hinfos⟩
  · intro hsettled
    rcases r with e | rs
    · exact ⟨List.nil_prefix, by simp [ofDue]⟩
    · obtain ⟨subnet, hinfos, hsync⟩ := h rs rfl
      have hm : lb.Settles m := hsettled m (by simp [placed, ofDue, hinfos])
      obtain ⟨rs', rfl, hinfos'⟩ := hsync hm
      have hsame : (ofDue (.ok rs)).placed .memberCreate = (ofDue (.ok rs')).placed .memberSync :=
        hinfos.trans hinfos'.symm
      exact ⟨hsame ▸ List.prefix_rfl, fun _ ↦ rfl⟩
  · rcases r' with e | rs
    · simp [placed, ofDue]
    · intro m' hm'
      obtain rfl : m' = m := List.mem_singleton.1 (List.mem_of_mem_take hm')
      exact (h' rs rfl).1

/-- Two parts that keep pace do so one after the other. -/
theorem andThen (h : KeepsPace lb ms create sync) (h' : KeepsPace lb ms' create' sync') :
    KeepsPace lb (ms ++ ms') (create.andThen create') (sync.andThen sync') where
  created := h.created.andThen h'.created
  synced := h.synced.andThen h'.synced
  follows hsettled := by
    rcases hcreate : create.ends with e | _
    · rw [h.created.take_append_of_error hcreate] at hsettled
      obtain ⟨hleads, -⟩ := h.follows hsettled
      rw [andThen_of_error hcreate]
      refine ⟨hleads.trans ?_, by simp [hcreate]⟩
      rcases hsync : sync.ends with e' | _
      · have hsame := andThen_of_error hsync sync'
        exact hsame.symm ▸ List.prefix_rfl
      · rw [placed_andThen_of_ok hsync]
        exact List.prefix_append _ _
    · rw [h.created.take_append_of_ok hcreate, List.forall_mem_append] at hsettled
      obtain ⟨hleads, hok⟩ := h.follows hsettled.1
      obtain ⟨hleads', hok'⟩ := h'.follows hsettled.2
      have hsync := hok hcreate
      -- Both have placed all members by now, so one list is not a proper beginning of the other.
      have hlength : (create.placed .memberCreate).length = (sync.placed .memberSync).length :=
        (h.created.length_eq hcreate).trans (h.synced.length_eq hsync).symm
      rw [placed_andThen_of_ok hcreate, placed_andThen_of_ok hsync, hleads.eq_of_length hlength,
        andThen_of_ok hcreate, andThen_of_ok hsync]
      exact ⟨(List.prefix_append_right_inj _).2 hleads', hok'⟩
  stops := by
    rcases hsync : sync.ends with e | _
    · rw [h.synced.take_append_of_error hsync]
      exact h.stops
    · rw [h.synced.take_append_of_ok hsync, List.forall_mem_append]
      exact ⟨h.stops, h'.stops⟩

/-- The creation of a pool comes to the health monitor before the members, a pass after them. -/
theorem turn (hquiet : KeepsPace lb [] create' sync') (h : KeepsPace lb ms create sync) :
    KeepsPace lb ms (create'.andThen create) (sync.andThen sync') := by
  have hsent : (sync.andThen sync').placed .memberSync = sync.placed .memberSync := by
    rcases hsync : sync.ends with e | _
    · rw [andThen_of_error hsync]
    · rw [placed_andThen_of_ok hsync, hquiet.synced.placed_eq_nil, List.append_nil]
  refine ⟨by simpa using hquiet.created.andThen h.created,
    by simpa using h.synced.andThen hquiet.synced, fun hsettled ↦ ?_, ?_⟩
  · rw [hsent]
    rcases hcreate : create'.ends with e | _
    · rw [andThen_of_error hcreate, hquiet.created.placed_eq_nil]
      exact ⟨List.nil_prefix, by simp [hcreate]⟩
    · rw [placed_andThen_of_ok hcreate, hquiet.created.placed_eq_nil, List.nil_append]
        at hsettled ⊢
      obtain ⟨hleads, hok⟩ := h.follows hsettled
      obtain ⟨-, hok'⟩ := hquiet.follows (by simp)
      refine ⟨hleads, fun hends ↦ ?_⟩
      rw [andThen_of_ok hcreate] at hends
      rw [andThen_of_ok (hok hends)]
      exact hok' hcreate
  · rw [hsent]
    exact h.stops

/-- Lists of items that are for one list of things. -/
theorem flatMap {ι κ τ : Type} {d : Driver σ} (hb : d.backend.Fixed) (hn : d.network.Fixed) (w : σ)
    {due : ι → Act σ (List ChangeRequest)} {due' : κ → Act σ (List ChangeRequest)}
    (hd : ∀ x, d.Asks (due x)) (hd' : ∀ x, d.Asks (due' x))
    {f : τ → List ι} {g : τ → List κ} (members : τ → List Member) (xs : List τ)
    (h : ∀ x ∈ xs, KeepsPace lb (members x) (Driver.course w due (f x))
      (Driver.course w due' (g x))) :
    KeepsPace lb (xs.flatMap members) (Driver.course w due (xs.flatMap f))
      (Driver.course w due' (xs.flatMap g)) := by
  induction xs with
  | nil => exact .done
  | cons x xs ih =>
    obtain ⟨hx, hxs⟩ := List.forall_mem_cons.1 h
    rw [List.flatMap_cons, List.flatMap_cons, List.flatMap_cons,
      Driver.course_append hd hb hn, Driver.course_append hd' hb hn]
    exact hx.andThen (ih hxs)

end KeepsPace

/-! ## A backend without the pools -/

/-- An answer that stays the same is not changed by asking again. -/
theorem fst_retry_of_fixed {call : Call σ BackendError α} (h : call.Fixed) (n : Nat) (w : σ) :
    (retry call n w).1 = (call w).1 := by
  induction n generalizing w with
  | zero => rfl
  | succ n ih =>
    unfold retry
    rw [Call.run_tryCatch]
    rcases hcall : call w with ⟨e | a, v⟩
    · dsimp only
      split
      · rw [ih v, h v w, hcall]
      · rfl
    · rfl

/-- The backend has these rows for the load balancer, but no row for any of its pools, and it
answers when it is asked for a health monitor. -/
structure Backend.LacksPools (b : Backend σ) (lb : LoadBalancer) (rows : List Row) (w : σ) :
    Prop where
  listed : (b.findLoadBalancers lb.id w).1 = .ok rows
  holdsNone : ∀ p ∈ lb.pools.items, holdsPool rows p.id = false
  enabled : ∀ p ∈ lb.pools.items, (b.findByPoolKey (poolKey p.id) w).1 = .ok none
  disabled : ∀ p ∈ lb.pools.items, (b.findByPoolKey (disabledPoolKey p.id) w).1 = .ok none
  monitor : ∀ id, ∃ known, (b.hasHealthMonitor id w).1 = .ok known

namespace Driver

open Pass (Item)

variable {d : Driver σ} {lb : LoadBalancer} {rows : List Row} {w : σ}

section Lookups

variable (hb : d.backend.Fixed) (h : d.backend.LacksPools lb rows w)

include hb h

/-- The look-up of a pass finds these rows in every world. -/
theorem lookUpRows_fst (v : σ) : ((d.lookUpRows lb).run (.start v)).1 = .ok rows := by
  have hask : ((d.lookUpRows lb).run (.start v)).1 =
      (retry (d.backend.findLoadBalancers lb.id)
        (max d.config.effectiveAttempts.toNat 1 - 1) v).1.mapError .backend := rfl
  rw [hask, fst_retry_of_fixed (hb.findLoadBalancers lb.id), hb.findLoadBalancers lb.id v w,
    h.listed]
  rfl

/-- No pool of the load balancer is found in any world. -/
theorem findByPoolId_fst {poolId : String} (hp : poolId ∈ lb.pools.items.map (·.id)) (v : σ) :
    (findByPoolId d.backend poolId v).1 = .ok none := by
  obtain ⟨p, hpool, rfl⟩ := List.mem_map.1 hp
  have henabled := (hb.findByPoolKey (poolKey p.id) v w).trans (h.enabled p hpool)
  rw [run_findByPoolId]
  rcases hcall : d.backend.findByPoolKey (poolKey p.id) v with ⟨r, v'⟩
  obtain rfl : r = .ok none := by rwa [hcall] at henabled
  have hdisabled := (hb.findByPoolKey (disabledPoolKey p.id) v' w).trans (h.disabled p hpool)
  dsimp only
  rcases hcall' : d.backend.findByPoolKey (disabledPoolKey p.id) v' with ⟨r', v''⟩
  obtain rfl : r' = .ok none := by rwa [hcall'] at hdisabled
  rfl

/-- Nothing is recorded for a pool that is in no row. -/
theorem recordedFor_fst {p : Pool} (hp : p ∈ lb.pools.items) :
    ((d.recordedFor rows p.id).run (.start w)).1 = .ok [] := by
  have hrows : findInRows rows p.id = none := by
    have hnone := isSome_findInRows rows p.id
    rw [h.holdsNone p hp] at hnone
    simpa using hnone
  have hrequire (v : σ) : (requirePool d.backend p.id v).1 =
      .error (.balancerNotFound (poolKey p.id)) := by
    have hnone := findByPoolId_fst hb h (List.mem_map_of_mem hp) v
    rw [run_requirePool]
    rcases hcall : findByPoolId d.backend p.id v with ⟨r, v'⟩
    obtain rfl : r = .ok none := by rwa [hcall] at hnone
    rfl
  have hfixed : (requirePool d.backend p.id).Fixed := fun v v' ↦ by rw [hrequire, hrequire]
  have hask : ((Act.askBackend (findByPoolIdWithRetry d.backend d.config.effectiveAttempts
      p.id)).run (Session.start w)).1 =
      .error (.backend (.balancerNotFound (poolKey p.id))) := by
    rw [Act.askBackend, Act.run_ask, findByPoolIdWithRetry, retryOnNotFound,
      fst_retry_of_fixed hfixed, hrequire]
    rfl
  unfold recordedFor
  rw [hrows]
  unfold recordedElsewhere
  rw [Act.run_observe_bind, hask]
  rfl

end Lookups

/-! ## Item by item -/

/-- A member that is settled is placed where it or the load balancer says. -/
theorem resolveSubnet_of_settles (d : Driver σ) {m : Member} (hm : lb.Settles m) :
    ∃ subnet, d.fillSubnet lb m = pure (inheritSubnet lb m) ∧
      d.resolveSubnet (inheritSubnet lb m) .creation = pure subnet := by
  rcases hown : m.subnetId.nonEmpty with _ | own
  · obtain ⟨subnet, hvip⟩ := Option.isSome_iff_exists.1 (hm.resolve_left (by simp [hown]))
    have hkept : (Field.value subnet).nonEmpty = some subnet := by
      simpa [Field.nonEmpty] using (Option.filter_eq_some_iff.1 hvip).2
    have hinherit : inheritSubnet lb m = { m with subnetId := .value subnet } := by
      simp [inheritSubnet, hown, hvip]
    refine ⟨subnet, ?_, ?_⟩
    · simp [fillSubnet, cascadeSubnet, hown, hvip, hinherit]
    · simp [hinherit, resolveSubnet, hkept]
  · have hinherit : inheritSubnet lb m = m := by simp [inheritSubnet, hown]
    refine ⟨own, ?_, ?_⟩
    · simp [fillSubnet, hown, hinherit]
    · simp [hinherit, resolveSubnet, hown]

section Items

variable (hb : d.backend.Fixed) (h : d.backend.LacksPools lb rows w)

include hb h

/-- A member that is lost is placed nowhere in a pass. -/
theorem resolveSubnet_of_loses {m : Member} (hm : lb.Loses m) :
    ((d.resolveSubnet (inheritSubnet lb m) .creation).run (.start w)).1 =
      .error (.unsupported (.subnetRequired .creation)) := by
  obtain ⟨hsettles, hpool⟩ := hm
  have hnone : m.subnetId.nonEmpty = none ∧ lb.vipSubnetId.nonEmpty = none := by
    simpa [LoadBalancer.Settles] using hsettles
  have hask : (Act.askBackend (findByPoolId d.backend m.poolId)).run (.start w) =
      (.ok none, .start (findByPoolId d.backend m.poolId w).2) := by
    rw [Act.askBackend, Act.run_ask, Session.start, findByPoolId_fst hb h hpool w]
    rfl
  have hfound : (d.subnetOfPool m.poolId).run (.start w) =
      (.ok none, .start (findByPoolId d.backend m.poolId w).2) :=
    Act.run_bind_of_ok hask _
  have hinherit : inheritSubnet lb m = m := by simp [inheritSubnet, hnone]
  unfold resolveSubnet
  rw [hinherit, hnone.1]
  dsimp only
  rw [Act.run_bind_of_ok hfound, Act.run_check]
  rfl

/-- A member that settles goes to the same subnet either way; one that loses stops the pass. -/
theorem keepsPace_member (m : Member) :
    KeepsPace lb [m] (course w (d.cascadeDue lb) [.member m])
      (course w (d.due lb rows) [.member m]) := by
  rw [course_singleton (d.asks_cascadeDue lb), course_singleton (d.asks_due lb rows)]
  refine .place (fun rs hrs ↦ ?_) (fun rs hrs ↦ ?_)
  · obtain ⟨subnet, hsubnet, rfl⟩ := Act.bind_pure_eq_ok.1 (Act.run_eq_of_fst hrs)
    refine ⟨subnet, infosOf_cascade m subnet, fun hm ↦ ?_⟩
    obtain ⟨subnet', hfill, hresolve⟩ := d.resolveSubnet_of_settles hm
    rw [hfill, pure_bind] at hsubnet
    obtain ⟨_, hvalid, hsubnet⟩ := Act.check_bind_eq_ok.1 hsubnet
    obtain ⟨_, t, -, hsubnet⟩ := Act.bind_eq_ok.1 hsubnet
    obtain rfl : subnet' = subnet := by simpa [hresolve] using congrArg Prod.fst hsubnet
    rw [validateMonitorOptions_inheritSubnet] at hvalid
    refine ⟨Pass.memberRequests m subnet', ?_, infosOf_pass m subnet'⟩
    have hdue : d.due lb rows (.member m) = Act.check (validateMonitorOptions m) >>= fun _ ↦
        pure (Pass.memberRequests m subnet') := by
      simp [due, hresolve]
    rw [hdue, hvalid]
    rfl
  · obtain ⟨subnet, hsubnet, rfl⟩ := due_member_eq_ok (Act.run_eq_of_fst hrs)
    refine ⟨fun hm ↦ ?_, subnet, infosOf_pass m subnet⟩
    have hfail := resolveSubnet_of_loses hb h hm
    rw [hsubnet] at hfail
    cases hfail

end Items

/-- A listener is checked in the same way either way. -/
theorem keepsPace_listener (l : Listener) :
    KeepsPace lb [] (course w (d.cascadeDue lb) [.listener l])
      (course w (d.due lb rows) [.listener l]) := by
  rw [course_singleton (d.asks_cascadeDue lb), course_singleton (d.asks_due lb rows)]
  refine .quiet (fun rs hrs ↦ ?_) (fun rs hrs ↦ ?_) (fun rs hrs ↦ ?_)
  · cases cascadeDue_complete (Act.run_eq_of_fst hrs)
    rfl
  · obtain ⟨rfl, -⟩ := due_listener_eq_ok (Act.run_eq_of_fst hrs)
    rfl
  · obtain ⟨_, hprotocol, hrs⟩ := Act.check_bind_eq_ok.1 (Act.run_eq_of_fst hrs)
    obtain ⟨_, hcidrs, -⟩ := Act.check_bind_eq_ok.1 hrs
    refine ⟨[.listener .listenerSync l], ?_⟩
    rw [due, hprotocol, hcidrs]
    rfl

/-- A pool is checked in the same way either way. -/
theorem keepsPace_head (p : Pool) :
    KeepsPace lb [] (course w (d.cascadeDue lb) [.pool p])
      (course w (d.due lb rows) [.pool p]) := by
  rw [course_singleton (d.asks_cascadeDue lb), course_singleton (d.asks_due lb rows)]
  refine .quiet (fun rs hrs ↦ ?_) (fun rs hrs ↦ ?_) (fun rs hrs ↦ ?_)
  · cases cascadeDue_complete (Act.run_eq_of_fst hrs)
    rfl
  · obtain ⟨rfl, -⟩ := due_pool_eq_ok (Act.run_eq_of_fst hrs)
    unfold Pass.poolRequest
    cases holdsPool rows p.id <;> rfl
  · obtain ⟨_, hprotocol, hrs⟩ := Act.check_bind_eq_ok.1 (Act.run_eq_of_fst hrs)
    obtain ⟨_, halgorithm, hrs⟩ := Act.check_bind_eq_ok.1 hrs
    obtain ⟨_, hpersistence, -⟩ := Act.check_bind_eq_ok.1 hrs
    refine ⟨[Pass.poolRequest rows p], ?_⟩
    rw [due, hprotocol, halgorithm, hpersistence]
    rfl

section Pools

variable (hb : d.backend.Fixed) (h : d.backend.LacksPools lb rows w)

include hb h

/-- The pass also asks whether the health monitor is known. -/
theorem keepsPace_monitor (m : HealthMonitor) :
    KeepsPace lb [] (course w (d.cascadeDue lb) [.monitor m])
      (course w (d.due lb rows) [.monitor m]) := by
  rw [course_singleton (d.asks_cascadeDue lb), course_singleton (d.asks_due lb rows)]
  refine .quiet (fun rs hrs ↦ ?_) (fun rs hrs ↦ ?_) (fun rs hrs ↦ ?_)
  · cases cascadeDue_complete (Act.run_eq_of_fst hrs)
    rfl
  · obtain ⟨known, -, rfl⟩ := Act.bind_pure_eq_ok.1 (Act.run_eq_of_fst hrs)
    cases known <;> rfl
  · obtain ⟨known, hknown⟩ := h.monitor m.id
    have hask : (Act.askBackend (d.backend.hasHealthMonitor m.id)).run (.start w) =
        (.ok known, .start (d.backend.hasHealthMonitor m.id w).2) := by
      rw [Act.askBackend, Act.run_ask, Session.start, hknown]
      rfl
    obtain ⟨supported, _, hsupported, hrs⟩ := Act.bind_eq_ok.1 (Act.run_eq_of_fst hrs)
    obtain ⟨_, hvalid, -⟩ := Act.check_bind_eq_ok.1 hrs
    -- The question about the monitor comes first, but it does not change what is supported.
    obtain ⟨hsame, -⟩ := (Uniform.healthChecks w hb).eq_start
      (d.ready_start (d.backend.hasHealthMonitor m.id w).2) w
    rw [hsupported] at hsame
    refine ⟨[Pass.monitorRequest m known], ?_⟩
    rw [due, Act.run_bind_pure, askMonitor, Act.run_bind_of_ok hask,
      Act.run_bind_of_ok (Act.run_eq_of_fst hsame), hvalid]
    rfl

variable (hn : d.network.Fixed)

include hn

/-- A pool keeps pace with its members and its health monitor, though these come in another
order. -/
theorem keepsPace_pool {p : Pool} (hp : p ∈ lb.pools.items) :
    KeepsPace lb p.members.items (course w (d.cascadeDue lb) (Cascade.poolItems p))
      (course w (d.due lb rows) (Pass.poolItems p)) := by
  have hcreate : Cascade.poolItems p = [.pool p] ++
      (p.healthMonitor.asOption.toList.flatMap (fun m ↦ [.monitor m]) ++
        p.members.items.flatMap fun m ↦ [.member m]) := by
    simp [Cascade.poolItems, List.map_eq_flatMap]
  have hsync : Pass.poolItems p = [.pool p] ++
      (p.members.items.flatMap (fun m ↦ [.member m]) ++
        ([.recorded p] ++ p.healthMonitor.asOption.toList.flatMap fun m ↦ [.monitor m])) := by
    simp [Pass.poolItems, List.map_eq_flatMap]
  have hcascade := d.asks_cascadeDue lb
  have hdue := d.asks_due lb rows
  have hrecorded : course w (d.due lb rows) [.recorded p] = .done := by
    rw [course_singleton hdue, due, Act.run_bind_pure, recordedFor_fst hb h hp]
    rfl
  have hmonitors := KeepsPace.flatMap hb hn w hcascade hdue (fun _ ↦ [])
    p.healthMonitor.asOption.toList fun m _ ↦ keepsPace_monitor hb h m
  have hmembers := KeepsPace.flatMap hb hn w hcascade hdue (fun m ↦ [m])
    p.members.items fun m _ ↦ keepsPace_member hb h m
  rw [hcreate, hsync, course_append hcascade hb hn, course_append hcascade hb hn,
    course_append hdue hb hn, course_append hdue hb hn, course_append hdue hb hn, hrecorded,
    Outcome.done_andThen]
  rw [List.flatMap_eq_nil_iff.2 fun _ _ ↦ rfl] at hmonitors
  rw [List.flatMap_singleton'] at hmembers
  exact (keepsPace_head p).andThen (hmonitors.turn hmembers)

/-- A load balancer keeps pace with all that it has. -/
theorem keepsPace_items :
    KeepsPace lb lb.members (course w (d.cascadeDue lb) (Cascade.items lb))
      (course w (d.due lb rows) (Pass.items lb)) := by
  -- Both sides have the same parts in order, but a creation has nothing to purge at the end.
  have hcreate : Cascade.items lb = [.balancer] ++
      (lb.listeners.items.flatMap (fun l ↦ [.listener l]) ++
        (lb.pools.items.flatMap Cascade.poolItems ++ [])) := by
    simp [Cascade.items, List.map_eq_flatMap]
  have hsync : Pass.items lb = [.balancer] ++
      (lb.listeners.items.flatMap (fun l ↦ [.listener l]) ++
        (lb.pools.items.flatMap Pass.poolItems ++ [.purge])) := by
    simp [Pass.items, List.map_eq_flatMap]
  have hcascade := d.asks_cascadeDue lb
  have hdue := d.asks_due lb rows
  have hbalancer : KeepsPace lb [] (course w (d.cascadeDue lb) [.balancer])
      (course w (d.due lb rows) [.balancer]) := by
    rw [course_singleton hcascade, course_singleton hdue]
    exact .quiet (by rintro _ ⟨⟩; rfl) (by rintro _ ⟨⟩; rfl) fun _ _ ↦ ⟨_, rfl⟩
  have hpurge : KeepsPace lb [] .done (course w (d.due lb rows) [.purge]) := by
    rw [course_singleton hdue]
    exact .quiet (r := .ok []) (by rintro _ ⟨⟩; rfl) (by rintro _ ⟨⟩; rfl) fun _ _ ↦ ⟨_, rfl⟩
  have hlisteners := KeepsPace.flatMap hb hn w hcascade hdue (fun _ ↦ [])
    lb.listeners.items fun l _ ↦ keepsPace_listener l
  have hpools := KeepsPace.flatMap hb hn w hcascade hdue (fun p ↦ p.members.items)
    lb.pools.items fun p hp ↦ keepsPace_pool hb h hn hp
  rw [List.flatMap_eq_nil_iff.2 fun _ _ ↦ rfl] at hlisteners
  have hall := hbalancer.andThen (hlisteners.andThen (hpools.andThen hpurge))
  rw [hcreate, hsync, course_append hcascade hb hn, course_append hcascade hb hn,
    course_append hcascade hb hn, course_append hdue hb hn, course_append hdue hb hn,
    course_append hdue hb hn, course_nil]
  rw [LoadBalancer.members]
  simpa only [List.nil_append, List.append_nil] using hall

/-! ## Creation and synchronisation -/

/-- The pass of a ready driver ends and sends like the course of its items. -/
theorem syncLoadBalancer_follows_course {t : Session σ} (ht : d.Ready t) :
    ((d.syncLoadBalancer lb).run t).1 =
        (course w (d.due lb rows) (Pass.items lb)).ends.map (fun _ ↦ .synced) ∧
      ((d.syncLoadBalancer lb).run t).2.emitted =
        t.emitted ++ (course w (d.due lb rows) (Pass.items lb)).sends := by
  obtain ⟨hends, hsent, -⟩ := ((d.acts_syncLoadBalancer lb).uniform hb hn w).eq_start ht w
  have hrows := lookUpRows_fst hb h w
  have hrun : (d.lookUpRows lb).run (.start w) =
      (.ok rows, .start ((d.lookUpRows lb).run (.start w)).2.world) := Act.run_eq_of_fst hrows
  obtain ⟨hstartEnds, hstartSent, -⟩ := ((d.acts_syncRows lb rows).uniform hb hn w).eq_start
    (d.ready_start ((d.lookUpRows lb).run (.start w)).2.world) w
  constructor
  · rw [hends, d.syncLoadBalancer_of_rows hrun, Act.run_bind_pure, hstartEnds, syncRows_eq_items]
    rfl
  · rw [hsent, d.syncLoadBalancer_of_rows hrun, Act.run_bind_pure, hstartSent, syncRows_eq_items]
    rfl

/-- For a load balancer whose pools are new to the backend, the creation sends requests for some of
the members, the first ones, and so does the pass; for all of them if the creation goes well. If all
the members that the creation places have a subnet or get that of the load balancer, the pass places
them in the same subnets, and goes well if the creation does. But it places none from the first
member on whose subnet the creation has to search for. -/
theorem syncLoadBalancer_keeps_pace {s t : Session σ} (hs : d.Ready s) (ht : d.Ready t) :
    ∃ rs rs' reached rest reached' rest',
      ((d.createLoadBalancer lb).run s).2.emitted = s.emitted ++ rs ∧
      ((d.syncLoadBalancer lb).run t).2.emitted = t.emitted ++ rs' ∧
      lb.members = reached ++ rest ∧ lb.members = reached' ++ rest' ∧
      List.Forall₂ (fun m info ↦ ∃ subnet, info = placement m subnet) reached
        (infosOf .memberCreate rs) ∧
      List.Forall₂ (fun m info ↦ ∃ subnet, info = placement m subnet) reached'
        (infosOf .memberSync rs') ∧
      (((d.createLoadBalancer lb).run s).1 = .ok () → rest = []) ∧
      ((∀ m ∈ reached, lb.Settles m) →
        infosOf .memberCreate rs <+: infosOf .memberSync rs' ∧
          (((d.createLoadBalancer lb).run s).1 = .ok () →
            ((d.syncLoadBalancer lb).run t).1 = .ok .synced)) ∧
      (∀ m ∈ reached', ¬lb.Loses m) := by
  have hcreate := (d.acts_createLoadBalancer lb).uniform hb hn w
  obtain ⟨hcreateEnds, hcreated, -⟩ := hcreate.eq_start hs w
  obtain ⟨hsyncEnds, hsynced⟩ := d.syncLoadBalancer_follows_course hb h hn ht
  have hpace := keepsPace_items hb h hn
  obtain ⟨reached, rest, hmembers, hplaced, hrest⟩ := hpace.created
  obtain ⟨reached', rest', hmembers', hplaced', -⟩ := hpace.synced
  rw [createLoadBalancer_eq_items] at hcreateEnds hcreated ⊢
  refine ⟨_, _, reached, rest, reached', rest', hcreated, hsynced, hmembers, hmembers', hplaced,
    hplaced', fun hok ↦ hrest (hcreateEnds.symm.trans hok), fun hsettled ↦ ?_, ?_⟩
  · -- As many members as were placed, from the first on, are those that were reached.
    have hfirst : lb.members.take ((course w (d.cascadeDue lb)
        (Cascade.items lb)).placed .memberCreate).length = reached := by
      rw [hmembers, ← hplaced.length_eq, List.take_left]
    rw [← hfirst] at hsettled
    obtain ⟨hleads, hgoesWell⟩ := hpace.follows hsettled
    refine ⟨hleads, fun hok ↦ ?_⟩
    rw [hsyncEnds, hgoesWell (hcreateEnds.symm.trans hok)]
    rfl
  · have hstops := hpace.stops
    rw [hmembers', ← hplaced'.length_eq, List.take_left] at hstops
    exact hstops

end Pools

end Driver

/-! ## A small load balancer with new pools -/

namespace Sample

/-- A row without pools. -/
def bareRow : Row := ⟨"u1", "lb1", none, []⟩

/-- A network with one subnet. -/
def online : Network σ :=
  { offline with networkSubnets := fun _ ↦ return [⟨"sub-net", "net1", "10.0.0.0/24", some 4⟩] }

def bareDriver : Driver Unit :=
  ⟨(Store.empty.insertLoadBalancer bareRow).frozen, online, catalog, .default⟩

/-- A load balancer on the network, with a member that has no subnet. -/
def networkBalancer : LoadBalancer :=
  { balancer with
    vipNetworkId := .value "net1"
    pools := .value [{ pool with members := .value [homeless] }] }

def subnetBalancer : LoadBalancer :=
  { networkBalancer with vipSubnetId := .value "sub-vip" }

/-- A row without metadata has none of the pools. -/
theorem bareDriver_lacksPools (lb : LoadBalancer) (hid : lb.id = "lb1") :
    bareDriver.backend.LacksPools lb [bareRow] () where
  listed := by rw [hid]; rfl
  holdsNone _ _ := rfl
  enabled _ _ := rfl
  disabled _ _ := rfl
  monitor _ := ⟨false, rfl⟩

end Sample

/-- The member goes to the subnet of the virtual address, in a pass as well. -/
theorem syncLoadBalancer_keeps_pace_on_sample :
    placement Sample.homeless "sub-vip" ∈ infosOf .memberSync
      ((Sample.bareDriver.syncLoadBalancer Sample.subnetBalancer).run (.start ())).2.emitted := by
  have hready := Sample.bareDriver.ready_start ()
  obtain ⟨rs, rs', reached, rest, reached', rest', hcreated, hsynced, -, -, -, -, -, hpace, -⟩ :=
    Driver.syncLoadBalancer_keeps_pace (Backend.fixed_of_subsingleton _)
      (Sample.bareDriver_lacksPools Sample.subnetBalancer rfl) (Network.fixed_of_subsingleton _)
      hready hready
  have hrs : infosOf .memberCreate rs = [placement Sample.homeless "sub-vip"] := by
    rw [← List.nil_append rs, ← Session.start_emitted (), ← hcreated]
    rfl
  have hsettles : ∀ m ∈ reached, Sample.subnetBalancer.Settles m := fun _ _ ↦ .inr rfl
  have hmem := (hpace hsettles).1.subset (hrs ▸ List.mem_singleton.2 rfl)
  rwa [hsynced, Session.start_emitted, List.nil_append]

/-- The member belongs to the only subnet of the network, and the creation places it there. A pass
ends at the member. -/
theorem syncLoadBalancer_stops_at_homeless :
    (∀ m ∈ Sample.networkBalancer.members, ¬Sample.networkBalancer.Settles m) ∧
    ((Sample.bareDriver.createLoadBalancer Sample.networkBalancer).run (.start ())).1 = .ok () ∧
    infosOf .memberCreate ((Sample.bareDriver.createLoadBalancer Sample.networkBalancer).run
      (.start ())).2.emitted = [placement Sample.homeless "sub-net"] ∧
    ((Sample.bareDriver.syncLoadBalancer Sample.networkBalancer).run (.start ())).1 =
      .error (.unsupported (.subnetRequired .creation)) ∧
    infosOf .memberSync ((Sample.bareDriver.syncLoadBalancer Sample.networkBalancer).run
      (.start ())).2.emitted = [] := by
  refine ⟨by decide +kernel, by decide +kernel, ?_, by decide +kernel, rfl⟩
  rfl

end BalancerSync
