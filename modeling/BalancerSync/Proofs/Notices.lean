import BalancerSync.Proofs.Calls

/-!
# Members and their notices

A notice tells that a member joined or left its pool, and it goes out right after the request for
the member.  The stream of requests is put together from pairs of a request and its notice and from
requests that go alone, and a pair is never taken apart, since it is sent at once; that holds of
every call, so it holds of every sequence of calls.
-/

namespace BalancerSync

variable {σ : Type}

/-! ## Requests and their notices -/

namespace ChangeRequest

/-- Both requests have this attribute, with the same value. -/
def ShareValue (r n : ChangeRequest) (key : String) : Prop :=
  ∃ v, r.get? key = some v ∧ n.get? key = some v

/-- The notice tells what the request does to the member. -/
def ToldBy (r n : ChangeRequest) : Prop :=
  ((r.operation = .memberCreate ∨ r.operation = .memberSync) ∧
      n.get? "action" = some (.text Membership.added.name)) ∨
    (r.operation = .memberDelete ∧ n.get? "action" = some (.text Membership.deleted.name))

end ChangeRequest

/-- Neither request has a subnet, as they come from an entry that was recorded without one. -/
def Driver.BothBare (d : Driver σ) (r n : ChangeRequest) : Prop :=
  r.get? "subnet_id" = none ∧ n.get? "subnet_id" = none ∧
    ∃ e poolId, d.Recorded poolId e ∧ e.subnetId = none ∧
      r = .deleteEntry e poolId ∧ n = .entryDeleted e poolId

/-- The second request is the notice of the first: it is about the same member in the same place,
and tells what becomes of it. -/
structure Driver.Announces (d : Driver σ) (r n : ChangeRequest) : Prop where
  isNotice : n.operation = .handleMemberDvr
  told : r.ToldBy n
  id : r.ShareValue n "id"
  address : r.ShareValue n "address"
  poolId : r.ShareValue n "pool_id"
  subnet : r.ShareValue n "subnet_id" ∨ d.BothBare r n

/-- Whether requests of this kind come in pairs. -/
def Operation.isPaired : Operation → Bool
  | memberDelete | memberSync | handleMemberDvr => true
  | _ => false

/-! ## Streams of requests -/

/-- The stream is made of pairs of a request and its notice, and of requests that may go alone. -/
inductive Driver.Stream (d : Driver σ) : List ChangeRequest → Prop
  | nil : Stream d []
  | alone {r : ChangeRequest} {rs : List ChangeRequest} :
      r.operation.isPaired = false → Stream d rs → Stream d (r :: rs)
  | pair {r n : ChangeRequest} {rs : List ChangeRequest} :
      d.Announces r n → Stream d rs → Stream d (r :: n :: rs)

namespace Driver.Stream

variable {d : Driver σ} {rs rs' : List ChangeRequest}

/-- What is sent after a stream of requests and notices may be another such stream. -/
theorem append (h : d.Stream rs) (h' : d.Stream rs') : d.Stream (rs ++ rs') := by
  induction h with
  | nil => exact h'
  | alone hr _ ih => exact .alone hr ih
  | pair hpair _ ih => exact .pair hpair ih

/-- What has to be announced is announced at once. -/
theorem followed (h : d.Stream rs) {before after : List ChangeRequest} {r : ChangeRequest}
    (hrs : rs = before ++ r :: after)
    (hr : r.operation = .memberDelete ∨ r.operation = .memberSync) :
    ∃ n rest, after = n :: rest ∧ d.Announces r n := by
  induction h generalizing before with
  | nil => simp at hrs
  | @alone r' rs hr' _ ih =>
    cases before with
    | nil =>
      obtain ⟨rfl, rfl⟩ := List.cons.inj hrs
      rcases hr with hr | hr <;> rw [hr] at hr' <;> cases hr'
    | cons _ before => exact ih (List.cons.inj hrs).2
  | @pair r' n rs hpair _ ih =>
    cases before with
    | nil =>
      obtain ⟨rfl, rfl⟩ := List.cons.inj hrs
      exact ⟨n, rs, rfl, hpair⟩
    | cons _ before =>
      have htail : n :: rs = before ++ r :: after := (List.cons.inj hrs).2
      cases before with
      | nil =>
        obtain ⟨rfl, rfl⟩ := List.cons.inj htail
        rw [hpair.isNotice] at hr
        rcases hr with hr | hr <;> cases hr
      | cons _ before => exact ih (List.cons.inj htail).2

/-- Each notice has its request right before it. -/
theorem preceded (h : d.Stream rs) {before after : List ChangeRequest} {n : ChangeRequest}
    (hrs : rs = before ++ n :: after) (hn : n.operation = .handleMemberDvr) :
    ∃ front r, before = front ++ [r] ∧ d.Announces r n := by
  induction h generalizing before with
  | nil => simp at hrs
  | @alone r' rs hr' _ ih =>
    cases before with
    | nil =>
      obtain ⟨rfl, rfl⟩ := List.cons.inj hrs
      rw [hn] at hr'
      cases hr'
    | cons x before =>
      obtain ⟨front, r, rfl, hr⟩ := ih (List.cons.inj hrs).2
      exact ⟨x :: front, r, rfl, hr⟩
  | @pair r' n' rs hpair _ ih =>
    cases before with
    | nil =>
      -- The request of a pair is no notice itself.
      obtain ⟨rfl, rfl⟩ := List.cons.inj hrs
      obtain ⟨hop | hop, -⟩ | ⟨hop, -⟩ := hpair.told <;> rw [hop] at hn <;> cases hn
    | cons x before =>
      obtain ⟨rfl, htail⟩ := List.cons.inj hrs
      cases before with
      | nil =>
        obtain ⟨rfl, rfl⟩ := List.cons.inj htail
        exact ⟨[], r', rfl, hpair⟩
      | cons y before =>
        obtain ⟨front, r, rfl, hr⟩ := ih (List.cons.inj htail).2
        exact ⟨r' :: y :: front, r, rfl, hr⟩

end Driver.Stream

/-! ## What is sent at once -/

namespace Driver

variable {d : Driver σ} {S : Scope}

/-- The notice of a new member tells what its request does. -/
theorem announces_memberAdded {op : Operation} (hop : op = .memberCreate ∨ op = .memberSync)
    (m : Member) (subnet : String) :
    d.Announces (.member op m (some subnet)) (.memberAdded m subnet) where
  isNotice := rfl
  told := .inl ⟨hop, rfl⟩
  id := ⟨_, rfl, rfl⟩
  address := ⟨_, rfl, rfl⟩
  poolId := ⟨_, rfl, rfl⟩
  subnet := .inl ⟨_, rfl, rfl⟩

theorem announces_memberDeleted (m : Member) (subnet : String) :
    d.Announces
      (.deleteMember m.id (textJson m.address) (portJson m.port) m.poolId (some subnet))
      (.memberDeleted m subnet) where
  isNotice := rfl
  told := .inr ⟨rfl, rfl⟩
  id := ⟨_, rfl, rfl⟩
  address := ⟨_, rfl, rfl⟩
  poolId := ⟨_, rfl, rfl⟩
  subnet := .inl ⟨_, rfl, rfl⟩

/-- The notice of a deleted entry tells what its request does, be it without a subnet too. -/
theorem announces_entryDeleted {e : MemberEntry} {poolId : String} (h : d.Recorded poolId e) :
    d.Announces (.deleteEntry e poolId) (.entryDeleted e poolId) := by
  obtain ⟨id, address, port, _ | subnet⟩ := e
  · exact ⟨rfl, .inr ⟨rfl, rfl⟩, ⟨_, rfl, rfl⟩, ⟨_, rfl, rfl⟩, ⟨_, rfl, rfl⟩,
      .inr ⟨rfl, rfl, _, poolId, h, rfl, rfl, rfl⟩⟩
  · exact ⟨rfl, .inr ⟨rfl, rfl⟩, ⟨_, rfl, rfl⟩, ⟨_, rfl, rfl⟩, ⟨_, rfl, rfl⟩,
      .inl ⟨_, rfl, rfl⟩⟩

/-- A request that needs no notice is a stream. -/
theorem stream_singleton {r : ChangeRequest} (h : r.operation.isPaired = false) :
    d.Stream [r] := .alone h .nil

/-- A request and its notice are sent at once, and other requests may go alone. -/
theorem Sound.stream {o : Sending} (h : d.Sound S o) : d.Stream o.requests := by
  have hsupported := h.supported
  cases o with
  | balancer op lb => obtain rfl | rfl := hsupported <;> exact stream_singleton rfl
  | listener op l => obtain ⟨rfl | rfl, -⟩ := hsupported <;> exact stream_singleton rfl
  | pool op p => obtain ⟨rfl | rfl, -⟩ := hsupported <;> exact stream_singleton rfl
  | monitor op m => obtain ⟨rfl | rfl, -⟩ := hsupported <;> exact stream_singleton rfl
  | batchMember op m subnet =>
    obtain ⟨rfl | rfl, -⟩ := hsupported <;> exact stream_singleton rfl
  | member op m subnet => exact .pair (announces_memberAdded hsupported.1 m subnet) .nil
  | deleteMember m subnet => exact .pair (announces_memberDeleted m subnet) .nil
  | deleteEntry e poolId => exact .pair (announces_entryDeleted h.recorded) .nil
  | updateBalancer | deleteBalancer | updateListener | deleteListener | updatePool | deletePool
  | updateMonitor | deleteMonitor | purgeMonitors | updateMember | vipFip =>
    exact stream_singleton rfl

/-- If every sending of a path is sound, its requests are a stream. -/
theorem stream_requestsOf {es : List Event} (h : ∀ o, .sent o ∈ es → d.Sound S o) :
    d.Stream (requestsOf es) := by
  induction es with
  | nil => exact .nil
  | cons e es ih =>
    have htail := ih fun o ho ↦ h o (List.mem_cons_of_mem e ho)
    cases e with
    | heard answer => exact htail
    | sent o => exact (h o (by simp)).stream.append htail

/-! ## Calls -/

variable (d)

/-- What each of the calls sends. -/
def sentByCalls : List Command → Session σ → List (List ChangeRequest)
  | [], _ => []
  | c :: cs, s =>
    let t := ((d.perform c).run s).2
    t.emitted.drop s.emitted.length :: sentByCalls cs t

/-- Every call has its own list of requests, be it empty. -/
theorem length_sentByCalls (cs : List Command) (s : Session σ) :
    (d.sentByCalls cs s).length = cs.length := by
  induction cs generalizing s with
  | nil => rfl
  | cons c cs ih => exact congrArg (· + 1) (ih _)

theorem perform_streams (c : Command) (s : Session σ) :
    ∃ rs, ((d.perform c).run s).2.emitted = s.emitted ++ rs ∧ d.Stream rs := by
  obtain ⟨es, hpath, hes⟩ := d.sends_perform c s
  exact ⟨requestsOf es, hpath.emitted_eq, stream_requestsOf hes⟩

/-- Calls send their streams one after another. -/
theorem performAll_streams (cs : List Command) (s : Session σ) :
    ((d.performAll cs).run s).2.emitted = s.emitted ++ (d.sentByCalls cs s).flatten ∧
      ∀ rs ∈ d.sentByCalls cs s, d.Stream rs := by
  induction cs generalizing s with
  | nil => simp [performAll, sentByCalls]
  | cons c cs ih =>
    obtain ⟨rs, hrs, hstream⟩ := d.perform_streams c s
    obtain ⟨hrest, hstreams⟩ := ih ((d.perform c).run s).2
    have hfirst : ((d.perform c).run s).2.emitted.drop s.emitted.length = rs := by
      rw [hrs, List.drop_left]
    have hcalls : d.sentByCalls (c :: cs) s =
        rs :: d.sentByCalls cs ((d.perform c).run s).2 := by
      rw [sentByCalls, hfirst]
    constructor
    · change ((d.performAll cs).run ((d.perform c).run s).2).2.emitted = _
      rw [hrest, hcalls, hrs, List.flatten_cons, List.append_assoc]
    · rw [hcalls]
      exact List.forall_mem_cons.2 ⟨hstream, hstreams⟩

/-- Whatever calls are made of a fresh driver and whatever its collaborators answer, what each call
sends has the notices of members in their places: a deletion or a synchronisation of a member is
followed by its notice at once, and a notice comes right after the request that it is about. The
whole stream is these requests, call by call. -/
theorem performAll_pairs_notices (cs : List Command) (w : σ) (isOpen : Bool) :
    let s := { Session.start w with isOpen }
    ((d.performAll cs).run s).2.emitted = (d.sentByCalls cs s).flatten ∧
    (d.sentByCalls cs s).length = cs.length ∧
    ∀ rs ∈ d.sentByCalls cs s,
      (∀ before r after, rs = before ++ r :: after →
        r.operation = .memberDelete ∨ r.operation = .memberSync →
          ∃ n rest, after = n :: rest ∧ d.Announces r n) ∧
      ∀ before n after, rs = before ++ n :: after → n.operation = .handleMemberDvr →
        ∃ front r, before = front ++ [r] ∧ d.Announces r n := by
  intro s
  obtain ⟨hemitted, hstreams⟩ := d.performAll_streams cs s
  refine ⟨hemitted, d.length_sentByCalls cs s, fun rs hrs ↦ ?_⟩
  exact ⟨fun _ _ _ hsplit hr ↦ (hstreams rs hrs).followed hsplit hr,
    fun _ _ _ hsplit hn ↦ (hstreams rs hrs).preceded hsplit hn⟩

end Driver

end BalancerSync
