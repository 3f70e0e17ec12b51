import BalancerSync.Driver.Basic

/-!
# Laws of actions

An action is a function of the session, so what a compound action does is read off from what its
parts do, one after another.  Sending is the one effect that the collaborators do not see: an
action that only asks does the same whatever was sent before.  Hence a list of questions, each
followed by the requests it leads to, sends what it would send if all questions came first.
-/

namespace Except

variable {ε ε' α : Type}

@[simp] theorem mapError_ok (f : ε → ε') (a : α) : (ok a : Except ε α).mapError f = .ok a := rfl

@[simp] theorem mapError_error (f : ε → ε') (e : ε) :
    (error e : Except ε α).mapError f = .error (f e) := rfl

end Except

namespace BalancerSync

variable {σ α β ε : Type}

/-! ## Calls -/

namespace Call

/-- A sequence of calls goes on where the first one left the world, unless that failed. -/
theorem run_bind (call : Call σ ε α) (f : α → Call σ ε β) (w : σ) :
    (call >>= f) w =
      match call w with
      | (.ok a, v) => f a v
      | (.error e, v) => (.error e, v) := by
  change (ExceptT.bindCont f (call w).1) (call w).2 = _
  rcases call w with ⟨e | a, v⟩ <;> rfl

/-- The answer to a failed call starts in the world that it left. -/
theorem run_tryCatch (call : Call σ ε α) (handle : ε → Call σ ε α) (w : σ) :
    tryCatch call handle w =
      match call w with
      | (.ok a, v) => (.ok a, v)
      | (.error e, v) => handle e v := by
  simp only [tryCatch, tryCatchThe, MonadExceptOf.tryCatch, ExceptT.tryCatch, ExceptT.mk, bind,
    StateT.bind]
  rcases call w with ⟨e | a, v⟩ <;> rfl

end Call

/-! ## Sessions with more requests -/

namespace Session

@[simp] theorem start_emitted (w : σ) : (start w).emitted = [] := rfl

/-- The session after these requests were sent. -/
def sent (s : Session σ) (rs : List ChangeRequest) : Session σ :=
  { s with emitted := s.emitted ++ rs }

@[simp] theorem sent_world (s : Session σ) (rs : List ChangeRequest) :
    (s.sent rs).world = s.world := rfl

@[simp] theorem sent_healthChecks (s : Session σ) (rs : List ChangeRequest) :
    (s.sent rs).healthChecks = s.healthChecks := rfl

@[simp] theorem sent_emitted (s : Session σ) (rs : List ChangeRequest) :
    (s.sent rs).emitted = s.emitted ++ rs := rfl

@[simp] theorem sent_isOpen (s : Session σ) (rs : List ChangeRequest) :
    (s.sent rs).isOpen = s.isOpen := rfl

@[simp] theorem sent_nil (s : Session σ) : s.sent [] = s := by
  simp [sent]

/-- Requests that are sent one after another are sent together. -/
@[simp] theorem sent_sent (s : Session σ) (rs rs' : List ChangeRequest) :
    (s.sent rs).sent rs' = s.sent (rs ++ rs') := by
  simp [sent]

end Session

namespace Act

/-- What an action does in a session: its result, and the session after it. -/
def run (act : Act σ α) (s : Session σ) : Except DriverError α × Session σ := act s

/-- To know how an action ends is to know what it does, up to the session after it. -/
theorem run_eq_of_fst {act : Act σ α} {s : Session σ} {r : Except DriverError α}
    (h : (run act s).1 = r) : run act s = (r, (run act s).2) := by
  rw [← h]

/-! ## Single steps -/

@[simp] theorem run_pure (a : α) (s : Session σ) : run (pure a) s = (.ok a, s) := rfl

@[simp] theorem run_throw (e : DriverError) (s : Session σ) :
    run (throw e : Act σ α) s = (.error e, s) := rfl

@[simp] theorem run_check (r : Except DriverError α) (s : Session σ) :
    run (check r) s = (r, s) := rfl

/-- A question sees the world and changes the world; the rest of the session stays as it is. -/
@[simp] theorem run_ask (wrap : ε → DriverError) (call : Call σ ε α) (s : Session σ) :
    run (ask wrap call) s =
      ((call s.world).1.mapError wrap, { s with world := (call s.world).2 }) := rfl

/-- An action that is observed does what it does, but does not fail. -/
@[simp] theorem run_observe (act : Act σ α) (s : Session σ) :
    run (observe act) s = (.ok (run act s).1, (run act s).2) := rfl

@[simp] theorem run_get (s : Session σ) : run (get : Act σ (Session σ)) s = (.ok s, s) := rfl

/-! ## Sequences -/

/-- A sequence goes on where its first part left the session, unless that failed. -/
theorem run_bind (act : Act σ α) (f : α → Act σ β) (s : Session σ) :
    run (act >>= f) s =
      match run act s with
      | (.ok a, t) => run (f a) t
      | (.error e, t) => (.error e, t) := by
  change (ExceptT.bindCont f (run act s).1) (run act s).2 = _
  rcases run act s with ⟨e | a, t⟩ <;> rfl

theorem run_bind_of_ok {act : Act σ α} {s t : Session σ} {a : α} (h : run act s = (.ok a, t))
    (f : α → Act σ β) : run (act >>= f) s = run (f a) t := by
  rw [run_bind, h]

theorem run_bind_of_error {act : Act σ α} {s t : Session σ} {e : DriverError}
    (h : run act s = (.error e, t)) (f : α → Act σ β) : run (act >>= f) s = (.error e, t) := by
  rw [run_bind, h]

/-- A sequence succeeds if both of its parts do. -/
theorem bind_eq_ok {act : Act σ α} {f : α → Act σ β} {s u : Session σ} {b : β} :
    run (act >>= f) s = (.ok b, u) ↔ ∃ a t, run act s = (.ok a, t) ∧ run (f a) t = (.ok b, u) := by
  rw [run_bind]
  rcases run act s with ⟨e | a, t⟩
  · simp
  · exact ⟨fun h ↦ ⟨a, t, rfl, h⟩, fun ⟨_, _, h, h'⟩ ↦ by cases h; exact h'⟩

/-- A sequence fails where the first of its parts does that fails. -/
theorem bind_eq_error {act : Act σ α} {f : α → Act σ β} {s u : Session σ} {e : DriverError} :
    run (act >>= f) s = (.error e, u) ↔
      run act s = (.error e, u) ∨
        ∃ a t, run act s = (.ok a, t) ∧ run (f a) t = (.error e, u) := by
  rw [run_bind]
  rcases run act s with ⟨e' | a, t⟩
  · simp
  · refine ⟨fun h ↦ .inr ⟨a, t, rfl, h⟩, ?_⟩
    rintro (h | ⟨_, _, h, h'⟩)
    · cases h
    · cases h; exact h'

/-- What comes after a check is done only if the check passes. -/
theorem check_bind_eq_ok {r : Except DriverError α} {f : α → Act σ β} {s t : Session σ} {b : β} :
    run (check r >>= f) s = (.ok b, t) ↔ ∃ a, r = .ok a ∧ run (f a) s = (.ok b, t) := by
  rw [run_bind, run_check]
  cases r <;> simp

/-- A value that is worked on afterwards comes from a value of the action. -/
theorem bind_pure_eq_ok {act : Act σ α} {g : α → β} {s t : Session σ} {b : β} :
    run (act >>= fun a ↦ pure (g a)) s = (.ok b, t) ↔ ∃ a, run act s = (.ok a, t) ∧ g a = b := by
  rw [run_bind]
  rcases run act s with ⟨e | a, s'⟩
  · simp
  · constructor
    · rintro h
      obtain ⟨rfl, rfl⟩ : g a = b ∧ s' = t := by simpa using h
      exact ⟨a, rfl, rfl⟩
    · rintro ⟨_, h, rfl⟩
      cases h
      rfl

/-- The value is worked on afterwards. -/
theorem run_bind_pure (act : Act σ α) (g : α → β) (s : Session σ) :
    run (act >>= fun a ↦ pure (g a)) s = ((run act s).1.map g, (run act s).2) := by
  rw [run_bind]
  rcases run act s with ⟨e | a, t⟩ <;> rfl

/-- Once an action is observed, the rest is given its result, be it an error or not. -/
theorem run_observe_bind (act : Act σ α) (f : Except DriverError α → Act σ β) (s : Session σ) :
    run (observe act >>= f) s = run (f (run act s).1) (run act s).2 :=
  run_bind_of_ok (run_observe act s) f

theorem run_observe_of_run {act : Act σ α} {s t : Session σ} {r : Except DriverError α}
    (h : run act s = (r, t)) : run (observe act) s = (.ok r, t) := by
  rw [run_observe, h]

/-! ## Lists of steps -/

/-- A list of steps succeeds if the first one does, and then the others. -/
theorem mapM_cons_eq_ok {f : α → Act σ β} {x : α} {xs : List α} {s t : Session σ} {bs : List β} :
    run ((x :: xs).mapM f) s = (.ok bs, t) ↔
      ∃ b s' bs', run (f x) s = (.ok b, s') ∧ run (xs.mapM f) s' = (.ok bs', t) ∧
        b :: bs' = bs := by
  rw [List.mapM_cons, bind_eq_ok]
  simp only [bind_pure_eq_ok, exists_and_left]

/-- A list of steps succeeds if its beginning does, and then the rest. -/
theorem mapM_append_eq_ok {f : α → Act σ β} {xs ys : List α} {s t : Session σ} {bs : List β} :
    run ((xs ++ ys).mapM f) s = (.ok bs, t) ↔
      ∃ bs₁ s' bs₂, run (xs.mapM f) s = (.ok bs₁, s') ∧ run (ys.mapM f) s' = (.ok bs₂, t) ∧
        bs₁ ++ bs₂ = bs := by
  rw [List.mapM_append, bind_eq_ok]
  simp only [bind_pure_eq_ok, exists_and_left]

/-- A list of steps with known values that leave the session alone. -/
theorem mapM_eq_ok_map {f : α → Act σ β} {g : α → β}
    (hf : ∀ x s b t, run (f x) s = (.ok b, t) → g x = b ∧ s = t)
    {xs : List α} {s t : Session σ} {bs : List β} (hbs : run (xs.mapM f) s = (.ok bs, t)) :
    xs.map g = bs ∧ s = t := by
  induction xs generalizing s bs with
  | nil => simpa using hbs
  | cons x xs ih =>
    obtain ⟨b, s₁, bs', hb, hbs', rfl⟩ := mapM_cons_eq_ok.1 hbs
    obtain ⟨rfl, rfl⟩ := hf x s b s₁ hb
    obtain ⟨rfl, rfl⟩ := ih hbs'
    exact ⟨rfl, rfl⟩

/-- If each step of `f` is a step of `g` whose value is completed by `h`, so is a list of them. -/
theorem mapM_eq_ok_zipWith {γ : Type} {f : α → Act σ β} {g : α → Act σ γ} {h : α → γ → β}
    (hf : ∀ x s b t, run (f x) s = (.ok b, t) → ∃ c, run (g x) s = (.ok c, t) ∧ b = h x c)
    {xs : List α} {s t : Session σ} {bs : List β} (hbs : run (xs.mapM f) s = (.ok bs, t)) :
    ∃ cs, run (xs.mapM g) s = (.ok cs, t) ∧ bs = List.zipWith h xs cs := by
  induction xs generalizing s bs with
  | nil =>
    obtain ⟨rfl, rfl⟩ : [] = bs ∧ s = t := by simpa using hbs
    exact ⟨[], rfl, rfl⟩
  | cons x xs ih =>
    obtain ⟨b, s₁, bs', hb, hbs', rfl⟩ := mapM_cons_eq_ok.1 hbs
    obtain ⟨c, hc, rfl⟩ := hf x s b s₁ hb
    obtain ⟨cs, hcs, rfl⟩ := ih hbs'
    exact ⟨c :: cs, mapM_cons_eq_ok.2 ⟨c, s₁, cs, hc, hcs, rfl⟩, rfl⟩

/-! ## Sending -/

@[simp] theorem submit_nil : submit [] = (pure () : Act σ Unit) := rfl

theorem submit_cons (r : ChangeRequest) (rs : List ChangeRequest) :
    submit (r :: rs) = (emit r >>= fun _ ↦ submit rs : Act σ Unit) := rfl

/-- Requests are sent in order, so a list of them may be sent in two parts. -/
theorem submit_append (rs rs' : List ChangeRequest) :
    submit (rs ++ rs') = (submit rs >>= fun _ ↦ submit rs' : Act σ Unit) := by
  induction rs with
  | nil => simp
  | cons r rs ih => simp [submit_cons, ih]

theorem submit_singleton (r : ChangeRequest) : submit [r] = (emit r : Act σ Unit) := by
  simp [submit_cons]

/-- Sending list after list is sending all at once. -/
theorem submit_flatMap (xs : List α) (f : α → List ChangeRequest) :
    submit (xs.flatMap f) = (xs.forM fun x ↦ submit (f x) : Act σ Unit) := by
  induction xs with
  | nil => rfl
  | cons x xs ih => simpa [submit_append] using congrArg (submit (f x) >>= fun _ ↦ ·) ih

theorem emit_of_open {s : Session σ} (h : s.isOpen = true) (r : ChangeRequest) :
    run (emit r) s = (.ok (), s.sent [r]) := by
  simp [run, emit, h, Session.sent]

/-- A closed applier refuses a request, and the session is as before. -/
theorem emit_of_closed {s : Session σ} (h : s.isOpen = false) (r : ChangeRequest) :
    run (emit r) s = (.error .applierClosed, s) := by
  simp [run, emit, h]

/-- An open applier takes all requests. -/
theorem submit_of_open {s : Session σ} (h : s.isOpen = true) (rs : List ChangeRequest) :
    run (submit rs) s = (.ok (), s.sent rs) := by
  induction rs generalizing s with
  | nil => simp
  | cons r rs ih =>
    rw [submit_cons, run_bind_of_ok (emit_of_open h r), ih (by simpa using h), Session.sent_sent,
      List.singleton_append]

/-- With a closed applier nothing is sent, which is a failure if there was something to send. -/
theorem submit_of_closed {s : Session σ} (h : s.isOpen = false) (rs : List ChangeRequest) :
    run (submit rs) s = (if rs = [] then .ok () else .error .applierClosed, s) := by
  cases rs with
  | nil => simp
  | cons r rs => rw [submit_cons, run_bind_of_error (emit_of_closed h r)]; simp

/-- Sending is not seen by the collaborators. -/
theorem submit_world (rs : List ChangeRequest) (s : Session σ) :
    (run (submit rs) s).2.world = s.world := by
  cases ho : s.isOpen with
  | true => rw [submit_of_open ho, Session.sent_world]
  | false => rw [submit_of_closed ho]

/-- If sending succeeds, all requests were sent. -/
theorem submit_eq_ok {s s' : Session σ} {rs : List ChangeRequest} {u : Unit}
    (h : run (submit rs) s = (.ok u, s')) : s' = s.sent rs := by
  cases ho : s.isOpen with
  | true => rw [submit_of_open ho] at h; exact (Prod.mk.inj h).2.symm
  | false =>
    rw [submit_of_closed ho] at h
    by_cases hr : rs = []
    · subst hr; simpa using (Prod.mk.inj h).2.symm
    · simp [hr] at h

/-! ## Actions that only ask -/

/-- The action does not look at the applier and leaves it alone. -/
def Silent (act : Act σ α) : Prop :=
  ∀ s rs o, run act { s with emitted := rs, isOpen := o } =
    ((run act s).1, { (run act s).2 with emitted := rs, isOpen := o })

namespace Silent

variable {act : Act σ α} {s t : Session σ}

theorem emitted_eq (h : Silent act) (s : Session σ) : (run act s).2.emitted = s.emitted :=
  congrArg (fun p ↦ p.2.emitted) (h s s.emitted s.isOpen)

/-- What only asks leaves the applier open or closed, as it was. -/
theorem isOpen_eq (h : Silent act) (s : Session σ) : (run act s).2.isOpen = s.isOpen :=
  congrArg (fun p ↦ p.2.isOpen) (h s s.emitted s.isOpen)

theorem emitted_of_run {r : Except DriverError α} (h : Silent act) (hrun : run act s = (r, t)) :
    t.emitted = s.emitted := by
  simpa [hrun] using h.emitted_eq s

theorem isOpen_of_run {r : Except DriverError α} (h : Silent act) (hrun : run act s = (r, t)) :
    t.isOpen = s.isOpen := by
  simpa [hrun] using h.isOpen_eq s

/-- What was sent before makes no difference. -/
theorem run_sent (h : Silent act) (s : Session σ) (rs : List ChangeRequest) :
    run act (s.sent rs) = ((run act s).1, (run act s).2.sent rs) := by
  have hs := h s (s.emitted ++ rs) s.isOpen
  simpa only [Session.sent, h.emitted_eq s, ← h.isOpen_eq s] using hs

/-- What only asks does the same without the requests that were sent before. -/
theorem exists_of_run_sent {rs : List ChangeRequest} {r : Except DriverError α} (h : Silent act)
    (hrun : run act (s.sent rs) = (r, t)) : ∃ u, run act s = (r, u) ∧ t = u.sent rs := by
  rw [h.run_sent] at hrun
  obtain ⟨rfl, rfl⟩ := Prod.mk.inj hrun
  exact ⟨_, rfl, rfl⟩

theorem pure (a : α) : Silent (Pure.pure a : Act σ α) := fun _ _ _ ↦ rfl

theorem bind {f : α → Act σ β} (h : Silent act) (hf : ∀ a, Silent (f a)) :
    Silent (act >>= f) := by
  intro s rs o
  rw [run_bind, run_bind, h]
  rcases run act s with ⟨e | a, t⟩
  · rfl
  · exact hf a t rs o

theorem mapM {f : α → Act σ β} (hf : ∀ a, Silent (f a)) (xs : List α) : Silent (xs.mapM f) := by
  induction xs with
  | nil => exact pure []
  | cons x xs ih =>
    rw [List.mapM_cons]
    exact (hf x).bind fun b ↦ ih.bind fun bs ↦ pure (b :: bs)

/-- A question does not look at the applier. -/
theorem ask (wrap : ε → DriverError) (call : Call σ ε α) : Silent (ask wrap call) :=
  fun _ _ _ ↦ rfl

/-- A question whose failure is looked at. -/
theorem tryAsk {wrap : ε → DriverError} {call : Call σ ε α} {f : Except DriverError α → Act σ β}
    (hf : ∀ r : Except ε α, Silent (f (r.mapError wrap))) :
    Silent (observe (Act.ask wrap call) >>= f) := by
  intro s rs o
  rw [run_observe_bind, run_observe_bind]
  exact hf _ { s with world := (call s.world).2 } rs o

end Silent

/-! ## Actions that do not fail -/

/-- With an open applier the action does not fail, and it leaves the applier open. -/
def Succeeds (act : Act σ α) : Prop :=
  ∀ s, s.isOpen = true → ∃ a t, act.run s = (.ok a, t) ∧ t.isOpen = true

namespace Succeeds

theorem pure (a : α) : Succeeds (Pure.pure a : Act σ α) := fun s ho ↦ ⟨a, s, rfl, ho⟩

/-- Of two actions that do not fail, the second one goes on with an open applier. -/
theorem bind {act : Act σ α} {f : α → Act σ β} (h : Succeeds act) (hf : ∀ a, Succeeds (f a)) :
    Succeeds (act >>= f) := by
  intro s ho
  obtain ⟨a, t, ha, hto⟩ := h s ho
  rw [run_bind_of_ok ha]
  exact hf a t hto

/-- A question whose failure is looked at does not fail. -/
theorem observe_ask (wrap : ε → DriverError) (call : Call σ ε α) :
    Succeeds (observe (ask wrap call)) := fun _ ho ↦ ⟨_, _, rfl, ho⟩

theorem emit (r : ChangeRequest) : Succeeds (Act.emit r : Act σ Unit) :=
  fun s ho ↦ ⟨(), s.sent [r], emit_of_open ho r, ho⟩

end Succeeds

/-! ## Questions and the requests they lead to -/

section Due

variable {due : α → Act σ (List ChangeRequest)}

/-- If all goes well, all requests are sent in order. -/
theorem forM_submit_ok (hd : ∀ x, Silent (due x)) {xs : List α} {s s' : Session σ} {u : Unit}
    (h : run (xs.forM fun x ↦ due x >>= submit) s = (.ok u, s')) :
    ∃ blocks t, run (xs.mapM due) s = (.ok blocks, t) ∧ s' = t.sent blocks.flatten := by
  induction xs generalizing s with
  | nil => exact ⟨[], s, rfl, by simpa using (Prod.mk.inj h).2.symm⟩
  | cons x xs ih =>
    obtain ⟨_, v, hv, hrest⟩ := bind_eq_ok.1 h
    obtain ⟨rs, t₁, hx, hsubmit⟩ := bind_eq_ok.1 hv
    obtain rfl := submit_eq_ok hsubmit
    obtain ⟨blocks, _, hsent, rfl⟩ := ih hrest
    obtain ⟨t, hblocks, rfl⟩ := (Silent.mapM hd xs).exists_of_run_sent hsent
    refine ⟨rs :: blocks, t, mapM_cons_eq_ok.2 ⟨rs, t₁, blocks, hx, hblocks, rfl⟩, ?_⟩
    rw [Session.sent_sent, List.flatten_cons]

/-- If something fails, what was sent are the requests before it, and all of them. -/
theorem forM_submit_error (hd : ∀ x, Silent (due x)) {xs : List α} {s s' : Session σ}
    (ho : s.isOpen = true) {e : DriverError}
    (h : run (xs.forM fun x ↦ due x >>= submit) s = (.error e, s')) :
    ∃ done x rest blocks t u, xs = done ++ x :: rest ∧ run (done.mapM due) s = (.ok blocks, t) ∧
      run (due x) t = (.error e, u) ∧ s' = u.sent blocks.flatten := by
  induction xs generalizing s with
  | nil => cases h
  | cons x xs ih =>
    rcases hx : run (due x) s with ⟨e' | rs, t₁⟩
    · have hfail : run (due x >>= submit) s = (.error e', t₁) := run_bind_of_error hx _
      have hall : run ((x :: xs).forM fun x ↦ due x >>= submit) s = (.error e', t₁) :=
        run_bind_of_error hfail _
      obtain ⟨rfl, rfl⟩ : e' = e ∧ t₁ = s' := by simpa using hall.symm.trans h
      exact ⟨[], x, xs, [], s, t₁, rfl, rfl, hx, by simp⟩
    · have ho₁ : t₁.isOpen = true := ((hd x).isOpen_of_run hx).trans ho
      have hsend : run (due x >>= submit) s = (.ok (), t₁.sent rs) := by
        rw [run_bind_of_ok hx, submit_of_open ho₁]
      -- The rest is asked for after the requests of `x` were sent, but does not see them.
      have hrest : run (xs.forM fun x ↦ due x >>= submit) (t₁.sent rs) = (.error e, s') :=
        (run_bind_of_ok hsend _).symm.trans h
      obtain ⟨done, y, rest, blocks, _, _, rfl, hsent, hfail, rfl⟩ := ih (by simpa using ho₁) hrest
      obtain ⟨t, hblocks, rfl⟩ := (Silent.mapM hd done).exists_of_run_sent hsent
      obtain ⟨u, hy, rfl⟩ := (hd y).exists_of_run_sent hfail
      refine ⟨x :: done, y, rest, rs :: blocks, t, u, rfl,
        mapM_cons_eq_ok.2 ⟨rs, t₁, blocks, hx, hblocks, rfl⟩, hy, ?_⟩
      rw [Session.sent_sent, List.flatten_cons]

end Due

end Act

end BalancerSync
