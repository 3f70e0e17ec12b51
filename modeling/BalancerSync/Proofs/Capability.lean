import BalancerSync.Proofs.Commands
import BalancerSync.Proofs.Report

/-!
# What the driver remembers

Whether the backend has health checks is all that the driver keeps from one call to the next.  It
asks as long as it has no answer, and the first answer is the one that every later health monitor
is validated by; a question that fails ends the call, or the pass of a load balancer in a run.
Apart from that a call does what a fresh driver would do that gets the same answers.
-/

namespace BalancerSync

variable {σ α : Type}

/-! ## The shape of what is remembered -/

/-- What is known is remembered. -/
theorem Remembers.recalls {known known' : Option Bool} {xs : List Turn}
    (h : Remembers known xs known') {b : Bool} (hb : known = some b) :
    known' = some b ∧ ∀ x ∈ xs, x.asked = false ∧ x.answer = .ok b := by
  induction h with
  | nil known => exact ⟨hb, by simp⟩
  | fail | learn => cases hb
  | keep m b' _ ih =>
    cases hb
    obtain ⟨hknown, hxs⟩ := ih rfl
    exact ⟨hknown, List.forall_mem_cons.2 ⟨⟨rfl, rfl⟩, hxs⟩⟩

/-- Failures come first, then the first answer, and then it is remembered. -/
theorem Remembers.shape {known known' : Option Bool} {xs : List Turn}
    (h : Remembers known xs known') (hk : known = none) :
    ∃ failed, (∀ x ∈ failed, x.asked = true ∧ ∃ e, x.answer = .error e) ∧
      (xs = failed ∧ known' = none ∨
        ∃ m b later, xs = failed ++ ⟨m, true, .ok b⟩ :: later ∧ known' = some b ∧
          ∀ x ∈ later, x.asked = false ∧ x.answer = .ok b) := by
  induction h with
  | nil known => exact ⟨[], by simp, .inl ⟨rfl, hk⟩⟩
  | fail m e _ ih =>
    obtain ⟨failed, hfailed, hshape⟩ := ih rfl
    refine ⟨⟨m, true, .error e⟩ :: failed,
      List.forall_mem_cons.2 ⟨⟨rfl, e, rfl⟩, hfailed⟩, ?_⟩
    rcases hshape with ⟨rfl, hknown⟩ | ⟨m', b, later, rfl, hknown, hlater⟩
    · exact .inl ⟨rfl, hknown⟩
    · exact .inr ⟨m', b, later, rfl, hknown, hlater⟩
  | learn m b hxs _ =>
    obtain ⟨hknown, hlater⟩ := hxs.recalls rfl
    exact ⟨[], by simp, .inr ⟨m, b, _, rfl, hknown, hlater⟩⟩
  | keep => cases hk

/-! ## The failure of a turn -/

/-- A backend with health checks is no reason to refuse a health monitor. -/
theorem Probing.validate_ne_unchecked (m : Probing) :
    m.validate true ≠ .error (.unsupported .healthChecks) := by
  have hvalidate (h : HealthMonitor) (creating : Bool) :
      validateHealthMonitor h true creating ≠ .error (.unsupported .healthChecks) := by
    unfold validateHealthMonitor
    split
    · simp at *
    split
    · simp
    split
    · simp
    · exact refuseUnless_ne_unchecked (by simp)
  cases m <;> exact hvalidate _ _

namespace Turn

/-- A turn whose question fails ends with this failure. -/
theorem ends_of_error {x : Turn} {e : BackendError} (h : x.answer = .error e) (isOpen : Bool) :
    x.ends isOpen = .error (.backend e) := by
  unfold ends
  rw [h]

/-- A turn that fails sends nothing. -/
theorem requests_of_ends {x : Turn} {isOpen : Bool} {e : DriverError}
    (h : x.ends isOpen = .error e) : x.requests isOpen = [] := by
  unfold requests
  rw [h]

/-- Only a backend without health checks has a health monitor refused for that. -/
theorem answer_of_refused {x : Turn} {isOpen : Bool}
    (h : x.ends isOpen = .error (.unsupported .healthChecks)) : x.answer = .ok false := by
  unfold ends at h
  split at h
  · cases h
  · next supported hanswer =>
    cases supported with
    | false => exact hanswer
    | true =>
      split at h
      · next e he =>
        cases h
        exact absurd he x.monitor.validate_ne_unchecked
      · split at h <;> cases h

end Turn

namespace Stops

variable {isOpen : Bool} {xs : List Turn} {e? : Option DriverError}

/-- Nothing comes after a turn that fails. -/
theorem eq_of_ends (h : Stops isOpen xs e?) {before after : List Turn} {x : Turn} {e : DriverError}
    (hxs : xs = before ++ x :: after) (hx : x.ends isOpen = .error e) :
    after = [] ∧ e? = some e := by
  induction h generalizing before with
  | done _ => simp at hxs
  | fail hfail =>
    cases before with
    | nil =>
      obtain ⟨rfl, rfl⟩ := List.cons.inj hxs
      exact ⟨rfl, congrArg some (Except.error.inj (hfail.symm.trans hx))⟩
    | cons y before => simp at hxs
  | go hgo _ ih =>
    cases before with
    | nil =>
      obtain ⟨rfl, -⟩ := List.cons.inj hxs
      cases hgo.symm.trans hx
    | cons y before => exact ih (List.cons.inj hxs).2

/-- Health checks are refused only after the backend has said that it has none. -/
theorem exists_refused (h : Stops isOpen xs e?) (he : e? = some (.unsupported .healthChecks)) :
    ∃ x ∈ xs, x.answer = .ok false := by
  induction h with
  | done hne => exact absurd he hne
  | @fail x e hx =>
    cases he
    exact ⟨x, by simp, Turn.answer_of_refused hx⟩
  | go _ _ ih =>
    obtain ⟨x, hx, hanswer⟩ := ih he
    exact ⟨x, List.mem_cons_of_mem _ hx, hanswer⟩

end Stops

/-! ## Turns between sessions -/

/-- These turns account for what happens between two sessions with tapes. -/
def Took (s : Session (σ × Tape)) (xs : List Turn) (t : Session (σ × Tape)) : Prop :=
  ∃ tape rs, t.world.2 = s.world.2 ++ tape ∧ t.emitted = s.emitted ++ rs ∧ t.isOpen = s.isOpen ∧
    Turns s t tape rs xs

namespace Took

variable {s t u : Session (σ × Tape)} {xs ys : List Turn}

theorem refl (s : Session (σ × Tape)) : Took s [] s :=
  ⟨[], [], by simp, by simp, rfl, .none rfl rfl rfl⟩

/-- Turns between sessions are taken one after another. -/
theorem trans (h : Took s xs t) (h' : Took t ys u) : Took s (xs ++ ys) u := by
  obtain ⟨tape, rs, htape, hrs, hopen, hturns⟩ := h
  obtain ⟨tape', rs', htape', hrs', hopen', hturns'⟩ := h'
  refine ⟨tape ++ tape', rs ++ rs', ?_, ?_, hopen'.trans hopen, hturns.append hturns' hopen⟩
  · rw [htape', htape, List.append_assoc]
  · rw [hrs', hrs, List.append_assoc]

/-- No turn opens or closes the applier. -/
theorem isOpen_eq (h : Took s xs t) : t.isOpen = s.isOpen := by
  obtain ⟨_, _, -, -, hopen, -⟩ := h
  exact hopen

end Took

/-- The session without its tape. -/
def Session.untaped (s : Session (σ × Tape)) : Session σ :=
  ⟨s.world.1, s.healthChecks, s.emitted, s.isOpen⟩

/-- A routine with a tape takes turns, and stops at the first that fails. -/
theorem Routine.took {k : Manner} {p : ∀ τ : Type, Driver τ → Act τ α} (h : Routine k p)
    (hk : k ≠ .lenient) (d : Driver σ) (s : Session (σ × Tape)) :
    ∃ xs, Took s xs ((p _ d.taped).run s).2 ∧
      Stops s.isOpen xs ((p _ d.taped).run s).1.failure? ∧ (k = .quiet → xs = []) := by
  obtain ⟨tape, rs, r, t, htakes, haccounts⟩ := h.takes d s.untaped
  obtain ⟨xs, hturns, hstops, hquiet⟩ := haccounts hk
  have hrun : (p _ d.taped).run s = (r, t.taping (s.world.2 ++ tape)) := htakes.taped s.world.2
  rw [hrun]
  exact ⟨xs, ⟨tape, rs, rfl, htakes.emitted_eq, htakes.isOpen_eq, hturns.remembers,
    hturns.questions, hturns.requests⟩, hstops, hquiet⟩

namespace Driver

/-- No turn is taken while the catalog is asked. -/
theorem took_fetch (d : Driver σ) {q : ∀ τ : Type, Driver τ → Call τ DriverError α}
    (hq : Inquiry q) (s : Session (σ × Tape)) :
    Took s [] ((Act.askCatalog (q _ d.taped)).run s).2 := by
  obtain ⟨tape, r, v, hears⟩ := hq.hears d s.world.1
  have hrun : (Act.askCatalog (q _ d.taped)).run s = _ :=
    (Takes.ask (s := s.untaped) id hears).taped s.world.2
  rw [hrun]
  exact ⟨tape, [], rfl, by simp [Session.untaped, Session.taping], rfl, .nil _, hears.quiet, rfl⟩

/-! ## Calls in stages -/

end Driver

/-- A call, or the pass of a load balancer in a run: its turns, and what it fails with, if it
does. -/
structure Stage where
  turns : List Turn
  failure? : Option DriverError

namespace Driver

/-- A run comes to one pass after another. What happens in between takes no turn. -/
inductive Passing (d : Driver σ) :
    List Stage → Session (σ × Tape) → Session (σ × Tape) → Prop
  | nil (s : Session (σ × Tape)) : Passing d [] s s
  | still {stages : List Stage} {s t u : Session (σ × Tape)} :
      Took s [] t → Passing d stages t u → Passing d stages s u
  | pass {lb : LoadBalancer} {xs : List Turn} {r : Except DriverError SyncOutcome}
      {stages : List Stage} {s t u : Session (σ × Tape)} :
      (d.taped.syncLoadBalancer lb).run s = (r, t) → Took s xs t → Stops s.isOpen xs r.failure? →
        Passing d stages t u → Passing d (⟨xs, r.failure?⟩ :: stages) s u

/-- A call is handled in one stage, and a run in one for each pass. -/
inductive Handles (d : Driver σ) :
    Command → List Stage → Session (σ × Tape) → Session (σ × Tape) → Prop
  | call {c : Command} {xs : List Turn} {r : Except DriverError Reply}
      {s t : Session (σ × Tape)} : (∀ filters, c ≠ .sync filters) →
      (d.taped.reply c).run s = (r, t) → Took s xs t → Stops s.isOpen xs r.failure? →
        Handles d c [⟨xs, r.failure?⟩] s t
  | run {filters : Filters} {r : Except DriverError SyncReport} {stages : List Stage}
      {s t : Session (σ × Tape)} : (d.taped.sync filters).run s = (r, t) →
      Passing d stages s t → Handles d (.sync filters) stages s t

variable {d : Driver σ}

theorem Passing.append {stages stages' : List Stage} {s t u : Session (σ × Tape)}
    (h : d.Passing stages s t) (h' : d.Passing stages' t u) :
    d.Passing (stages ++ stages') s u := by
  induction h with
  | nil s => exact h'
  | still htook _ ih => exact .still htook (ih h')
  | pass hrun htook hstops _ ih => exact .pass hrun htook hstops (ih h')

/-! ### Runs in stages -/

/-- All that the action does comes to one pass after another. -/
def InPasses (d : Driver σ) (act : Act (σ × Tape) α) : Prop :=
  ∀ s, ∃ stages, d.Passing stages s (act.run s).2

namespace InPasses

variable {β : Type} {act : Act (σ × Tape) α}

theorem pure (a : α) : d.InPasses (Pure.pure a : Act (σ × Tape) α) := fun s ↦ ⟨[], .nil s⟩

theorem throw (e : DriverError) : d.InPasses (MonadExcept.throw e : Act (σ × Tape) α) :=
  fun s ↦ ⟨[], .nil s⟩

/-- A failure in one stage does not keep the others from being passed. -/
theorem observe (h : d.InPasses act) : d.InPasses (Act.observe act) := h

/-- The stages of a sequence are those of its parts. -/
theorem bind {f : α → Act (σ × Tape) β} (h : d.InPasses act) (hf : ∀ a, d.InPasses (f a)) :
    d.InPasses (act >>= f) := by
  intro s
  obtain ⟨stages, hstages⟩ := h s
  rcases hact : act.run s with ⟨e | a, t⟩ <;> rw [hact] at hstages
  · rw [Act.run_bind_of_error hact]
    exact ⟨stages, hstages⟩
  · obtain ⟨stages', hstages'⟩ := hf a t
    rw [Act.run_bind_of_ok hact]
    exact ⟨stages ++ stages', hstages.append hstages'⟩

theorem fetch {q : ∀ τ : Type, Driver τ → Call τ DriverError α} (hq : Inquiry q) :
    d.InPasses (Act.askCatalog (q _ d.taped)) :=
  fun s ↦ ⟨[], .still (d.took_fetch hq s) (.nil _)⟩

/-- An action that never looks up health checks has no turns. -/
theorem quiet {p : ∀ τ : Type, Driver τ → Act τ α} (h : Routine .quiet p) :
    d.InPasses (p _ d.taped) := by
  intro s
  obtain ⟨xs, htook, -, hquiet⟩ := h.took (by simp) d s
  obtain rfl := hquiet rfl
  exact ⟨[], .still htook (.nil _)⟩

/-- The pass of one load balancer is a stage. -/
theorem pass (d : Driver σ) (lb : LoadBalancer) : d.InPasses (d.taped.syncLoadBalancer lb) := by
  intro s
  obtain ⟨xs, htook, hstops, -⟩ :=
    (Routine.syncLoadBalancer (k := .strict) (by simp) lb).took (by simp) d s
  exact ⟨_, .pass rfl htook hstops (.nil _)⟩

end InPasses

/-- A listed load balancer is fetched and then has its pass. -/
theorem inPasses_syncListed (d : Driver σ) (report : SyncReport) (id : String) :
    d.InPasses (d.taped.syncListed report id) := by
  refine .bind (.observe (.fetch (.balancer id))) fun answer ↦ ?_
  rcases answer with e | lb
  · exact .pure _
  refine .bind (.observe (.pass d lb)) fun r ↦ ?_
  rcases r with e | outcome
  · cases e with
    | applierClosed => exact .throw _
    | _ => exact .pure _
  · exact .bind (.quiet (.syncVipFip lb)) fun _ ↦ .pure _

/-- The first passes come one after another. -/
theorem inPasses_syncAll (d : Driver σ) (report : SyncReport) (ids : List String) :
    d.InPasses (d.taped.syncAll report ids) := by
  induction ids generalizing report with
  | nil => exact .pure _
  | cons id ids ih =>
    exact .bind (d.inPasses_syncListed report id) fun listed ↦ .bind (ih _) fun _ ↦ .pure _

theorem inPasses_syncAgain (d : Driver σ) (report : SyncReport) (lbs : List LoadBalancer) :
    d.InPasses (d.taped.syncAgain report lbs) := by
  induction lbs generalizing report with
  | nil => exact .pure _
  | cons lb lbs ih =>
    refine .bind (.observe (.pass d lb)) fun r ↦ ?_
    rcases r with e | outcome
    · cases e with
      | applierClosed => exact .throw _
      | _ => exact ih _
    · exact ih _

/-- A run consists of the passes of its load balancers. -/
theorem inPasses_sync (d : Driver σ) (filters : Filters) : d.InPasses (d.taped.sync filters) :=
  .bind (.fetch (.balancerIds filters)) fun ids ↦
    .bind (d.inPasses_syncAll .empty ids) fun _ ↦ d.inPasses_syncAgain _ _

/-! ### Sequences of calls -/

/-- Every call is handled, in one stage or in several. -/
theorem handles (d : Driver σ) (c : Command) (s : Session (σ × Tape)) :
    ∃ stages, d.Handles c stages s ((d.taped.reply c).run s).2 := by
  by_cases hc : ∃ filters, c = .sync filters
  · obtain ⟨filters, rfl⟩ := hc
    obtain ⟨stages, hstages⟩ := d.inPasses_sync filters s
    change ∃ stages, d.Handles _ stages s
      ((d.taped.sync filters >>= fun r ↦ pure (Reply.report r)).run s).2
    rw [Act.run_bind_pure]
    exact ⟨stages, .run rfl hstages⟩
  · have hreply : Routine .strict fun _ d ↦ d.reply c :=
      .reply (by simp) fun filters h ↦ absurd ⟨filters, h⟩ hc
    obtain ⟨xs, htook, hstops, -⟩ := hreply.took (by simp) d s
    exact ⟨_, .call (fun filters h ↦ hc ⟨filters, h⟩) rfl htook hstops⟩

/-- Whatever comes of the first call, the others are made. -/
theorem run_performAll_cons (d : Driver σ) (c : Command) (cs : List Command) (s : Session σ) :
    (d.performAll (c :: cs)).run s = (d.performAll cs).run ((d.reply c).run s).2 := by
  have hperform : ((d.perform c).run s).2 = ((d.reply c).run s).2 := by
    rw [perform_eq_reply, Act.run_bind_pure]
  rw [← hperform]
  rfl

theorem handles_performAll (d : Driver σ) (cs : List Command) (s : Session (σ × Tape)) :
    ∃ calls, Chain d.Handles cs calls s ((d.taped.performAll cs).run s).2 := by
  induction cs generalizing s with
  | nil => exact ⟨[], .nil s⟩
  | cons c cs ih =>
    obtain ⟨stages, hstages⟩ := d.handles c s
    obtain ⟨calls, hcalls⟩ := ih ((d.taped.reply c).run s).2
    rw [run_performAll_cons]
    exact ⟨stages :: calls, .cons hstages hcalls⟩

/-- A sequence of calls does the same with a tape as without, and does not fail. -/
theorem takes_performAll (d : Driver σ) (cs : List Command) (s : Session σ) :
    ∃ tape rs t, Takes d (fun _ d ↦ d.performAll cs) s tape rs (.ok ()) t := by
  induction cs generalizing s with
  | nil => exact ⟨_, _, _, .pure ()⟩
  | cons c cs ih =>
    obtain ⟨tape, rs, r, t, hc, -⟩ := (Routine.call c).takes d s
    obtain ⟨tape', rs', u, hcs⟩ := ih t
    exact ⟨_, _, u, .sequel (g := fun _ _ d ↦ d.performAll cs)
      (fun _ d s ↦ d.run_performAll_cons c cs s) hc hcs⟩

/-! ### The turns of stages -/

/-- All turns of some stages, in order. -/
def turnsOf (stages : List Stage) : List Turn := stages.flatMap Stage.turns

/-- Passing some stages takes their turns in order, and each stage stops at its first failure. -/
theorem Passing.took {stages : List Stage} {s t : Session (σ × Tape)} (h : d.Passing stages s t) :
    Took s (turnsOf stages) t ∧ ∀ stage ∈ stages, Stops s.isOpen stage.turns stage.failure? := by
  induction h with
  | nil s => exact ⟨.refl s, by simp⟩
  | still htook _ ih =>
    rw [htook.isOpen_eq] at ih
    exact ⟨htook.trans ih.1, ih.2⟩
  | pass _ htook hstops _ ih =>
    rw [htook.isOpen_eq] at ih
    exact ⟨htook.trans ih.1, List.forall_mem_cons.2 ⟨hstops, ih.2⟩⟩

/-- Handling a call takes the turns of its stages. -/
theorem Handles.took {c : Command} {stages : List Stage} {s t : Session (σ × Tape)}
    (h : d.Handles c stages s t) :
    Took s (turnsOf stages) t ∧ ∀ stage ∈ stages, Stops s.isOpen stage.turns stage.failure? := by
  cases h with
  | call _ _ htook hstops =>
    refine ⟨?_, List.forall_mem_singleton.2 hstops⟩
    simpa [turnsOf] using htook
  | run _ hpassing => exact hpassing.took

/-- What the single calls come to is what the sequence comes to. -/
theorem took_of_chain {cs : List Command} {calls : List (List Stage)} {s t : Session (σ × Tape)}
    (h : Chain d.Handles cs calls s t) :
    Took s (turnsOf calls.flatten) t ∧
      ∀ stage ∈ calls.flatten, Stops s.isOpen stage.turns stage.failure? := by
  induction h with
  | nil s => exact ⟨.refl s, by simp⟩
  | cons hc _ ih =>
    obtain ⟨htook, hstops⟩ := hc.took
    rw [htook.isOpen_eq] at ih
    rw [List.flatten_cons, List.forall_mem_append, turnsOf, List.flatMap_append]
    exact ⟨htook.trans ih.1, hstops, ih.2⟩

/-! ## The only memory -/

/-- All answers that a call gets in a session. -/
def answers (d : Driver σ) (c : Command) (s : Session σ) : Tape :=
  ((d.taped.reply c).run (s.taping [])).2.world.2

/-- The answers to a call are those on the tape of its run. -/
theorem answers_eq {c : Command} {s t : Session σ} {tape : Tape} {rs : List ChangeRequest}
    {r : Except DriverError Reply} (h : Takes d (fun _ d ↦ d.reply c) s tape rs r t) :
    d.answers c s = tape :=
  congrArg (fun p ↦ p.2.world.2) (h.taped [])

/-- Two drivers with the same answers and the same knowledge have the same result and send the same
requests, whatever one of them has sent before. -/
theorem reply_determined {c : Command} {s : Session σ} {τ : Type} {d' : Driver τ} {w' : τ}
    (hconfig : d'.config = d.config)
    (hanswers : d'.answers c ⟨w', s.healthChecks, [], s.isOpen⟩ = d.answers c s) :
    let fresh := (d'.reply c).run ⟨w', s.healthChecks, [], s.isOpen⟩
    ((d.reply c).run s).1 = fresh.1 ∧
    ((d.reply c).run s).2.emitted = s.emitted ++ fresh.2.emitted ∧
    ((d.reply c).run s).2.healthChecks = fresh.2.healthChecks := by
  obtain ⟨tape, rs, r, t, h, -⟩ := (Routine.call c).takes d s
  obtain ⟨tape', rs', r', t', h', -⟩ :=
    (Routine.call c).takes d' ⟨w', s.healthChecks, [], s.isOpen⟩
  rw [answers_eq h, answers_eq h'] at hanswers
  subst hanswers
  -- Both do what is done by one and the same driver that reads the answers from the tape.
  obtain ⟨rfl, rfl, hknown⟩ := h.determined h' hconfig rfl rfl
  have hemitted' : t'.emitted = rs' := h'.emitted_eq
  rw [h.run, h'.run]
  exact ⟨rfl, by rw [h.emitted_eq, hemitted'], hknown.symm⟩

/-- Whether the backend has health checks is all that the driver remembers.

Whatever calls are made of a fresh driver, health monitors come up one after another. The backend is
asked until it answers, and all later health monitors are validated by that first answer. A health
monitor that fails sends nothing and ends its stage, be that a call or a pass: with a backend error
if the question failed.

Apart from that a call in any session, so after any calls, has the result and the requests that it
has for a fresh driver that knows the same and gets the same answers. -/
theorem performAll_remembers_first_answer (d : Driver σ) :
    (∀ (cs : List Command) (w : σ) (isOpen : Bool), ∃ t tape calls,
      (d.performAll cs).run ⟨w, none, [], isOpen⟩ = (.ok (), t) ∧
      (d.taped.performAll cs).run ⟨(w, []), none, [], isOpen⟩ = (.ok (), t.taping tape) ∧
      Chain d.Handles cs calls ⟨(w, []), none, [], isOpen⟩ (t.taping tape) ∧
      (∃ failed, (∀ x ∈ failed, x.asked = true ∧ ∃ e, x.answer = .error e) ∧
        (turnsOf calls.flatten = failed ∧ t.healthChecks = none ∨
          ∃ m b later, turnsOf calls.flatten = failed ++ ⟨m, true, .ok b⟩ :: later ∧
            t.healthChecks = some b ∧ ∀ x ∈ later, x.asked = false ∧ x.answer = .ok b)) ∧
      tape.onHealthChecks = (turnsOf calls.flatten).filterMap Turn.question? ∧
      t.emitted.filter (·.operation.probes) =
        (turnsOf calls.flatten).flatMap (Turn.requests isOpen) ∧
      ∀ stage ∈ calls.flatten,
        (∀ before x after e, stage.turns = before ++ x :: after → x.ends isOpen = .error e →
          after = [] ∧ stage.failure? = some e ∧ x.requests isOpen = []) ∧
        (∀ x ∈ stage.turns, ∀ e, x.answer = .error e → x.ends isOpen = .error (.backend e)) ∧
        (stage.failure? = some (.unsupported .healthChecks) →
          ∃ x ∈ stage.turns, x.answer = .ok false)) ∧
    ∀ (c : Command) (s : Session σ) {τ : Type} (d' : Driver τ) (w' : τ), d'.config = d.config →
      d'.answers c ⟨w', s.healthChecks, [], s.isOpen⟩ = d.answers c s →
        let fresh := (d'.reply c).run ⟨w', s.healthChecks, [], s.isOpen⟩
        ((d.reply c).run s).1 = fresh.1 ∧
        ((d.reply c).run s).2.emitted = s.emitted ++ fresh.2.emitted ∧
        ((d.reply c).run s).2.healthChecks = fresh.2.healthChecks := by
  constructor
  · intro cs w isOpen
    let s : Session σ := ⟨w, none, [], isOpen⟩
    obtain ⟨tape, rs, t, htakes⟩ := d.takes_performAll cs s
    have htaped : (d.taped.performAll cs).run (s.taping []) = (.ok (), t.taping tape) :=
      htakes.taped []
    -- The turns are those of the run on tape, and the tape tells them apart.
    obtain ⟨calls, hcalls⟩ := d.handles_performAll cs (s.taping [])
    rw [htaped] at hcalls
    obtain ⟨⟨tape', rs', htape, hrs, -, hturns⟩, hstops⟩ := took_of_chain hcalls
    have htape : tape = tape' := htape
    have hrs : t.emitted = rs' := hrs
    subst htape hrs
    refine ⟨t, tape, calls, htakes.run, htaped, hcalls, hturns.remembers.shape rfl,
      hturns.questions, hturns.requests, fun stage hstage ↦ ⟨?_, ?_, ?_⟩⟩
    · intro before x after e hxs hx
      obtain ⟨hafter, hfailure⟩ := (hstops stage hstage).eq_of_ends hxs hx
      exact ⟨hafter, hfailure, Turn.requests_of_ends hx⟩
    · intro x _ e hanswer
      exact Turn.ends_of_error hanswer isOpen
    · exact (hstops stage hstage).exists_refused
  · intro c s τ d' w' hconfig hanswers
    exact reply_determined hconfig hanswers

end Driver

/-! ## A backend that hesitates -/

namespace Sample

/-- The backend does not say at first whether it has health checks, and then it has them. -/
def hesitant : Driver Nat where
  backend := {
    findLoadBalancers := fun id ↦ throw (.balancerNotFound id)
    findByPoolKey := fun _ ↦ return none
    hasHealthMonitor := fun _ ↦ return false
    logicalPort := fun _ ↦ return none
    supportsHealthChecks := fun n ↦
      (if n = 0 then .error (.unavailable "down") else .ok true, n + 1) }
  network := offline
  catalog := catalog
  config := .default

def monitor : HealthMonitor :=
  { (default : HealthMonitor) with id := "h1", poolId := "p1", kind := .value "TCP" }

end Sample

/-- The first of three calls fails with the question, the second asks again, and the third does
not. It does the same as if it came first and the answer were known. -/
theorem performAll_asks_until_answered :
    ∃ t tape calls,
      (Sample.hesitant.performAll (.replicate 3 (.createHealthMonitor Sample.monitor))).run
        ⟨0, none, [], true⟩ = (.ok (), t) ∧
      Chain Sample.hesitant.Handles (.replicate 3 (.createHealthMonitor Sample.monitor)) calls
        ⟨(0, []), none, [], true⟩ (t.taping tape) ∧
      tape = [⟨.healthChecks, .error (.unavailable "down")⟩, ⟨.healthChecks, .ok true⟩] ∧
      t.healthChecks = some true ∧
      t.emitted = .replicate 2 (.healthMonitor .hmCreate Sample.monitor) ∧
      ((Sample.hesitant.reply (.createHealthMonitor Sample.monitor)).run t).2.emitted =
        t.emitted ++ [.healthMonitor .hmCreate Sample.monitor] := by
  obtain ⟨hall, hfresh⟩ := Sample.hesitant.performAll_remembers_first_answer
  obtain ⟨t, tape, calls, hrun, htaped, hcalls, -⟩ :=
    hall (.replicate 3 (.createHealthMonitor Sample.monitor)) 0 true
  cases hrun
  have htape := congrArg (fun p ↦ p.2.world.2) htaped
  obtain ⟨-, hemitted, -⟩ := hfresh (.createHealthMonitor Sample.monitor)
    ⟨2, some true, .replicate 2 (.healthMonitor .hmCreate Sample.monitor), true⟩
    Sample.hesitant 0 rfl rfl
  exact ⟨_, tape, calls, rfl, hcalls, htape.symm, rfl, rfl, hemitted⟩

end BalancerSync
