import BalancerSync.Proofs.Fixed

/-!
# Outcomes of lists of items

With collaborators whose answers stay the same, what matters of an action is how it ends and what it
sends in the session of a fresh driver.  The outcome of a list of items, of which each asks first
and then sends, is put together from the outcomes of its parts.
-/

namespace BalancerSync

variable {σ α : Type}

/-! ## Outcomes -/

/-- How an action ends, and what it sends. -/
structure Outcome where
  ends : Except DriverError Unit
  sends : List ChangeRequest

namespace Outcome

def done : Outcome := ⟨.ok (), []⟩

/-- One action after another, unless the first one fails. -/
def andThen (a b : Outcome) : Outcome :=
  match a.ends with
  | .ok _ => ⟨b.ends, a.sends ++ b.sends⟩
  | .error _ => a

/-- The requests are found out first, and then sent. -/
def ofDue : Except DriverError (List ChangeRequest) → Outcome
  | .ok rs => ⟨.ok (), rs⟩
  | .error e => ⟨.error e, []⟩

@[simp] theorem done_andThen (a : Outcome) : done.andThen a = a := rfl

/-- After a success, what is sent next comes after what was sent. -/
theorem andThen_of_ok {a : Outcome} (h : a.ends = .ok ()) (b : Outcome) :
    a.andThen b = ⟨b.ends, a.sends ++ b.sends⟩ := by
  unfold andThen
  rw [h]

/-- After a failure, nothing else is done. -/
theorem andThen_of_error {a : Outcome} {e : DriverError} (h : a.ends = .error e) (b : Outcome) :
    a.andThen b = a := by
  unfold andThen
  rw [h]

end Outcome

/-- What the action does in the session of a fresh driver. -/
def Act.outcome (w : σ) (act : Act σ Unit) : Outcome :=
  ⟨(act.run (.start w)).1, (act.run (.start w)).2.emitted⟩

namespace Driver

variable {d : Driver σ}

/-- The outcome of a sequence is that of its parts, one after the other. -/
theorem Uniform.outcome_bind {act next : Act σ Unit} (h : d.Uniform act) (h' : d.Uniform next)
    (w : σ) : (act >>= fun _ ↦ next).outcome w = (act.outcome w).andThen (next.outcome w) := by
  obtain ⟨-, -, ht⟩ := h.eq_start (d.ready_start w) w
  rcases hact : act.run (.start w) with ⟨e | _, t⟩
  · have hends : (act.outcome w).ends = .error e := congrArg Prod.fst hact
    rw [Outcome.andThen_of_error hends]
    unfold Act.outcome
    rw [Act.run_bind_of_error hact, hact]
  · have hends : (act.outcome w).ends = .ok () := congrArg Prod.fst hact
    rw [hact] at ht
    obtain ⟨hnext, hsent, -⟩ := h'.eq_start ht w
    rw [Outcome.andThen_of_ok hends]
    unfold Act.outcome
    rw [Act.run_bind_of_ok hact, hact]
    rw [hnext, hsent]

/-- An item that asks first and then sends has the outcome that its answers decide. -/
theorem outcome_due {due : Act σ (List ChangeRequest)} (h : due.Silent) (w : σ) :
    (due >>= Act.submit).outcome w = .ofDue (due.run (.start w)).1 := by
  have hemitted := h.emitted_eq (.start w)
  have hopen := h.isOpen_eq (.start w)
  unfold Act.outcome
  rcases hdue : due.run (.start w) with ⟨e | rs, t⟩
  · rw [hdue] at hemitted
    rw [Act.run_bind_of_error hdue]
    exact congrArg (Outcome.mk (.error e)) hemitted
  · rw [hdue] at hemitted hopen
    rw [Act.run_bind_of_ok hdue, Act.submit_of_open hopen]
    exact congrArg (fun rs' ↦ Outcome.mk (.ok ()) (rs' ++ rs)) hemitted

/-- The outcome of a list of items, of which each asks first and then sends. -/
def course (w : σ) (due : α → Act σ (List ChangeRequest)) (xs : List α) : Outcome :=
  (xs.forM fun x ↦ due x >>= Act.submit).outcome w

@[simp] theorem course_nil (w : σ) (due : α → Act σ (List ChangeRequest)) :
    course w due [] = .done := rfl

section Course

variable {due : α → Act σ (List ChangeRequest)} (hd : ∀ x, d.Asks (due x))

include hd

theorem course_singleton (w : σ) (x : α) :
    course w due [x] = .ofDue ((due x).run (.start w)).1 := by
  rw [← outcome_due (hd x).silent w]
  unfold course
  simp

/-- Items that ask and then send make an action. -/
theorem acts_items (xs : List α) : d.Acts (xs.forM fun x ↦ due x >>= Act.submit) :=
  .forM (fun x ↦ .bind (hd x).built fun rs ↦ d.acts_submit rs) xs

/-- The course of items in two parts is that of one part and then the other. -/
theorem course_append (hb : d.backend.Fixed) (hn : d.network.Fixed) (w : σ) (xs ys : List α) :
    course w due (xs ++ ys) = (course w due xs).andThen (course w due ys) := by
  have hbind : (xs ++ ys).forM (fun x ↦ due x >>= Act.submit) =
      ((xs.forM fun x ↦ due x >>= Act.submit) >>= fun _ ↦
        ys.forM fun x ↦ due x >>= Act.submit) := List.forM_append
  unfold course
  rw [hbind]
  exact ((acts_items hd xs).uniform hb hn w).outcome_bind ((acts_items hd ys).uniform hb hn w) w

end Course

end Driver

end BalancerSync
