import BalancerSync.Proofs.Floating
import BalancerSync.Proofs.Isolation

/-!
# Reports lose nothing

A run visits each listed load balancer once, and those that it created once more.  What a visit
comes to is a `Visit`; the report of a run is made of the visits, with one entry for each first
visit and one for each second visit that fails.  The run itself fails only with its listing, or if
nobody takes requests any more.
-/

namespace BalancerSync

variable {σ α β : Type}

/-! ## Reports -/

namespace SyncReport

/-- The number of entries. -/
def size (r : SyncReport) : Nat := r.synced.length + r.recreated.length + r.failed.length

/-- The entries of one report behind those of another. -/
protected def append (r r' : SyncReport) : SyncReport :=
  ⟨r.synced ++ r'.synced, r.recreated ++ r'.recreated, r.failed ++ r'.failed⟩

instance : Append SyncReport := ⟨SyncReport.append⟩

theorem append_def (r r' : SyncReport) :
    r ++ r' = ⟨r.synced ++ r'.synced, r.recreated ++ r'.recreated, r.failed ++ r'.failed⟩ := rfl

theorem append_empty (r : SyncReport) : r ++ empty = r := by
  simp [append_def, empty]

theorem empty_append (r : SyncReport) : empty ++ r = r := by
  simp [append_def, empty]

theorem append_assoc (r r' r'' : SyncReport) : r ++ r' ++ r'' = r ++ (r' ++ r'') := by
  simp [append_def]

end SyncReport

/-! ## Visits -/

/-- What becomes of a load balancer that is visited. -/
inductive Visit
  /-- The catalog does not give it out. -/
  | missed (id : String) (e : DriverError)
  | failed (lb : LoadBalancer) (e : DriverError)
  | passed (lb : LoadBalancer) (outcome : SyncOutcome)

namespace Visit

def synced? : Visit → Option String
  | passed lb .synced => some lb.id
  | passed _ .recreated | missed .. | failed .. => none

def recreated? : Visit → Option LoadBalancer
  | passed lb .recreated => some lb
  | passed _ .synced | missed .. | failed .. => none

/-- A load balancer that is not given out fails under its listed id. -/
def failure? : Visit → Option SyncFailure
  | missed id e => some ⟨id, e.message⟩
  | failed lb e => some ⟨lb.id, e.message⟩
  | passed .. => none

/-- What the visits have for the report. -/
def entries (vs : List Visit) : SyncReport where
  synced := vs.filterMap synced?
  recreated := (vs.filterMap recreated?).map (·.id)
  failed := vs.filterMap failure?

/-- The entries of several visits are those of the first, and then the others. -/
theorem entries_cons (v : Visit) (vs : List Visit) :
    entries (v :: vs) = entries [v] ++ entries vs := by
  rcases v with _ | _ | ⟨_, _ | _⟩ <;> rfl

/-- A visit has one entry. -/
theorem size_entries_singleton (v : Visit) : (entries [v]).size = 1 := by
  rcases v with _ | _ | ⟨_, _ | _⟩ <;> rfl

/-- A report has one entry for each visit. -/
theorem size_entries (vs : List Visit) : (entries vs).size = vs.length := by
  induction vs with
  | nil => rfl
  | cons v vs ih =>
    have hv := v.size_entries_singleton
    rw [entries_cons, List.length_cons, ← ih]
    simp only [SyncReport.size, SyncReport.append_def, List.length_append] at hv ⊢
    omega

end Visit

namespace SyncReport

theorem fail_missed (r : SyncReport) (id : String) (e : DriverError) :
    r.fail id e = r ++ Visit.entries [.missed id e] := by
  simp [fail, append_def, Visit.entries, Visit.synced?, Visit.recreated?, Visit.failure?]

theorem fail_failed (r : SyncReport) (lb : LoadBalancer) (e : DriverError) :
    r.fail lb.id e = r ++ Visit.entries [.failed lb e] := by
  simp [fail, append_def, Visit.entries, Visit.synced?, Visit.recreated?, Visit.failure?]

theorem add_passed (r : SyncReport) (lb : LoadBalancer) (outcome : SyncOutcome) :
    r.add lb.id outcome = r ++ Visit.entries [.passed lb outcome] := by
  cases outcome <;>
    simp [add, append_def, Visit.entries, Visit.synced?, Visit.recreated?, Visit.failure?]

end SyncReport

/-! ## Chains of visits -/

/-- One step for each element, from one session to the next. -/
inductive Chain (step : α → β → Session σ → Session σ → Prop) :
    List α → List β → Session σ → Session σ → Prop
  | nil (s : Session σ) : Chain step [] [] s s
  | cons {x : α} {y : β} {xs : List α} {ys : List β} {s t u : Session σ} :
      step x y s t → Chain step xs ys t u → Chain step (x :: xs) (y :: ys) s u

/-- A chain makes one step for each item. -/
theorem Chain.length_eq {step : α → β → Session σ → Session σ → Prop} {xs : List α} {ys : List β}
    {s t : Session σ} (h : Chain step xs ys s t) : ys.length = xs.length := by
  induction h with
  | nil s => rfl
  | cons _ _ ih => rw [List.length_cons, List.length_cons, ih]

namespace Driver

variable (d : Driver σ)

/-- A pass comes to this. A failure that ends the run is no visit. -/
inductive Passes (lb : LoadBalancer) : Visit → Session σ → Session σ → Prop
  | failed {e : DriverError} {s t : Session σ} : e ≠ .applierClosed →
      (d.syncLoadBalancer lb).run s = (.error e, t) → Passes lb (.failed lb e) s t
  | passed {outcome : SyncOutcome} {s t : Session σ} :
      (d.syncLoadBalancer lb).run s = (.ok outcome, t) → Passes lb (.passed lb outcome) s t

/-- The first visit of a listed load balancer comes to this. The floating address is looked at if
the pass goes well. -/
inductive Visits (id : String) : Visit → Session σ → Session σ → Prop
  | missed {e : DriverError} {s t : Session σ} :
      (Act.askCatalog (d.catalog.loadBalancer id)).run s = (.error e, t) →
        Visits id (.missed id e) s t
  | failed {lb : LoadBalancer} {e : DriverError} {s t u : Session σ} :
      (Act.askCatalog (d.catalog.loadBalancer id)).run s = (.ok lb, t) →
        d.Passes lb (.failed lb e) t u → Visits id (.failed lb e) s u
  | passed {lb : LoadBalancer} {outcome : SyncOutcome} {agrees : Bool} {s t u v : Session σ} :
      (Act.askCatalog (d.catalog.loadBalancer id)).run s = (.ok lb, t) →
        d.Passes lb (.passed lb outcome) t u →
          (d.syncVipFip lb).run u = (.ok agrees, v) → Visits id (.passed lb outcome) s v

/-! ## Passes over lists -/

variable {d}

/-- What the second passes fail with is entered in the order of the load balancers. -/
theorem Passes.sublist_ids {lbs : List LoadBalancer} {again : List Visit} {s t : Session σ}
    (h : Chain d.Passes lbs again s t) :
    ((again.filterMap Visit.failure?).map (·.lbId)).Sublist (lbs.map (·.id)) := by
  induction h with
  | nil s => exact .slnil
  | cons hpass _ ih =>
    cases hpass with
    | failed _ _ => exact ih.cons_cons _
    | passed _ => exact ih.cons _

/-! ## What the applier has to do with it -/

/-- An action leaves the applier as it is, and only if that is closed does it fail with it. -/
theorem Built.applier {R : ChangeRequest → Prop} {act : Act σ α} (h : d.Built R act)
    (s : Session σ) :
    (act.run s).2.isOpen = s.isOpen ∧
      ((act.run s).1 = .error .applierClosed → s.isOpen = false) := by
  induction h generalizing s with
  | pure a => exact ⟨rfl, by simp⟩
  | @bind _ _ act f _ _ ih ihf =>
    obtain ⟨hopen, hclosed⟩ := ih s
    rcases hact : act.run s with ⟨e | a, t⟩ <;> rw [hact] at hopen hclosed
    · rw [Act.run_bind_of_error hact]
      exact ⟨hopen, by simpa using hclosed⟩
    · obtain ⟨hopen', hclosed'⟩ := ihf a t
      rw [Act.run_bind_of_ok hact]
      exact ⟨hopen'.trans hopen, fun h ↦ hopen.symm.trans (hclosed' h)⟩
  | @check _ _ r f hr _ ihf =>
    cases r with
    | error e =>
      rw [Act.run_bind_of_error (Act.run_check _ s)]
      exact ⟨rfl, fun h ↦ absurd (congrArg Except.error (Except.error.inj h)) hr⟩
    | ok a => exact ihf a rfl s
  | @backend _ call _ =>
    refine ⟨rfl, ?_⟩
    change (call s.world).1.mapError DriverError.backend = _ → _
    cases (call s.world).1 <;> simp
  | @network _ call _ =>
    refine ⟨rfl, ?_⟩
    change (call s.world).1.mapError DriverError.api = _ → _
    cases (call s.world).1 <;> simp
  | @tryBackend _ _ call f _ _ ih | @tryNetwork _ _ call f _ _ ih =>
    rw [Act.run_observe_bind]
    exact ih (call s.world).1 { s with world := (call s.world).2 }
  | healthChecks =>
    refine ⟨d.silent_healthChecksSupported.isOpen_eq s, ?_⟩
    rcases hknown : s.healthChecks with _ | known
    · rw [d.healthChecksSupported_of_unknown hknown]
      rcases d.backend.supportsHealthChecks s.world with ⟨e | answer, w⟩ <;> simp
    · rw [d.healthChecksSupported_of_known hknown]
      simp
  | emit _ =>
    cases hopen : s.isOpen with
    | true =>
      rw [Act.emit_of_open hopen]
      exact ⟨hopen, by simp⟩
    | false =>
      rw [Act.emit_of_closed hopen]
      exact ⟨hopen, by simp⟩

/-- All that can fail about a floating address is that its request is sent. -/
theorem syncVipFip_eq_error {lb : LoadBalancer} {s t : Session σ} {e : DriverError}
    (h : (d.syncVipFip lb).run s = (.error e, t)) : e = .applierClosed := by
  rcases d.run_syncVipFip lb s with ⟨k, w, -, hrun⟩ | ⟨-, w, hrun⟩ <;> rw [hrun] at h
  · cases hopen : s.isOpen with
    | true =>
      rw [run_applyFip (by exact hopen)] at h
      cases h
    | false =>
      unfold applyFip at h
      split at h
      · cases h
      · rw [Act.run_bind_of_error (Act.emit_of_closed (by exact hopen) _)] at h
        cases h
        rfl
      · cases h
  · cases h

/-- Nothing comes of the action because the applier is closed. -/
def GivesUp (act : Act σ α) (s : Session σ) : Prop :=
  s.isOpen = false ∧ ∃ t, act.run s = (.error .applierClosed, t)

/-- Nothing comes after an action that has given up. -/
theorem GivesUp.bind {act : Act σ α} {s : Session σ} (h : GivesUp act s) (f : α → Act σ β) :
    GivesUp (act >>= f) s := by
  obtain ⟨hclosed, t, hrun⟩ := h
  exact ⟨hclosed, t, Act.run_bind_of_error hrun f⟩

theorem GivesUp.of_run {act act' : Act σ α} {s t : Session σ} (h : GivesUp act' t)
    (hrun : act.run s = act'.run t) (hopen : t.isOpen = s.isOpen) : GivesUp act s := by
  obtain ⟨hclosed, u, hrun'⟩ := h
  exact ⟨hopen.symm.trans hclosed, u, hrun.trans hrun'⟩

/-- A sequence gives up if its second part does, provided the applier stays as it is until then. -/
theorem GivesUp.of_ok {act : Act σ α} {s t : Session σ} {a : α} {f : α → Act σ β}
    (hrun : act.run s = (.ok a, t)) (hopen : t.isOpen = s.isOpen) (h : GivesUp (f a) t) :
    GivesUp (act >>= f) s :=
  h.of_run (Act.run_bind_of_ok hrun f) hopen

/-! ## Passes one after another -/

/-- The pass of a listed load balancer is a visit and is entered as one, or the run ends. -/
theorem run_syncListed (d : Driver σ) (report : SyncReport) (id : String) (s : Session σ) :
    (∃ v t, d.Visits id v s t ∧ t.isOpen = s.isOpen ∧ (d.syncListed report id).run s =
      (.ok (report ++ Visit.entries [v], v.recreated?.toList), t)) ∨
    GivesUp (d.syncListed report id) s := by
  unfold syncListed
  rcases hlb : (Act.askCatalog (d.catalog.loadBalancer id)).run s with ⟨answer, s₁⟩
  have hopen : s₁.isOpen = s.isOpen := congrArg (·.2.isOpen) hlb.symm
  have hask := Act.run_observe_of_run hlb
  rcases answer with e | lb
  · refine .inl ⟨.missed id e, s₁, .missed hlb, hopen, ?_⟩
    rw [Act.run_bind_of_ok hask, ← SyncReport.fail_missed]
    rfl
  obtain ⟨hopen₂, hclosed⟩ := (d.acts_syncLoadBalancer lb).applier s₁
  rcases hpass : (d.syncLoadBalancer lb).run s₁ with ⟨e | outcome, s₂⟩ <;>
    rw [hpass] at hopen₂ hclosed
  · by_cases he : e = .applierClosed
    · subst he
      refine .inr (.of_ok hask hopen (.of_ok (Act.run_observe_of_run hpass) hopen₂ ?_))
      exact ⟨hopen₂.trans (hclosed rfl), s₂, rfl⟩
    · refine .inl ⟨.failed lb e, s₂, .failed hlb (.failed he hpass), hopen₂.trans hopen, ?_⟩
      rw [Act.run_bind_of_ok hask, Act.run_bind_of_ok (Act.run_observe_of_run hpass),
        ← SyncReport.fail_failed]
      cases e with
      | applierClosed => exact absurd rfl he
      | _ => rfl
  -- The pass went well, and the floating address is looked at.
  obtain ⟨hopen₃, hclosed'⟩ := (d.acts_syncVipFip lb).applier s₂
  rcases hfip : (d.syncVipFip lb).run s₂ with ⟨e | agrees, s₃⟩ <;> rw [hfip] at hopen₃ hclosed'
  · obtain rfl := syncVipFip_eq_error hfip
    refine .inr (.of_ok hask hopen (.of_ok (Act.run_observe_of_run hpass) hopen₂ ?_))
    exact GivesUp.bind ⟨hclosed' rfl, s₃, hfip⟩ _
  · refine .inl ⟨.passed lb outcome, s₃, .passed hlb (.passed hpass) hfip,
      hopen₃.trans (hopen₂.trans hopen), ?_⟩
    rw [Act.run_bind_of_ok hask, Act.run_bind_of_ok (Act.run_observe_of_run hpass),
      ← SyncReport.add_passed]
    refine (Act.run_bind_of_ok hfip _).trans ?_
    cases outcome <;> rfl

/-- The first passes are visits, and each is entered. -/
theorem run_syncAll (d : Driver σ) (report : SyncReport) (ids : List String) (s : Session σ) :
    (∃ visits t, Chain d.Visits ids visits s t ∧ t.isOpen = s.isOpen ∧
      (d.syncAll report ids).run s =
        (.ok (report ++ Visit.entries visits, visits.filterMap Visit.recreated?), t)) ∨
    GivesUp (d.syncAll report ids) s := by
  induction ids generalizing report s with
  | nil =>
    have hentries : report ++ Visit.entries [] = report := SyncReport.append_empty report
    exact .inl ⟨[], s, .nil s, rfl, by rw [hentries]; rfl⟩
  | cons id ids ih =>
    rcases d.run_syncListed report id s with ⟨v, t, hv, hopen, hfirst⟩ | hgives
    · rcases ih (report ++ Visit.entries [v]) t with ⟨visits, u, hvisits, hopen', hrest⟩ | hgives
      · refine .inl ⟨v :: visits, u, .cons hv hvisits, hopen'.trans hopen, ?_⟩
        refine (Act.run_bind_of_ok hfirst _).trans ((Act.run_bind_of_ok hrest _).trans ?_)
        rw [SyncReport.append_assoc, ← Visit.entries_cons]
        cases hv? : v.recreated? <;> simp [hv?]
      · exact .inr (.of_ok hfirst hopen (hgives.bind _))
    · exact .inr (hgives.bind _)

/-- The second passes only add failures. -/
theorem run_syncAgain (d : Driver σ) (report : SyncReport) (lbs : List LoadBalancer)
    (s : Session σ) :
    (∃ again t, Chain d.Passes lbs again s t ∧ (d.syncAgain report lbs).run s =
      (.ok { report with failed := report.failed ++ again.filterMap Visit.failure? }, t)) ∨
    GivesUp (d.syncAgain report lbs) s := by
  induction lbs generalizing report s with
  | nil => exact .inl ⟨[], s, .nil s, by simp [syncAgain]⟩
  | cons lb lbs ih =>
    obtain ⟨hopen, hclosed⟩ := (d.acts_syncLoadBalancer lb).applier s
    rcases hpass : (d.syncLoadBalancer lb).run s with ⟨e | outcome, t⟩ <;>
      rw [hpass] at hopen hclosed
    · by_cases he : e = .applierClosed
      · subst he
        refine .inr (.of_ok (Act.run_observe_of_run hpass) hopen ?_)
        exact ⟨hopen.trans (hclosed rfl), t, rfl⟩
      -- Any other failure is entered, and the next load balancer has its turn.
      have hnext : (d.syncAgain report (lb :: lbs)).run s =
          (d.syncAgain (report.fail lb.id e) lbs).run t := by
        rw [syncAgain, Act.run_bind_of_ok (Act.run_observe_of_run hpass)]
        cases e with
        | applierClosed => exact absurd rfl he
        | _ => rfl
      rcases ih (report.fail lb.id e) t with ⟨again, u, hagain, hrest⟩ | hgives
      · refine .inl ⟨.failed lb e :: again, u, .cons (.failed he hpass) hagain, ?_⟩
        rw [hnext, hrest]
        simp [SyncReport.fail, Visit.failure?]
      · exact .inr (hgives.of_run hnext hopen)
    · have hnext : (d.syncAgain report (lb :: lbs)).run s = (d.syncAgain report lbs).run t :=
        Act.run_bind_of_ok (Act.run_observe_of_run hpass) _
      rcases ih report t with ⟨again, u, hagain, hrest⟩ | hgives
      · exact .inl ⟨.passed lb outcome :: again, u, .cons (.passed hpass) hagain,
          hnext.trans hrest⟩
      · exact .inr (hgives.of_run hnext hopen)

/-! ## Runs -/

/-- Once the load balancers are listed, there are the first visits and the second ones, or the
applier is closed. -/
theorem run_syncIds (d : Driver σ) (ids : List String) (s : Session σ) :
    (∃ visits again t u, Chain d.Visits ids visits s t ∧
      Chain d.Passes (visits.filterMap Visit.recreated?) again t u ∧
      (d.syncAll .empty ids >>= fun p ↦ d.syncAgain p.1 p.2).run s =
        (.ok { Visit.entries visits with
          failed := visits.filterMap Visit.failure? ++ again.filterMap Visit.failure? }, u)) ∨
    GivesUp (d.syncAll .empty ids >>= fun p ↦ d.syncAgain p.1 p.2) s := by
  rcases d.run_syncAll .empty ids s with ⟨visits, t, hvisits, hopen, hall⟩ | hgives
  · rw [SyncReport.empty_append] at hall
    rcases d.run_syncAgain (Visit.entries visits) (visits.filterMap Visit.recreated?) t with
      ⟨again, u, hpasses, hagain⟩ | hgives
    · exact .inl ⟨visits, again, t, u, hvisits, hpasses, (Act.run_bind_of_ok hall _).trans hagain⟩
    · exact .inr (.of_ok hall hopen hgives)
  · exact .inr (hgives.bind _)

/-- A run that returns a report has visited the listed load balancers in order, and then those that
it created in the order in which it created them. The report has the entries of the first visits,
each of which has one, and behind them the failures of the second. A run that does not return a
report failed with its listing, or its applier was closed. -/
theorem sync_reports_each_once (d : Driver σ) (filters : Filters) (s : Session σ) :
    (∀ report t, (d.sync filters).run s = (.ok report, t) →
      ∃ ids visits again s₁ s₂,
        (Act.askCatalog (d.catalog.loadBalancerIds filters)).run s = (.ok ids, s₁) ∧
        Chain d.Visits ids visits s₁ s₂ ∧
        Chain d.Passes (visits.filterMap Visit.recreated?) again s₂ t ∧
        (∀ v ∈ visits, (Visit.entries [v]).size = 1) ∧
        report.synced = visits.filterMap Visit.synced? ∧
        report.recreated = (visits.filterMap Visit.recreated?).map (·.id) ∧
        report.failed = visits.filterMap Visit.failure? ++ again.filterMap Visit.failure? ∧
        ((again.filterMap Visit.failure?).map (·.lbId)).Sublist report.recreated ∧
        report.synced.length + report.recreated.length + report.failed.length =
          ids.length + (again.filterMap Visit.failure?).length) ∧
    (∀ e t, (d.sync filters).run s = (.error e, t) →
      (Act.askCatalog (d.catalog.loadBalancerIds filters)).run s = (.error e, t) ∨
      e = .applierClosed ∧ s.isOpen = false) := by
  constructor
  · intro report t h
    obtain ⟨ids, s₁, hids, h⟩ := Act.bind_eq_ok.1 h
    rcases d.run_syncIds ids s₁ with ⟨visits, again, s₂, t', hvisits, hpasses, hrun⟩ | ⟨-, t', hrun⟩
    · cases hrun.symm.trans h
      refine ⟨ids, visits, again, s₁, s₂, hids, hvisits, hpasses,
        fun v _ ↦ v.size_entries_singleton, rfl, rfl, rfl, Passes.sublist_ids hpasses, ?_⟩
      have hsize := Visit.size_entries visits
      rw [hvisits.length_eq] at hsize
      simp only [SyncReport.size, Visit.entries] at hsize
      simp only [Visit.entries, List.length_append]
      omega
    · cases hrun.symm.trans h
  · intro e t h
    obtain hids | ⟨ids, s₁, hids, h⟩ := Act.bind_eq_error.1 h
    · exact .inl hids
    · rcases d.run_syncIds ids s₁ with ⟨visits, again, s₂, t', -, -, hrun⟩ | ⟨hclosed, t', hrun⟩
      · cases hrun.symm.trans h
      · cases hrun.symm.trans h
        have hopen : s₁.isOpen = s.isOpen := congrArg (·.2.isOpen) hids.symm
        exact .inr ⟨rfl, hopen.symm.trans hclosed⟩

end Driver

/-! ## A pass that fails the second time -/

namespace Sample

/-- The backend has no rows for the first three questions, and then goes down. -/
def flaky : Driver Nat where
  backend := {
    findLoadBalancers := fun id n ↦
      (if n < 3 then .error (.balancerNotFound id) else .error (.unavailable "down"), n + 1)
    findByPoolKey := fun _ ↦ return none
    hasHealthMonitor := fun _ ↦ return false
    logicalPort := fun _ ↦ return none
    supportsHealthChecks := return true }
  network := offline
  catalog := catalog
  config := .default

end Sample

/-- The load balancer that is created stays in the report when its second pass fails. -/
theorem sync_reports_second_failure :
    ∃ report t, ∃ again : List Visit, (Sample.flaky.sync []).run (.start 0) = (.ok report, t) ∧
      report.recreated = ["lb1"] ∧ report.failed.map (·.lbId) = ["lb0", "lb1"] ∧
      (again.filterMap Visit.failure?).length = 1 ∧
      ((again.filterMap Visit.failure?).map (·.lbId)).Sublist report.recreated := by
  have hrun : ((Sample.flaky.sync []).run (.start 0)).1 = .ok ⟨[], ["lb1"],
      [⟨"lb0", "API error: API error (HTTP 404): load balancer not found"⟩,
        ⟨"lb1", "Backend error: backend unavailable: down"⟩]⟩ := by decide +kernel
  obtain ⟨hok, -⟩ := Sample.flaky.sync_reports_each_once [] (.start 0)
  obtain ⟨ids, visits, again, s₁, s₂, hids, -, -, -, -, -, -, hsublist, hsize⟩ :=
    hok _ _ (Act.run_eq_of_fst hrun)
  obtain rfl : ["lb0", "lb1"] = ids := Except.ok.inj (congrArg Prod.fst hids)
  refine ⟨_, _, again, Act.run_eq_of_fst hrun, rfl, rfl, ?_, hsublist⟩
  simp only [List.length_nil, List.length_cons] at hsize
  omega

end BalancerSync
