import BalancerSync.Proofs.Lookup
import BalancerSync.Proofs.Supported

/-!
# Members that are only recorded

A member that no caller names is deleted because the backend has it recorded.  So every entry that
the driver deletes was read from a row that the backend gave out, under one of the two keys of its
pool.
-/

namespace BalancerSync

variable {σ α : Type}

/-- The backend gives out this row, be it as one of a load balancer or as one that has a pool. -/
def Backend.Gives (b : Backend σ) (row : Row) : Prop :=
  (∃ id rows w, (b.findLoadBalancers id w).1 = .ok rows ∧ row ∈ rows) ∨
    ∃ key w, (b.findByPoolKey key w).1 = .ok (some row)

/-- The member is recorded for the pool, in a row that the backend gives out. -/
def Driver.Recorded (d : Driver σ) (poolId : String) (e : MemberEntry) : Prop :=
  ∃ row key, d.backend.Gives row ∧ (key = poolKey poolId ∨ key = disabledPoolKey poolId) ∧
    e ∈ row.entries key

/-- An entry that is deleted is recorded; nothing else has to be. -/
def Driver.Records (d : Driver σ) : Sending → Prop
  | .deleteEntry e poolId => d.Recorded poolId e
  | _ => True

/-- What is sent is supported, and no entry is deleted that is not recorded. -/
structure Driver.Sound (d : Driver σ) (S : Scope) (o : Sending) : Prop where
  supported : o.Supported S
  recorded : d.Records o

/-! ## Where rows come from -/

/-- Each answer of a repeated call is an answer of the call. -/
theorem exists_answer_of_retry {call : Call σ BackendError α} {n : Nat} {w : σ} {a : α}
    (h : (retry call n w).1 = .ok a) : ∃ v, (call v).1 = .ok a := by
  induction n generalizing w with
  | zero => exact ⟨w, h⟩
  | succ n ih =>
    rw [retry, Call.run_tryCatch] at h
    rcases hcall : call w with ⟨e | b, v⟩ <;> rw [hcall] at h
    · by_cases he : e.isRowNotFound = true
      · simp only [he, if_true] at h
        exact ih h
      · simp only [he] at h
        cases h
    · exact ⟨w, (congrArg Prod.fst hcall).trans h⟩

namespace Backend

variable {b : Backend σ} {poolId key : String} {row : Row} {w : σ}

/-- A row that is found by a pool is one that the backend gave, under one of the two keys of the
pool. -/
theorem gives_of_findByPoolId (h : (findByPoolId b poolId w).1 = .ok (some (key, row))) :
    b.Gives row ∧ (key = poolKey poolId ∨ key = disabledPoolKey poolId) := by
  rw [run_findByPoolId] at h
  rcases henabled : b.findByPoolKey (poolKey poolId) w with ⟨e | _ | row', v⟩ <;>
    rw [henabled] at h
  · cases h
  · dsimp only at h
    rcases hdisabled : b.findByPoolKey (disabledPoolKey poolId) v with ⟨e | _ | row', u⟩ <;>
      rw [hdisabled] at h
    · cases h
    · cases h
    · obtain ⟨rfl, rfl⟩ : disabledPoolKey poolId = key ∧ row' = row := by simpa using h
      exact ⟨.inr ⟨_, v, congrArg Prod.fst hdisabled⟩, .inr rfl⟩
  · obtain ⟨rfl, rfl⟩ : poolKey poolId = key ∧ row' = row := by simpa using h
    exact ⟨.inr ⟨_, w, congrArg Prod.fst henabled⟩, .inl rfl⟩

theorem gives_of_requirePool (h : (requirePool b poolId w).1 = .ok (key, row)) :
    b.Gives row ∧ (key = poolKey poolId ∨ key = disabledPoolKey poolId) := by
  rw [run_requirePool] at h
  rcases hfind : findByPoolId b poolId w with ⟨e | _ | found, v⟩ <;> rw [hfind] at h
  · cases h
  · cases h
  · obtain rfl : found = (key, row) := by simpa using h
    exact gives_of_findByPoolId (congrArg Prod.fst hfind)

end Backend

/-- What is found in given rows is one of them. -/
theorem mem_of_findInRows {rows : List Row} {poolId key : String} {row : Row}
    (h : findInRows rows poolId = some (key, row)) :
    row ∈ rows ∧ (key = poolKey poolId ∨ key = disabledPoolKey poolId) := by
  obtain ⟨row', hmem, hkey⟩ := List.exists_of_findSome?_eq_some h
  obtain ⟨key', hkey', hpair⟩ := Option.map_eq_some_iff.1 hkey
  obtain ⟨rfl, rfl⟩ : key' = key ∧ row' = row := by simpa using hpair
  refine ⟨hmem, ?_⟩
  unfold Row.poolKey? at hkey'
  split at hkey'
  · exact .inl (Option.some.inj hkey').symm
  split at hkey'
  · exact .inr (Option.some.inj hkey').symm
  · cases hkey'

namespace Driver

variable {d : Driver σ} {poolId : String}

/-- The entries of a row that is found for a pool are recorded for this pool. -/
theorem recorded_of_findInRows {rows : List Row} {key : String} {row : Row}
    (hrows : ∀ row ∈ rows, d.backend.Gives row) (h : findInRows rows poolId = some (key, row)) :
    ∀ e ∈ row.entries key, d.Recorded poolId e := by
  obtain ⟨hmem, hkey⟩ := mem_of_findInRows h
  exact fun e he ↦ ⟨row, key, hrows row hmem, hkey, he⟩

/-- A pool that never appears has no members recorded. -/
theorem recorded_of_recordedElsewhere {s t : Session σ} {es : List MemberEntry}
    (h : (d.recordedElsewhere poolId).run s = (.ok es, t)) : ∀ e ∈ es, d.Recorded poolId e := by
  unfold recordedElsewhere at h
  rw [Act.run_observe_bind, Act.askBackend, Act.run_ask] at h
  rcases hfind : findByPoolIdWithRetry d.backend d.config.effectiveAttempts poolId s.world with
    ⟨e | ⟨key, row⟩, w⟩ <;> rw [hfind] at h
  · by_cases he : e.isRowNotFound = true
    · obtain ⟨rfl, -⟩ : [] = es ∧ _ = t := by simpa [he] using h
      simp
    · simp [he] at h
  · obtain ⟨rfl, -⟩ : row.entries key = es ∧ _ = t := by simpa using h
    obtain ⟨v, hv⟩ := exists_answer_of_retry (congrArg Prod.fst hfind)
    obtain ⟨hgives, hkey⟩ := Backend.gives_of_requirePool hv
    exact fun e he ↦ ⟨row, key, hgives, hkey, he⟩

/-- The entries of a row that the backend was asked for are recorded, too. -/
theorem recorded_of_askPool {s t : Session σ} {key : String} {row : Row}
    (h : (Act.askBackend (requirePool d.backend poolId)).run s = (.ok (key, row), t)) :
    ∀ e ∈ row.entries key, d.Recorded poolId e := by
  rw [Act.askBackend, Act.run_ask] at h
  rcases hrequire : requirePool d.backend poolId s.world with ⟨e | found, w⟩ <;>
    rw [hrequire] at h
  · cases h
  · obtain ⟨rfl, -⟩ : found = (key, row) ∧ _ = t := by simpa using h
    obtain ⟨hgives, hkey⟩ := Backend.gives_of_requirePool (congrArg Prod.fst hrequire)
    exact fun e he ↦ ⟨row, key, hgives, hkey, he⟩

/-- The rows of a load balancer are given out, even after some misses. -/
theorem gives_of_retry {attempts : UInt32} {id : String} {rows : List Row} {w : σ}
    (h : (retryOnNotFound attempts (d.backend.findLoadBalancers id) w).1 = .ok rows) :
    ∀ row ∈ rows, d.backend.Gives row := by
  obtain ⟨v, hv⟩ := exists_answer_of_retry h
  exact fun row hrow ↦ .inl ⟨id, rows, v, hv, hrow⟩

end Driver

end BalancerSync
