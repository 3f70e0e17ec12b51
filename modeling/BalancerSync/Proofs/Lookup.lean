import BalancerSync.Proofs.Pass
import BalancerSync.Proofs.Table

/-!
# Two ways to look up a pool

The backend is asked for the key of an enabled pool first, and for the key of a disabled one only
if no row has the first.  Among rows at hand the first one that has the pool under either key is
taken.  Both find a row for the same pools.  They find the same one unless the pool is disabled in
the first row that has it and enabled in a later one.
-/

namespace BalancerSync

variable {σ : Type}

/-! ## The rows of a store -/

/-- A store that is filled with rows has them in the order of their ids. -/
theorem Store.loadBalancers_ofSnapshot {d : Snapshot} {rows : List Row}
    (hperm : d.loadBalancers.Perm rows) (hrows : rows.Pairwise (·.uuid < ·.uuid)) :
    (Store.ofSnapshot d).loadBalancers.values = rows := by
  have hkeyed : (rows.map fun r ↦ (r.uuid, r)).Pairwise (·.1 < ·.1) := List.pairwise_map.2 hrows
  have htable := Table.rows_replace_empty (hperm.map fun r ↦ (r.uuid, r)) hkeyed
  unfold Table.values Store.ofSnapshot Store.apply Store.empty
  rw [htable, List.map_map]
  exact List.map_id rows

/-! ## Key by key -/

def Row.hasEnabled (poolId : String) (r : Row) : Bool :=
  Dictionary.has r.externalIds (poolKey poolId)

def Row.hasDisabled (poolId : String) (r : Row) : Bool :=
  Dictionary.has r.externalIds (disabledPoolKey poolId)

/-- The look-up of the backend, in a list of rows: all of them are searched for the key of the
enabled pool before any is searched for the other key. -/
def findKeyByKey (rows : List Row) (poolId : String) : Option (String × Row) :=
  match rows.find? (Row.hasEnabled poolId) with
  | some row => some (poolKey poolId, row)
  | none => (rows.find? (Row.hasDisabled poolId)).map (disabledPoolKey poolId, ·)

/-- The second key is asked for only if the first one is not there. -/
theorem run_findByPoolId (b : Backend σ) (poolId : String) (w : σ) :
    findByPoolId b poolId w =
      match b.findByPoolKey (poolKey poolId) w with
      | (.ok (some row), v) => (.ok (some (poolKey poolId, row)), v)
      | (.ok none, v) =>
        match b.findByPoolKey (disabledPoolKey poolId) v with
        | (.ok row?, v) => (.ok (row?.map (disabledPoolKey poolId, ·)), v)
        | (.error e, v) => (.error e, v)
      | (.error e, v) => (.error e, v) := by
  unfold findByPoolId
  rw [Call.run_bind]
  rcases b.findByPoolKey (poolKey poolId) w with ⟨e | _ | row, v⟩
  · rfl
  · refine (Call.run_bind _ _ v).trans ?_
    dsimp only
    rcases b.findByPoolKey (disabledPoolKey poolId) v with ⟨e | row?, v⟩ <;> rfl
  · rfl

/-- Asking a store for a pool never fails. -/
theorem Store.findByPoolId_backend (s : Store) (poolId : String) :
    findByPoolId Store.backend poolId s =
      (.ok (findKeyByKey s.loadBalancers.values poolId), s) := by
  have hask (key : String) : Store.backend.findByPoolKey key s =
      (.ok (s.loadBalancers.values.find? fun r ↦ Dictionary.has r.externalIds key), s) := rfl
  rw [run_findByPoolId, hask]
  unfold findKeyByKey
  change _ = (Except.ok (match s.loadBalancers.values.find?
    fun r ↦ Dictionary.has r.externalIds (poolKey poolId) with | some row => _ | none => _), s)
  cases s.loadBalancers.values.find? fun r ↦ Dictionary.has r.externalIds (poolKey poolId) with
  | none =>
    dsimp only
    rw [hask]
    rfl
  | some row => rfl

/-- The two keys of a pool are different. -/
theorem poolKey_ne_disabled (poolId : String) : poolKey poolId ≠ disabledPoolKey poolId := by
  intro h
  have hlength := congrArg String.length h
  simp [disabledPoolKey] at hlength

/-! ## Row by row -/

def Row.hasPool (poolId : String) (r : Row) : Bool := r.hasEnabled poolId || r.hasDisabled poolId

/-- If any row has the pool enabled, then so does the first row that has it. -/
def EnabledFirst (rows : List Row) (poolId : String) : Prop :=
  ∀ row, rows.find? (Row.hasPool poolId) = some row →
    rows.any (Row.hasEnabled poolId) = true → row.hasEnabled poolId = true

instance (rows : List Row) (poolId : String) : Decidable (EnabledFirst rows poolId) :=
  match h : rows.find? (Row.hasPool poolId) with
  | none => isTrue fun _ hrow ↦ by cases h.symm.trans hrow
  | some row => decidable_of_iff
      (rows.any (Row.hasEnabled poolId) = true → row.hasEnabled poolId = true)
      ⟨fun hrow _ h' ↦ by cases h.symm.trans h'; exact hrow, fun hall ↦ hall row h⟩

section Cons

variable {r : Row} {rows : List Row} {poolId : String}

/-! What the first row says of both look-ups: it decides them if it has the pool enabled, and it
is passed over if it does not have the pool. -/

/-- Row by row, a row with the enabled key is the one that is found. -/
theorem findInRows_cons_of_enabled (h : r.hasEnabled poolId = true) :
    findInRows (r :: rows) poolId = some (poolKey poolId, r) := by
  have hkey : r.poolKey? poolId = some (poolKey poolId) := if_pos h
  simp [findInRows, hkey]

/-- Row by row, a row with the disabled key is found as well, even before one with the enabled
key. -/
theorem findInRows_cons_of_disabled (h : r.hasEnabled poolId = false)
    (h' : r.hasDisabled poolId = true) :
    findInRows (r :: rows) poolId = some (disabledPoolKey poolId, r) := by
  have hkey : r.poolKey? poolId = some (disabledPoolKey poolId) :=
    (if_neg (Bool.eq_false_iff.1 h)).trans (if_pos h')
  simp [findInRows, hkey]

/-- A row without the pool is passed over. -/
theorem findInRows_cons_of_absent (h : r.hasEnabled poolId = false)
    (h' : r.hasDisabled poolId = false) :
    findInRows (r :: rows) poolId = findInRows rows poolId := by
  have hkey : r.poolKey? poolId = none :=
    (if_neg (Bool.eq_false_iff.1 h)).trans (if_neg (Bool.eq_false_iff.1 h'))
  simp [findInRows, hkey]

/-- Key by key, the first row with the enabled key is found. -/
theorem findKeyByKey_cons_of_enabled (h : r.hasEnabled poolId = true) :
    findKeyByKey (r :: rows) poolId = some (poolKey poolId, r) := by
  simp [findKeyByKey, h]

theorem findKeyByKey_cons_of_absent (h : r.hasEnabled poolId = false)
    (h' : r.hasDisabled poolId = false) :
    findKeyByKey (r :: rows) poolId = findKeyByKey rows poolId := by
  simp [findKeyByKey, h, h']

theorem enabledFirst_cons_of_absent (h : r.hasEnabled poolId = false)
    (h' : r.hasDisabled poolId = false) :
    EnabledFirst (r :: rows) poolId ↔ EnabledFirst rows poolId := by
  simp [EnabledFirst, Row.hasPool, h, h']

end Cons

/-- The two look-ups of a pool agree if the pool is enabled in the first row that has it, or in no
row at all. -/
theorem findInRows_eq_findKeyByKey_iff (rows : List Row) (poolId : String) :
    findInRows rows poolId = findKeyByKey rows poolId ↔ EnabledFirst rows poolId := by
  induction rows with
  | nil => simp [findInRows, findKeyByKey, EnabledFirst]
  | cons r rows ih =>
    cases henabled : r.hasEnabled poolId with
    | true =>
      rw [findInRows_cons_of_enabled henabled, findKeyByKey_cons_of_enabled henabled]
      simp [EnabledFirst, Row.hasPool, henabled]
    | false =>
      cases hdisabled : r.hasDisabled poolId with
      | false =>
        rw [findInRows_cons_of_absent henabled hdisabled,
          findKeyByKey_cons_of_absent henabled hdisabled,
          enabledFirst_cons_of_absent henabled hdisabled]
        exact ih
      | true =>
        -- The first row has the pool disabled; what counts is whether a later one has it enabled.
        have hiff : EnabledFirst (r :: rows) poolId ↔
            rows.find? (Row.hasEnabled poolId) = none := by
          simp [EnabledFirst, Row.hasPool, henabled, hdisabled]
        rw [findInRows_cons_of_disabled henabled hdisabled, hiff]
        unfold findKeyByKey
        rw [List.find?_cons_of_neg (by simp [henabled]), List.find?_cons_of_pos hdisabled]
        cases rows.find? (Row.hasEnabled poolId) with
        | none => simp
        | some row => simp [Ne.symm (poolKey_ne_disabled poolId)]

/-- Something is found if one of the rows has the pool. -/
theorem isSome_findKeyByKey (rows : List Row) (poolId : String) :
    (findKeyByKey rows poolId).isSome = holdsPool rows poolId := by
  have hholds : holdsPool rows poolId = true ↔
      (∃ r ∈ rows, r.hasEnabled poolId = true) ∨ ∃ r ∈ rows, r.hasDisabled poolId = true := by
    simp [holdsPool, Row.hasEnabled, Row.hasDisabled, and_or_left, exists_or]
  rw [Bool.eq_iff_iff, hholds, ← List.find?_isSome, ← List.find?_isSome]
  unfold findKeyByKey
  cases rows.find? (Row.hasEnabled poolId) with
  | none => simp
  | some row => simp

/-! ## The rows of a load balancer and the rows of the backend -/

/-- The look-up among rows and the look-up in a store that was filled with these rows find a row for
the same pools. The store prefers an enabled pool wherever it is; so the two find the same row
under the same key if the rows have the pool enabled first, and otherwise they do not. -/
theorem findInRows_agrees_with_store {d : Snapshot} {rows : List Row}
    (hperm : d.loadBalancers.Perm rows) (hrows : rows.Pairwise (·.uuid < ·.uuid))
    (poolId : String) :
    ∃ found, (findByPoolId Store.backend poolId (.ofSnapshot d)).1 = .ok found ∧
      found.isSome = (findInRows rows poolId).isSome ∧
      ((∃ r ∈ rows, r.hasEnabled poolId = true) → ∃ row, found = some (poolKey poolId, row)) ∧
      (findInRows rows poolId = found ↔ EnabledFirst rows poolId) := by
  have hstore : (findByPoolId Store.backend poolId (.ofSnapshot d)).1 =
      .ok (findKeyByKey rows poolId) := by
    rw [Store.findByPoolId_backend, Store.loadBalancers_ofSnapshot hperm hrows]
  refine ⟨findKeyByKey rows poolId, hstore, ?_, ?_, findInRows_eq_findKeyByKey_iff rows poolId⟩
  · rw [isSome_findKeyByKey, Driver.isSome_findInRows]
  · intro henabled
    obtain ⟨row, hrow⟩ := Option.isSome_iff_exists.1 (List.find?_isSome.2 henabled)
    refine ⟨row, ?_⟩
    unfold findKeyByKey
    rw [hrow]

namespace Sample

/-- A row in which the pool is disabled. -/
def disabledRow (uuid : String) : Row := ⟨uuid, "lb1", none, [("pool_p1:D", "")]⟩

def snapshot (rows : List Row) : Snapshot := { Snapshot.empty with loadBalancers := rows }

end Sample

/-- The row with the disabled pool comes last, although it was read first. -/
theorem findInRows_agrees_on_sample :
    (findByPoolId Store.backend "p1"
        (.ofSnapshot (Sample.snapshot [Sample.disabledRow "u2", Sample.row]))).1 =
      .ok (findInRows [Sample.row, Sample.disabledRow "u2"] "p1") := by
  have hperm : (Sample.snapshot [Sample.disabledRow "u2", Sample.row]).loadBalancers.Perm
      [Sample.row, Sample.disabledRow "u2"] := .swap _ _ _
  have hrows : [Sample.row, Sample.disabledRow "u2"].Pairwise (·.uuid < ·.uuid) := by
    decide +kernel
  obtain ⟨found, hfound, -, -, hiff⟩ := findInRows_agrees_with_store hperm hrows "p1"
  rw [hfound, hiff.2 (by decide +kernel)]

/-- If the row with the disabled pool is the first one, it is found although the pool is enabled in
another row, which is the one that the store finds. -/
theorem findInRows_finds_disabled_first :
    [Sample.disabledRow "u0", Sample.row].Pairwise (·.uuid < ·.uuid) ∧
    findInRows [Sample.disabledRow "u0", Sample.row] "p1" =
      some ("pool_p1:D", Sample.disabledRow "u0") ∧
    (findByPoolId Store.backend "p1"
        (.ofSnapshot (Sample.snapshot [Sample.disabledRow "u0", Sample.row]))).1 =
      .ok (some ("pool_p1", Sample.row)) := by
  decide +kernel

end BalancerSync
