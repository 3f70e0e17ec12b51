import BalancerSync.Proofs.Table
import BalancerSync.Store.Basic
import Mathlib.Data.List.Nodup

/-!
# Refreshing a store

Whatever was written to a store before, a snapshot replaces all of it: the store then answers like
one that was filled from the snapshot alone.  Of the rows of a snapshot that share a key the last
one counts.  The answers depend on the rows, not on the order in which they are visited.
-/

namespace BalancerSync

variable {α : Type}

/-! ## The last row of each key -/

/-- A row of a list that no later row of the list replaces. -/
def LastOf (key : α → String) (rows : List α) (r : α) : Prop :=
  ∃ before after, rows = before ++ r :: after ∧ ∀ r' ∈ after, key r' ≠ key r

section LastOf

variable {key : α → String} {rows : List α} {r : α}

theorem LastOf.mem (h : LastOf key rows r) : r ∈ rows := by
  obtain ⟨before, after, rfl, -⟩ := h
  simp

/-- If no two rows share a key, none is replaced. -/
theorem lastOf_iff_mem (h : rows.Pairwise (key · ≠ key ·)) : LastOf key rows r ↔ r ∈ rows := by
  constructor
  · exact LastOf.mem
  · intro hmem
    obtain ⟨before, after, rfl⟩ := List.append_of_mem hmem
    refine ⟨before, after, rfl, ?_⟩
    intro r' hr' heq
    exact (List.pairwise_cons.1 (List.pairwise_append.1 h).2.1).1 r' hr' heq.symm

/-- The rows as they are taken over into a table. -/
def keyed (key : α → String) (rows : List α) : List (String × α) := rows.map fun r ↦ (key r, r)

/-- From the back, the first row with a key is the last one that was given. -/
theorem get?_reverse_keyed {k : String} :
    Dictionary.get? (keyed key rows).reverse k = some r ↔ LastOf key rows r ∧ key r = k := by
  have hfind : Dictionary.get? (keyed key rows).reverse k = rows.reverse.find? (key · == k) := by
    unfold Dictionary.get? keyed
    rw [← List.map_reverse, List.find?_map, Option.map_map]
    exact Option.map_id'
  rw [hfind, List.find?_eq_some_iff_append]
  constructor
  · rintro ⟨hkey, later, earlier, hrows, hlater⟩
    have hkey : key r = k := by simpa using hkey
    refine ⟨⟨earlier.reverse, later.reverse, ?_, ?_⟩, hkey⟩
    · simpa using congrArg List.reverse hrows
    · intro r' hr'
      have h := hlater r' (List.mem_reverse.1 hr')
      rw [hkey]
      simpa using h
  · rintro ⟨⟨before, after, rfl, hafter⟩, rfl⟩
    refine ⟨by simp, after.reverse, before.reverse, by simp, ?_⟩
    intro r' hr'
    simpa using hafter r' (List.mem_reverse.1 hr')

end LastOf

namespace Table

variable {key : α → String} {t : Table α}

/-- A replaced table has for each key the last row that was given for it. -/
theorem get?_replace_keyed (t : Table α) (key : α → String) (rows : List α) {k : String} {r : α} :
    (t.replace (keyed key rows)).get? k = some r ↔ LastOf key rows r ∧ key r = k := by
  rw [get?_replace, get?_reverse_keyed]

theorem Sorted.mem_replace_keyed (h : t.Sorted) {rows : List α} {k : String} {r : α} :
    (k, r) ∈ (t.replace (keyed key rows)).rows ↔ LastOf key rows r ∧ key r = k := by
  rw [(h.replace _).mem_rows_iff, get?_replace_keyed]

/-- The values of a replaced table are the last rows of their keys; nothing from before is left. -/
theorem Sorted.mem_values_replace (h : t.Sorted) {rows : List α} {r : α} :
    r ∈ (t.replace (keyed key rows)).values ↔ LastOf key rows r := by
  unfold values
  rw [List.mem_map]
  constructor
  · rintro ⟨⟨k, r⟩, hmem, rfl⟩
    exact (h.mem_replace_keyed.1 hmem).1
  · intro hlast
    exact ⟨(key r, r), h.mem_replace_keyed.2 ⟨hlast, rfl⟩, rfl⟩

/-- The rows that were taken over are in the order of their own keys. -/
theorem Sorted.pairwise_values_replace (h : t.Sorted) (rows : List α) :
    (t.replace (keyed key rows)).values.Pairwise (key · < key ·) := by
  refine List.pairwise_map.2 (List.Pairwise.imp_of_mem ?_ (h.replace (keyed key rows)))
  rintro ⟨k, r⟩ ⟨k', r'⟩ hr hr' hlt
  rw [(h.mem_replace_keyed.1 hr).2, (h.mem_replace_keyed.1 hr').2]
  exact hlt

/-- Rows with distinct keys may be taken over in any order. -/
theorem Sorted.replace_perm (h : t.Sorted) {rows rows' : List α} (hperm : rows.Perm rows')
    (hdistinct : rows.Pairwise (key · ≠ key ·)) :
    t.replace (keyed key rows') = t.replace (keyed key rows) := by
  have hdistinct' : rows'.Pairwise (key · ≠ key ·) := hdistinct.perm hperm Ne.symm
  refine (h.replace _).ext (h.replace _) ?_
  intro k
  refine Option.ext fun r ↦ ?_
  rw [get?_replace_keyed, get?_replace_keyed, lastOf_iff_mem hdistinct, lastOf_iff_mem hdistinct',
    hperm.mem_iff]

end Table

namespace Store

/-! ## Changes -/

/-- A way to write to a store. -/
inductive Change
  | row (r : Row)
  | port (p : LogicalPort)
  | check (c : HealthCheck)
  /-- The backend learns or forgets to do health checks. -/
  | support (supported : Bool)
  | refresh (d : Snapshot)

def change (s : Store) : Change → Store
  | .row r => s.insertLoadBalancer r
  | .port p => s.insertLogicalPort p
  | .check c => s.insertHealthCheck c
  | .support supported => { s with healthCheckSupported := supported }
  | .refresh d => s.apply d

/-- The store after some changes, of which there were none before. -/
def after (changes : List Change) : Store := changes.foldl change .empty

/-- All tables are in the order of their keys. -/
structure Sorted (s : Store) : Prop where
  loadBalancers : s.loadBalancers.Sorted
  logicalPorts : s.logicalPorts.Sorted
  healthChecks : s.healthChecks.Sorted

theorem sorted_empty : empty.Sorted := ⟨.nil, .nil, .nil⟩

theorem Sorted.apply {s : Store} (h : s.Sorted) (d : Snapshot) : (s.apply d).Sorted :=
  ⟨h.loadBalancers.replace _, h.logicalPorts.replace _, h.healthChecks.replace _⟩

/-- Every change of a store keeps its tables sorted. -/
theorem Sorted.change {s : Store} (h : s.Sorted) (c : Change) : (s.change c).Sorted := by
  cases c with
  | row r => exact { h with loadBalancers := h.loadBalancers.insert _ _ }
  | port p => exact { h with logicalPorts := h.logicalPorts.insert _ _ }
  | check c => exact { h with healthChecks := h.healthChecks.insert _ _ }
  | support supported => exact ⟨h.loadBalancers, h.logicalPorts, h.healthChecks⟩
  | refresh d => exact h.apply d

theorem Sorted.changes {s : Store} (h : s.Sorted) (changes : List Change) :
    (changes.foldl Store.change s).Sorted := by
  induction changes generalizing s with
  | nil => exact h
  | cons c changes ih => exact ih (h.change c)

/-- A store that is built by any changes has sorted tables. -/
theorem sorted_after (changes : List Change) : (after changes).Sorted :=
  sorted_empty.changes changes

/-! ## Answers -/

/-- Two stores of which the driver cannot tell one from the other. -/
structure Alike (s s' : Store) : Prop where
  findLoadBalancers : ∀ id,
    (backend.findLoadBalancers id s).1 = (backend.findLoadBalancers id s').1
  findByPoolKey : ∀ key, (backend.findByPoolKey key s).1 = (backend.findByPoolKey key s').1
  hasHealthMonitor : ∀ id, (backend.hasHealthMonitor id s).1 = (backend.hasHealthMonitor id s').1
  logicalPort : ∀ id, (backend.logicalPort id s).1 = (backend.logicalPort id s').1
  supportsHealthChecks : (backend.supportsHealthChecks s).1 = (backend.supportsHealthChecks s').1

theorem Alike.of_eq {s s' : Store} (h : s = s') : s.Alike s' := by
  subst h
  exact ⟨fun _ ↦ rfl, fun _ ↦ rfl, fun _ ↦ rfl, fun _ ↦ rfl, rfl⟩

/-- A store whose answers are those that a snapshot gives: of the rows with one key only the last
is seen. -/
structure Shows (s : Store) (d : Snapshot) : Prop where
  findLoadBalancers : ∀ id, ∃ rows : List Row,
    rows.Pairwise (·.uuid < ·.uuid) ∧
    (∀ r, r ∈ rows ↔ LastOf Row.uuid d.loadBalancers r ∧ r.name = id) ∧
    (backend.findLoadBalancers id s).1 =
      if rows = [] then .error (.balancerNotFound id) else .ok rows
  findByPoolKey : ∀ key, ∃ found : Option Row,
    (backend.findByPoolKey key s).1 = .ok found ∧
    (∀ r, found = some r ↔
      LastOf Row.uuid d.loadBalancers r ∧ Dictionary.has r.externalIds key = true ∧
        ∀ r', LastOf Row.uuid d.loadBalancers r' → Dictionary.has r'.externalIds key = true →
          r.uuid ≤ r'.uuid) ∧
    (found = none ↔
      ∀ r, LastOf Row.uuid d.loadBalancers r → Dictionary.has r.externalIds key = false)
  hasHealthMonitor : ∀ id, ∃ found : Bool,
    (backend.hasHealthMonitor id s).1 = .ok found ∧
    (found = true ↔ ∃ c, LastOf HealthCheck.uuid d.healthChecks c ∧ c.belongsTo id = true)
  logicalPort : ∀ id, ∃ found : Option LogicalPort,
    (backend.logicalPort id s).1 = .ok found ∧
    ∀ p, found = some p ↔ LastOf LogicalPort.name d.logicalPorts p ∧ p.name = id
  supportsHealthChecks : (backend.supportsHealthChecks s).1 = .ok d.healthCheckSupported

/-! ## The answers of a refreshed store -/

/-- The rows that pass a test, in the order of their ids, if all rows are visited in some order. -/
def rowsWhere (visited : List Row) (p : Row → Bool) : List Row :=
  (visited.filter p).mergeSort fun r r' ↦ decide (r.uuid ≤ r'.uuid)

/-- A store whose answers do not depend on the order in which the rows of a table are visited. -/
structure Unordered (s : Store) : Prop where
  findLoadBalancers : ∀ visited : List Row, visited.Perm s.loadBalancers.values → ∀ id,
    (backend.findLoadBalancers id s).1 =
      if rowsWhere visited (·.name == id) = [] then .error (.balancerNotFound id)
      else .ok (rowsWhere visited (·.name == id))
  findByPoolKey : ∀ visited : List Row, visited.Perm s.loadBalancers.values → ∀ key,
    (backend.findByPoolKey key s).1 =
      .ok (rowsWhere visited fun r ↦ Dictionary.has r.externalIds key).head?
  hasHealthMonitor : ∀ visited : List HealthCheck, visited.Perm s.healthChecks.values → ∀ id,
    (backend.hasHealthMonitor id s).1 = .ok (visited.any (·.belongsTo id))

/-- The order in which rows are visited is not to be seen, since the answer is sorted again. -/
theorem rowsWhere_eq {visited rows : List Row} (hperm : visited.Perm rows)
    (hrows : rows.Pairwise (·.uuid < ·.uuid)) (p : Row → Bool) :
    rowsWhere visited p = rows.filter p := by
  have hsorted : (rowsWhere visited p).Pairwise fun r r' ↦ r.uuid ≤ r'.uuid := by
    have h : (rowsWhere visited p).Pairwise fun r r' ↦ decide (r.uuid ≤ r'.uuid) = true := by
      refine List.pairwise_mergeSort ?_ ?_ _
      · intro a b c hab hbc
        exact decide_eq_true (le_trans (of_decide_eq_true hab) (of_decide_eq_true hbc))
      · intro a b
        simpa using le_total a.uuid b.uuid
    exact h.imp of_decide_eq_true
  have hfilter : (rows.filter p).Pairwise (·.uuid < ·.uuid) := List.Pairwise.filter p hrows
  have hsame : (rowsWhere visited p).Perm (rows.filter p) :=
    (List.mergeSort_perm _ _).trans (hperm.filter p)
  -- Ids that increase strictly are distinct, so rows with one id are one row.
  have hids : ((rows.filter p).map (·.uuid)).Nodup :=
    List.pairwise_map.2 (hfilter.imp fun hlt ↦ ne_of_lt hlt)
  refine List.Perm.eq_of_pairwise ?_ hsorted (hfilter.imp fun hlt ↦ le_of_lt hlt) hsame
  intro r r' hr hr' hle hle'
  exact List.inj_on_of_nodup_map hids (hsame.mem_iff.1 hr) hr' (le_antisymm hle hle')

/-- The answer for an identifier, from the table of load balancers alone. -/
theorem fst_findLoadBalancers (s : Store) (id : String) :
    (backend.findLoadBalancers id s).1 =
      if s.loadBalancers.values.filter (·.name == id) = [] then .error (.balancerNotFound id)
      else .ok (s.loadBalancers.values.filter (·.name == id)) := by
  change s.findLoadBalancers id = _
  unfold findLoadBalancers
  cases s.loadBalancers.values.filter (·.name == id) with
  | nil => rfl
  | cons r rows => rfl

/-- The answer for a key of pools is the first row that has it. -/
theorem fst_findByPoolKey (s : Store) (key : String) :
    (backend.findByPoolKey key s).1 =
      .ok (s.loadBalancers.values.filter fun r ↦ Dictionary.has r.externalIds key).head? := by
  change Except.ok (s.findByPoolKey key) = _
  unfold findByPoolKey
  rw [List.head?_filter]

/-- The rows of a store that was refreshed. -/
theorem Sorted.pairwise_rows {s : Store} (h : s.Sorted) (d : Snapshot) :
    (s.apply d).loadBalancers.values.Pairwise (·.uuid < ·.uuid) :=
  h.loadBalancers.pairwise_values_replace d.loadBalancers

/-- After a refresh the store has the last row of each load balancer. -/
theorem Sorted.mem_rows {s : Store} (h : s.Sorted) (d : Snapshot) {r : Row} :
    r ∈ (s.apply d).loadBalancers.values ↔ LastOf Row.uuid d.loadBalancers r :=
  h.loadBalancers.mem_values_replace

/-- A refreshed store is the store of the snapshot, whatever it had before. -/
theorem Sorted.apply_eq {s : Store} (h : s.Sorted) (d : Snapshot) : s.apply d = ofSnapshot d := by
  unfold ofSnapshot Store.apply
  rw [h.loadBalancers.replace_eq sorted_empty.loadBalancers,
    h.logicalPorts.replace_eq sorted_empty.logicalPorts,
    h.healthChecks.replace_eq sorted_empty.healthChecks]

/-- The queries of a refreshed store do not depend on the order in which its tables are visited. -/
theorem Sorted.unordered {s : Store} (h : s.Sorted) (d : Snapshot) : (s.apply d).Unordered where
  findLoadBalancers visited hperm id := by
    rw [rowsWhere_eq hperm (h.pairwise_rows d), fst_findLoadBalancers]
  findByPoolKey visited hperm key := by
    rw [rowsWhere_eq hperm (h.pairwise_rows d), fst_findByPoolKey]
  hasHealthMonitor visited hperm id := by
    change Except.ok ((s.apply d).healthChecks.values.any (·.belongsTo id)) = _
    rw [hperm.any_eq]

/-- The first row with a key is the one with the least id. -/
theorem head?_filter_eq_some_iff {rows : List Row} (hrows : rows.Pairwise (·.uuid < ·.uuid))
    (p : Row → Bool) (r : Row) :
    (rows.filter p).head? = some r ↔
      r ∈ rows ∧ p r = true ∧ ∀ r' ∈ rows, p r' = true → r.uuid ≤ r'.uuid := by
  have hmem (r : Row) : r ∈ rows.filter p ↔ r ∈ rows ∧ p r = true := List.mem_filter
  have hfilter : (rows.filter p).Pairwise (·.uuid < ·.uuid) := List.Pairwise.filter p hrows
  rw [← and_assoc, ← hmem]
  simp only [← and_imp, ← hmem]
  cases hfiltered : rows.filter p with
  | nil => simp
  | cons first rest =>
    rw [hfiltered] at hfilter
    have hleast := (List.pairwise_cons.1 hfilter).1
    rw [List.head?_cons, Option.some_inj]
    constructor
    · rintro rfl
      refine ⟨List.mem_cons_self, ?_⟩
      intro r' hr'
      rcases List.mem_cons.1 hr' with rfl | hr'
      · exact le_refl _
      · exact le_of_lt (hleast r' hr')
    · rintro ⟨hr, hle⟩
      rcases List.mem_cons.1 hr with rfl | hr
      · rfl
      · exact absurd (hleast r hr) (not_lt.2 (hle first List.mem_cons_self))

/-- All queries of a refreshed store show the snapshot. -/
theorem Sorted.shows {s : Store} (h : s.Sorted) (d : Snapshot) : (s.apply d).Shows d where
  findLoadBalancers id := by
    refine ⟨(s.apply d).loadBalancers.values.filter (·.name == id),
      List.Pairwise.filter _ (h.pairwise_rows d), ?_, fst_findLoadBalancers _ id⟩
    intro r
    rw [List.mem_filter, h.mem_rows, beq_iff_eq]
  findByPoolKey key := by
    refine ⟨_, fst_findByPoolKey _ key, ?_, ?_⟩
    · intro r
      rw [head?_filter_eq_some_iff (h.pairwise_rows d)]
      simp only [h.mem_rows]
    · rw [List.head?_eq_none_iff, List.filter_eq_nil_iff]
      simp only [h.mem_rows, Bool.not_eq_true]
  hasHealthMonitor id := by
    refine ⟨(s.apply d).healthChecks.values.any (·.belongsTo id), rfl, ?_⟩
    rw [List.any_eq_true]
    have hmem (c : HealthCheck) : c ∈ (s.apply d).healthChecks.values ↔
        LastOf HealthCheck.uuid d.healthChecks c := h.healthChecks.mem_values_replace
    simp only [hmem]
  logicalPort id := by
    refine ⟨(s.apply d).logicalPorts.get? id, rfl, ?_⟩
    intro p
    exact Table.get?_replace_keyed s.logicalPorts LogicalPort.name d.logicalPorts
  supportsHealthChecks := rfl

end Store

/-! ## Snapshots as sets of rows -/

namespace Snapshot

/-- No two rows of a table share a key. -/
structure Distinct (d : Snapshot) : Prop where
  loadBalancers : d.loadBalancers.Pairwise (·.uuid ≠ ·.uuid)
  logicalPorts : d.logicalPorts.Pairwise (·.name ≠ ·.name)
  healthChecks : d.healthChecks.Pairwise (·.uuid ≠ ·.uuid)

/-- Two snapshots with the same rows in different orders. -/
structure Rearranges (d d' : Snapshot) : Prop where
  loadBalancers : d.loadBalancers.Perm d'.loadBalancers
  logicalPorts : d.logicalPorts.Perm d'.logicalPorts
  healthChecks : d.healthChecks.Perm d'.healthChecks
  healthCheckSupported : d.healthCheckSupported = d'.healthCheckSupported

end Snapshot

namespace Store

/-- With distinct keys, the order of the rows in a snapshot does not matter. -/
theorem Sorted.apply_rearranged {s : Store} (h : s.Sorted) {d d' : Snapshot} (hd : d.Distinct)
    (hperm : d.Rearranges d') : s.apply d' = s.apply d := by
  have hrows := h.loadBalancers.replace_perm hperm.loadBalancers hd.loadBalancers
  have hports := h.logicalPorts.replace_perm hperm.logicalPorts hd.logicalPorts
  have hchecks := h.healthChecks.replace_perm hperm.healthChecks hd.healthChecks
  unfold keyed at hrows hports hchecks
  unfold Store.apply
  rw [hrows, hports, hchecks, hperm.healthCheckSupported]

/-- Applying a snapshot replaces the store: after any changes, the store answers like one that was
filled from the snapshot alone. It shows the last row of each key, whatever order the rows are
visited in, and if keys are distinct, the order of the snapshot does not matter either. -/
theorem apply_replaces_contents (changes : List Change) (d : Snapshot) :
    ((after changes).apply d).Alike (ofSnapshot d) ∧
    ((after changes).apply d).Shows d ∧
    ((after changes).apply d).Unordered ∧
    (d.Distinct → ∀ d', d.Rearranges d' →
      ((after changes).apply d').Alike ((after changes).apply d)) := by
  have hsorted := sorted_after changes
  refine ⟨.of_eq (hsorted.apply_eq d), hsorted.shows d, hsorted.unordered d, ?_⟩
  intro hd d' hperm
  exact .of_eq (hsorted.apply_rearranged hd hperm)

end Store

namespace Sample

def rowOf (uuid name : String) (externalIds : Metadata) : Row := ⟨uuid, name, none, externalIds⟩

/-- A snapshot that has two rows with one id, the first of which belongs to another load balancer
and has a pool. -/
def doubled : Snapshot :=
  { Snapshot.empty with
    loadBalancers :=
      [rowOf "u2" "lb2" [("pool_p1", "")], rowOf "u3" "lb1" [], rowOf "u2" "lb1" []] }

end Sample

/-- Neither the row from before nor the first of two rows with one id is seen. -/
theorem Store.apply_forgets_on_sample :
    (backend.findByPoolKey "pool_p1"
      ((after [.row (Sample.rowOf "u1" "lb1" [("pool_p1", "")])]).apply Sample.doubled)).1 =
        .ok none ∧
    (backend.findLoadBalancers "lb1"
      ((after [.row (Sample.rowOf "u1" "lb1" [("pool_p1", "")])]).apply Sample.doubled)).1 =
        .ok [Sample.rowOf "u2" "lb1" [], Sample.rowOf "u3" "lb1" []] := by
  obtain ⟨halike, -⟩ := apply_replaces_contents
    [.row (Sample.rowOf "u1" "lb1" [("pool_p1", "")])] Sample.doubled
  rw [halike.findByPoolKey, halike.findLoadBalancers]
  decide +kernel

end BalancerSync
