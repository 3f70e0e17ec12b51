import BalancerSync.Request.Build

/-!
# Updates as patches

An update says which object it is about, and then what the caller has set anew.  For all objects
but health monitors it is a patch: an attribute that the caller leaves out is not in it, so that
nothing can be overwritten with a default (`Update.get?_request_of_patch`).  A health monitor is
replaced as a whole: its update has all of its attributes, whatever the caller has set
(`Update.get?_request_of_replacement`).
-/

namespace BalancerSync

open Json Dictionary

/-! ## Attributes of which some are left out -/

namespace Field

/-- What a patch has for an attribute. -/
def shown? : Field Value → Option Value
  | unset => none
  | null => some .null
  | value v => some v

/-- What a replacement has for an attribute that has a default. -/
def filled (default : Value) : Field Value → Value
  | unset => default
  | null => .null
  | value v => v

@[simp] theorem shown?_unset : (unset : Field Value).shown? = none := rfl

@[simp] theorem shown?_null : (null : Field Value).shown? = some .null := rfl

@[simp] theorem shown?_value (v : Value) : (value v).shown? = some v := rfl

/-- A patch shows what is set. -/
theorem isSome_shown? (f : Field Value) : f.shown?.isSome = f.isSet := by
  cases f <;> rfl

end Field

/-- What is said of attributes, written as a patch. -/
def patch (said : Dictionary (Field Value)) : Attributes :=
  said.filterMap fun (key, f) ↦ f.shown?.map (key, ·)

/-- What is said of attributes, written as a replacement of all of them. -/
def replacement (default : String → Value) (said : Dictionary (Field Value)) : Attributes :=
  said.map fun (key, f) ↦ (key, f.filled (default key))

section Patch

variable {said : Dictionary (Field Value)} {key : String}

theorem patch_cons (key : String) (f : Field Value) (said : Dictionary (Field Value)) :
    patch ((key, f) :: said) = (f.shown?.map (key, ·)).toList ++ patch said := by
  cases f <;> rfl

theorem patch_append (said said' : Dictionary (Field Value)) :
    patch (said ++ said') = patch said ++ patch said' :=
  List.filterMap_append

/-- An attribute that is written only if it is set is a patch of one attribute. -/
theorem attributeIf_eq_patch {α : Type} (f : Field α) (g : α → Value) (key : String) :
    attributeIf f.isSet key (f.toJson g) = patch [(key, f.map g)] := by
  cases f <;> rfl

/-- A patch has some of the attributes, in order. -/
theorem keys_patch_sublist (said : Dictionary (Field Value)) :
    (keys (patch said)).Sublist (keys said) := by
  induction said with
  | nil => exact List.Sublist.refl []
  | cons e said ih =>
    obtain ⟨key, f⟩ := e
    rw [patch_cons]
    cases f with
    | unset => exact ih.cons key
    | null => exact ih.cons_cons key
    | value v => exact ih.cons_cons key

/-- A replacement has all of the attributes, in order. -/
theorem keys_replacement (default : String → Value) (said : Dictionary (Field Value)) :
    keys (replacement default said) = keys said := by
  rw [keys, replacement, List.map_map]
  rfl

/-- An attribute is in a patch if it was said to be null or to have a value. -/
theorem mem_keys_patch_iff : key ∈ keys (patch said) ↔ ∃ f, (key, f) ∈ said ∧ f.isSet = true := by
  simp only [keys, patch, List.mem_map, List.mem_filterMap, Option.map_eq_some_iff]
  constructor
  · rintro ⟨_, ⟨⟨k, f⟩, hmem, v, hv, rfl⟩, rfl⟩
    exact ⟨f, hmem, by rw [← f.isSome_shown?, hv, Option.isSome_some]⟩
  · rintro ⟨f, hmem, hset⟩
    obtain ⟨v, hv⟩ := Option.isSome_iff_exists.mp (f.isSome_shown?.trans hset)
    exact ⟨(key, v), ⟨(key, f), hmem, v, hv, rfl⟩, rfl⟩

/-- A patch has what is said of an attribute, if anything is. -/
theorem get?_patch (h : (keys said).Nodup) (key : String) :
    get? (patch said) key = (get? said key).bind Field.shown? := by
  induction said with
  | nil => rfl
  | cons e said ih =>
    obtain ⟨k, f⟩ := e
    obtain ⟨hk, hrest⟩ := List.nodup_cons.mp h
    rw [patch_cons, get?_append, get?_cons, ih hrest]
    by_cases hkey : k = key
    · subst hkey
      -- What comes later says nothing of this attribute.
      have hnone : get? said k = none := get?_eq_none_iff.mpr hk
      cases f <;> simp [hnone, get?_cons]
    · cases f <;> simp [hkey, get?_cons]

/-- What a replacement has for an attribute, with a default if it is left out. -/
theorem get?_replacement (default : String → Value) (said : Dictionary (Field Value))
    (key : String) :
    get? (replacement default said) key = (get? said key).map (·.filled (default key)) := by
  induction said with
  | nil => rfl
  | cons e said ih =>
    obtain ⟨k, f⟩ := e
    rw [replacement, List.map_cons, get?_cons, get?_cons, ← replacement, ih]
    by_cases hkey : k = key
    · simp [hkey]
    · simp [hkey]

end Patch

/-! ## Updates -/

/-- The update of an object, with its attributes before and those that are given now. -/
inductive Update
  | balancer (new : LoadBalancer)
  | listener (old new : Listener)
  | pool (old new : Pool)
  | member (old new : Member)
  | monitor (old new : HealthMonitor)

namespace Update

def request : Update → ChangeRequest
  | balancer new => .updateLoadBalancer new
  | listener old new => .updateListener old new
  | pool old new => .updatePool old new
  | member old new => .updateMember old new
  | monitor old new => .updateHealthMonitor old new

def isMonitor : Update → Bool
  | monitor .. => true
  | _ => false

/-- What tells which object it is, and how it was: the id that is given, for pools the one before,
and other attributes as they were before. -/
def identity : Update → Attributes
  | balancer new => [("id", .text new.id)]
  | listener old new =>
    [("id", .text new.id), ("loadbalancer_id", textJson old.loadBalancerId),
      ("protocol", textJson old.protocol), ("protocol_port", portJson old.port)]
  | pool old _ =>
    [("id", .text old.id), ("protocol", textJson old.protocol),
      ("loadbalancer_id", textJson old.loadBalancerId)]
  | member old new =>
    [("id", .text new.id), ("address", textJson old.address),
      ("protocol_port", portJson old.port), ("pool_id", .text old.poolId),
      ("old_admin_state_up", boolJson old.adminStateUp)]
  | monitor old new => [("id", .text new.id), ("pool_id", .text old.poolId)]

/-- What the caller says of the attributes that an update of the object can change. -/
def said : Update → Dictionary (Field Value)
  | balancer new => [("admin_state_up", new.adminStateUp.map .bool)]
  | listener _ new =>
    [("admin_state_up", new.adminStateUp.map .bool),
      ("default_pool_id", new.defaultPoolId.map .text)]
  | pool _ new =>
    [("admin_state_up", new.adminStateUp.map .bool),
      ("session_persistence", new.sessionPersistence.map SessionPersistence.toJson)]
  | member _ new => [("admin_state_up", new.adminStateUp.map .bool)]
  | monitor _ new =>
    [("interval", new.delay.map fun n ↦ .ofNat n.toNat),
      ("timeout", new.timeout.map fun n ↦ .ofNat n.toNat),
      ("failure_count", new.maxRetriesDown.map fun n ↦ .ofNat n.toNat),
      ("success_count", new.maxRetries.map fun n ↦ .ofNat n.toNat),
      ("admin_state_up", new.adminStateUp.map .bool)]

/-- A health monitor is up unless it is said not to be; nothing else has a default. -/
def fallback (key : String) : Value := if key = "admin_state_up" then .bool true else .null

/-! ## What an update has in it -/

variable {u : Update} {key : String}

/-- An update of anything but a health monitor is its identity and a patch. -/
theorem info_of_patch (h : u.isMonitor = false) : u.request.info = u.identity ++ patch u.said := by
  cases u with
  | balancer new =>
    rw [request, ChangeRequest.updateLoadBalancer, boolJson, attributeIf_eq_patch]
    rfl
  | listener old new =>
    rw [request, ChangeRequest.updateListener, boolJson, textJson, attributeIf_eq_patch,
      attributeIf_eq_patch, List.append_assoc, ← patch_append]
    rfl
  | pool old new =>
    rw [request, ChangeRequest.updatePool, boolJson, persistenceJson, attributeIf_eq_patch,
      attributeIf_eq_patch, List.append_assoc, ← patch_append]
    rfl
  | member old new =>
    rw [request, ChangeRequest.updateMember, boolJson, attributeIf_eq_patch]
    rfl
  | monitor old new => cases h

theorem upJson_eq_filled (up : Field Bool) :
    upJson up = (up.map .bool).filled (fallback "admin_state_up") := by
  cases up <;> rfl

theorem countJson_eq_filled (n : Field UInt32) :
    countJson n = (n.map fun n ↦ .ofNat n.toNat).filled .null := by
  cases n <;> rfl

/-- The update of a health monitor is its identity and a replacement. -/
theorem info_of_replacement (h : u.isMonitor = true) :
    u.request.info = u.identity ++ replacement fallback u.said := by
  cases u with
  | monitor old new =>
    rw [request, ChangeRequest.updateHealthMonitor, upJson_eq_filled, countJson_eq_filled,
      countJson_eq_filled, countJson_eq_filled, countJson_eq_filled]
    rfl
  | _ => cases h

/-- No attribute tells which object it is and can be changed, too. -/
theorem nodup_keys (u : Update) : (keys u.identity ++ keys u.said).Nodup := by
  cases u <;> simp [keys, identity, said]

theorem nodup_keys_said (u : Update) : (keys u.said).Nodup :=
  (List.nodup_append.mp u.nodup_keys).2.1

/-- No attribute of an update is there twice. -/
theorem nodup_keys_request (u : Update) : u.request.keys.Nodup := by
  rw [ChangeRequest.keys]
  cases h : u.isMonitor with
  | false =>
    rw [info_of_patch h, keys, List.map_append]
    exact u.nodup_keys.sublist ((List.Sublist.refl _).append (keys_patch_sublist u.said))
  | true =>
    rw [info_of_replacement h, keys, List.map_append, ← keys, ← keys, keys_replacement]
    exact u.nodup_keys

/-- What tells which object it is goes before what is said of it. -/
theorem exists_info_eq (u : Update) : ∃ rest, u.request.info = u.identity ++ rest := by
  cases h : u.isMonitor with
  | false => exact ⟨_, info_of_patch h⟩
  | true => exact ⟨_, info_of_replacement h⟩

section Said

variable {f : Field Value} (hf : (key, f) ∈ u.said)

include hf

theorem get?_said : get? u.said key = some f :=
  (mem_iff_get?_eq_some u.nodup_keys_said).mp hf

/-- An attribute that can be changed does not tell which object it is. -/
theorem get?_identity : get? u.identity key = none := by
  rw [get?_eq_none_iff]
  intro hkey
  have hsaid : key ∈ keys u.said := List.mem_map.mpr ⟨_, hf, rfl⟩
  exact (List.nodup_append.mp u.nodup_keys).2.2 key hkey key hsaid rfl

/-- A patch shows an attribute as the caller has set it, and none that the caller has not. -/
theorem get?_request_of_patch (h : u.isMonitor = false) : u.request.get? key = f.shown? := by
  rw [ChangeRequest.get?, info_of_patch h, get?_append, get?_identity hf, Option.none_or,
    get?_patch u.nodup_keys_said, get?_said hf, Option.bind_some]

/-- An update that is a replacement has every attribute, whether it is set or not. -/
theorem get?_request_of_replacement (h : u.isMonitor = true) :
    u.request.get? key = some (f.filled (fallback key)) := by
  rw [ChangeRequest.get?, info_of_replacement h, get?_append, get?_identity hf, Option.none_or,
    get?_replacement, get?_said hf, Option.map_some]

end Said

/-- An update has each of its attributes once, and among them what tells which object it is. Unless
the object is a health monitor, all others are attributes that the caller has set: one that is left
out is not there, one that is cleared is null, and one that has a value has it. The update of a
health monitor has all attributes: what is left out or cleared is null, but a health monitor of
which it is not said whether it is up is up. -/
theorem request_carries_what_is_said (u : Update) :
    u.request.keys.Nodup ∧
    (∀ key v, (key, v) ∈ u.identity → u.request.get? key = some v) ∧
    (u.isMonitor = false →
      (∀ key ∈ u.request.keys,
        key ∈ keys u.identity ∨ ∃ f, (key, f) ∈ u.said ∧ f.isSet = true) ∧
      ∀ key f, (key, f) ∈ u.said → u.request.get? key = f.shown?) ∧
    (u.isMonitor = true →
      u.request.keys = keys u.identity ++ keys u.said ∧
      ∀ key f, (key, f) ∈ u.said → u.request.get? key = some (f.filled (fallback key))) := by
  refine ⟨u.nodup_keys_request, ?_, fun h ↦ ⟨?_, ?_⟩, fun h ↦ ⟨?_, ?_⟩⟩
  · intro key v hv
    obtain ⟨rest, hinfo⟩ := u.exists_info_eq
    refine (mem_iff_get?_eq_some u.nodup_keys_request).mp ?_
    rw [hinfo]
    exact List.mem_append_left rest hv
  · intro key hkey
    rw [ChangeRequest.keys, info_of_patch h, keys, List.map_append, List.mem_append] at hkey
    exact hkey.imp_right mem_keys_patch_iff.mp
  · intro key f hf
    exact get?_request_of_patch hf h
  · rw [ChangeRequest.keys, info_of_replacement h, keys, List.map_append, ← keys, ← keys,
      keys_replacement]
  · intro key f hf
    exact get?_request_of_replacement hf h

end Update

namespace Sample

def oldListener : Listener where
  id := "l1"
  loadBalancerId := .value "lb1"
  protocol := .value "TCP"
  port := .value 80
  defaultPoolId := .value "p1"
  adminStateUp := .value true
  allowedCidrs := .unset

/-- A listener whose pool is cleared, and of which nothing else is said. -/
def newListener : Listener where
  id := "l1"
  loadBalancerId := .unset
  protocol := .unset
  port := .unset
  defaultPoolId := .null
  adminStateUp := .unset
  allowedCidrs := .unset

/-- A health monitor of which nothing is said. -/
def bareMonitor : HealthMonitor where
  id := "hm1"
  poolId := "p1"
  kind := .unset
  delay := .unset
  timeout := .unset
  maxRetries := .unset
  maxRetriesDown := .unset
  adminStateUp := .unset

/-- A pool whose algorithm is cleared. -/
def clearedPool : Pool where
  id := "p1"
  loadBalancerId := .unset
  listenerId := .unset
  protocol := .unset
  algorithm := .null
  sessionPersistence := .unset
  adminStateUp := .unset
  healthMonitor := .unset
  members := .unset

end Sample

theorem Update.request_carries_what_is_said_on_sample :
    (ChangeRequest.updateListener Sample.oldListener Sample.newListener).get? "protocol" =
      some (.text "TCP") ∧
    (ChangeRequest.updateListener Sample.oldListener Sample.newListener).get? "default_pool_id" =
      some .null ∧
    (ChangeRequest.updateListener Sample.oldListener Sample.newListener).get? "admin_state_up" =
      none ∧
    (ChangeRequest.updateHealthMonitor Sample.bareMonitor Sample.bareMonitor).get?
      "admin_state_up" = some (.bool true) := by
  obtain ⟨-, hidentity, hpatch, -⟩ :=
    request_carries_what_is_said (.listener Sample.oldListener Sample.newListener)
  obtain ⟨-, -, -, hreplacement⟩ :=
    request_carries_what_is_said (.monitor Sample.bareMonitor Sample.bareMonitor)
  exact ⟨hidentity _ _ (.tail _ (.tail _ (.head _))), (hpatch rfl).2 _ _ (.tail _ (.head _)),
    (hpatch rfl).2 _ _ (.head _),
    (hreplacement rfl).2 _ _ (.tail _ (.tail _ (.tail _ (.tail _ (.head _)))))⟩

/-- Not every update is a patch: that of a health monitor has attributes that the caller left out,
with a default, too. And what the caller clears is not in an update that cannot change it. -/
theorem updateHealthMonitor_fills_in :
    (¬ ∀ key ∈ (ChangeRequest.updateHealthMonitor Sample.bareMonitor Sample.bareMonitor).keys,
      key ∈ ["id", "pool_id"] ∨
        ∃ f, (key, f) ∈ (Update.monitor Sample.bareMonitor Sample.bareMonitor).said ∧
          f.isSet = true) ∧
    (ChangeRequest.updateHealthMonitor Sample.bareMonitor Sample.bareMonitor).get? "interval" =
      some .null ∧
    (ChangeRequest.updateHealthMonitor Sample.bareMonitor Sample.bareMonitor).get?
      "admin_state_up" = some (.bool true) ∧
    Sample.clearedPool.algorithm = .null ∧
    (ChangeRequest.updatePool Sample.clearedPool Sample.clearedPool).get? "lb_algorithm" =
      none := by
  refine ⟨fun h ↦ ?_, rfl, rfl, rfl, rfl⟩
  obtain hid | ⟨f, hf, hset⟩ := h "interval" (by decide)
  · exact absurd hid (by decide)
  · have hunset : ∀ e ∈ (Update.monitor Sample.bareMonitor Sample.bareMonitor).said,
        e.2.isSet = false := by decide
    rw [hunset _ hf] at hset
    cases hset

end BalancerSync
