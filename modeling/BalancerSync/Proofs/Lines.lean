import BalancerSync.Cli.Applier
import BalancerSync.Cli.Run
import BalancerSync.Proofs.JsonText
import BalancerSync.Request.Build

/-!
# Lines lose nothing

The requests that the builders make from entities have plain values under distinct keys, so that
each of them can be read back from its text.  The text has no end of line in it, and so the lines
that are written are cut where they were put together.
-/

namespace BalancerSync

open Json Json.Value Text Cli

/-! ## Attributes of built requests -/

/-- Attributes with plain values, under some of these names and in their order. -/
structure Attributes.Among (names : List String) (d : Nat) (fs : Attributes) : Prop where
  keys : (Dictionary.keys fs).Sublist names
  values : ∀ f ∈ fs, Plain d f.2

namespace Attributes.Among

variable {names names' : List String} {d : Nat} {fs fs' : Attributes} {key : String} {v : Value}

theorem nil : Among [] d [] where
  keys := List.Sublist.refl []
  values := by
    intro f hf
    cases hf

/-- An attribute in front of others, with the name that is next. -/
theorem cons (hv : Plain d v) (h : Among names d fs) : Among (key :: names) d ((key, v) :: fs) where
  keys := h.keys.cons_cons key
  values := by
    intro f hf
    cases hf with
    | head => exact hv
    | tail _ hf => exact h.values f hf

theorem append (h : Among names d fs) (h' : Among names' d fs') :
    Among (names ++ names') d (fs ++ fs') where
  keys := by
    unfold Dictionary.keys
    rw [List.map_append]
    exact h.keys.append h'.keys
  values := by
    intro f hf
    obtain hf | hf := List.mem_append.1 hf
    · exact h.values f hf
    · exact h'.values f hf

theorem absent : Among [key] d [] where
  keys := List.nil_sublist [key]
  values := nil.values

/-- An attribute that depends on something is there or left out. -/
theorem optional {present : Bool} (hv : Plain d v) :
    Among [key] d (attributeIf present key v) := by
  cases present with
  | false => exact absent
  | true => exact cons hv nil

theorem optionalText {s? : Option String} : Among [key] d (textAttribute key s?) := by
  cases s? with
  | none => exact absent
  | some s => exact cons (.text s) nil

/-- Attributes with distinct names make an object. -/
theorem object (h : Among names d fs) (hnames : names.Nodup) : Plain (d + 1) (.object fs) :=
  .object (h.keys.nodup hnames) h.values

end Attributes.Among

section Values

variable {d : Nat}

/-- A missing value is null, and so plain. -/
theorem plain_ofOption {α : Type} {f : α → Value} (h : ∀ a, Plain d (f a)) (a? : Option α) :
    Plain d (.ofOption f a?) := by
  cases a? with
  | none => exact .null
  | some a => exact h a

/-- Texts of all three states are plain. -/
theorem plain_textJson (x : Field String) : Plain d (textJson x) :=
  plain_ofOption .text x.asOption

theorem plain_boolJson (x : Field Bool) : Plain d (boolJson x) :=
  plain_ofOption .bool x.asOption

/-- Port numbers of all three states are plain, as they have no more than 64 bits. -/
theorem plain_portJson (x : Field UInt16) : Plain d (portJson x) :=
  plain_ofOption (fun n ↦ .number (Nat.lt_trans n.toNat_lt_size (by decide))) x.asOption

theorem plain_countJson (x : Field UInt32) : Plain d (countJson x) :=
  plain_ofOption (fun n ↦ .number (Nat.lt_trans n.toNat_lt_size (by decide))) x.asOption

theorem plain_upJson (x : Field Bool) : Plain d (upJson x) :=
  plain_ofOption .bool (x.orDefault true)

theorem AdditionalVip.plain_toJson (v : AdditionalVip) : Plain (d + 1) v.toJson :=
  (((Attributes.Among.optionalText.append .optionalText).append .optionalText).append
    .optionalText).object (by decide)

theorem SessionPersistence.plain_toJson (p : SessionPersistence) : Plain (d + 1) p.toJson :=
  (((Attributes.Among.cons (.text p.kind) .optionalText).append
    (.optional (plain_ofOption (fun n ↦ .number n.toNat_lt_size) p.timeout))).append
    .optionalText).object (by decide)

theorem plain_additionalVipsJson (x : Field (List AdditionalVip)) :
    Plain (d + 2) (additionalVipsJson x) := by
  refine plain_ofOption (fun vips ↦ .array ?_) x.asOption
  intro v hv
  obtain ⟨vip, -, rfl⟩ := List.mem_map.1 hv
  exact vip.plain_toJson

theorem plain_persistenceJson (x : Field SessionPersistence) : Plain (d + 1) (persistenceJson x) :=
  plain_ofOption (fun p ↦ p.plain_toJson) x.asOption

end Values

namespace ChangeRequest

/-- The request comes from a builder, whatever the attributes of the entities are.  What is known
of a member from its record is a member whose attributes have values. -/
inductive Normalized : ChangeRequest → Prop
  | loadBalancer (op : Operation) (lb : LoadBalancer) : Normalized (loadBalancer op lb)
  | updateLoadBalancer (new : LoadBalancer) : Normalized (updateLoadBalancer new)
  | deleteLoadBalancer (lb : LoadBalancer) (cascade : Bool) :
    Normalized (deleteLoadBalancer lb cascade)
  | listener (op : Operation) (l : Listener) : Normalized (listener op l)
  | updateListener (old new : Listener) : Normalized (updateListener old new)
  | deleteListener (l : Listener) : Normalized (deleteListener l)
  | pool (op : Operation) (p : Pool) : Normalized (pool op p)
  | updatePool (old new : Pool) : Normalized (updatePool old new)
  | deletePool (p : Pool) : Normalized (deletePool p)
  | member (op : Operation) (m : Member) (subnetId : Option String) :
    Normalized (member op m subnetId)
  | updateMember (old new : Member) : Normalized (updateMember old new)
  | deleteMember (id : String) (address : Field String) (port : Field UInt16) (poolId : String)
    (subnetId : Option String) :
    Normalized (deleteMember id (textJson address) (portJson port) poolId subnetId)
  | memberNotice (id : String) (address : Field String) (poolId : String)
    (subnetId : Option String) (what : Membership) :
    Normalized (memberNotice id (textJson address) poolId subnetId what)
  | healthMonitor (op : Operation) (h : HealthMonitor) : Normalized (healthMonitor op h)
  | updateHealthMonitor (old new : HealthMonitor) : Normalized (updateHealthMonitor old new)
  | deleteHealthMonitor (h : HealthMonitor) : Normalized (deleteHealthMonitor h)
  | purgeHealthMonitors (loadBalancerId : String) : Normalized (purgeHealthMonitors loadBalancerId)
  | syncVipFip (loadBalancerId portId portName fip : String) :
    Normalized (syncVipFip loadBalancerId portId portName fip)

open Attributes.Among in
/-- The attributes of a request that was built are plain, one case for each builder. -/
theorem Normalized.plain {r : ChangeRequest} (h : r.Normalized) : Plain 3 (.object r.info) := by
  cases h with
  | loadBalancer op lb =>
    exact ((cons (.text _) (cons (plain_textJson _) (cons (plain_textJson _)
      (cons (plain_upJson _) nil)))).append
      (optional (plain_additionalVipsJson _))).object (by decide)
  | updateLoadBalancer new =>
    exact (cons (.text _) (optional (plain_boolJson _))).object (by decide)
  | deleteLoadBalancer lb cascade =>
    exact (cons (.text _) (cons (.bool _) nil)).object (by decide)
  | listener op l =>
    exact (cons (.text _) (cons (plain_textJson _) (cons (plain_textJson _)
      (cons (plain_portJson _) (cons (plain_textJson _) (cons (plain_upJson _) nil)))))).object
      (by decide)
  | updateListener old new =>
    exact (((cons (.text _) (cons (plain_textJson _) (cons (plain_textJson _)
      (cons (plain_portJson _) nil)))).append (optional (plain_boolJson _))).append
      (optional (plain_textJson _))).object (by decide)
  | deleteListener l =>
    exact (cons (.text _) (cons (plain_textJson _) (cons (plain_portJson _)
      (cons (plain_textJson _) nil)))).object (by decide)
  | pool op p =>
    exact ((cons (.text _) (cons (plain_textJson _) (cons (plain_textJson _)
      (cons (plain_textJson _) (cons (plain_textJson _) (cons (plain_upJson _) nil)))))).append
      (optional (plain_persistenceJson _))).object (by decide)
  | updatePool old new =>
    exact (((cons (.text _) (cons (plain_textJson _) (cons (plain_textJson _) nil))).append
      (optional (plain_boolJson _))).append
      (optional (plain_persistenceJson _))).object (by decide)
  | deletePool p =>
    exact (cons (.text _) (cons (plain_textJson _) (cons (plain_textJson _) nil))).object
      (by decide)
  | member op m subnetId =>
    exact (cons (.text _) (cons (plain_textJson _) (cons (plain_portJson _) (cons (.text _)
      (cons (plain_ofOption .text _) (cons (plain_upJson _) nil)))))).object (by decide)
  | updateMember old new =>
    exact ((cons (.text _) (cons (plain_textJson _) (cons (plain_portJson _) (cons (.text _)
      (cons (plain_boolJson _) nil))))).append (optional (plain_boolJson _))).object (by decide)
  | deleteMember id address port poolId subnetId =>
    exact ((cons (.text _) (cons (plain_textJson _) (cons (plain_portJson _)
      (cons (.text _) nil)))).append optionalText).object (by decide)
  | memberNotice id address poolId subnetId what =>
    exact (((cons (.text _) (cons (plain_textJson _) (cons (.text _) nil))).append
      optionalText).append (cons (.text _) nil)).object (by decide)
  | healthMonitor op h =>
    exact (cons (.text _) (cons (.text _) (cons (plain_textJson _) (cons (plain_countJson _)
      (cons (plain_countJson _) (cons (plain_countJson _) (cons (plain_countJson _)
      (cons (plain_upJson _) nil)))))))).object (by decide)
  | updateHealthMonitor old new =>
    exact (cons (.text _) (cons (.text _) (cons (plain_countJson _) (cons (plain_countJson _)
      (cons (plain_countJson _) (cons (plain_countJson _)
      (cons (plain_upJson _) nil))))))).object (by decide)
  | deleteHealthMonitor h =>
    exact (cons (.text _) (cons (.text _) nil)).object (by decide)
  | purgeHealthMonitors loadBalancerId =>
    exact (cons (.text _) nil).object (by decide)
  | syncVipFip loadBalancerId portId portName fip =>
    exact (cons (.text _) (cons (.text _) (cons (.text _) (cons (.text _) nil)))).object
      (by decide)

/-! ## Requests are read back -/

/-- An operation is told by its name. -/
theorem Operation.ofName?_name (op : Operation) : Operation.ofName? op.name = some op := by
  cases op <;> rfl

/-- A request is read back from its tree. -/
theorem ofTree?_tree {r : ChangeRequest} {d : Nat} (h : Plain d (.object r.info))
    (hd : d < depthLimit - 1) : ofTree? r.toJson.tree = some r := by
  have hinfo : readAttributes? (tree (.object r.info)) = some r.info := by
    rw [readAttributes?, h.toValue?_tree hd]
    rfl
  have hrecord : r.toJson.tree
      = .object [(some "type", .text (some r.operation.name)),
        (some "info", tree (.object r.info))] := by
    rfl
  rw [hrecord, ofTree?]
  simp [Tree.record?, Tree.required, Tree.asName?, hinfo, Operation.ofName?_name]

/-- A request that was built has a plain JSON form. -/
theorem Normalized.plain_toJson {r : ChangeRequest} (h : r.Normalized) : Plain 4 r.toJson :=
  (Attributes.Among.cons (.text _) (.cons h.plain .nil)).object (by decide)

/-- A request that was built is read back from its text. -/
theorem Normalized.read?_render {r : ChangeRequest} (h : r.Normalized) :
    read? r.toJson.render = some r := by
  rw [read?, h.plain_toJson.readTree, Option.bind_some, ofTree?_tree h.plain (by decide)]

/-- A request that was built is read back from the bytes of its text. -/
theorem Normalized.ofBytes?_utf8 {r : ChangeRequest} (h : r.Normalized) :
    ofBytes? (utf8 r.toJson.render).toByteArray = some r := by
  rw [ofBytes?, fromUTF8?_utf8, Option.bind_some, String.toList_ofList, h.read?_render]

/-- There is no line feed among the bytes of a request. -/
theorem Normalized.lineFeed_not_mem {r : ChangeRequest} (h : r.Normalized) :
    lineFeed ∉ utf8 r.toJson.render := by
  intro hmem
  exact h.plain_toJson.lineFeed_not_mem_render (mem_of_mem_utf8 (by decide) hmem)

end ChangeRequest

/-! ## Lines -/

/-- In every monad: the lines are written in their order, and their number is returned. -/
theorem writeLines_eq {m : Type → Type} [Monad m] [LawfulMonad m] (write : List UInt8 → m Unit)
    (flush : m Unit) (rs : List ChangeRequest) :
    writeLines write flush rs = do
      forM rs fun r ↦ write (requestLine r)
      flush
      return rs.length := by
  have hcount (n : Nat) :
      (rs.foldlM (fun n r ↦ do
        write (requestLine r)
        return n + 1) n)
      = do
        forM rs fun r ↦ write (requestLine r)
        return n + rs.length := by
    induction rs generalizing n with
    | nil => simp
    | cons r rs ih =>
      have hadd : n + 1 + rs.length = n + (r :: rs).length := by
        rw [List.length_cons, Nat.add_assoc, Nat.add_comm 1]
      rw [List.foldlM_cons, List.forM_cons, bind_assoc, bind_assoc]
      simp only [pure_bind, ih, hadd]
  unfold writeLines
  rw [hcount, Nat.zero_add, bind_assoc]
  simp only [pure_bind]

/-- A writer that does not fail: what was written to it is there, in the order of writing. -/
structure Writer (σ : Type) where
  write : List UInt8 → StateM σ Unit
  flush : StateM σ Unit
  written : σ → List UInt8
  written_write : ∀ bytes s, written ((write bytes).run s).2 = written s ++ bytes
  written_flush : ∀ s, written (flush.run s).2 = written s

namespace Writer

variable {σ : Type} (w : Writer σ)

/-- A writer that is given requests has their lines after what it had before, by induction on
them. -/
theorem written_forM (rs : List ChangeRequest) (s : σ) :
    w.written ((forM rs fun r ↦ w.write (requestLine r)).run s).2
      = w.written s ++ rs.flatMap requestLine := by
  induction rs generalizing s with
  | nil =>
    rw [List.flatMap_nil, List.append_nil]
    rfl
  | cons r rs ih =>
    rw [List.forM_cons, StateT.run_bind]
    change w.written
      ((forM rs fun r ↦ w.write (requestLine r)).run ((w.write (requestLine r)).run s).2).2 = _
    rw [ih, w.written_write, List.flatMap_cons, List.append_assoc]

/-- All lines are counted and written. -/
theorem run_writeLines (rs : List ChangeRequest) (s : σ) :
    ((writeLines w.write w.flush rs).run s).1 = rs.length ∧
      w.written ((writeLines w.write w.flush rs).run s).2
        = w.written s ++ rs.flatMap requestLine := by
  rw [writeLines_eq]
  refine ⟨rfl, ?_⟩
  exact (w.written_flush _).trans (w.written_forM rs s)

/-- A writer that keeps the bytes. -/
def buffer : Writer (List UInt8) where
  write bytes := modify (· ++ bytes)
  flush := pure ()
  written bytes := bytes
  written_write _ _ := rfl
  written_flush _ := rfl

end Writer

/-- The lines are the output of a run. -/
theorem flatMap_requestLine (o : RunOutcome) :
    o.requests.flatMap requestLine = utf8 o.output.toList := by
  rw [RunOutcome.output, ChangeRequest.renderLines, String.toList_ofList, utf8, List.flatMap_assoc]
  refine List.flatMap_congr fun r _ ↦ ?_
  rw [List.flatMap_append]
  rfl

/-- Lines are told apart at the line feeds, by induction on them. -/
theorem splitOn_lines {lines : List (List UInt8)} (h : ∀ l ∈ lines, lineFeed ∉ l) :
    (lines.flatMap (· ++ [lineFeed])).splitOn lineFeed = lines ++ [[]] := by
  induction lines with
  | nil => rfl
  | cons l lines ih =>
    rw [List.flatMap_cons, List.append_assoc, List.singleton_append,
      List.splitOn_append_cons_self_of_not_mem (h l List.mem_cons_self),
      ih fun l' hl' ↦ h l' (List.mem_cons_of_mem l hl')]
    rfl

/-- Requests that are written are all there: where the bytes are cut at ends of lines there is one
line for each request, and that line is read as the request. -/
theorem writeLines_loses_nothing {σ : Type} (w : Writer σ) {rs : List ChangeRequest}
    (h : ∀ r ∈ rs, r.Normalized) (s : σ) :
    ((writeLines w.write w.flush rs).run s).1 = rs.length ∧
    ∃ bytes lines, w.written ((writeLines w.write w.flush rs).run s).2 = w.written s ++ bytes ∧
      bytes.splitOn lineFeed = lines ++ [[]] ∧ lines.length = rs.length ∧
      (∀ l ∈ lines, lineFeed ∉ l) ∧
      lines.map (fun l ↦ ChangeRequest.ofBytes? l.toByteArray) = rs.map some := by
  have hlines : ∀ l ∈ rs.map fun r ↦ utf8 r.toJson.render, lineFeed ∉ l := by
    intro l hl
    obtain ⟨r, hr, rfl⟩ := List.mem_map.1 hl
    exact (h r hr).lineFeed_not_mem
  obtain ⟨hcount, hwritten⟩ := w.run_writeLines rs s
  refine ⟨hcount, rs.flatMap requestLine, rs.map fun r ↦ utf8 r.toJson.render, hwritten, ?_,
    List.length_map _, hlines, ?_⟩
  · rw [← splitOn_lines hlines, List.flatMap_map]
    rfl
  · rw [List.map_map]
    refine List.map_congr_left fun r hr ↦ ?_
    rw [Function.comp_apply, (h r hr).ofBytes?_utf8]

namespace Sample

/-- A pool whose texts have in them what has to be escaped, and whose numbers are as large as they
can be. -/
def quotedPool : Pool where
  id := "p\"1\"\\"
  loadBalancerId := .null
  listenerId := .value "l\n\u0001"
  protocol := .value "é€𝄞"
  algorithm := .unset
  sessionPersistence := .value ⟨"SOURCE_IP", none, some 18446744073709551615, some "\t"⟩
  adminStateUp := .value false
  healthMonitor := .unset
  members := .unset

/-- A load balancer with further addresses. -/
def nestedBalancer : LoadBalancer where
  id := "lb1"
  vipAddress := .value "10.0.0.1"
  vipNetworkId := .null
  vipSubnetId := .unset
  vipPortId := .unset
  projectId := .unset
  additionalVips := .value [⟨some "10.0.0.2", none, some "n", none⟩, ⟨none, none, none, none⟩]
  adminStateUp := .null
  listeners := .unset
  pools := .unset

def writtenRequests : List ChangeRequest :=
  [.pool .poolCreate quotedPool, .loadBalancer .lbSync nestedBalancer,
    .deleteEntry ⟨"m1", "10.0.0.3", 80, none⟩ "p\n"]

end Sample

theorem writeLines_loses_nothing_on_sample :
    ((writeLines Writer.buffer.write Writer.buffer.flush Sample.writtenRequests).run []).1 = 3 ∧
    ∃ bytes lines,
      ((writeLines Writer.buffer.write Writer.buffer.flush Sample.writtenRequests).run []).2
        = [] ++ bytes ∧
      bytes.splitOn lineFeed = lines ++ [[]] ∧ lines.length = 3 ∧ (∀ l ∈ lines, lineFeed ∉ l) ∧
      lines.map (fun l ↦ ChangeRequest.ofBytes? l.toByteArray)
        = Sample.writtenRequests.map some := by
  refine writeLines_loses_nothing Writer.buffer ?_ []
  intro r hr
  simp only [Sample.writtenRequests, List.mem_cons, List.not_mem_nil, or_false] at hr
  obtain rfl | rfl | rfl := hr
  · exact .pool _ _
  · exact .loadBalancer _ _
  · exact .deleteMember _ (.value _) (.value _) _ _

end BalancerSync
