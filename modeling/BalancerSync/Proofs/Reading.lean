import BalancerSync.Field
import Mathlib.Data.List.Forall2

/-!
# What a record says

A record has its fields under their names if it is written as an object, and at their places if it
is written as an array.  Reading it is said here by relations between trees and values: each reader
gives a value exactly if the tree is written as the relation for it demands.  A three-state
attribute is unset, null or has a value according to what the record has in its place.
-/

namespace BalancerSync

open Json Text

variable {α : Type}

namespace Json

/-! ## Fields of records -/

namespace Tree

/-- The record has a tree in the field of this name, one of some names. -/
def Holds (names : List String) : Tree → String → Tree → Prop
  | .object fields, name, v => (some name, v) ∈ fields
  | .array items, name, v => items[names.idxOf name]? = some v
  | _, _, _ => False

/-- All keys of an object are texts and no name is used for two fields; an array has no more items
than there are names. -/
def IsRecord (names : List String) : Tree → Prop
  | .object fields =>
    (∀ f ∈ fields, f.1 ≠ none) ∧ ∀ name ∈ names, fields.countP (·.1 == some name) ≤ 1
  | .array items => items.length ≤ names.length
  | _ => False

/-- The field of this name, if the tree is a record. -/
def field? (names : List String) (t : Tree) (name : String) : Option Tree :=
  match t with
  | .object fields => (fields.find? (·.1 == some name)).map (·.2)
  | .array items => items[names.idxOf name]?
  | _ => none

/-- What a record gives for its fields, as one equivalence: no name appears twice, and each name is
looked up. -/
theorem record?_eq_some_iff {names : List String} {t : Tree} {r : String → Option Tree} :
    t.record? names = some r ↔ t.IsRecord names ∧ t.field? names = r := by
  cases t with
  | object fields =>
    have hkeys : (fields.all fun f ↦ f.1.isSome) = true ↔ ∀ f ∈ fields, f.1 ≠ none := by
      simp [List.all_eq_true, Option.isSome_iff_ne_none]
    have hnames : (names.all fun n ↦ decide (fields.countP (·.1 == some n) ≤ 1)) = true ↔
        ∀ n ∈ names, fields.countP (·.1 == some n) ≤ 1 := by
      simp [List.all_eq_true]
    unfold record? IsRecord
    rw [Option.ite_none_right_eq_some, hkeys, hnames, Option.some_inj]
    rfl
  | array items =>
    unfold record? IsRecord
    rw [Option.ite_none_right_eq_some, Option.some_inj]
    rfl
  | null => simp [record?, IsRecord]
  | bool b => simp [record?, IsRecord]
  | number n => simp [record?, IsRecord]
  | text s => simp [record?, IsRecord]

/-- A record has in each field the tree that is found there, and no other. -/
theorem IsRecord.holds_iff {names : List String} {t : Tree} (h : t.IsRecord names) {name : String}
    (hname : name ∈ names) (v : Tree) : t.Holds names name v ↔ t.field? names name = some v := by
  cases t with
  | object fields =>
    change (some name, v) ∈ fields ↔ (fields.find? (·.1 == some name)).map (·.2) = some v
    have honce : (fields.filter (·.1 == some name)).length ≤ 1 := by
      rw [← List.countP_eq_length_filter]
      exact h.2 name hname
    constructor
    · intro hmem
      have hfilter : (some name, v) ∈ fields.filter (·.1 == some name) :=
        List.mem_filter.2 ⟨hmem, by simp⟩
      obtain ⟨f, hf⟩ := List.length_eq_one_iff.1
        (Nat.le_antisymm honce (List.length_pos_of_mem hfilter))
      rw [← List.head?_filter, hf]
      rw [hf, List.mem_singleton] at hfilter
      rw [← hfilter]
      rfl
    · intro hfind
      obtain ⟨⟨key, w⟩, hf, rfl⟩ := Option.map_eq_some_iff.1 hfind
      have hkey : key = some name := by simpa using List.find?_some hf
      subst hkey
      exact List.mem_of_find?_eq_some hf
  | array items => rfl
  | null | bool | number | text => exact h.elim

/-- Steps that may fail succeed together when each of them does. -/
theorem bind_eq_some {β : Type} {o : Option β} {k : β → Option α} {a : α} :
    (o >>= k) = some a ↔ ∃ b, o = some b ∧ k b = some a :=
  Option.bind_eq_some_iff

/-- To read a record is to read its fields, where what is demanded implies that there is one. -/
theorem bind_record?_eq_some_iff (names : List String) {t : Tree}
    {k : (String → Option Tree) → Option α} {a : α} {P : Prop} (hrecord : P → t.IsRecord names)
    (hfields : t.IsRecord names → (k (t.field? names) = some a ↔ P)) :
    (t.record? names >>= k) = some a ↔ P := by
  rw [bind_eq_some]
  constructor
  · rintro ⟨r, hr, hk⟩
    obtain ⟨hrec, rfl⟩ := record?_eq_some_iff.1 hr
    exact (hfields hrec).1 hk
  · intro h
    exact ⟨_, record?_eq_some_iff.2 ⟨hrecord h, rfl⟩, (hfields (hrecord h)).2 h⟩

/-! ## Values -/

/-- The tree is this text. -/
def IsText (t : Tree) (s : String) : Prop := t = .text (some s)

def IsBool (t : Tree) (b : Bool) : Prop := t = .bool b

/-- The tree is this number, written without sign, fraction and exponent. -/
def IsNat (t : Tree) (n : Nat) : Prop :=
  ∃ l : Literal, t = .number l ∧ l.negative = false ∧ l.fraction = [] ∧ l.exponent = none ∧
    ofDigits 10 l.whole = n

def IsUInt16 (t : Tree) (n : UInt16) : Prop := t.IsNat n.toNat

def IsUInt32 (t : Tree) (n : UInt32) : Prop := t.IsNat n.toNat

def IsUInt64 (t : Tree) (n : UInt64) : Prop := t.IsNat n.toNat

/-- The tree is an array of trees that show these elements, in their order. -/
def IsList (shows : Tree → α → Prop) (t : Tree) (as : List α) : Prop :=
  ∃ items, t = .array items ∧ List.Forall₂ shows items as

/-- The reader gives exactly the values that the tree shows, and null shows none. -/
structure Reads (f : Tree → Option α) (shows : Tree → α → Prop) : Prop where
  eq_some_iff : ∀ t a, f t = some a ↔ shows t a
  null : f .null = none

/-- No reader of values accepts null, so that null can be told from a value. -/
theorem Reads.not_null {f : Tree → Option α} {shows : Tree → α → Prop} (h : Reads f shows) (a : α) :
    ¬ shows .null a := by
  rw [← h.eq_some_iff, h.null]
  exact Option.some_ne_none a ∘ Eq.symm

/-- Texts are read as they are. -/
theorem reads_text : Reads asText? IsText := by
  refine ⟨?_, rfl⟩
  intro t s
  cases t <;> simp [asText?, IsText]

theorem reads_bool : Reads asBool? IsBool := by
  refine ⟨?_, rfl⟩
  intro t b
  cases t <;> simp [asBool?, IsBool]

/-- A literal is a number of 64 bits without sign if it is written as one. -/
theorem integer?_eq_ofNat_iff {l : Literal} {n : Nat} (h : n < UInt64.size) :
    l.integer? = some (n : Int) ↔
      l.negative = false ∧ l.fraction = [] ∧ l.exponent = none ∧ ofDigits 10 l.whole = n := by
  obtain ⟨negative, whole, fraction, exponent⟩ := l
  unfold Literal.integer?
  by_cases hinteger : fraction = [] ∧ exponent = none
  · obtain ⟨rfl, rfl⟩ := hinteger
    cases negative with
    | false =>
      simp only [List.isEmpty_nil, Option.isNone_none, and_self, if_true, Bool.false_eq_true,
        if_false, Option.ite_none_right_eq_some, Option.some_inj, true_and]
      omega
    | true =>
      -- A negative literal is below zero, and negative zero is no integer.
      simp only [List.isEmpty_nil, Option.isNone_none, and_self, if_true,
        Option.ite_none_left_eq_some, Option.some_inj, Bool.true_eq_false, false_and, iff_false]
      omega
  · refine iff_of_false (by simp [hinteger]) ?_
    rintro ⟨-, hfraction, hexponent, -⟩
    exact hinteger ⟨hfraction, hexponent⟩

/-- A number below a bound that fits into 64 bits. -/
theorem asNat?_eq_some_iff {bound : Nat} (hbound : bound ≤ UInt64.size) {t : Tree} {n : Nat} :
    asNat? bound t = some n ↔ t.IsNat n ∧ n < bound := by
  cases t with
  | number l =>
    have hinteger :
        asNat? bound (.number l) = some n ↔ l.integer? = some (n : Int) ∧ n < bound := by
      unfold asNat?
      rw [Option.bind_eq_some_iff]
      constructor
      · rintro ⟨i, hi, hn⟩
        obtain ⟨⟨hnonneg, hlt⟩, heq⟩ := Option.ite_none_right_eq_some.1 hn
        have hin : i.toNat = n := Option.some_inj.1 heq
        rw [hi, ← hin, Int.toNat_of_nonneg hnonneg]
        exact ⟨rfl, hlt⟩
      · rintro ⟨hi, hlt⟩
        refine ⟨n, hi, ?_⟩
        rw [if_pos ⟨by omega, by simpa using hlt⟩, Int.toNat_natCast]
    rw [hinteger]
    refine and_congr_left fun hlt ↦ ?_
    rw [integer?_eq_ofNat_iff (by omega)]
    simp [IsNat]
  | null => simp [asNat?, IsNat]
  | bool b => simp [asNat?, IsNat]
  | text s => simp [asNat?, IsNat]
  | array items => simp [asNat?, IsNat]
  | object fields => simp [asNat?, IsNat]

/-- Words are numbers below their size. -/
theorem reads_word {word : Type} (size : Nat) (ofNat : Nat → word) (toNat : word → Nat)
    (hsize : size ≤ UInt64.size) (hlt : ∀ a, toNat a < size) (hof : ∀ a, ofNat (toNat a) = a)
    (hto : ∀ n < size, toNat (ofNat n) = n) :
    Reads (fun t ↦ (asNat? size t).map ofNat) fun t a ↦ t.IsNat (toNat a) := by
  refine ⟨?_, rfl⟩
  intro t a
  rw [Option.map_eq_some_iff]
  constructor
  · rintro ⟨n, hn, rfl⟩
    obtain ⟨hnat, hn⟩ := (asNat?_eq_some_iff hsize).1 hn
    rw [hto n hn]
    exact hnat
  · intro hnat
    exact ⟨toNat a, (asNat?_eq_some_iff hsize).2 ⟨hnat, hlt a⟩, hof a⟩

/-- Words of sixteen bits are read when the number fits. -/
theorem reads_uint16 : Reads asUInt16? IsUInt16 :=
  reads_word UInt16.size UInt16.ofNat UInt16.toNat (by decide) UInt16.toNat_lt_size
    (fun _ ↦ UInt16.ofNat_toNat) fun _ h ↦ UInt16.toNat_ofNat_of_lt h

theorem reads_uint32 : Reads asUInt32? IsUInt32 :=
  reads_word UInt32.size UInt32.ofNat UInt32.toNat (by decide) UInt32.toNat_lt_size
    (fun _ ↦ UInt32.ofNat_toNat) fun _ h ↦ UInt32.toNat_ofNat_of_lt h

theorem reads_uint64 : Reads asUInt64? IsUInt64 :=
  reads_word UInt64.size UInt64.ofNat UInt64.toNat (Nat.le_refl _) UInt64.toNat_lt_size
    (fun _ ↦ UInt64.ofNat_toNat) fun _ h ↦ UInt64.toNat_ofNat_of_lt h

/-- A list is read when its members are, one by one. -/
theorem mapM_eq_some_iff {β γ : Type} {f : β → Option γ} {bs : List β} {cs : List γ} :
    bs.mapM f = some cs ↔ List.Forall₂ (fun b c ↦ f b = some c) bs cs := by
  induction bs generalizing cs with
  | nil => cases cs <;> simp
  | cons b bs ih =>
    rw [List.forall₂_cons_left_iff]
    simp only [List.mapM_cons, Option.bind_eq_bind, Option.pure_def, Option.bind_eq_some_iff, ih,
      Option.some_inj]
    grind

/-- From a reader for members one gets a reader for lists of them. -/
theorem reads_list {f : Tree → Option α} {shows : Tree → α → Prop} (h : Reads f shows) :
    Reads (asList? f) (IsList shows) := by
  refine ⟨?_, rfl⟩
  intro t as
  cases t with
  | array items =>
    have hshows : (fun t a ↦ f t = some a) = shows := by
      funext t a
      exact propext (h.eq_some_iff t a)
    change items.mapM f = some as ↔ _
    rw [mapM_eq_some_iff, hshows]
    simp [IsList]
  | null => simp [asList?, IsList]
  | bool b => simp [asList?, IsList]
  | number n => simp [asList?, IsList]
  | text s => simp [asList?, IsList]
  | object fields => simp [asList?, IsList]

end Tree

end Json

/-! ## What a record has in a field -/

section Place

variable {f : Tree → Option α} {shows : Tree → α → Prop} {here : Tree → Prop} {found : Option Tree}

/-- A required field has to be there, and has to be a text. -/
theorem Json.Tree.required_eq_some_iff (hfound : ∀ v, here v ↔ found = some v) {s : String} :
    Tree.required Tree.asText? found = some s ↔ here (.text (some s)) := by
  rw [hfound]
  cases found with
  | none => simp [Tree.required]
  | some t => simp [Tree.required, Tree.reads_text.eq_some_iff, Tree.IsText]

/-- The three states of an attribute: it is left out, null stands in its place, or a value. -/
structure Field.Says (here : Tree → Prop) (shows : Tree → α → Prop) (x : Field α) : Prop where
  unset_iff : x = unset ↔ ∀ v, ¬ here v
  null_iff : x = null ↔ here .null
  value_iff : ∀ a, x = value a ↔ ∃ v, here v ∧ shows v a

/-- A field is read as unset, null or a value exactly according to what the record has there. -/
theorem Field.read_eq_some_iff (h : Tree.Reads f shows) (hfound : ∀ v, here v ↔ found = some v)
    {x : Field α} : Field.read f found = some x ↔ x.Says here shows := by
  cases found with
  | none =>
    have hnone (v : Tree) : ¬ here v := by simp [hfound]
    change some unset = some x ↔ _
    rw [Option.some_inj]
    constructor
    · rintro rfl
      constructor <;> simp [hnone]
    · intro hstates
      exact (hstates.unset_iff.2 hnone).symm
  | some t =>
    have hhere (v : Tree) : here v ↔ v = t := by simp [hfound, eq_comm]
    by_cases ht : t = .null
    · subst ht
      change some null = some x ↔ _
      rw [Option.some_inj]
      constructor
      · rintro rfl
        constructor <;> simp [hhere, h.not_null]
      · intro hstates
        exact (hstates.null_iff.2 ((hhere _).2 rfl)).symm
    · -- What is there and not null is left to the reader of values.
      have hread : Field.read f (some t) = (f t).map value := by
        cases t with
        | null => exact absurd rfl ht
        | _ => rfl
      rw [hread]
      constructor
      · intro hvalue
        obtain ⟨a, ha, rfl⟩ := Option.map_eq_some_iff.1 hvalue
        constructor
        · simp [hhere]
        · simp [hhere, Ne.symm ht]
        · simp [hhere, ← h.eq_some_iff, ha]
      · intro hstates
        cases x with
        | unset => exact absurd ((hhere t).2 rfl) (hstates.unset_iff.1 rfl t)
        | null => exact absurd ((hhere _).1 (hstates.null_iff.1 rfl)).symm ht
        | value a =>
          obtain ⟨v, hv, hshows⟩ := (hstates.value_iff a).1 rfl
          rw [(hhere v).1 hv, ← h.eq_some_iff] at hshows
          rw [hshows]
          rfl

/-- Each child of a list is shown by some tree. -/
theorem Field.Says.exists_of_mem_items {x : Field (List α)} (h : x.Says here (Tree.IsList shows))
    {a : α} (ha : a ∈ x.items) : ∃ v, shows v a := by
  cases x with
  | unset | null => cases ha
  | value as =>
    obtain ⟨_, -, items, rfl, hitems⟩ := (h.value_iff as).1 rfl
    rw [items_value] at ha
    obtain ⟨i, hi, rfl⟩ := List.getElem_of_mem ha
    exact ⟨_, hitems.get (hitems.length_eq ▸ hi) hi⟩

/-- An attribute of two states does not tell null from nothing. -/
def SaysOption (here : Tree → Prop) (shows : Tree → α → Prop) (a? : Option α) : Prop :=
  ∃ x : Field α, x.Says here shows ∧ x.asOption = a?

/-- An optional field does not distinguish null from absence. -/
theorem Json.Tree.optional_eq_some_iff (h : Tree.Reads f shows)
    (hfound : ∀ v, here v ↔ found = some v) {a? : Option α} :
    Tree.optional f found = some a? ↔ SaysOption here shows a? := by
  have hread : Tree.optional f found = (Field.read f found).map Field.asOption := by
    rcases found with _ | t
    · rfl
    · cases t with
      | null => rfl
      | _ => exact (Option.map_map Field.asOption Field.value (f _)).symm
  simp only [hread, Option.map_eq_some_iff, Field.read_eq_some_iff h hfound]
  rfl

end Place

end BalancerSync
