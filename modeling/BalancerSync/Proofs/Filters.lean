import BalancerSync.Cli.Arguments
import Mathlib.Data.List.Induction
import Mathlib.Data.List.Basic

/-!
# Filters on the command line

The filters among the words of a command line are a dictionary that is written word by word.  What
it holds can be said without writing it (`Dictionary.keys_ofList`, `Dictionary.mem_ofList_iff`):
each key once, where it first occurs, with the value that it was given last.  So the filters that
were read can be written as words again, and stand for all the words that they came from.
-/

namespace BalancerSync

/-! ## Dictionaries that are written in order -/

namespace Dictionary

variable {α : Type} {d entries : Dictionary α} {key : String} {a : α}

theorem has_iff_mem_keys : has d key = true ↔ key ∈ keys d := by
  simp [has, keys]

/-- Writing over a value leaves the keys alone. -/
theorem keys_insert (d : Dictionary α) (key : String) (a : α) :
    keys (insert d key a) = if key ∈ keys d then keys d else keys d ++ [key] := by
  unfold insert
  simp only [has_iff_mem_keys]
  split
  · rw [keys, List.map_map]
    refine List.map_congr_left fun e _ ↦ ?_
    by_cases he : e.1 = key <;> simp [he]
  · simp [keys]

/-- The last entry is the one that is inserted last. -/
theorem ofList_concat (entries : List (String × α)) (e : String × α) :
    ofList (entries ++ [e]) = insert (ofList entries) e.1 e.2 := by
  rw [ofList, List.foldl_append]
  rfl

/-- The keys are in the order in which they first occur. -/
theorem keys_ofList (entries : List (String × α)) :
    keys (ofList entries) = (entries.map (·.1)).eraseDups := by
  induction entries using List.reverseRecOn with
  | nil => rfl
  | append_singleton entries e ih =>
    rw [ofList_concat, keys_insert, ih, List.map_append, List.eraseDups_append]
    by_cases h : e.1 ∈ entries.map (·.1)
    · rw [if_pos (List.mem_eraseDups.mpr h)]
      simp [List.removeAll, h]
    · rw [if_neg (mt List.mem_eraseDups.mp h)]
      simp [List.removeAll, h, List.eraseDups_cons]

/-- No key is in a dictionary twice. -/
theorem nodup_keys_ofList (entries : List (String × α)) : (keys (ofList entries)).Nodup := by
  induction entries using List.reverseRecOn with
  | nil => exact List.nodup_nil
  | append_singleton entries e ih =>
    rw [ofList_concat, keys_insert]
    split
    · exact ih
    · next h => simpa [List.nodup_append] using ⟨ih, fun k hk hke ↦ h (hke ▸ hk)⟩

/-- The last value of a key is found first from the end. -/
theorem get?_ofList (entries : List (String × α)) (key : String) :
    get? (ofList entries) key = get? entries.reverse key := by
  induction entries using List.reverseRecOn with
  | nil => rfl
  | append_singleton entries e ih =>
    rw [ofList_concat, get?_insert, List.reverse_concat, get?_cons, ih]
    simp only [eq_comm]

/-- A key has the value of the last entry that is written for it. -/
theorem mem_ofList_iff : (key, a) ∈ ofList entries ↔
    ∃ earlier later, entries = earlier ++ (key, a) :: later ∧ key ∉ keys later := by
  rw [mem_iff_get?_eq_some (nodup_keys_ofList entries), get?_ofList, get?, Option.map_eq_some_iff]
  simp only [List.find?_eq_some_iff_append]
  constructor
  · rintro ⟨⟨k, _⟩, ⟨hk, later, earlier, hsplit, hlater⟩, rfl⟩
    obtain rfl : k = key := by simpa using hk
    refine ⟨earlier.reverse, later.reverse, ?_, ?_⟩
    · simpa using congrArg List.reverse hsplit
    · intro hmem
      obtain ⟨e, he, hkey⟩ := List.mem_map.mp hmem
      simpa [hkey] using hlater e (List.mem_reverse.mp he)
  · rintro ⟨earlier, later, rfl, hlater⟩
    refine ⟨(key, a), ⟨beq_self_eq_true key, later.reverse, earlier.reverse, by simp, ?_⟩, rfl⟩
    intro e he
    have hne : e.1 ≠ key := fun hkey ↦
      hlater (hkey ▸ List.mem_map_of_mem (List.mem_reverse.mp he))
    simpa using hne

/-- What is written before may be replaced by the dictionary that it makes. -/
theorem ofList_append (entries more : List (String × α)) :
    ofList (entries ++ more) = ofList (ofList entries ++ more) := by
  have hagain : (ofList entries).foldl (fun d e ↦ insert d e.1 e.2) [] = ofList entries :=
    ofList_of_nodup (nodup_keys_ofList entries)
  rw [ofList, ofList, List.foldl_append, List.foldl_append, hagain]
  rfl

end Dictionary

/-! ## Filters and words -/

namespace Cli

open Text Dictionary

/-- The word is a filter with this key and this value, which stand on both sides of its first
equals sign. -/
def Says (word key value : String) : Prop :=
  word.toList = key.toList ++ '=' :: value.toList ∧ '=' ∉ key.toList

/-- A filter as a word of the command line. -/
def renderFilter (f : String × String) : String := f.1 ++ "=" ++ f.2

/-- A word is a filter with this key and this value if it says so. -/
theorem filter?_eq_some_iff {word key value : String} :
    filter? word = some (key, value) ↔ Says word key value := by
  rw [filter?, Option.map_eq_some_iff]
  constructor
  · rintro ⟨⟨k, v⟩, hcut, heq⟩
    obtain ⟨rfl, rfl⟩ := Prod.mk.inj heq
    simpa [Says] using cut_eq_some_iff.mp hcut
  · intro h
    exact ⟨(key.toList, value.toList), cut_eq_some_iff.mpr h, by simp⟩

theorem filter?_eq_none_iff {word : String} : filter? word = none ↔ '=' ∉ word.toList := by
  rw [filter?, Option.map_eq_none_iff, cut_eq_none_iff]

/-- A filter that is written out says what it is, unless its key has an equals sign. -/
theorem says_renderFilter {key : String} (h : '=' ∉ key.toList) (value : String) :
    Says (renderFilter (key, value)) key value := by
  refine ⟨?_, h⟩
  simp [renderFilter]

/-- The key of a filter is the text before its first equals sign. -/
theorem Says.key_eq {word key value : String} (h : Says word key value) :
    String.ofList (before '=' word.toList) = key := by
  rw [h.1, before_append_cons h.2, String.ofList_toList]

/-- Words without an equals sign can be left out beforehand. -/
theorem filterMap_filter?_filter (words : List String) :
    (words.filter fun w ↦ '=' ∈ w.toList).filterMap filter? = words.filterMap filter? := by
  rw [List.filterMap_filter]
  refine List.filterMap_congr fun w _ ↦ ?_
  split
  · rfl
  · next h => exact (filter?_eq_none_iff.mpr (by simpa using h)).symm

/-- The keys of the filters among some words. -/
theorem map_fst_filterMap_filter? (words : List String) :
    (words.filterMap filter?).map (·.1) =
      (words.filter fun w ↦ '=' ∈ w.toList).map fun w ↦ String.ofList (before '=' w.toList) := by
  induction words with
  | nil => rfl
  | cons w words ih =>
    rcases hw : filter? w with _ | ⟨key, value⟩
    · have hsign := filter?_eq_none_iff.mp hw
      rw [List.filterMap_cons_none hw, ih, List.filter_cons_of_neg (by simpa using hsign)]
    · have hspelt := filter?_eq_some_iff.mp hw
      have hsign : '=' ∈ w.toList := by simp [hspelt.1]
      rw [List.filterMap_cons_some hw, List.filter_cons_of_pos (by simpa using hsign),
        List.map_cons, List.map_cons, ih, hspelt.key_eq]

/-- An entry for a key is among those of some words if one of them says so. -/
theorem mem_keys_filterMap_filter? {words : List String} {key : String} :
    key ∈ keys (words.filterMap filter?) ↔ ∃ w ∈ words, ∃ value, Says w key value := by
  simp only [keys, List.mem_map, List.mem_filterMap, Prod.exists, exists_and_right,
    exists_eq_right, filter?_eq_some_iff]
  constructor
  · rintro ⟨value, w, hw, h⟩
    exact ⟨w, hw, value, h⟩
  · rintro ⟨w, hw, value, h⟩
    exact ⟨value, w, hw, h⟩

/-- A filter says what the last word for its key says. -/
theorem mem_parseFilters_iff {words : List String} {key value : String} :
    (key, value) ∈ parseFilters words ↔
      ∃ earlier word later, words = earlier ++ word :: later ∧ Says word key value ∧
        ∀ w ∈ later, ∀ v, ¬ Says w key v := by
  have hlast (later : List String) : key ∉ keys (later.filterMap filter?) ↔
      ∀ w ∈ later, ∀ v, ¬ Says w key v := by
    rw [mem_keys_filterMap_filter?]
    push Not
    rfl
  rw [parseFilters, mem_ofList_iff]
  constructor
  · rintro ⟨es, es', hsplit, hkey⟩
    obtain ⟨earlier, rest, rfl, rfl, hrest⟩ := List.filterMap_eq_append_iff.mp hsplit
    obtain ⟨idle, word, later, rfl, -, hword, rfl⟩ := List.filterMap_eq_cons_iff.mp hrest
    exact ⟨earlier ++ idle, word, later, by simp, filter?_eq_some_iff.mp hword,
      (hlast later).mp hkey⟩
  · rintro ⟨earlier, word, later, rfl, hword, hlater⟩
    refine ⟨earlier.filterMap filter?, later.filterMap filter?, ?_, (hlast later).mpr hlater⟩
    rw [List.filterMap_append, List.filterMap_cons_some (filter?_eq_some_iff.mpr hword)]

/-- Filters that were read are read again from the words that they are written as. -/
theorem filterMap_renderFilter_parseFilters (words : List String) :
    ((parseFilters words).map renderFilter).filterMap filter? = parseFilters words := by
  rw [List.filterMap_map]
  conv_rhs => rw [← List.filterMap_some (l := parseFilters words)]
  refine List.filterMap_congr fun (key, value) h ↦ ?_
  obtain ⟨-, word, -, -, hword, -⟩ := mem_parseFilters_iff.mp h
  exact filter?_eq_some_iff.mpr (says_renderFilter hword.2 value)

/-- The filters among some words have distinct keys, in the order in which words first have them,
and each has the value that the last word for it gives. A word without an equals sign counts for
nothing, be it the one that asks for debugging. The filters can be written as words, which are read
as the same filters and may stand for the words they came from before any others. -/
theorem parseFilters_keeps_first_place_and_last_value (words more : List String) :
    (keys (parseFilters words)).Nodup ∧
    keys (parseFilters words) = ((words.filter fun w ↦ '=' ∈ w.toList).map fun w ↦
      String.ofList (before '=' w.toList)).eraseDups ∧
    (∀ key value, (key, value) ∈ parseFilters words ↔
      ∃ earlier word later, words = earlier ++ word :: later ∧ Says word key value ∧
        ∀ w ∈ later, ∀ v, ¬ Says w key v) ∧
    parseFilters (words.filter fun w ↦ '=' ∈ w.toList) = parseFilters words ∧
    parseFilters (words ++ debugWord :: more) = parseFilters (words ++ more) ∧
    parseFilters ((parseFilters words).map renderFilter) = parseFilters words ∧
    parseFilters (words ++ more) =
      parseFilters ((parseFilters words).map renderFilter ++ more) := by
  refine ⟨nodup_keys_ofList _, ?_, fun _ _ ↦ mem_parseFilters_iff, ?_, ?_, ?_, ?_⟩
  · rw [parseFilters, keys_ofList, map_fst_filterMap_filter?]
  · rw [parseFilters, filterMap_filter?_filter, parseFilters]
  · have hdebug : filter? debugWord = none := by decide
    rw [parseFilters, List.filterMap_append, List.filterMap_cons_none hdebug,
      ← List.filterMap_append, parseFilters]
  · rw [parseFilters, filterMap_renderFilter_parseFilters]
    exact ofList_of_nodup (nodup_keys_ofList _)
  · rw [parseFilters, List.filterMap_append, ofList_append, parseFilters, List.filterMap_append,
      filterMap_renderFilter_parseFilters, parseFilters]

/-- The value may be empty or have equals signs in it. -/
example : parseFilters ["a=1", "--debug", "b=", "a=x=y", "c"] = [("a", "x=y"), ("b", "")] := by
  decide +kernel

end Cli

end BalancerSync
