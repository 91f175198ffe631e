import Mathlib.Data.List.Nodup
import PluralTemplate.Dictionary

/-!
# Entries of dictionaries

A dictionary is known by what it finds (`eq_of_get?`), grows with a key that it did not hold
(`size_insert`), and finds under a key the last of the entries it was made of (`get?_ofList`). So
the order of entries matters among those of one key only (`ofList_perm`), and keys that are listed
in any order are put into that of the dictionary by sorting them (`mergeSort_keys_of_perm`).
-/

set_option autoImplicit false

namespace PluralTemplate.Dictionary

variable {α : Type} {d e : Dictionary α} {key : String} {entries : List (String × α)}

theorem contains_insert (d : Dictionary α) (key other : String) (value : α) :
    (d.insert key value).contains other = (decide (other = key) || d.contains other) := by
  by_cases same : other = key <;> simp [contains, get?_insert, same]

/-! ## Size -/

/-- An entry is added if its key is new. The entries have to be in order, as the search for the
place of the key stops at the first greater one. -/
theorem length_insertEntry (value : α) (increasing : entries.Pairwise fun a b => a.1 < b.1) :
    (insertEntry key value entries).length =
      if (lookupEntry key entries).isSome then entries.length else entries.length + 1 := by
  induction entries with
  | nil => rfl
  | cons first rest ih =>
    obtain ⟨before, ordered⟩ := List.pairwise_cons.1 increasing
    unfold insertEntry
    split
    · rename_i less
      have absent : lookupEntry key (first :: rest) = none := by
        rw [Option.eq_none_iff_forall_not_mem]
        intro found member
        rcases List.mem_cons.1 ((lookupEntry_eq_some_iff increasing).1 member) with here | later
        · have same : key = first.1 := congrArg Prod.fst here
          exact String.lt_irrefl key (same ▸ less)
        · exact String.lt_asymm less (before _ later)
      simp [absent]
    · split
      · rename_i greater
        have apart : key ≠ first.1 := fun same => String.lt_irrefl key (same ▸ greater)
        rw [List.length_cons, ih ordered, lookupEntry, if_neg apart, List.length_cons]
        split <;> rfl
      · rename_i notLess notGreater
        have same : key = first.1 :=
          String.le_antisymm (String.not_lt.1 notGreater) (String.not_lt.1 notLess)
        simp [lookupEntry, same]

theorem size_insert (d : Dictionary α) (key : String) (value : α) :
    (d.insert key value).size = if d.contains key then d.size else d.size + 1 :=
  length_insertEntry value d.increasing

/-! ## The same entries -/

theorem pairwise_le_entries (d : Dictionary α) : d.entries.Pairwise fun a b => a.1 ≤ b.1 :=
  d.increasing.imp fun less => String.not_lt.1 (String.lt_asymm less)

theorem nodup_entries (d : Dictionary α) : d.entries.Nodup := by
  refine d.increasing.imp fun less same => ?_
  rw [same] at less
  exact String.lt_irrefl _ less

/-- Entries in the order of their keys are determined by which ones they are. -/
theorem eq_of_perm {others : List (String × α)} (increasing : others.Pairwise fun a b => a.1 ≤ b.1)
    (listed : others.Perm d.entries) : others = d.entries := by
  apply listed.eq_of_pairwise _ increasing d.pairwise_le_entries
  intro a b first second atMost atLeast
  have keys : a.1 = b.1 := String.le_antisymm atMost atLeast
  have found := get?_eq_some_iff.2 (listed.subset first)
  have other := get?_eq_some_iff.2 second
  rw [keys, other] at found
  exact Prod.ext keys (Option.some.inj found).symm

/-- Dictionaries that find the same are equal. -/
theorem eq_of_get? (same : ∀ key, d.get? key = e.get? key) : d = e := by
  have entries : d.entries = e.entries := by
    apply eq_of_perm d.pairwise_le_entries
    apply (List.perm_ext_iff_of_nodup d.nodup_entries e.nodup_entries).2
    intro entry
    rw [← get?_eq_some_iff, ← get?_eq_some_iff, same]
  cases d
  cases e
  simp_all

/-- Sorting the keys, in whatever order they are listed, gives them in the order of the entries. -/
theorem mergeSort_keys_of_perm {keys : List String} (listed : keys.Perm (d.entries.map Prod.fst)) :
    (keys.mergeSort fun a b => decide (a ≤ b)) = d.entries.map Prod.fst := by
  have sorted : (keys.mergeSort fun a b => decide (a ≤ b)).Pairwise fun a b =>
      decide (a ≤ b) = true := by
    apply List.pairwise_mergeSort
    · intro a b c first second
      simp only [decide_eq_true_eq] at first second ⊢
      exact String.le_trans first second
    · intro a b
      simpa using String.le_total a b
  apply ((List.mergeSort_perm keys _).trans listed).eq_of_pairwise
  · intro a b _ _ atMost atLeast
    exact String.le_antisymm atMost atLeast
  · simpa using sorted
  · exact List.pairwise_map.2 d.pairwise_le_entries

/-! ## Entries one after another -/

theorem get?_foldl_insert (entries : List (String × α)) (key : String) (d : Dictionary α) :
    (entries.foldl (fun d entry => d.insert entry.1 entry.2) d).get? key =
      ((entries.filter fun entry => entry.1 = key).getLast?.map Prod.snd).or (d.get? key) := by
  induction entries generalizing d with
  | nil => rfl
  | cons first rest ih =>
    rw [List.foldl_cons, ih, get?_insert]
    by_cases same : first.1 = key
    · simp only [same, if_true, List.filter_cons, decide_true, List.getLast?_cons]
      cases (rest.filter fun entry => entry.1 = key).getLast? <;> rfl
    · have apart : ¬ key = first.1 := fun here => same here.symm
      simp [same, apart]

/-- The last entry of a key counts. -/
theorem get?_ofList (entries : List (String × α)) (key : String) :
    (ofList entries).get? key =
      (entries.filter fun entry => entry.1 = key).getLast?.map Prod.snd := by
  rw [ofList, get?_foldl_insert, get?_empty, Option.or_none]

/-- Where no key is repeated, the order of the entries does not matter. -/
theorem ofList_perm {others : List (String × α)} (distinct : (entries.map Prod.fst).Nodup)
    (perm : entries.Perm others) : ofList entries = ofList others := by
  have otherDistinct : (others.map Prod.fst).Nodup := (perm.map Prod.fst).nodup_iff.1 distinct
  apply eq_of_get?
  intro key
  apply Option.ext
  intro value
  rw [get?_ofList_eq_some_iff distinct, get?_ofList_eq_some_iff otherDistinct, perm.mem_iff]

end PluralTemplate.Dictionary
