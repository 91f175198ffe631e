/-!
# Dictionaries

A dictionary maps texts to values and holds its entries in increasing order of the
key. Texts are ordered by code point, which is also the order of their UTF-8 bytes.
The order is part of the type, so a dictionary does not remember in which order its
entries came.
-/

set_option autoImplicit false

namespace PluralTemplate

structure Dictionary (α : Type) where
  entries : List (String × α)
  increasing : entries.Pairwise fun a b => a.1 < b.1
  deriving DecidableEq

namespace Dictionary

variable {α : Type}

def empty : Dictionary α := ⟨[], List.Pairwise.nil⟩

/-- Put an entry in its place among increasing entries, or in the place of the one with
the same key. -/
def insertEntry (key : String) (value : α) : List (String × α) → List (String × α)
  | [] => [(key, value)]
  | entry :: rest =>
    if key < entry.1 then (key, value) :: entry :: rest
    else if entry.1 < key then entry :: insertEntry key value rest
    else (key, value) :: rest

theorem key_of_mem_insertEntry {key : String} {value : α} {entries : List (String × α)}
    {entry : String × α} (member : entry ∈ insertEntry key value entries) :
    entry.1 = key ∨ entry ∈ entries := by
  induction entries with
  | nil => simp_all [insertEntry]
  | cons first rest ih =>
    unfold insertEntry at member
    split at member
    · rcases List.mem_cons.1 member with rfl | member
      · exact .inl rfl
      · exact .inr member
    · split at member
      · rcases List.mem_cons.1 member with rfl | member
        · exact .inr List.mem_cons_self
        · exact (ih member).imp_right (List.mem_cons_of_mem _)
      · rcases List.mem_cons.1 member with rfl | member
        · exact .inl rfl
        · exact .inr (List.mem_cons_of_mem _ member)

theorem increasing_insertEntry (key : String) (value : α) {entries : List (String × α)}
    (increasing : entries.Pairwise fun a b => a.1 < b.1) :
    (insertEntry key value entries).Pairwise fun a b => a.1 < b.1 := by
  induction entries with
  | nil => simp [insertEntry]
  | cons first rest ih =>
    obtain ⟨before, ordered⟩ := List.pairwise_cons.1 increasing
    unfold insertEntry
    split
    · rename_i less
      refine List.pairwise_cons.2 ⟨fun entry member => ?_, increasing⟩
      rcases List.mem_cons.1 member with rfl | member
      · exact less
      · exact String.lt_trans less (before entry member)
    · split
      · rename_i greater
        refine List.pairwise_cons.2 ⟨fun entry member => ?_, ih ordered⟩
        rcases key_of_mem_insertEntry member with h | member
        · exact h ▸ greater
        · exact before entry member
      · rename_i notLess notGreater
        have same : key = first.1 :=
          String.le_antisymm (String.not_lt.1 notGreater) (String.not_lt.1 notLess)
        exact List.pairwise_cons.2 ⟨fun entry member => same ▸ before entry member, ordered⟩

/-- Bind a key, in place of what it was bound to. -/
def insert (d : Dictionary α) (key : String) (value : α) : Dictionary α :=
  ⟨insertEntry key value d.entries, increasing_insertEntry key value d.increasing⟩

/-- The dictionary of a list of entries, where the last entry of a key counts. -/
def ofList (entries : List (String × α)) : Dictionary α :=
  entries.foldl (fun d entry => d.insert entry.1 entry.2) empty

/-- The value of the first entry with a key. -/
def lookupEntry (key : String) : List (String × α) → Option α
  | [] => none
  | entry :: rest => if key = entry.1 then some entry.2 else lookupEntry key rest

/-- The value a key is bound to. -/
def get? (d : Dictionary α) (key : String) : Option α := lookupEntry key d.entries

def contains (d : Dictionary α) (key : String) : Bool := (d.get? key).isSome

def size (d : Dictionary α) : Nat := d.entries.length

theorem lookupEntry_insertEntry (key other : String) (value : α)
    (entries : List (String × α)) :
    lookupEntry other (insertEntry key value entries) =
      if other = key then some value else lookupEntry other entries := by
  induction entries with
  | nil => rfl
  | cons first rest ih =>
    unfold insertEntry
    split
    · rfl
    · rename_i notLess
      split
      · rename_i greater
        by_cases h : other = first.1
        · have apart : first.1 ≠ key := fun e => String.lt_irrefl key (e ▸ greater)
          simp [lookupEntry, h, apart]
        · simp [lookupEntry, h, ih]
      · rename_i notGreater
        have same : key = first.1 :=
          String.le_antisymm (String.not_lt.1 notGreater) (String.not_lt.1 notLess)
        by_cases h : other = key
        · simp [lookupEntry, h]
        · simp [lookupEntry, h, same ▸ h]

/-- A key just bound is found with its value, and every other key as before. -/
theorem get?_insert (d : Dictionary α) (key other : String) (value : α) :
    (d.insert key value).get? other = if other = key then some value else d.get? other :=
  lookupEntry_insertEntry key other value d.entries

theorem get?_empty (key : String) : (empty : Dictionary α).get? key = none := rfl

theorem lookupEntry_eq_some_iff {entries : List (String × α)}
    (increasing : entries.Pairwise fun a b => a.1 < b.1) {key : String} {value : α} :
    lookupEntry key entries = some value ↔ (key, value) ∈ entries := by
  induction entries with
  | nil => simp [lookupEntry]
  | cons first rest ih =>
    obtain ⟨before, ordered⟩ := List.pairwise_cons.1 increasing
    unfold lookupEntry
    split
    · rename_i same
      constructor
      · intro found
        have here : (key, value) = first := Prod.ext same (Option.some.inj found).symm
        exact here ▸ List.mem_cons_self
      · intro member
        rcases List.mem_cons.1 member with here | later
        · rw [← here]
        · exact absurd (same ▸ before _ later) (String.lt_irrefl _)
    · rename_i apart
      rw [ih ordered, List.mem_cons]
      constructor
      · exact .inr
      · rintro (here | later)
        · exact absurd (congrArg Prod.fst here) apart
        · exact later

/-- A key is bound to what its entry holds. -/
theorem get?_eq_some_iff {d : Dictionary α} {key : String} {value : α} :
    d.get? key = some value ↔ (key, value) ∈ d.entries :=
  lookupEntry_eq_some_iff d.increasing

theorem get?_foldl_insert_entry {key : String} {value : α} {entries : List (String × α)}
    (distinct : (entries.map Prod.fst).Nodup) (d : Dictionary α) :
    (entries.foldl (fun d entry => d.insert entry.1 entry.2) d).get? key = some value ↔
      (key, value) ∈ entries ∨ key ∉ entries.map Prod.fst ∧ d.get? key = some value := by
  induction entries generalizing d with
  | nil => simp
  | cons first rest ih =>
    obtain ⟨new, distinct⟩ := List.nodup_cons.1 distinct
    rw [List.foldl_cons, ih distinct, get?_insert]
    by_cases here : key = first.1
    · subst here
      have notLater : (first.1, value) ∉ rest := fun member =>
        new (List.mem_map.2 ⟨_, member, rfl⟩)
      simp [new, notLater, Prod.ext_iff, eq_comm]
    · simp [here, Prod.ext_iff]

/-- Entries without a repeated key are all kept. -/
theorem get?_ofList_eq_some_iff {key : String} {value : α} {entries : List (String × α)}
    (distinct : (entries.map Prod.fst).Nodup) :
    (ofList entries).get? key = some value ↔ (key, value) ∈ entries := by
  simp [ofList, get?_foldl_insert_entry distinct, get?_empty]

end Dictionary

end PluralTemplate
