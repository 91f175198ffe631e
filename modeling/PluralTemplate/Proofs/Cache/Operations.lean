import PluralTemplate.Cache

/-!
# What single operations leave in a cache

Facts about one operation that need no invariant. A lookup that finds its key answers with the
held value and builds nothing; one that does not builds and then looks again. Putting brings in
no entry but its own, and evicting brings in none, so a statement about all entries that holds
of a new entry survives its insertion (`Holds.put`).
-/

set_option autoImplicit false

namespace PluralTemplate.Cache

variable {α : Type}

@[simp] theorem limit_countLookup (c : Cache α) (found : Bool) :
    (c.countLookup found).limit = c.limit := rfl

@[simp] theorem limit_put (c : Cache α) (key : TemplateKey) (value : α) :
    (c.put key value).limit = c.limit := by
  unfold put
  split
  · rfl
  · split <;> rfl
  · split <;> rfl

theorem put_disabled {c : Cache α} (disabled : c.limit = .items 0) (key : TemplateKey)
    (value : α) : c.put key value = c := by
  simp [put, disabled]

theorem getOrInsertWith_hit {c : Cache α} {key : TemplateKey} {value : α}
    (held : c.entries[key]? = some value) (build : Cache α → α × Cache α) :
    c.getOrInsertWith key build = (value, c.countLookup true) := by
  simp [getOrInsertWith, get, held]

/-- On a miss the key is looked for once more after building, since building may put it. -/
theorem getOrInsertWith_miss {c : Cache α} {key : TemplateKey}
    (absent : c.entries[key]? = none) (build : Cache α → α × Cache α) :
    c.getOrInsertWith key build =
      match (build (c.countLookup false)).2.entries[key]? with
      | some existing => (existing, (build (c.countLookup false)).2)
      | none =>
        ((build (c.countLookup false)).1,
          (build (c.countLookup false)).2.put key (build (c.countLookup false)).1) := by
  have missed : c.get key = (none, c.countLookup false) := by
    simp [get, absent]
  unfold getOrInsertWith
  generalize c.get key = looked at missed
  subst missed
  rfl

/-- A build that leaves the cache alone is put on a miss. -/
theorem getOrInsertWith_miss_pure {c : Cache α} {key : TemplateKey}
    (absent : c.entries[key]? = none) (built : α) :
    (c.getOrInsertWith key fun c => (built, c)) =
      (built, (c.countLookup false).put key built) := by
  have still : (c.countLookup false).entries[key]? = none := absent
  rw [getOrInsertWith_miss absent]
  simp only [still]

theorem limit_getOrInsertWith_pure (c : Cache α) (key : TemplateKey) (built : α) :
    (c.getOrInsertWith key fun c => (built, c)).2.limit = c.limit := by
  cases held : c.entries[key]? with
  | some value => rw [getOrInsertWith_hit held, limit_countLookup]
  | none => rw [getOrInsertWith_miss_pure held, limit_put, limit_countLookup]

/-- How many lookups were counted, of keys that were found or not. -/
def lookups (c : Cache α) : Nat := c.counters.hits + c.counters.misses

theorem lookups_countLookup (c : Cache α) (found : Bool) :
    (c.countLookup found).lookups = c.lookups + 1 := by
  cases found
  · rfl
  · exact Nat.add_right_comm _ 1 _

@[simp] theorem lookups_put (c : Cache α) (key : TemplateKey) (value : α) :
    (c.put key value).lookups = c.lookups := by
  unfold put
  split
  · rfl
  · split <;> rfl
  · split <;> rfl

/-- The eviction loop brings no entry in. -/
theorem lookup_of_dropOldest {capacity : Nat} {key : TemplateKey} {value : α}
    (order : List TemplateKey) (entries : Std.HashMap TemplateKey α)
    (left : (dropOldest capacity order entries).2.1[key]? = some value) :
    entries[key]? = some value := by
  induction order generalizing entries with
  | nil => exact left
  | cons oldest rest ih =>
    rw [dropOldest] at left
    split at left
    · have remains := ih (entries.erase oldest) left
      rw [Std.HashMap.getElem?_erase] at remains
      split at remains
      · cases remains
      · exact remains
    · exact left

/-- An entry after putting is the one put, or was there before. -/
theorem lookup_of_put {c : Cache α} {key other : TemplateKey} {value held : α}
    (after : (c.put key value).entries[other]? = some held) :
    (other = key ∧ held = value) ∨ c.entries[other]? = some held := by
  have inserted : ∀ entries : Std.HashMap TemplateKey α,
      (entries.insert key value)[other]? = some held →
        (other = key ∧ held = value) ∨ entries[other]? = some held := by
    intro entries found
    rw [Std.HashMap.getElem?_insert] at found
    split at found
    · rename_i same
      exact .inl ⟨(beq_iff_eq.1 same).symm, (Option.some.inj found).symm⟩
    · exact .inr found
  unfold put at after
  split at after
  · exact .inr after
  · split at after
    · exact inserted _ after
    · exact (inserted _ after).imp_right (lookup_of_dropOldest _ _)
  · split at after
    · exact inserted _ after
    · exact inserted _ after

/-- Unless the cache is switched off, it holds what was put last. -/
theorem lookup_put_self {c : Cache α} (enabled : c.limit ≠ .items 0) (key : TemplateKey)
    (value : α) : (c.put key value).entries[key]? = some value := by
  unfold put
  split
  · rename_i disabled
    exact absurd disabled enabled
  · split <;> exact Std.HashMap.getElem?_insert_self
  · split <;> exact Std.HashMap.getElem?_insert_self

/-- Every entry satisfies a statement about keys and values. -/
def Holds (c : Cache α) (statement : TemplateKey → α → Prop) : Prop :=
  ∀ key value, c.entries[key]? = some value → statement key value

namespace Holds

variable {statement : TemplateKey → α → Prop}

theorem empty (limit : CacheLimit) : (Cache.empty limit).Holds statement := by
  intro key value held
  rw [Cache.empty, Std.HashMap.getElem?_empty] at held
  cases held

theorem clear (c : Cache α) : c.clear.Holds statement := by
  intro key value held
  rw [Cache.clear, Std.HashMap.getElem?_empty] at held
  cases held

theorem put {c : Cache α} (holds : c.Holds statement) {key : TemplateKey} {value : α}
    (new : statement key value) : (c.put key value).Holds statement := by
  intro other held after
  rcases lookup_of_put after with ⟨rfl, rfl⟩ | before
  · exact new
  · exact holds other held before

end Holds

end PluralTemplate.Cache
