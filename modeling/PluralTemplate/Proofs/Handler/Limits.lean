import Mathlib.Data.Finset.Card
import PluralTemplate.Proofs.Cache.Session
import PluralTemplate.Proofs.Handler.Transparency

/-!
# What a limit costs

A handler parses a template whenever its cache misses the digest, so the misses of a run say how
often it parses. Here runs of lookups that build are compared under different limits. Whatever the
limit, a lookup brings in no key but its own, so every key that is asked for is missed once at least
(`missing_le_misses_supplyAll`). A cache that has room for all keys evicts none, so it misses each
just once and goes through the same counters as one without a limit (`supplyAll_of_room`). One that
is switched off holds nothing, and misses every time.
-/

set_option autoImplicit false

namespace PluralTemplate

/-- Whether as many entries may be held at a time. -/
def CacheLimit.Admits (count : Nat) : CacheLimit → Prop
  | .items capacity => count ≤ capacity
  | .unbounded => True

theorem CacheLimit.Admits.mono {limit : CacheLimit} {few many : Nat} (admits : limit.Admits many)
    (fewer : few ≤ many) : limit.Admits few := by
  cases limit with
  | items capacity => exact Nat.le_trans fewer admits
  | unbounded => trivial

namespace Cache

variable {α : Type} {c : Cache α} {key : TemplateKey} {built : α}

/-- The keys in a cache. -/
def held (c : Cache α) : Finset TemplateKey := c.order.toFinset

/-- The cache after a lookup that builds a value should its key be absent. -/
def supply (c : Cache α) (entry : TemplateKey × α) : Cache α :=
  (c.getOrInsertWith entry.1 fun c => (entry.2, c)).2

/-- The cache after a list of such lookups. -/
def supplyAll (c : Cache α) (entries : List (TemplateKey × α)) : Cache α :=
  entries.foldl supply c

theorem supplyAll_cons (c : Cache α) (entry : TemplateKey × α)
    (later : List (TemplateKey × α)) :
    c.supplyAll (entry :: later) = (c.supply entry).supplyAll later := rfl

theorem held_empty (limit : CacheLimit) : (empty limit : Cache α).held = ∅ := rfl

/-! ## One lookup -/

theorem Valid.mem_held_iff (valid : c.Valid) (key : TemplateKey) :
    key ∈ c.held ↔ key ∈ c.entries := by
  rw [held, List.mem_toFinset, valid.mem_order_iff]

theorem Valid.card_held (valid : c.Valid) : c.held.card = c.size := by
  rw [held, List.toFinset_card_of_nodup valid.distinct, valid.size_eq]

theorem Valid.supply_of_mem (valid : c.Valid) (present : key ∈ c.held) :
    c.supply (key, built) = c.countLookup true := by
  have member := (valid.mem_held_iff key).1 present
  rw [supply, getOrInsertWith_hit (Std.HashMap.getElem?_eq_some_getElem member)]

theorem Valid.supply_of_not_mem (valid : c.Valid) (absent : key ∉ c.held) :
    c.supply (key, built) = (c.countLookup false).put key built := by
  have missing : key ∉ c.entries := mt (valid.mem_held_iff key).2 absent
  rw [supply, getOrInsertWith_miss_pure (Std.HashMap.getElem?_eq_none missing)]

theorem Valid.supply (valid : c.Valid) (entry : TemplateKey × α) : (c.supply entry).Valid := by
  obtain ⟨key, built⟩ := entry
  by_cases present : key ∈ c.held
  · rw [valid.supply_of_mem present]
    exact valid.countLookup true
  · rw [valid.supply_of_not_mem present]
    exact (valid.countLookup false).put key built

theorem limit_supply (c : Cache α) (entry : TemplateKey × α) : (c.supply entry).limit = c.limit :=
  limit_getOrInsertWith_pure c entry.1 entry.2

theorem misses_put (c : Cache α) (key : TemplateKey) (value : α) :
    (c.put key value).counters.misses = c.counters.misses := by
  unfold put
  split
  · rfl
  · split <;> rfl
  · split <;> rfl

/-- A lookup is a miss if the cache does not hold the key. -/
theorem Valid.misses_supply (valid : c.Valid) (entry : TemplateKey × α) :
    (c.supply entry).counters.misses =
      c.counters.misses + if entry.1 ∈ c.held then 0 else 1 := by
  obtain ⟨key, built⟩ := entry
  by_cases present : key ∈ c.held
  · rw [valid.supply_of_mem present, if_pos present]
    rfl
  · rw [valid.supply_of_not_mem present, if_neg present, misses_put]
    rfl

/-- Every lookup is counted. -/
theorem Valid.lookups_supply (valid : c.Valid) (entry : TemplateKey × α) :
    (c.supply entry).lookups = c.lookups + 1 := by
  obtain ⟨key, built⟩ := entry
  by_cases present : key ∈ c.held
  · rw [valid.supply_of_mem present, lookups_countLookup]
  · rw [valid.supply_of_not_mem present, lookups_put, lookups_countLookup]

/-- A lookup brings in no key but its own. -/
theorem Valid.held_supply_subset (valid : c.Valid) (entry : TemplateKey × α) :
    (c.supply entry).held ⊆ insert entry.1 c.held := by
  obtain ⟨key, built⟩ := entry
  intro other after
  rw [Finset.mem_insert]
  by_cases present : key ∈ c.held
  · rw [valid.supply_of_mem present] at after
    exact .inr after
  · have found := ((valid.supply (key, built)).mem_held_iff other).1 after
    rw [valid.supply_of_not_mem present] at found
    rcases lookup_of_put (Std.HashMap.getElem?_eq_some_getElem found) with ⟨own, -⟩ | before
    · exact .inl own
    · refine .inr ((valid.mem_held_iff other).2 ?_)
      rw [Std.HashMap.mem_iff_isSome_getElem?]
      exact Option.isSome_iff_exists.2 ⟨_, before⟩

/-- A new key goes to the end of the queue, and evicts nothing where there is room for it. -/
theorem Valid.put_of_room (valid : c.Valid) (absent : key ∉ c.held)
    (room : c.limit.Admits (c.size + 1)) (value : α) :
    (c.put key value).order = c.order ++ [key] ∧
      (c.put key value).counters.evictions = c.counters.evictions := by
  obtain ⟨queue, inStep⟩ := valid.exists_inStep
  have size : c.size = queue.length := inStep.size_eq
  have new : key ∉ EntryQueue.keys queue := by
    rw [← inStep.order_eq, ← List.mem_toFinset]
    exact absent
  cases limit : c.limit with
  | unbounded =>
    rw [inStep.put_new_unbounded limit value new]
    exact ⟨rfl, rfl⟩
  | items capacity =>
    rw [limit, CacheLimit.Admits] at room
    obtain ⟨count, rfl⟩ : ∃ count, capacity = count + 1 := ⟨capacity - 1, by omega⟩
    obtain ⟨left, counted, -⟩ := inStep.evictBelow limit
    have none : queue.length - count = 0 := by omega
    rw [none, List.drop_zero] at left
    rw [none, Nat.add_zero] at counted
    rw [inStep.put_new_items limit value new]
    refine ⟨?_, counted⟩
    change (c.evictBelow (count + 1)).order ++ [key] = c.order ++ [key]
    rw [left.order_eq, inStep.order_eq]

/-- With room for its key, a lookup leaves all keys in the cache. -/
theorem Valid.supply_of_room (valid : c.Valid) {entry : TemplateKey × α}
    (room : c.limit.Admits (insert entry.1 c.held).card) :
    (c.supply entry).held = insert entry.1 c.held ∧
      (c.supply entry).counters.evictions = c.counters.evictions := by
  obtain ⟨key, built⟩ := entry
  by_cases present : key ∈ c.held
  · rw [valid.supply_of_mem present, Finset.insert_eq_of_mem present]
    exact ⟨rfl, rfl⟩
  · rw [Finset.card_insert_of_notMem present, valid.card_held] at room
    have absent : key ∉ (c.countLookup false).held := present
    obtain ⟨order, evictions⟩ := (valid.countLookup false).put_of_room absent room built
    rw [valid.supply_of_not_mem present, held, order, evictions]
    refine ⟨?_, rfl⟩
    change (c.order ++ [key]).toFinset = insert key c.order.toFinset
    rw [List.toFinset_append, List.toFinset_cons, List.toFinset_nil, Finset.union_comm]
    rfl

/-! ## Lookups in a row -/

/-- Of the keys that are asked for, the first one is missing or not, and so are the others once it
has come in. -/
theorem card_insert_sdiff (first : TemplateKey) (later known : Finset TemplateKey) :
    (insert first later \ known).card =
      (if first ∈ known then 0 else 1) + (later \ insert first known).card := by
  by_cases present : first ∈ known
  · rw [if_pos present, Finset.insert_sdiff_of_mem later present, Finset.insert_eq_of_mem present,
      Nat.zero_add]
  · rw [if_neg present, Finset.insert_sdiff_of_notMem later present, Finset.sdiff_insert,
      ← Finset.erase_insert_eq_erase, Nat.add_comm,
      Finset.card_erase_add_one (Finset.mem_insert_self first _)]

/-- The keys of a list of lookups. -/
def askedFor (entries : List (TemplateKey × α)) : Finset TemplateKey :=
  (entries.map Prod.fst).toFinset

theorem askedFor_nil : askedFor ([] : List (TemplateKey × α)) = ∅ := rfl

theorem askedFor_cons (entry : TemplateKey × α) (later : List (TemplateKey × α)) :
    askedFor (entry :: later) = insert entry.1 (askedFor later) := by
  rw [askedFor, List.map_cons, List.toFinset_cons, askedFor]

theorem lookups_supplyAll (valid : c.Valid) (entries : List (TemplateKey × α)) :
    (c.supplyAll entries).lookups = c.lookups + entries.length := by
  induction entries generalizing c with
  | nil => rfl
  | cons entry later ih =>
    rw [supplyAll_cons, ih (valid.supply entry), valid.lookups_supply, List.length_cons]
    omega

/-- Every key that is not in the cache to begin with is missed at least once. -/
theorem missing_le_misses_supplyAll (valid : c.Valid) (entries : List (TemplateKey × α)) :
    c.counters.misses + (askedFor entries \ c.held).card ≤
      (c.supplyAll entries).counters.misses := by
  induction entries generalizing c with
  | nil =>
    rw [askedFor_nil, Finset.empty_sdiff, Finset.card_empty]
    exact Nat.le_refl _
  | cons entry later ih =>
    have rest := ih (valid.supply entry)
    have here := valid.misses_supply entry
    -- What the lookup evicts is missing again, which can only make more misses.
    have fewer : (askedFor later \ insert entry.1 c.held).card ≤
        (askedFor later \ (c.supply entry).held).card :=
      Finset.card_le_card (Finset.sdiff_subset_sdiff (Finset.Subset.refl _)
        (valid.held_supply_subset entry))
    rw [supplyAll_cons, askedFor_cons, card_insert_sdiff]
    omega

/-- With room for all keys, each that is not in the cache to begin with is missed just once, and
nothing is evicted. -/
theorem supplyAll_of_room (valid : c.Valid) {entries : List (TemplateKey × α)}
    (room : c.limit.Admits (askedFor entries ∪ c.held).card) :
    (c.supplyAll entries).counters.misses =
        c.counters.misses + (askedFor entries \ c.held).card ∧
      (c.supplyAll entries).counters.evictions = c.counters.evictions ∧
      (c.supplyAll entries).size = (askedFor entries ∪ c.held).card := by
  induction entries generalizing c with
  | nil =>
    rw [askedFor_nil, Finset.empty_sdiff, Finset.card_empty, Finset.empty_union, valid.card_held]
    exact ⟨rfl, rfl, rfl⟩
  | cons entry later ih =>
    have united : askedFor (entry :: later) ∪ c.held = askedFor later ∪ insert entry.1 c.held := by
      rw [askedFor_cons, Finset.insert_union, Finset.union_insert]
    rw [united] at room ⊢
    have roomHere : c.limit.Admits (insert entry.1 c.held).card :=
      room.mono (Finset.card_le_card Finset.subset_union_right)
    obtain ⟨held, evictions⟩ := valid.supply_of_room roomHere
    rw [← held, ← limit_supply c entry] at room
    obtain ⟨misses, evictionsLater, size⟩ := ih (valid.supply entry) room
    rw [held] at misses size
    rw [supplyAll_cons, askedFor_cons, card_insert_sdiff, misses, valid.misses_supply]
    exact ⟨Nat.add_assoc _ _ _, evictionsLater.trans evictions, size⟩

/-- A cache that is switched off misses every time. -/
theorem misses_supplyAll_of_disabled (valid : c.Valid) (disabled : c.limit = .items 0)
    (entries : List (TemplateKey × α)) :
    (c.supplyAll entries).counters.misses = c.counters.misses + entries.length := by
  induction entries generalizing c with
  | nil => rfl
  | cons entry later ih =>
    have nothing : c.held = ∅ := by
      rw [← Finset.card_eq_zero, valid.card_held]
      exact Nat.le_zero.1 (valid.within 0 disabled)
    have rest := ih (valid.supply entry) ((limit_supply c entry).trans disabled)
    rw [supplyAll_cons, rest, valid.misses_supply, nothing, if_neg (Finset.notMem_empty _),
      List.length_cons]
    omega

/-! ## From the empty cache -/

section New

variable (limit : CacheLimit) (entries : List (TemplateKey × α))

theorem lookups_supplyAll_empty :
    ((empty limit).supplyAll entries).counters.hits +
      ((empty limit).supplyAll entries).counters.misses = entries.length :=
  (lookups_supplyAll (Valid.empty limit) entries).trans (Nat.zero_add _)

theorem card_le_misses_supplyAll_empty :
    (askedFor entries).card ≤ ((empty limit).supplyAll entries).counters.misses := by
  have missed := missing_le_misses_supplyAll (Valid.empty limit) entries
  rw [held_empty, Finset.sdiff_empty] at missed
  exact (Nat.le_add_left _ _).trans missed

variable {limit entries} in
/-- What a cache with room for all keys counts and holds does not depend on its limit. -/
theorem supplyAll_empty_of_room (room : limit.Admits (askedFor entries).card) :
    ((empty limit).supplyAll entries).counters =
        ⟨entries.length - (askedFor entries).card, (askedFor entries).card, 0⟩ ∧
      ((empty limit).supplyAll entries).size = (askedFor entries).card := by
  have start : (empty limit : Cache α).Valid := Valid.empty limit
  have united : askedFor entries ∪ (empty limit : Cache α).held = askedFor entries :=
    Finset.union_empty _
  have apart : askedFor entries \ (empty limit : Cache α).held = askedFor entries :=
    Finset.sdiff_empty
  obtain ⟨misses, evictions, size⟩ := supplyAll_of_room start (united.symm ▸ room)
  have lookups := lookups_supplyAll_empty limit entries
  rw [united] at size
  rw [apart] at misses
  refine ⟨?_, size⟩
  generalize ((empty limit).supplyAll entries).counters = counters at misses evictions lookups ⊢
  obtain ⟨hits, _, _⟩ := counters
  change _ = 0 + _ at misses
  change _ = 0 at evictions
  rw [CacheCounters.mk.injEq]
  dsimp only at misses lookups evictions
  omega

end New

end Cache

namespace Handler

/-- The lookups that requests for the variants of templates make. -/
def lookupsOf (delimiter : String) (templates : List String) : List (TemplateKey × VariantSet) :=
  templates.map fun template => (.ofTemplate template, .ofTemplate template delimiter)

theorem askedFor_lookupsOf (delimiter : String) (templates : List String) :
    Cache.askedFor (lookupsOf delimiter templates) =
      (templates.map TemplateKey.ofTemplate).toFinset := by
  rw [Cache.askedFor, lookupsOf, List.map_map]
  rfl

theorem cache_run_variants (h : Handler) (templates : List String) :
    (h.run (templates.map .variants)).2.cache =
      h.cache.supplyAll (lookupsOf h.delimiter templates) := by
  induction templates generalizing h with
  | nil => rfl
  | cons template rest ih => exact ih (h.variants template).2

/-- Runs of requests for variants on new handlers that differ in the limit of their cache only.
Without a limit there is a miss for each digest, and with a limit of no items one for each request.
Any other limit lies between the two, and one that is not below the number of digests makes no
difference: the counters and the size are those without a limit, and nothing is evicted. -/
theorem limit_determines_misses (trigger delimiter : String) (registry : Registry)
    (templates : List String) :
    let after : CacheLimit → Cache VariantSet := fun limit =>
      ((fresh trigger delimiter registry limit).run (templates.map .variants)).2.cache
    let digests : Finset TemplateKey := (templates.map TemplateKey.ofTemplate).toFinset
    (after .unbounded).counters.misses = digests.card ∧
    (after (.items 0)).counters.misses = templates.length ∧
    (∀ count, digests.card ≤ (after (.items count)).counters.misses ∧
      (after (.items count)).counters.misses ≤ templates.length) ∧
    ∀ count, digests.card ≤ count →
      (after (.items count)).counters = (after .unbounded).counters ∧
      (after (.items count)).size = (after .unbounded).size ∧
      (after (.items count)).counters.evictions = 0 := by
  intro after digests
  let lookups := lookupsOf delimiter templates
  have asked : Cache.askedFor lookups = digests := askedFor_lookupsOf delimiter templates
  have length : lookups.length = templates.length := List.length_map _
  have supplied : ∀ limit, after limit = (Cache.empty limit).supplyAll lookups :=
    fun limit => cache_run_variants (fresh trigger delimiter registry limit) templates
  have roomy : ∀ limit : CacheLimit, limit.Admits digests.card →
      (after limit).counters = ⟨templates.length - digests.card, digests.card, 0⟩ ∧
        (after limit).size = digests.card := by
    intro limit room
    rw [supplied, ← asked, ← length]
    exact Cache.supplyAll_empty_of_room (asked.symm ▸ room)
  obtain ⟨unbounded, unboundedSize⟩ := roomy .unbounded trivial
  refine ⟨by rw [unbounded], ?_, fun count => ⟨?_, ?_⟩, fun count room => ?_⟩
  · rw [supplied, ← length]
    exact (Cache.misses_supplyAll_of_disabled (Cache.Valid.empty _) rfl lookups).trans
      (Nat.zero_add _)
  · rw [supplied, ← asked]
    exact Cache.card_le_misses_supplyAll_empty _ _
  · have counted := Cache.lookups_supplyAll_empty (.items count) lookups
    rw [supplied, ← length]
    omega
  · obtain ⟨counters, size⟩ := roomy (.items count) room
    exact ⟨counters.trans unbounded.symm, size.trans unboundedSize.symm, by rw [counters]⟩

/-- Three requests for two templates are two misses with room for two, and three without a cache. -/
theorem limit_determines_misses_two_templates :
    let after : CacheLimit → Cache VariantSet := fun limit =>
      ((fresh defaultTrigger defaultDelimiter .standard limit).run
        (["a|b", "c", "a|b"].map .variants)).2.cache
    (["a|b", "c", "a|b"].map TemplateKey.ofTemplate).toFinset.card ≤ 2 ∧
      (after (.items 2)).counters = (after .unbounded).counters ∧
      (after .unbounded).counters.misses = 2 ∧ (after (.items 0)).counters.misses = 3 := by
  intro after
  have two : (["a|b", "c", "a|b"].map TemplateKey.ofTemplate).toFinset.card = 2 := by
    decide +kernel
  obtain ⟨unbounded, disabled, -, roomy⟩ := limit_determines_misses defaultTrigger
    defaultDelimiter .standard ["a|b", "c", "a|b"]
  exact ⟨two.le, (roomy 2 two.le).1, unbounded.trans two, disabled⟩

end Handler

end PluralTemplate
