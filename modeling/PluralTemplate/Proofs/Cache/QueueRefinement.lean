import PluralTemplate.Proofs.Cache.Operations
import PluralTemplate.Proofs.Cache.Queue

/-!
# The cache and its queue stay in step

`InStep` relates a cache to the queue of its entries. Every operation keeps it and answers as
the queue does (`step_inStep`), so every run does (`run_inStep`). The eviction loop is taken
care of once, in `Mirrors.dropOldest`: it leaves exactly the queue without its oldest entries,
as many as are too many.

The last theorem collects what a run from the empty cache guarantees. That the eviction loop
ends below its capacity says that it never stops for want of keys.
-/

set_option autoImplicit false

namespace PluralTemplate.Cache

open EntryQueue (keys)

variable {α : Type}

/-- The queue of keys and the map together hold just the entries of a queue. -/
structure Mirrors (order : List TemplateKey) (entries : Std.HashMap TemplateKey α)
    (queue : EntryQueue α) : Prop where
  order_eq : order = keys queue
  distinct : order.Nodup
  lookup_eq : ∀ key, entries[key]? = List.lookup key queue
  size_eq : entries.size = queue.length

structure InStep (c : Cache α) (queue : EntryQueue α) : Prop
    extends Mirrors c.order c.entries queue where
  within : ∀ count, c.limit = .items count → queue.length ≤ count

/-- A new key went to the end of the queue, for which at most the oldest one left. -/
def InsertedAtEnd (before : Cache α) (key : TemplateKey) (after : Cache α) : Prop :=
  ∃ evicted kept, before.order = evicted ++ kept ∧ after.order = kept ++ [key] ∧
    evicted.length ≤ 1 ∧
    after.counters.evictions = before.counters.evictions + evicted.length ∧
    ∀ oldest ∈ evicted, after.entries[oldest]? = none

namespace Mirrors

variable {order : List TemplateKey} {entries : Std.HashMap TemplateKey α} {queue : EntryQueue α}

theorem contains_iff (mirrors : Mirrors order entries queue) (key : TemplateKey) :
    entries.contains key = true ↔ key ∈ keys queue := by
  rw [Std.HashMap.contains_eq_isSome_getElem?, mirrors.lookup_eq, Option.isSome_iff_ne_none,
    Ne, EntryQueue.lookup_eq_none, Decidable.not_not]

theorem not_mem (mirrors : Mirrors order entries queue) {key : TemplateKey}
    (absent : key ∉ keys queue) : key ∉ entries := by
  rw [← Std.HashMap.contains_iff_mem, mirrors.contains_iff]
  exact absent

theorem nil : Mirrors [] (∅ : Std.HashMap TemplateKey α) [] :=
  ⟨rfl, List.nodup_nil, fun _ => Std.HashMap.getElem?_empty, Std.HashMap.size_empty⟩

/-- Taking the oldest key off erases its entry and no other. -/
theorem tail {entry : TemplateKey × α} {rest : EntryQueue α}
    (mirrors : Mirrors order entries (entry :: rest)) :
    Mirrors (keys rest) (entries.erase entry.1) rest := by
  have distinct : (entry.1 :: keys rest).Nodup := by
    simpa [mirrors.order_eq, keys] using mirrors.distinct
  obtain ⟨absent, distinct⟩ := List.nodup_cons.1 distinct
  have present : entry.1 ∈ entries := by
    rw [← Std.HashMap.contains_iff_mem, mirrors.contains_iff]
    simp [keys]
  refine ⟨rfl, distinct, fun key => ?_, ?_⟩
  · rw [Std.HashMap.getElem?_erase, mirrors.lookup_eq, EntryQueue.lookup_cons]
    by_cases same : key = entry.1
    · simpa [same] using ((EntryQueue.lookup_eq_none _ _).2 absent).symm
    · simp [same, Ne.symm same]
  · rw [Std.HashMap.size_erase, if_pos present, mirrors.size_eq]
    rfl

theorem append (mirrors : Mirrors order entries queue) {key : TemplateKey} (value : α)
    (absent : key ∉ keys queue) :
    Mirrors (order ++ [key]) (entries.insert key value) (queue ++ [(key, value)]) := by
  refine ⟨by simp [mirrors.order_eq, keys], ?_, fun other => ?_, ?_⟩
  · rw [List.nodup_append]
    refine ⟨mirrors.distinct, by simp, ?_⟩
    rintro old member new isNew rfl
    rw [mirrors.order_eq] at member
    exact absent (List.mem_singleton.1 isNew ▸ member)
  · rw [Std.HashMap.getElem?_insert, mirrors.lookup_eq, List.lookup_append,
      EntryQueue.lookup_cons]
    by_cases same : key = other
    · subst same
      simp [(EntryQueue.lookup_eq_none _ _).2 absent]
    · simp [same, Ne.symm same]
  · rw [Std.HashMap.size_insert, if_neg (mirrors.not_mem absent), mirrors.size_eq]
    simp

theorem replace (mirrors : Mirrors order entries queue) {key : TemplateKey} (value : α)
    (present : key ∈ keys queue) :
    Mirrors order (entries.insert key value) (EntryQueue.replace key value queue) := by
  have member : key ∈ entries := by
    rw [← Std.HashMap.contains_iff_mem, mirrors.contains_iff]
    exact present
  refine ⟨by simp [mirrors.order_eq], mirrors.distinct, fun other => ?_, ?_⟩
  · rw [Std.HashMap.getElem?_insert, mirrors.lookup_eq, EntryQueue.lookup_replace _ _ _ _ present]
    by_cases same : key = other
    · simp [same]
    · simp [same, Ne.symm same]
  · rw [Std.HashMap.size_insert, if_pos member, mirrors.size_eq, EntryQueue.length_replace]

/-- The eviction loop leaves the queue without the oldest entries that are too many, and
counts those it took. -/
theorem dropOldest (mirrors : Mirrors order entries queue) (capacity : Nat) :
    let left := Cache.dropOldest capacity order entries
    let excess := queue.length + 1 - capacity
    Mirrors left.1 left.2.1 (queue.drop excess) ∧ left.2.2 = min excess queue.length := by
  induction queue generalizing order entries with
  | nil =>
    obtain rfl : order = [] := mirrors.order_eq
    simpa [Cache.dropOldest] using mirrors
  | cons entry rest ih =>
    obtain ⟨left, counted⟩ := ih mirrors.tail
    have size : entries.size = rest.length + 1 := mirrors.size_eq
    obtain rfl : order = entry.1 :: keys rest := mirrors.order_eq
    rw [Cache.dropOldest, size]
    by_cases full : capacity ≤ rest.length + 1
    · have excess : (entry :: rest).length + 1 - capacity = rest.length + 1 - capacity + 1 := by
        simp only [List.length_cons]
        omega
      simp only [if_pos full, excess, List.drop_succ_cons]
      refine ⟨left, ?_⟩
      rw [counted, List.length_cons]
      omega
    · have excess : (entry :: rest).length + 1 - capacity = 0 := by
        simp only [List.length_cons]
        omega
      simp only [if_neg full, excess, List.drop_zero, Nat.zero_min, and_true]
      exact mirrors

end Mirrors

theorem inStep_empty (limit : CacheLimit) : InStep (empty limit : Cache α) [] :=
  ⟨Mirrors.nil, fun count _ => Nat.zero_le count⟩

theorem inStep_clear (c : Cache α) : InStep c.clear [] :=
  ⟨Mirrors.nil, fun count _ => Nat.zero_le count⟩

namespace InStep

variable {c : Cache α} {queue : EntryQueue α}

theorem countLookup (inStep : InStep c queue) (found : Bool) :
    InStep (c.countLookup found) queue :=
  ⟨inStep.toMirrors, inStep.within⟩

theorem size_eq_length (inStep : InStep c queue) : c.size = queue.length := inStep.size_eq

theorem isEmpty_eq (inStep : InStep c queue) : c.isEmpty = queue.isEmpty := by
  rw [isEmpty, inStep.size_eq_length]
  cases queue <;> rfl

/-- After making room, the queue is short by one and the loop has ended by its own condition. -/
theorem evictBelow (inStep : InStep c queue) {count : Nat} (limit : c.limit = .items (count + 1)) :
    Mirrors (c.evictBelow (count + 1)).order (c.evictBelow (count + 1)).entries
      (queue.drop (queue.length - count)) ∧
    (c.evictBelow (count + 1)).counters.evictions =
      c.counters.evictions + (queue.length - count) ∧
    (c.evictBelow (count + 1)).size < count + 1 := by
  have loop := inStep.dropOldest (count + 1)
  simp only [Nat.add_sub_add_right] at loop
  obtain ⟨left, counted⟩ := loop
  have bound := inStep.within _ limit
  refine ⟨left, ?_, ?_⟩
  · change c.counters.evictions + _ = _
    rw [counted]
    omega
  · have size : (c.evictBelow (count + 1)).size = _ := left.size_eq
    rw [size, List.length_drop]
    omega

/-- A new key under a limit: what the cache appends is what the queue keeps when trimmed. -/
theorem put_new_items (inStep : InStep c queue) {count : Nat}
    (limit : c.limit = .items (count + 1)) {key : TemplateKey} (value : α)
    (absent : key ∉ keys queue) :
    c.put key value = (c.evictBelow (count + 1)).append key value := by
  have missing : c.entries.contains key = false := by
    rw [← Bool.not_eq_true, inStep.contains_iff]
    exact absent
  simp [put, limit, missing]

theorem put_new_unbounded (inStep : InStep c queue) (limit : c.limit = .unbounded)
    {key : TemplateKey} (value : α) (absent : key ∉ keys queue) :
    c.put key value = c.append key value := by
  have missing : c.entries.contains key = false := by
    rw [← Bool.not_eq_true, inStep.contains_iff]
    exact absent
  simp [put, limit, missing]

theorem put_present (inStep : InStep c queue) (enabled : c.limit ≠ .items 0)
    {key : TemplateKey} (value : α) (present : key ∈ keys queue) :
    c.put key value = { c with entries := c.entries.insert key value } := by
  have held : c.entries.contains key = true := (inStep.contains_iff key).2 present
  cases limit : c.limit with
  | unbounded => simp [put, limit, held]
  | items count =>
    cases count with
    | zero => exact absurd limit enabled
    | succ count => simp [put, limit, held]

theorem put (inStep : InStep c queue) (key : TemplateKey) (value : α) :
    InStep (c.put key value) (EntryQueue.put c.limit queue key value) := by
  by_cases enabled : c.limit = .items 0
  · simpa [Cache.put, EntryQueue.put, enabled] using inStep
  rw [EntryQueue.put, if_neg enabled]
  by_cases present : key ∈ keys queue
  · rw [if_pos present, inStep.put_present enabled value present]
    refine ⟨inStep.replace value present, fun count limit => ?_⟩
    rw [EntryQueue.length_replace]
    exact inStep.within count limit
  rw [if_neg present]
  cases limit : c.limit with
  | unbounded =>
    rw [inStep.put_new_unbounded limit value present]
    refine ⟨inStep.append value present, fun count items => ?_⟩
    cases limit.symm.trans items
  | items count =>
    obtain ⟨count, rfl⟩ : ∃ n, count = n + 1 :=
      Nat.exists_eq_succ_of_ne_zero fun zero => enabled (zero ▸ limit)
    rw [inStep.put_new_items limit value present, EntryQueue.trim_append]
    obtain ⟨left, -, -⟩ := inStep.evictBelow limit
    have absent : key ∉ keys (queue.drop (queue.length - count)) := fun member =>
      present (((List.drop_sublist _ queue).map Prod.fst).subset member)
    refine ⟨left.append value absent, fun bound items => ?_⟩
    cases limit.symm.trans items
    have within := inStep.within _ limit
    simp only [List.length_append, List.length_drop, List.length_singleton]
    omega

/-- Putting a new key takes at most the oldest one off. -/
theorem insertedAtEnd (inStep : InStep c queue) (enabled : c.limit ≠ .items 0)
    {key : TemplateKey} (value : α) (absent : c.entries[key]? = none) :
    InsertedAtEnd c key (c.put key value) := by
  have new : key ∉ keys queue := by
    rw [← EntryQueue.lookup_eq_none, ← inStep.lookup_eq]
    exact absent
  cases limit : c.limit with
  | unbounded =>
    rw [inStep.put_new_unbounded limit value new]
    exact ⟨[], c.order, rfl, rfl, Nat.zero_le 1, rfl, by simp⟩
  | items count =>
    obtain ⟨count, rfl⟩ : ∃ n, count = n + 1 :=
      Nat.exists_eq_succ_of_ne_zero fun zero => enabled (zero ▸ limit)
    have after := inStep.put key value
    rw [inStep.put_new_items limit value new] at after ⊢
    obtain ⟨left, counted, -⟩ := inStep.evictBelow limit
    have bound := inStep.within _ limit
    have split : c.order = keys (queue.take (queue.length - count)) ++
        (c.evictBelow (count + 1)).order := by
      rw [left.order_eq, inStep.order_eq, keys, keys, keys, ← List.map_append, List.take_append_drop]
    refine ⟨_, _, split, rfl, ?_, ?_, ?_⟩
    · simp only [keys, List.length_map, List.length_take]
      omega
    · simp only [keys, List.length_map, List.length_take]
      change (c.evictBelow (count + 1)).counters.evictions = _
      rw [counted]
      omega
    · intro oldest member
      rw [after.lookup_eq, EntryQueue.lookup_eq_none, ← after.order_eq]
      have distinct := split ▸ inStep.distinct
      intro remains
      rcases List.mem_append.1 remains with kept | isNew
      · exact (List.nodup_append.1 distinct).2.2 _ member _ kept rfl
      · apply new
        rw [← inStep.order_eq, split, ← List.mem_singleton.1 isNew]
        exact List.mem_append_left _ member

end InStep

/-- One operation: the cache answers as the queue does, and they stay in step. -/
theorem step_inStep {c : Cache α} {queue : EntryQueue α} (inStep : InStep c queue)
    (operation : Operation α) :
    (c.step operation).1 = (EntryQueue.step c.limit queue operation).1 ∧
    (c.step operation).2.limit = c.limit ∧
    InStep (c.step operation).2 (EntryQueue.step c.limit queue operation).2 := by
  cases operation with
  | get key =>
    refine ⟨?_, rfl, inStep.countLookup _⟩
    simp only [step, EntryQueue.step, get, inStep.lookup_eq]
  | put key value => exact ⟨rfl, limit_put c key value, inStep.put key value⟩
  | clear => exact ⟨rfl, rfl, inStep_clear c⟩
  | getOrInsert key built =>
    cases held : c.entries[key]? with
    | some value =>
      rw [step, getOrInsertWith_hit held, EntryQueue.step, ← inStep.lookup_eq, held]
      exact ⟨rfl, rfl, inStep.countLookup true⟩
    | none =>
      rw [step, getOrInsertWith_miss_pure held, EntryQueue.step, ← inStep.lookup_eq, held]
      exact ⟨rfl, limit_put _ key built, (inStep.countLookup false).put key built⟩

theorem run_inStep {c : Cache α} {queue : EntryQueue α} (inStep : InStep c queue)
    (operations : List (Operation α)) :
    (c.run operations).1 = (EntryQueue.run c.limit queue operations).1 ∧
    (c.run operations).2.limit = c.limit ∧
    InStep (c.run operations).2 (EntryQueue.run c.limit queue operations).2 := by
  induction operations generalizing c queue with
  | nil => exact ⟨rfl, rfl, inStep⟩
  | cons operation rest ih =>
    obtain ⟨answer, limit, next⟩ := step_inStep inStep operation
    obtain ⟨observations, final, last⟩ := ih next
    rw [limit] at observations final last
    refine ⟨?_, final, last⟩
    simp only [run, EntryQueue.run]
    rw [observations, answer, next.size_eq_length, next.isEmpty_eq]

/-- From the empty cache, every run answers as the queue of entries does and ends in step with
it, an insertion takes at most the oldest entry off, and the eviction loop ends below the
capacity it is given. -/
theorem run_refines_queue (limit : CacheLimit) (operations : List (Operation α)) :
    let (observations, c) := (empty limit : Cache α).run operations
    let (expected, queue) := EntryQueue.run limit [] operations
    observations = expected ∧ c.limit = limit ∧ InStep c queue ∧
    (∀ key value, limit ≠ .items 0 → c.entries[key]? = none →
      InsertedAtEnd c key (c.put key value) ∧
      InsertedAtEnd c key (c.getOrInsertWith key fun c => (value, c)).2) ∧
    ∀ count, limit = .items (count + 1) → (c.evictBelow (count + 1)).size < count + 1 := by
  obtain ⟨observations, final, inStep⟩ := run_inStep (inStep_empty (α := α) limit) operations
  refine ⟨observations, final, inStep, ?_, ?_⟩
  · intro key value enabled absent
    have allowed : ((empty limit : Cache α).run operations).2.limit ≠ .items 0 :=
      fun disabled => enabled (final.symm.trans disabled)
    refine ⟨inStep.insertedAtEnd allowed value absent, ?_⟩
    rw [getOrInsertWith_miss_pure absent]
    exact (inStep.countLookup false).insertedAtEnd allowed value absent
  · intro count items
    exact (inStep.evictBelow (final.trans items)).2.2

end PluralTemplate.Cache
