import PluralTemplate.Proofs.Cache.QueueRefinement

/-!
# Sessions with a cache

A session uses a cache, one operation after another, and ends with a value. Each answer may decide
what is done next, and what is built on a miss is the value of a session of its own, so building
may use the same cache in any way.

Nested as it is, a session touches the cache in a row of single accesses (`run_eq_replay`). A
lookup that builds on a miss is two of them, with all that building does in between: the key is
looked up, and later the built value is settled, which puts it unless the key is present by then.
What every access preserves, such as validity, therefore holds at every moment of every session.
-/

set_option autoImplicit false

namespace PluralTemplate.Cache

open EntryQueue (keys)

variable {α : Type}

/-! ## Validity -/

/-- The queue has just the keys of the map, each once, and there are no more than the limit
allows. -/
structure Valid (c : Cache α) : Prop where
  distinct : c.order.Nodup
  mem_order_iff : ∀ key, key ∈ c.order ↔ key ∈ c.entries
  within : ∀ count, c.limit = .items count → c.size ≤ count

/-- Keys that are all present are the keys of a queue of entries. -/
theorem exists_queue {entries : Std.HashMap TemplateKey α} {order : List TemplateKey}
    (present : ∀ key ∈ order, key ∈ entries) :
    ∃ queue : EntryQueue α, keys queue = order ∧
      ∀ key ∈ order, List.lookup key queue = entries[key]? := by
  induction order with
  | nil => exact ⟨[], rfl, by simp⟩
  | cons first rest ih =>
    have here : first ∈ entries := present first List.mem_cons_self
    obtain ⟨queue, rfl, found⟩ :=
      ih fun key member => present key (List.mem_cons_of_mem first member)
    refine ⟨(first, entries[first]) :: queue, rfl, fun key member => ?_⟩
    rw [EntryQueue.lookup_cons]
    by_cases same : key = first
    · rw [if_pos same, same, Std.HashMap.getElem?_eq_some_getElem here]
    · rw [if_neg same]
      exact found key (List.mem_of_ne_of_mem same member)

theorem InStep.valid {c : Cache α} {queue : EntryQueue α} (inStep : InStep c queue) :
    c.Valid where
  distinct := inStep.distinct
  mem_order_iff key := by
    rw [inStep.order_eq, ← inStep.contains_iff, Std.HashMap.contains_iff_mem]
  within count items := by
    rw [inStep.size_eq_length]
    exact inStep.within count items

namespace Valid

variable {c : Cache α}

theorem size_eq (valid : c.Valid) : c.size = c.order.length := by
  have same : c.entries.keys.Perm c.order := by
    refine (List.perm_ext_iff_of_nodup Std.HashMap.nodup_keys valid.distinct).2 fun key => ?_
    rw [Std.HashMap.mem_keys, valid.mem_order_iff]
  rw [← same.length_eq, Std.HashMap.length_keys]
  rfl

/-- A valid cache is in step with the queue of its entries. -/
theorem exists_inStep (valid : c.Valid) : ∃ queue, InStep c queue := by
  obtain ⟨queue, order, found⟩ := exists_queue fun key => (valid.mem_order_iff key).1
  have length : c.size = queue.length := by
    rw [valid.size_eq, ← order, keys, List.length_map]
  refine ⟨queue, ⟨order.symm, valid.distinct, fun key => ?_, length⟩, fun count items => ?_⟩
  · by_cases member : key ∈ c.order
    · exact (found key member).symm
    · have absent : key ∉ keys queue := order ▸ member
      rw [(EntryQueue.lookup_eq_none key queue).2 absent, Std.HashMap.getElem?_eq_none]
      exact mt (valid.mem_order_iff key).2 member
  · rw [← length]
    exact valid.within count items

theorem empty (limit : CacheLimit) : (Cache.empty limit : Cache α).Valid :=
  (inStep_empty limit).valid

theorem clear (c : Cache α) : c.clear.Valid := (inStep_clear c).valid

theorem countLookup (valid : c.Valid) (found : Bool) : (c.countLookup found).Valid :=
  ⟨valid.distinct, valid.mem_order_iff, valid.within⟩

theorem put (valid : c.Valid) (key : TemplateKey) (value : α) : (c.put key value).Valid := by
  obtain ⟨_, inStep⟩ := valid.exists_inStep
  exact (inStep.put key value).valid

end Valid

/-! ## Accesses -/

/-- What happens to a cache at a time. -/
inductive Access (α : Type) where
  | get (key : TemplateKey)
  /-- Look a key up, to build a value should it be absent. -/
  | enter (key : TemplateKey)
  /-- A value for a key that was absent has been built. -/
  | settle (key : TemplateKey) (built : α)
  | put (key : TemplateKey) (value : α)
  | clear
  deriving DecidableEq, Repr

/-- After building, an entry that the key has by now is the answer, and the built value is put
otherwise. -/
def settle (c : Cache α) (key : TemplateKey) (built : α) : α × Cache α :=
  match c.entries[key]? with
  | some existing => (existing, c)
  | none => (built, c.put key built)

def access (c : Cache α) : Access α → Cache α
  | .get key => (c.get key).2
  | .enter key => (c.get key).2
  | .settle key built => (c.settle key built).2
  | .put key value => c.put key value
  | .clear => c.clear

/-- The cache after a list of accesses. -/
def replay (c : Cache α) (made : List (Access α)) : Cache α := made.foldl access c

theorem get_of_present {c : Cache α} {key : TemplateKey} {value : α}
    (held : c.entries[key]? = some value) : c.get key = (some value, c.countLookup true) := by
  simp [get, held]

theorem get_of_absent {c : Cache α} {key : TemplateKey} (absent : c.entries[key]? = none) :
    c.get key = (none, c.countLookup false) := by
  simp [get, absent]

/-- A miss settles what was built. -/
theorem getOrInsertWith_miss_eq_settle {c : Cache α} {key : TemplateKey}
    (absent : c.entries[key]? = none) (build : Cache α → α × Cache α) :
    c.getOrInsertWith key build =
      (build (c.countLookup false)).2.settle key (build (c.countLookup false)).1 :=
  getOrInsertWith_miss absent build

theorem settle_of_present {c : Cache α} {key : TemplateKey} {existing : α}
    (present : c.entries[key]? = some existing) (built : α) :
    c.settle key built = (existing, c) := by
  rw [settle, present]

theorem settle_of_absent {c : Cache α} {key : TemplateKey} (absent : c.entries[key]? = none)
    (built : α) : c.settle key built = (built, c.put key built) := by
  rw [settle, absent]

/-- An access changes no limit, and leaves a valid cache. -/
theorem limit_access (c : Cache α) (made : Access α) : (c.access made).limit = c.limit := by
  cases made with
  | settle key built =>
    cases present : c.entries[key]? with
    | some existing => rw [access, settle_of_present present]
    | none => rw [access, settle_of_absent present, limit_put]
  | put key value => exact limit_put c key value
  | get | enter | clear => rfl

theorem Valid.access {c : Cache α} (valid : c.Valid) (made : Access α) : (c.access made).Valid := by
  cases made with
  | get key => exact valid.countLookup _
  | enter key => exact valid.countLookup _
  | put key value => exact valid.put key value
  | clear => exact Valid.clear c
  | settle key built =>
    cases present : c.entries[key]? with
    | some existing =>
      rw [Cache.access, settle_of_present present]
      exact valid
    | none =>
      rw [Cache.access, settle_of_absent present]
      exact valid.put key built

theorem replay_cons (c : Cache α) (first : Access α) (later : List (Access α)) :
    c.replay (first :: later) = (c.access first).replay later := rfl

theorem replay_append (c : Cache α) (first later : List (Access α)) :
    c.replay (first ++ later) = (c.replay first).replay later := List.foldl_append

theorem limit_replay (c : Cache α) (made : List (Access α)) : (c.replay made).limit = c.limit := by
  induction made generalizing c with
  | nil => rfl
  | cons first later ih => exact (ih (c.access first)).trans (limit_access c first)

theorem Valid.replay {c : Cache α} (valid : c.Valid) (made : List (Access α)) :
    (c.replay made).Valid := by
  induction made generalizing c with
  | nil => exact valid
  | cons first later ih => exact ih (valid.access first)

/-! ## Sessions -/

/-- What is done with a cache, up to a value. -/
inductive Session (α : Type) where
  | finish (value : α)
  | get (key : TemplateKey) (next : Option α → Session α)
  | put (key : TemplateKey) (value : α) (next : Session α)
  /-- On a miss, `build` builds the value. -/
  | getOrInsert (key : TemplateKey) (build : Session α) (next : α → Session α)
  | clear (next : Session α)

namespace Session

def run : Session α → Cache α → α × Cache α
  | finish value, c => (value, c)
  | get key next, c =>
    let (found, c) := c.get key
    (next found).run c
  | put key value next, c => next.run (c.put key value)
  | getOrInsert key build next, c =>
    let (value, c) := c.getOrInsertWith key build.run
    (next value).run c
  | clear next, c => next.run c.clear

/-- The accesses that a session makes. Building makes some only where the key is absent. -/
def accesses : Session α → Cache α → List (Access α)
  | finish _, _ => []
  | get key next, c =>
    let (found, after) := c.get key
    .get key :: (next found).accesses after
  | put key value next, c => .put key value :: next.accesses (c.put key value)
  | getOrInsert key build next, c =>
    let (value, after) := c.getOrInsertWith key build.run
    let building :=
      if (c.get key).1.isSome then []
      else build.accesses (c.get key).2 ++ [.settle key (build.run (c.get key).2).1]
    .enter key :: (building ++ (next value).accesses after)
  | clear next, c => .clear :: next.accesses c.clear

/-- The cache after a session is the one after its accesses. -/
theorem run_eq_replay (session : Session α) (c : Cache α) :
    (session.run c).2 = c.replay (session.accesses c) := by
  induction session generalizing c with
  | finish value => rfl
  | get key next ih => exact ih _ _
  | put key value next ih => exact ih _
  | clear next ih => exact ih _
  | getOrInsert key build next buildIH nextIH =>
    rw [run, accesses, replay_cons, access]
    cases held : c.entries[key]? with
    | some value =>
      rw [getOrInsertWith_hit held, get_of_present held]
      exact nextIH value (c.countLookup true)
    | none =>
      rw [getOrInsertWith_miss_eq_settle held, get_of_absent held]
      generalize c.countLookup false = missed
      have settled : missed.replay (build.accesses missed ++ [.settle key (build.run missed).1]) =
          ((build.run missed).2.settle key (build.run missed).1).2 := by
        rw [replay_append, ← buildIH]
        rfl
      rw [nextIH, ← settled, ← replay_append]
      rfl

theorem valid_run {c : Cache α} (valid : c.Valid) (session : Session α) :
    (session.run c).2.Valid := by
  rw [run_eq_replay]
  exact valid.replay _

theorem limit_run (session : Session α) (c : Cache α) : (session.run c).2.limit = c.limit := by
  rw [run_eq_replay, limit_replay]

end Session

/-! ## Lookups that build -/

/-- Unless the cache is switched off, it holds afterwards what was answered. -/
theorem lookup_getOrInsertWith {c : Cache α} {key : TemplateKey} {build : Cache α → α × Cache α}
    (enabled : (c.getOrInsertWith key build).2.limit ≠ .items 0) :
    (c.getOrInsertWith key build).2.entries[key]? = some (c.getOrInsertWith key build).1 := by
  cases held : c.entries[key]? with
  | some value =>
    rw [getOrInsertWith_hit held]
    exact held
  | none =>
    rw [getOrInsertWith_miss_eq_settle held] at enabled ⊢
    generalize (build (c.countLookup false)).2 = later at enabled ⊢
    cases present : later.entries[key]? with
    | some existing =>
      rw [settle_of_present present]
      exact present
    | none =>
      rw [settle_of_absent present] at enabled ⊢
      rw [limit_put] at enabled
      exact lookup_put_self enabled key _

/-- On a hit the held value is the answer, whatever was to be built, and nothing but the count of
hits changes. On a miss one is counted and building uses the cache. An entry that the key has then
is the answer and the cache is left as it is; otherwise the built value is put and is the answer.
The cache is valid in every case, and unless it is switched off the next lookup finds the value
that was answered. -/
theorem getOrInsertWith_reentrant {c : Cache α} (valid : c.Valid) (key : TemplateKey)
    (build : Session α) :
    let outcome := c.getOrInsertWith key build.run
    let building := build.run { c with counters.misses := c.counters.misses + 1 }
    (∀ value, c.entries[key]? = some value →
      ∀ other, c.getOrInsertWith key other =
        (value, { c with counters.hits := c.counters.hits + 1 })) ∧
    (c.entries[key]? = none →
      (∀ existing, building.2.entries[key]? = some existing → outcome = (existing, building.2)) ∧
      (building.2.entries[key]? = none →
        outcome = (building.1, building.2.put key building.1))) ∧
    outcome.2.Valid ∧ outcome.2.limit = c.limit ∧
    (c.limit ≠ .items 0 → (outcome.2.get key).1 = some outcome.1) := by
  intro outcome building
  have stays : outcome.2.Valid := Session.valid_run valid (.getOrInsert key build .finish)
  have limit : outcome.2.limit = c.limit :=
    Session.limit_run (.getOrInsert key build .finish) c
  refine ⟨fun value held other => getOrInsertWith_hit held other, fun absent => ?_, stays, limit,
    fun enabled => lookup_getOrInsertWith (limit.symm ▸ enabled)⟩
  have settled : outcome = building.2.settle key building.1 :=
    getOrInsertWith_miss_eq_settle absent build.run
  refine ⟨fun existing present => ?_, fun missing => ?_⟩
  · rw [settled, settle_of_present present]
  · rw [settled, settle_of_absent missing]

/-- A rival that building puts, but that another entry evicts again, is not the answer. -/
theorem getOrInsertWith_reentrant_evicted :
    let start : Cache Nat := empty (.items 1)
    let build : Session Nat := .put ⟨1⟩ 10 (.put ⟨2⟩ 20 (.finish 30))
    let outcome := start.getOrInsertWith ⟨1⟩ build.run
    start.Valid ∧ outcome.1 = 30 ∧ (outcome.2.get ⟨1⟩).1 = some 30 := by
  intro start build outcome
  have valid : start.Valid := Valid.empty _
  obtain ⟨-, missed, -, -, held⟩ := getOrInsertWith_reentrant valid ⟨1⟩ build
  have evicted : (build.run (start.countLookup false)).2.entries[(⟨1⟩ : TemplateKey)]? = none := by
    simp [build, start, Session.run, empty, countLookup, put, evictBelow, dropOldest, append,
      Std.HashMap.size_insert]
  have answer : outcome.1 = 30 :=
    congrArg Prod.fst ((missed Std.HashMap.getElem?_empty).2 evicted)
  exact ⟨valid, answer, (held (by decide)).trans (congrArg some answer)⟩

end PluralTemplate.Cache
