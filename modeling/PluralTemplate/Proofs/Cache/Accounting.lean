import PluralTemplate.Proofs.Cache.Session

/-!
# What the counters of a cache count

Every lookup is counted once, as one that found its key or as one that did not. Every entry that
was put under a new key is in the cache, or was evicted, or was removed with all others. Both are
equations that each access preserves (`lookups_access`, `balance_access`), so they hold at every
moment of a session, also while a value is built (`Session.counters_conserved`). Where a lookup
that builds loses its key to an entry put meanwhile, it has been counted, and puts nothing.
-/

set_option autoImplicit false

namespace PluralTemplate.Cache

variable {α : Type}

/-! ## What an access does -/

/-- Whether an access is a call that looks a key up. -/
def Access.looksUp : Access α → Bool
  | .get _ => true
  | .enter _ => true
  | .settle _ _ => false
  | .put _ _ => false
  | .clear => false

/-- An entry under a key that is absent, in a cache that is not switched off. -/
def insertedUnder (c : Cache α) (key : TemplateKey) : Nat :=
  if c.limit ≠ .items 0 ∧ key ∉ c.entries then 1 else 0

/-- How many entries an access puts under new keys. -/
def inserted (c : Cache α) : Access α → Nat
  | .settle key _ => c.insertedUnder key
  | .put key _ => c.insertedUnder key
  | .get _ => 0
  | .enter _ => 0
  | .clear => 0

/-- How many entries are removed because all are. -/
def removed (c : Cache α) : Access α → Nat
  | .clear => c.size
  | .get _ => 0
  | .enter _ => 0
  | .settle _ _ => 0
  | .put _ _ => 0

/-- What a list of accesses does altogether, each on the cache that it finds. -/
def total (amount : Cache α → Access α → Nat) : Cache α → List (Access α) → Nat
  | _, [] => 0
  | c, first :: later => amount c first + total amount (c.access first) later

/-! ## One access -/

theorem evictions_countLookup (c : Cache α) (found : Bool) :
    (c.countLookup found).counters.evictions = c.counters.evictions := by
  cases found <;> rfl

theorem lookups_access (c : Cache α) (made : Access α) :
    (c.access made).lookups = c.lookups + if made.looksUp then 1 else 0 := by
  cases made with
  | get key => exact lookups_countLookup c _
  | enter key => exact lookups_countLookup c _
  | put key value => exact lookups_put c key value
  | clear => rfl
  | settle key built =>
    cases present : c.entries[key]? with
    | some existing =>
      rw [access, settle_of_present present]
      rfl
    | none =>
      rw [access, settle_of_absent present]
      exact lookups_put c key built

/-- Putting either changes a value, or adds an entry for which others may be evicted. -/
theorem balance_put {c : Cache α} (valid : c.Valid) (key : TemplateKey) (value : α) :
    (c.put key value).size + (c.put key value).counters.evictions =
      c.size + c.counters.evictions + c.insertedUnder key := by
  by_cases disabled : c.limit = .items 0
  · rw [put_disabled disabled, insertedUnder, if_neg fun new => new.1 disabled, Nat.add_zero]
  obtain ⟨queue, inStep⟩ := valid.exists_inStep
  by_cases present : key ∈ c.entries
  · have queued : key ∈ EntryQueue.keys queue := by
      rw [← inStep.contains_iff, Std.HashMap.contains_iff_mem]
      exact present
    have same : (c.entries.insert key value).size = c.size := by
      rw [Std.HashMap.size_insert, if_pos present]
      rfl
    rw [inStep.put_present disabled value queued, insertedUnder, if_neg fun new => new.2 present,
      Nat.add_zero]
    exact congrArg (· + c.counters.evictions) same
  · have absent : c.entries[key]? = none := Std.HashMap.getElem?_eq_none present
    obtain ⟨evicted, kept, before, after, -, counted, -⟩ :=
      inStep.insertedAtEnd disabled value absent
    rw [(valid.put key value).size_eq, valid.size_eq, before, after, counted, insertedUnder,
      if_pos ⟨disabled, present⟩]
    simp only [List.length_append, List.length_singleton]
    omega

/-- Entries come in under new keys, and leave by eviction or with all others. -/
theorem balance_access {c : Cache α} (valid : c.Valid) (made : Access α) :
    (c.access made).size + (c.access made).counters.evictions + c.removed made =
      c.size + c.counters.evictions + c.inserted made := by
  cases made with
  | get key => exact congrArg (c.size + ·) (evictions_countLookup c _)
  | enter key => exact congrArg (c.size + ·) (evictions_countLookup c _)
  | put key value => exact balance_put valid key value
  | clear =>
    have none : c.clear.size = 0 := Std.HashMap.size_empty
    change c.clear.size + c.counters.evictions + c.size = c.size + c.counters.evictions
    omega
  | settle key built =>
    cases present : c.entries[key]? with
    | some existing =>
      have member : key ∈ c.entries := by
        rw [Std.HashMap.mem_iff_isSome_getElem?, present]
        rfl
      rw [access, settle_of_present present, inserted, insertedUnder,
        if_neg fun new => new.2 member]
      rfl
    | none =>
      rw [access, settle_of_absent present]
      exact balance_put valid key built

/-- Without a limit, and in a cache that is switched off, nothing is ever evicted. -/
def NeverEvicts (limit : CacheLimit) : Prop := limit = .unbounded ∨ limit = .items 0

theorem evictions_put {c : Cache α} (never : NeverEvicts c.limit) (key : TemplateKey) (value : α) :
    (c.put key value).counters.evictions = c.counters.evictions := by
  rcases never with unbounded | disabled
  · simp only [put, unbounded]
    split <;> rfl
  · rw [put_disabled disabled]

theorem evictions_access {c : Cache α} (never : NeverEvicts c.limit) (made : Access α) :
    (c.access made).counters.evictions = c.counters.evictions := by
  cases made with
  | get key => exact evictions_countLookup c _
  | enter key => exact evictions_countLookup c _
  | put key value => exact evictions_put never key value
  | clear => rfl
  | settle key built =>
    cases present : c.entries[key]? with
    | some existing => rw [access, settle_of_present present]
    | none =>
      rw [access, settle_of_absent present]
      exact evictions_put never key built

/-! ## Accesses in a row -/

theorem lookups_replay (c : Cache α) (made : List (Access α)) :
    (c.replay made).lookups = c.lookups + made.countP Access.looksUp := by
  induction made generalizing c with
  | nil => rfl
  | cons first later ih =>
    rw [replay_cons, ih, lookups_access, List.countP_cons]
    omega

theorem balance_replay {c : Cache α} (valid : c.Valid) (made : List (Access α)) :
    (c.replay made).size + (c.replay made).counters.evictions + total removed c made =
      c.size + c.counters.evictions + total inserted c made := by
  induction made generalizing c with
  | nil => rfl
  | cons first later ih =>
    have here := balance_access valid first
    have rest := ih (valid.access first)
    rw [replay_cons, total, total]
    omega

theorem evictions_replay {c : Cache α} (never : NeverEvicts c.limit) (made : List (Access α)) :
    (c.replay made).counters.evictions = c.counters.evictions := by
  induction made generalizing c with
  | nil => rfl
  | cons first later ih =>
    have limit := limit_access c first
    rw [replay_cons, ih (limit.symm ▸ never), evictions_access never]

/-- A session makes its accesses one after another, and whichever of them have been made so far:
each call that looks a key up has been counted as found or as not found, the entries put under new
keys are those present, evicted and removed, without a limit or with one of no items none was
evicted, and removing all entries would change no counter. -/
theorem Session.counters_conserved (limit : CacheLimit) (session : Session α) :
    let start : Cache α := empty limit
    (session.run start).2 = start.replay (session.accesses start) ∧
    ∀ made, made <+: session.accesses start →
      let c := start.replay made
      c.counters.hits + c.counters.misses = made.countP Access.looksUp ∧
      total inserted start made = c.size + c.counters.evictions + total removed start made ∧
      (limit = .unbounded ∨ limit = .items 0 → c.counters.evictions = 0) ∧
      c.clear.counters = c.counters := by
  intro start
  refine ⟨session.run_eq_replay start, fun made _ => ⟨?_, ?_, ?_, rfl⟩⟩
  · exact (lookups_replay start made).trans (Nat.zero_add _)
  · have balance := balance_replay (c := start) (Valid.empty limit) made
    have none : start.size = 0 := Std.HashMap.size_empty
    have never : start.counters.evictions = 0 := rfl
    omega
  · exact fun never => evictions_replay (c := start) never made

end PluralTemplate.Cache
