import Std.Data.HashMap
import PluralTemplate.TemplateKey

/-!
# A bounded cache

A cache holds values by template key, up to a limit. When it is full the entry that has
been in it longest makes room, whether or not it has been read since. The entries are
found through a map, and a queue holds their keys, the oldest first. Counters record how
often a key was found and not found, and how many entries were evicted.

An operation gives back its answer together with the cache after it.
-/

set_option autoImplicit false

namespace PluralTemplate

/-- How many entries a cache holds. A limit of no items switches it off. -/
inductive CacheLimit where
  | items (count : Nat)
  | unbounded
  deriving DecidableEq, Repr

structure CacheCounters where
  hits : Nat
  misses : Nat
  evictions : Nat
  deriving DecidableEq, Repr

structure Cache (α : Type) where
  limit : CacheLimit
  entries : Std.HashMap TemplateKey α
  /-- The keys in the order in which they came, the oldest first. -/
  order : List TemplateKey
  counters : CacheCounters

namespace Cache

variable {α : Type}

/-- The limit of a cache for which none is given. -/
def defaultLimit : CacheLimit := .items 1024

def empty (limit : CacheLimit) : Cache α := ⟨limit, ∅, [], ⟨0, 0, 0⟩⟩

def size (c : Cache α) : Nat := c.entries.size

def isEmpty (c : Cache α) : Bool := c.size == 0

/-- Count a key that was found, or one that was not. -/
def countLookup (c : Cache α) (found : Bool) : Cache α :=
  { c with counters :=
      if found then { c.counters with hits := c.counters.hits + 1 }
      else { c.counters with misses := c.counters.misses + 1 } }

/-- Look a key up. Only the counters change. -/
def get (c : Cache α) (key : TemplateKey) : Option α × Cache α :=
  let found := c.entries[key]?
  (found, c.countLookup found.isSome)

/-- Take the oldest keys off a queue, and their entries out of a map, until the map is
smaller than `capacity`. The last component is how many were taken. -/
def dropOldest (capacity : Nat) :
    List TemplateKey → Std.HashMap TemplateKey α →
      List TemplateKey × Std.HashMap TemplateKey α × Nat
  | [], entries => ([], entries, 0)
  | oldest :: rest, entries =>
    if capacity ≤ entries.size then
      let (order, entries, dropped) := dropOldest capacity rest (entries.erase oldest)
      (order, entries, dropped + 1)
    else (oldest :: rest, entries, 0)

/-- Make room for one entry in a cache of a given capacity. -/
def evictBelow (c : Cache α) (capacity : Nat) : Cache α :=
  let (order, entries, dropped) := dropOldest capacity c.order c.entries
  { c with
    order, entries
    counters := { c.counters with evictions := c.counters.evictions + dropped } }

/-- Put a new entry at the end of the queue. -/
def append (c : Cache α) (key : TemplateKey) (value : α) : Cache α :=
  { c with order := c.order ++ [key], entries := c.entries.insert key value }

/-- Hold a value under a key. A key that is present keeps its place in the queue; a new
one evicts what the limit asks for. A cache that is switched off ignores it. -/
def put (c : Cache α) (key : TemplateKey) (value : α) : Cache α :=
  match c.limit with
  | .items 0 => c
  | .items (n + 1) =>
    if c.entries.contains key then { c with entries := c.entries.insert key value }
    else (c.evictBelow (n + 1)).append key value
  | .unbounded =>
    if c.entries.contains key then { c with entries := c.entries.insert key value }
    else c.append key value

/-- The value under a key. If there is none it is built and put; building may itself use
the cache, and should it put the key, that value stays and is the answer. -/
def getOrInsertWith (c : Cache α) (key : TemplateKey) (build : Cache α → α × Cache α) :
    α × Cache α :=
  match c.get key with
  | (some found, c) => (found, c)
  | (none, c) =>
    let (built, c) := build c
    match c.entries[key]? with
    | some existing => (existing, c)
    | none => (built, c.put key built)

/-- Remove all entries. The counters stay. -/
def clear (c : Cache α) : Cache α := { c with entries := ∅, order := [] }

end Cache

end PluralTemplate
