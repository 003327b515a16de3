/-!
# The cache in memory

Entries have a deadline and are dropped when they are read after it. A pattern is a key, or the
beginning of keys followed by an asterisk. Time is counted in milliseconds and given with every
operation.

Main statement: what was set under a key is what is got from it until its deadline.
-/

namespace CommitSearch

structure CacheEntry where
  key : String
  value : String
  deadline : Nat
deriving DecidableEq, Repr

/-- The entries of a cache, at most one for a key. -/
structure MemoryCache where
  entries : List CacheEntry
deriving DecidableEq, Repr

def patternMatches (pattern key : String) : Bool :=
  match pattern.toList.getLast? with
  | some '*' => pattern.toList.dropLast.isPrefixOf key.toList
  | _ => key == pattern

namespace MemoryCache

def empty : MemoryCache := ⟨[]⟩

def find (c : MemoryCache) (key : String) : Option CacheEntry :=
  c.entries.find? fun e => e.key == key

def erase (c : MemoryCache) (key : String) : MemoryCache :=
  ⟨c.entries.filter fun e => e.key != key⟩

/-- The text under a key, and the cache without it if its deadline has come. -/
def get (c : MemoryCache) (now : Nat) (key : String) : Option String × MemoryCache :=
  match c.find key with
  | none => (none, c)
  | some e => if now < e.deadline then (some e.value, c) else (none, c.erase key)

def set (c : MemoryCache) (now : Nat) (key value : String) (lifetime : Nat) : MemoryCache :=
  ⟨⟨key, value, now + lifetime⟩ :: (c.erase key).entries⟩

/-- Removes the entries that a pattern stands for, and counts them. -/
def deletePattern (c : MemoryCache) (pattern : String) : Nat × MemoryCache :=
  let kept := c.entries.filter fun e => !patternMatches pattern e.key
  (c.entries.length - kept.length, ⟨kept⟩)

theorem get_set (c : MemoryCache) (now then' : Nat) (key value : String) (lifetime : Nat)
    (h : then' < now + lifetime) :
    (c.set now key value lifetime).get then' key = (some value, c.set now key value lifetime) := by
  simp [set, get, find, h]

end MemoryCache
end CommitSearch
