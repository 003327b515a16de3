import CommitSearch.Cache.Key
import CommitSearch.Cache.Memory

/-!
# Entries of the cache

What the operations of the cache leave of its entries. The key of a request has no asterisk, so as a
pattern it stands for itself alone, and the pattern of all results stands for every such key.
-/

namespace CommitSearch

/-! ### Operations -/

namespace MemoryCache

variable {c : MemoryCache} {e : CacheEntry}

theorem mem_get {now : Nat} {key : String} (h : e ∈ (c.get now key).2.entries) : e ∈ c.entries := by
  unfold get at h
  split at h
  · exact h
  · split at h
    · exact h
    · exact (List.mem_filter.1 h).1

theorem mem_set {now lifetime : Nat} {key value : String}
    (h : e ∈ (c.set now key value lifetime).entries) :
    (e.key = key ∧ e.value = value) ∨ (e.key ≠ key ∧ e ∈ c.entries) := by
  rcases List.mem_cons.1 h with rfl | h
  · exact .inl ⟨rfl, rfl⟩
  · obtain ⟨hold, hne⟩ := List.mem_filter.1 h
    exact .inr ⟨bne_iff_ne.1 hne, hold⟩

theorem mem_deletePattern {pattern : String} :
    e ∈ (c.deletePattern pattern).2.entries ↔
      e ∈ c.entries ∧ patternMatches pattern e.key = false := by
  simp only [deletePattern, List.mem_filter, Bool.not_eq_true']

theorem find_isSome_iff {key : String} : (c.find key).isSome ↔ ∃ e ∈ c.entries, e.key = key := by
  simp [find]

theorem find_filter (c : MemoryCache) (keeps : String → Bool) (key : String) :
    find ⟨c.entries.filter fun e => keeps e.key⟩ key = if keeps key then c.find key else none := by
  have hboth : ∀ e : CacheEntry, decide (keeps e.key = true ∧ (e.key == key) = true) =
      (keeps key && e.key == key) := by
    intro e
    rw [Bool.eq_iff_iff, decide_eq_true_iff, Bool.and_eq_true, beq_iff_eq]
    exact and_congr_left fun hkey => by rw [hkey]
  rw [find, find, List.find?_filter]
  simp only [hboth]
  cases keeps key <;> simp

theorem find_deletePattern (c : MemoryCache) (pattern key : String) :
    (c.deletePattern pattern).2.find key =
      if patternMatches pattern key then none else c.find key := by
  have hfilter := find_filter c (fun key => !patternMatches pattern key) key
  rw [deletePattern, hfilter]
  cases patternMatches pattern key <;> rfl

theorem find_set (c : MemoryCache) (time : Nat) (key value : String) (lifetime : Nat)
    (other : String) :
    (c.set time key value lifetime).find other =
      if other = key then some ⟨key, value, time + lifetime⟩ else c.find other := by
  by_cases h : other = key
  · simp [find, set, h]
  · have hfilter := find_filter c (fun key' => key' != key) other
    simp only [bne_iff_ne, ne_eq, h, not_false_eq_true, if_true] at hfilter
    rw [if_neg h, ← hfilter]
    simp [find, set, erase, Ne.symm h]

/-- Entries are got as they are while none of them expires. -/
theorem get_of_alive {now : Nat} {key : String}
    (alive : ∀ e, c.find key = some e → now < e.deadline) :
    c.get now key = ((c.find key).map CacheEntry.value, c) := by
  unfold get
  cases h : c.find key with
  | none => rfl
  | some e =>
    rw [Option.map_some]
    exact if_pos (alive e h)

end MemoryCache

/-! ### Patterns -/

theorem digitChar_ne_asterisk {n : Nat} (h : n < 16) : Nat.digitChar n ≠ '*' := by
  have hall : ∀ m < 16, Nat.digitChar m ≠ '*' := by decide
  exact hall n h

theorem asterisk_not_mem_hexByte (b : UInt8) : '*' ∉ Sha256.hexByte b := by
  have hb : b.toNat < 256 := b.toNat_lt
  have hhigh := digitChar_ne_asterisk (n := b.toNat / 16) (by omega)
  have hlow := digitChar_ne_asterisk (n := b.toNat % 16) (by omega)
  simp only [Sha256.hexByte, List.mem_cons, List.not_mem_nil, or_false, not_or]
  exact ⟨hhigh.symm, hlow.symm⟩

theorem asterisk_not_mem_key (r : SearchRequest) : '*' ∉ r.key.toList := by
  have hstart : '*' ∉ keyStart.toList ∧ '*' ∉ "commits:".toList := by decide
  simp only [SearchRequest.key, versionedKey, SearchRequest.fingerprint, Sha256.hexDigest,
    String.toList_append, String.toList_ofList, List.mem_append, List.mem_flatMap, not_or,
    not_exists, not_and]
  exact ⟨hstart.1, hstart.2, fun b _ => asterisk_not_mem_hexByte b⟩

theorem patternMatches_plain {pattern key : String} (plain : '*' ∉ pattern.toList) :
    patternMatches pattern key = true ↔ key = pattern := by
  unfold patternMatches
  split
  · next hlast => exact absurd (List.mem_of_getLast? hlast) plain
  · exact beq_iff_eq

theorem patternMatches_start {start key : String} :
    patternMatches (start ++ "*") key = true ↔ start.toList <+: key.toList := by
  have hpattern : (start ++ "*").toList = start.toList ++ ['*'] := String.toList_append
  unfold patternMatches
  rw [hpattern, List.getLast?_concat, List.dropLast_concat]
  exact List.isPrefixOf_iff_prefix

theorem patternMatches_key (r : SearchRequest) (key : String) :
    patternMatches r.key key = true ↔ key = r.key := patternMatches_plain (asterisk_not_mem_key r)

theorem searchPattern_matches_iff {key : String} :
    patternMatches searchPattern key = true ↔ (versionedKey "commits:").toList <+: key.toList := by
  have hpattern : searchPattern = versionedKey "commits:" ++ "*" := by decide
  rw [hpattern, patternMatches_start]

theorem searchPattern_matches (r : SearchRequest) : patternMatches searchPattern r.key = true := by
  have hkey : r.key.toList = (versionedKey "commits:").toList ++ r.fingerprint.toList := by
    simp only [SearchRequest.key, versionedKey, String.toList_append, List.append_assoc]
  rw [searchPattern_matches_iff, hkey]
  exact List.prefix_append _ _

theorem ne_of_mem_deletePattern {c : MemoryCache} {e : CacheEntry} {pattern key : String}
    (hpattern : patternMatches pattern key = true) (h : e ∈ (c.deletePattern pattern).2.entries) :
    e.key ≠ key := by
  have hkept := (MemoryCache.mem_deletePattern.1 h).2
  rintro rfl
  rw [hpattern] at hkept
  cases hkept

theorem not_mem_deletePattern_key {c : MemoryCache} {e : CacheEntry} (r : SearchRequest)
    (h : e ∈ (c.deletePattern r.key).2.entries) : e.key ≠ r.key :=
  ne_of_mem_deletePattern ((patternMatches_key r r.key).2 rfl) h

theorem not_mem_deletePattern_search {c : MemoryCache} {e : CacheEntry} (r : SearchRequest)
    (h : e ∈ (c.deletePattern searchPattern).2.entries) : e.key ≠ r.key :=
  ne_of_mem_deletePattern (searchPattern_matches r) h

end CommitSearch
