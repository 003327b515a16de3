import CommitSearch.Proofs.Cache.Entries
import Mathlib.Data.Finset.Card
import Mathlib.Data.List.Basic

/-!
# What a cache holds

Under a key a cache holds what was set last, unless a pattern that stands for the key was deleted
since. As long as no entry expires this is all that matters about the acts before. Main statement:
what is got is what the latest act that affects the key has set, a deletion counts the keys whose
entries it removes, and the deletions of the service remove what they are meant to remove.
-/

namespace CommitSearch

/-! ### Patterns -/

/-- The keys for which a pattern stands: a text without an asterisk stands for itself, and one
asterisk at the end stands for any text. -/
inductive StandsFor : String → String → Prop
  | key {key : String} (plain : '*' ∉ key.toList) : StandsFor key key
  | start {start : String} (plain : '*' ∉ start.toList) (rest : String) :
      StandsFor (start ++ "*") (start ++ rest)

/-- A text in which an asterisk stands nowhere, or nowhere but at the end. -/
def IsPattern (pattern : String) : Prop :=
  '*' ∉ pattern.toList ∨ ∃ start : String, '*' ∉ start.toList ∧ pattern = start ++ "*"

theorem exists_append_of_prefix {start key : String} (h : start.toList <+: key.toList) :
    ∃ rest, key = start ++ rest := by
  obtain ⟨rest, hrest⟩ := h
  refine ⟨String.ofList rest, String.toList_inj.1 ?_⟩
  rw [String.toList_append, String.toList_ofList, hrest]

theorem patternMatches_iff {pattern key : String} (h : IsPattern pattern) :
    patternMatches pattern key = true ↔ StandsFor pattern key := by
  constructor
  · intro hmatches
    rcases h with plain | ⟨start, plain, rfl⟩
    · obtain rfl := (patternMatches_plain plain).1 hmatches
      exact .key plain
    · obtain ⟨rest, rfl⟩ := exists_append_of_prefix (patternMatches_start.1 hmatches)
      exact .start plain rest
  · intro hstands
    cases hstands with
    | key plain => exact (patternMatches_plain plain).2 rfl
    | start plain rest =>
      refine patternMatches_start.2 ?_
      rw [String.toList_append]
      exact List.prefix_append _ _

/-! ### Rows of acts -/

/-- What can be done with a cache, at some time. -/
inductive CacheAct
  | get (time : Nat) (key : String)
  | set (time : Nat) (key value : String) (lifetime : Nat)
  | delete (pattern : String)
deriving DecidableEq, Repr

/-- An act decides what is found under a key. -/
def CacheAct.Affects (key : String) : CacheAct → Prop
  | .get _ _ => False
  | .set _ key' _ _ => key' = key
  | .delete pattern => StandsFor pattern key

def MemoryCache.perform (c : MemoryCache) : CacheAct → MemoryCache
  | .get time key => (c.get time key).2
  | .set time key value lifetime => c.set time key value lifetime
  | .delete pattern => (c.deletePattern pattern).2

/-- An empty cache after some acts. -/
def MemoryCache.ofActs (acts : List CacheAct) : MemoryCache :=
  acts.foldl MemoryCache.perform .empty

/-- The latest act that affects the key of an entry is the one that has set it. -/
def LatestSet (acts : List CacheAct) (e : CacheEntry) : Prop :=
  ∃ before time lifetime after, acts = before ++ .set time e.key e.value lifetime :: after ∧
    e.deadline = time + lifetime ∧ ∀ act ∈ after, ¬ act.Affects e.key

/-- Every entry that is set lives beyond a time. -/
def Outlive (acts : List CacheAct) (time : Nat) : Prop :=
  ∀ start key value lifetime, .set start key value lifetime ∈ acts → time < start + lifetime

/-- No entry expires before it is read for the last time, which may be now. -/
def NoneExpires (acts : List CacheAct) (now : Nat) : Prop :=
  Outlive acts now ∧ ∀ time key, .get time key ∈ acts → Outlive acts time

/-- What is found under a key is the entry of the latest act that affects it. -/
def MemoryCache.Holds (c : MemoryCache) (acts : List CacheAct) : Prop :=
  ∀ key e, c.find key = some e ↔ e.key = key ∧ LatestSet acts e

variable {acts : List CacheAct} {act : CacheAct} {c : MemoryCache} {now : Nat}

theorem split_at_end {before after : List CacheAct} {set : CacheAct}
    (h : acts ++ [act] = before ++ set :: after) :
    (act = set ∧ after = []) ∨ ∃ rest, after = rest ++ [act] ∧ acts = before ++ set :: rest := by
  rcases List.eq_nil_or_concat after with rfl | ⟨rest, last, rfl⟩
  · have hparts := List.append_inj' h rfl
    exact .inl ⟨List.singleton_inj.1 hparts.2, rfl⟩
  · have hsplit : acts ++ [act] = (before ++ set :: rest) ++ [last] := by simpa using h
    obtain ⟨hacts, hact⟩ := List.append_inj' hsplit rfl
    obtain rfl := List.singleton_inj.1 hact
    exact .inr ⟨rest, by simp, hacts⟩

theorem latestSet_snoc {e : CacheEntry} : LatestSet (acts ++ [act]) e ↔
    (∃ time lifetime, act = .set time e.key e.value lifetime ∧ e.deadline = time + lifetime) ∨
      ¬ act.Affects e.key ∧ LatestSet acts e := by
  constructor
  · rintro ⟨before, time, lifetime, after, heq, hdeadline, hnone⟩
    rcases split_at_end heq with ⟨hact, -⟩ | ⟨rest, rfl, hacts⟩
    · exact .inl ⟨time, lifetime, hact, hdeadline⟩
    · have hrest : ∀ other ∈ rest, ¬ other.Affects e.key := fun other hother =>
        hnone other (List.mem_append_left _ hother)
      exact .inr ⟨hnone act (by simp), before, time, lifetime, rest, hacts, hdeadline, hrest⟩
  · rintro (⟨time, lifetime, rfl, hdeadline⟩ | ⟨hact, hset⟩)
    · exact ⟨acts, time, lifetime, [], rfl, hdeadline, nofun⟩
    · obtain ⟨before, time, lifetime, after, rfl, hdeadline, hnone⟩ := hset
      refine ⟨before, time, lifetime, after ++ [act], by simp, hdeadline, fun other hother => ?_⟩
      rcases List.mem_append.1 hother with hother | hother
      · exact hnone other hother
      · exact List.mem_singleton.1 hother ▸ hact

theorem Outlive.init {time : Nat} (h : Outlive (acts ++ [act]) time) : Outlive acts time :=
  fun start key value lifetime hset =>
    h start key value lifetime (List.mem_append_left _ hset)

theorem NoneExpires.init (h : NoneExpires (acts ++ [act]) now) : NoneExpires acts now :=
  ⟨h.1.init, fun time key hget => (h.2 time key (List.mem_append_left _ hget)).init⟩

theorem alive_of_holds (h : c.Holds acts) {time : Nat} (outlive : Outlive acts time) {key : String}
    {e : CacheEntry} (found : c.find key = some e) : time < e.deadline := by
  obtain ⟨-, before, start, lifetime, after, rfl, hdeadline, -⟩ := (h key e).1 found
  have hstart := outlive start e.key e.value lifetime (by simp)
  omega

/-! ### One act -/

theorem holds_get (h : c.Holds acts) {time : Nat} (outlive : Outlive acts time) (key : String) :
    (c.get time key).2.Holds (acts ++ [.get time key]) := by
  intro other e
  rw [MemoryCache.get_of_alive fun _ found => alive_of_holds h outlive found, h other e,
    latestSet_snoc]
  simp [CacheAct.Affects]

theorem holds_set (h : c.Holds acts) (time : Nat) (key value : String) (lifetime : Nat) :
    (c.set time key value lifetime).Holds (acts ++ [.set time key value lifetime]) := by
  intro other e
  rw [MemoryCache.find_set, latestSet_snoc]
  split
  · next heq =>
    subst heq
    obtain ⟨k, v, d⟩ := e
    simp only [Option.some.injEq, CacheEntry.mk.injEq, CacheAct.set.injEq, CacheAct.Affects]
    grind
  · next hne =>
    rw [h other e]
    simp only [CacheAct.set.injEq, CacheAct.Affects]
    grind

theorem holds_delete (h : c.Holds acts) {pattern : String} (hpattern : IsPattern pattern) :
    (c.deletePattern pattern).2.Holds (acts ++ [.delete pattern]) := by
  intro other e
  have hmatches : patternMatches pattern other = true ↔ StandsFor pattern other :=
    patternMatches_iff hpattern
  rw [MemoryCache.find_deletePattern, latestSet_snoc]
  split
  · next hyes =>
    have hstands := hmatches.1 hyes
    simp only [CacheAct.Affects]
    grind
  · next hno =>
    have hstands := mt hmatches.2 hno
    rw [h other e]
    simp only [CacheAct.Affects]
    grind

theorem nodup_perform (distinct : (c.entries.map CacheEntry.key).Nodup) (act : CacheAct) :
    ((c.perform act).entries.map CacheEntry.key).Nodup := by
  have hkept : ∀ keeps : CacheEntry → Bool,
      ((c.entries.filter keeps).map CacheEntry.key).Nodup := fun keeps =>
    distinct.sublist (List.filter_sublist.map _)
  cases act with
  | get time key =>
    rw [MemoryCache.perform, MemoryCache.get]
    split
    · exact distinct
    · split
      · exact distinct
      · exact hkept _
  | set time key value lifetime =>
    refine List.nodup_cons.2 ⟨?_, hkept _⟩
    simp [MemoryCache.erase]
  | delete pattern => exact hkept _

/-! ### All acts -/

theorem ofActs_snoc (acts : List CacheAct) (act : CacheAct) :
    MemoryCache.ofActs (acts ++ [act]) = (MemoryCache.ofActs acts).perform act := by
  simp [MemoryCache.ofActs]

theorem holds_ofActs (patterns : ∀ pattern, .delete pattern ∈ acts → IsPattern pattern)
    (unexpired : NoneExpires acts now) : (MemoryCache.ofActs acts).Holds acts := by
  -- On the last act, since the latest one that affects a key counts.
  induction acts using List.reverseRecOn with
  | nil =>
    intro key e
    simp [MemoryCache.ofActs, MemoryCache.empty, MemoryCache.find, LatestSet]
  | append_singleton acts act ih =>
    have before := ih (fun pattern hp => patterns pattern (List.mem_append_left _ hp))
      unexpired.init
    rw [ofActs_snoc]
    cases act with
    | get time key => exact holds_get before (unexpired.2 time key (by simp)).init key
    | set time key value lifetime => exact holds_set before time key value lifetime
    | delete pattern => exact holds_delete before (patterns pattern (by simp))

theorem nodup_ofActs (acts : List CacheAct) :
    ((MemoryCache.ofActs acts).entries.map CacheEntry.key).Nodup := by
  induction acts using List.reverseRecOn with
  | nil => exact List.nodup_nil
  | append_singleton acts act ih =>
    rw [ofActs_snoc]
    exact nodup_perform ih act

/-! ### Deletions -/

/-- A deletion counts the keys with an entry for which its pattern stands. -/
theorem count_deletePattern (distinct : (c.entries.map CacheEntry.key).Nodup)
    (pattern : String) : ∃ gone : Finset String,
      (∀ key, key ∈ gone ↔ (c.find key).isSome ∧ patternMatches pattern key = true) ∧
        (c.deletePattern pattern).1 = gone.card := by
  refine ⟨((c.entries.filter fun e => patternMatches pattern e.key).map CacheEntry.key).toFinset,
    fun key => ?_, ?_⟩
  · rw [List.mem_toFinset, MemoryCache.find_isSome_iff]
    simp only [List.mem_map, List.mem_filter]
    grind
  · have hlength := List.length_eq_length_filter_add (l := c.entries)
      fun e => patternMatches pattern e.key
    rw [List.toFinset_card_of_nodup (distinct.sublist (List.filter_sublist.map _)), List.length_map]
    simp only [MemoryCache.deletePattern]
    omega

theorem find_deletePattern_of_ne (r : SearchRequest) {key : String} (h : key ≠ r.key) :
    (c.deletePattern r.key).2.find key = c.find key := by
  rw [MemoryCache.find_deletePattern, if_neg (mt (patternMatches_key r key).1 h)]

/-! ### The contract -/

theorem get_iff_of_holds (h : c.Holds acts) (outlive : Outlive acts now) {key value : String} :
    (c.get now key).1 = some value ↔
      ∃ before time lifetime after, acts = before ++ .set time key value lifetime :: after ∧
        ∀ act ∈ after, ¬ act.Affects key := by
  rw [MemoryCache.get_of_alive fun _ found => alive_of_holds h outlive found,
    Option.map_eq_some_iff]
  constructor
  · rintro ⟨e, found, rfl⟩
    obtain ⟨rfl, before, time, lifetime, after, heq, -, hnone⟩ := (h key e).1 found
    exact ⟨before, time, lifetime, after, heq, hnone⟩
  · rintro ⟨before, time, lifetime, after, heq, hnone⟩
    have hset : LatestSet acts ⟨key, value, time + lifetime⟩ :=
      ⟨before, time, lifetime, after, heq, rfl, hnone⟩
    exact ⟨_, (h key _).2 ⟨rfl, hset⟩, rfl⟩

/-- Something is got before a deletion and nothing afterwards when there is an entry for which the
pattern stands. -/
theorem get_deletePattern_iff {key pattern : String}
    (alive : ∀ e, c.find key = some e → now < e.deadline) :
    (c.get now key).1.isSome = true ∧ ((c.deletePattern pattern).2.get now key).1 = none ↔
      (c.find key).isSome = true ∧ patternMatches pattern key = true := by
  have hfind := MemoryCache.find_deletePattern c pattern key
  have kept : ∀ e, (c.deletePattern pattern).2.find key = some e → now < e.deadline := by
    intro e he
    rw [hfind] at he
    split at he
    · cases he
    · exact alive e he
  rw [MemoryCache.get_of_alive alive, MemoryCache.get_of_alive kept, hfind]
  cases c.find key <;> cases patternMatches pattern key <;> simp

/-- After acts of which no entry has expired, the value got under a key is the one set by the latest
act that affects the key, if that has set one; a deletion counts the keys under which something was
got before and nothing is afterwards; and the deletion of all results removes the result of every
request and nothing outside their keys, that of one result nothing else. -/
theorem cache_keeps_latest (acts : List CacheAct) (now : Nat)
    (patterns : ∀ pattern, .delete pattern ∈ acts → IsPattern pattern)
    (unexpired : NoneExpires acts now) :
    let c := MemoryCache.ofActs acts
    (∀ key value, (c.get now key).1 = some value ↔
      ∃ before time lifetime after, acts = before ++ .set time key value lifetime :: after ∧
        ∀ act ∈ after, ¬ act.Affects key) ∧
    (∀ pattern, ∃ gone : Finset String,
      (∀ key, key ∈ gone ↔ (c.get now key).1.isSome = true ∧
        ((c.deletePattern pattern).2.get now key).1 = none) ∧
      (c.deletePattern pattern).1 = gone.card) ∧
    ∀ r : SearchRequest,
      (c.deletePattern searchPattern).2.find r.key = none ∧
      (∀ key, ¬ (versionedKey "commits:").toList <+: key.toList →
        (c.deletePattern searchPattern).2.find key = c.find key) ∧
      (c.deletePattern r.key).2.find r.key = none ∧
      ∀ key, key ≠ r.key → (c.deletePattern r.key).2.find key = c.find key := by
  intro c
  have holds : c.Holds acts := holds_ofActs patterns unexpired
  refine ⟨fun key value => get_iff_of_holds holds unexpired.1, fun pattern => ?_,
    fun r => ⟨?_, fun key hkey => ?_, ?_, fun key hkey => find_deletePattern_of_ne r hkey⟩⟩
  · obtain ⟨gone, hgone, hcount⟩ := count_deletePattern (nodup_ofActs acts) pattern
    refine ⟨gone, fun key => ?_, hcount⟩
    rw [hgone, get_deletePattern_iff fun _ found => alive_of_holds holds unexpired.1 found]
  · rw [MemoryCache.find_deletePattern, if_pos (searchPattern_matches r)]
  · rw [MemoryCache.find_deletePattern, if_neg (mt searchPattern_matches_iff.1 hkey)]
  · rw [MemoryCache.find_deletePattern, if_pos ((patternMatches_key r r.key).2 rfl)]

/-- A result that is deleted with all results and another one set after that, beside an entry that
is no result. -/
theorem cache_keeps_latest_results :
    let acts : List CacheAct :=
      [.set 0 "changelog:8bd0a23b:commits:1" "[]" 60, .set 1 "changelog:other" "kept" 60,
        .get 2 "changelog:8bd0a23b:commits:1", .delete searchPattern,
        .set 3 "changelog:8bd0a23b:commits:2" "[2]" 60]
    let c := MemoryCache.ofActs acts
    (∀ pattern, .delete pattern ∈ acts → IsPattern pattern) ∧ NoneExpires acts 4 ∧
      (c.get 4 "changelog:other").1 = some "kept" ∧
      ∃ gone : Finset String, "changelog:8bd0a23b:commits:1" ∉ gone ∧
        "changelog:8bd0a23b:commits:2" ∈ gone ∧ (c.deletePattern searchPattern).1 = gone.card := by
  intro acts c
  have hsearch : IsPattern searchPattern := .inr ⟨versionedKey "commits:", by decide, by decide⟩
  have patterns : ∀ pattern, .delete pattern ∈ acts → IsPattern pattern := by
    intro pattern h
    obtain rfl : pattern = searchPattern := by simpa [acts] using h
    exact hsearch
  have outlive : ∀ time ≤ 4, Outlive acts time := by
    intro time htime start key value lifetime hset
    have hlifetime : lifetime = 60 := by
      simp only [acts, List.mem_cons, CacheAct.set.injEq, List.not_mem_nil] at hset
      grind
    omega
  have unexpired : NoneExpires acts 4 := by
    refine ⟨outlive 4 (by omega), fun time key hget => outlive time ?_⟩
    simp only [acts, List.mem_cons, CacheAct.get.injEq, List.not_mem_nil] at hget
    grind
  have hother : ¬ StandsFor searchPattern "changelog:other" :=
    mt (patternMatches_iff hsearch).2 (by decide)
  obtain ⟨hget, hgone, -⟩ := cache_keeps_latest acts 4 patterns unexpired
  obtain ⟨gone, hmem, hcount⟩ := hgone searchPattern
  refine ⟨patterns, unexpired, ?_, gone, ?_, ?_, hcount⟩
  · refine (hget _ _).2 ⟨acts.take 1, 1, 60, acts.drop 2, rfl, fun act hact => ?_⟩
    simp only [acts, List.drop_succ_cons, List.drop_zero, List.mem_cons, List.not_mem_nil,
      or_false] at hact
    rcases hact with rfl | rfl | rfl
    · exact id
    · exact hother
    · simp [CacheAct.Affects]
  · exact fun h => absurd ((hmem _).1 h).1 (by decide)
  · exact (hmem _).2 ⟨by decide, by decide⟩

end CommitSearch
