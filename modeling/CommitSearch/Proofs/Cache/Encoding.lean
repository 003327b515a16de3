import CommitSearch.Cache.Key
import CommitSearch.Proofs.Filter.Insertion
import Mathlib.Algebra.Group.Nat.Defs

/-!
# The encoding of a request

A field begins with its length, so nothing that follows it can be taken for a part of it; a filter
key gives the number of its values, and the request the number of its filter keys. Hence every
request has an encoding of its own, and requests share a key only where their digests collide.
-/

namespace CommitSearch

/-! ### Codes of which none begins another -/

/-- The code of a value can be told from whatever follows it. -/
def PrefixFree {α β : Type} (IsCoded : α → Prop) (code : α → List β) : Prop :=
  ∀ a b x y, IsCoded a → IsCoded b → code a ++ x = code b ++ y → a = b ∧ x = y

namespace PrefixFree

variable {α β : Type} {IsCoded : α → Prop} {code : α → List β}

/-- As many values, one code after the other, and whatever follows them. -/
theorem flatMap_append (h : PrefixFree IsCoded code) {l l' : List α} {x y : List β}
    (hl : ∀ a ∈ l, IsCoded a) (hl' : ∀ a ∈ l', IsCoded a) (hlength : l.length = l'.length)
    (heq : l.flatMap code ++ x = l'.flatMap code ++ y) : l = l' ∧ x = y := by
  induction l generalizing l' with
  | nil =>
    have hnil : l' = [] := List.length_eq_zero_iff.1 hlength.symm
    subst hnil
    exact ⟨rfl, heq⟩
  | cons a rest ih =>
    cases l' with
    | nil => simp at hlength
    | cons b rest' =>
      simp only [List.flatMap_cons, List.append_assoc] at heq
      have hhead := h a b _ _ (hl a (by simp)) (hl' b (by simp)) heq
      have hrest : rest.length = rest'.length := by simpa using hlength
      have htail := ih (fun c hc => hl c (by simp [hc])) (fun c hc => hl' c (by simp [hc])) hrest
        hhead.2
      exact ⟨by rw [hhead.1, htail.1], htail.2⟩

theorem flatMap_inj (h : PrefixFree IsCoded code) (hne : ∀ a, code a ≠ []) {l l' : List α}
    (hl : ∀ a ∈ l, IsCoded a) (hl' : ∀ a ∈ l', IsCoded a)
    (heq : l.flatMap code = l'.flatMap code) : l = l' := by
  induction l generalizing l' with
  | nil =>
    cases l' with
    | nil => rfl
    | cons b rest' => simp [hne b] at heq
  | cons a rest ih =>
    cases l' with
    | nil => simp [hne a] at heq
    | cons b rest' =>
      simp only [List.flatMap_cons] at heq
      have hhead := h a b _ _ (hl a (by simp)) (hl' b (by simp)) heq
      have htail := ih (fun c hc => hl c (by simp [hc])) (fun c hc => hl' c (by simp [hc])) hhead.2
      rw [hhead.1, htail]

end PrefixFree

/-! ### Bytes of numbers and texts -/

theorem length_bigEndian (count n : Nat) : (Sha256.bigEndian count n).length = count := by
  induction count with
  | zero => rfl
  | succ count ih => simp [Sha256.bigEndian, ih]

theorem mod_of_bigEndian {count m n : Nat} (h : Sha256.bigEndian count m = Sha256.bigEndian count n) :
    m % 256 ^ count = n % 256 ^ count := by
  induction count with
  | zero => simp [Nat.mod_one]
  | succ count ih =>
    simp only [Sha256.bigEndian, List.cons.injEq] at h
    have hlow : m % 256 ^ count = n % 256 ^ count := ih h.2
    have hhigh : m / 256 ^ count % 256 = n / 256 ^ count % 256 := by
      have hbyte := congrArg UInt8.toNat h.1
      simpa using hbyte
    rw [Nat.pow_succ, Nat.mod_mul, Nat.mod_mul, hlow, hhigh]

theorem loop_toList (b : ByteArray) (i : Nat) (r : List UInt8) :
    ByteArray.toList.loop b i r = r.reverse ++ b.data.toList.drop i := by
  induction hleft : b.size - i generalizing i r with
  | zero =>
    have hi : ¬ i < b.size := by omega
    have hdrop : b.data.toList.length ≤ i := by simpa using hi
    rw [ByteArray.toList.loop, if_neg hi, List.drop_eq_nil_of_le hdrop, List.append_nil]
  | succ left ih =>
    have hi : i < b.size := by omega
    have hdrop : i < b.data.toList.length := by simpa using hi
    have hget : b.get! i = b.data.toList[i] := by simp [ByteArray.get!, hi]
    rw [ByteArray.toList.loop, if_pos hi, ih (i + 1) _ (by omega), List.drop_eq_getElem_cons hdrop]
    simp [hget]

theorem toList_eq_data (b : ByteArray) : b.toList = b.data.toList := by
  rw [ByteArray.toList, loop_toList]
  rfl

theorem length_toUTF8 (s : String) : s.toUTF8.toList.length = s.utf8ByteSize := by
  rw [toList_eq_data, Array.length_toList, ← String.size_toByteArray]
  rfl

theorem toUTF8_inj {s t : String} (h : s.toUTF8.toList = t.toUTF8.toList) : s = t := by
  rw [toList_eq_data, toList_eq_data, Array.toList_inj] at h
  exact String.toByteArray_inj.1 (ByteArray.ext h)

theorem toString_inj {m n : Nat} (h : toString m = toString n) : m = n := by
  have hdigits : Nat.toDigits 10 m = Nat.toDigits 10 n := String.ofList_injective h
  calc m = Nat.ofDigitChars 10 (Nat.toDigits 10 m) 0 :=
        (Nat.ofDigitChars_toDigits (by decide) (by decide)).symm
    _ = Nat.ofDigitChars 10 (Nat.toDigits 10 n) 0 := by rw [hdigits]
    _ = n := Nat.ofDigitChars_toDigits (by decide) (by decide)

theorem utf8ByteSize_ofList_le (cs : List Char) :
    (String.ofList cs).utf8ByteSize ≤ 4 * cs.length := by
  induction cs with
  | nil => simp
  | cons c rest ih =>
    have hc := c.utf8Size_le_four
    rw [String.ofList_cons, String.utf8ByteSize_append, String.utf8ByteSize_singleton,
      List.length_cons]
    omega

/-! ### Fields -/

/-- The number of its bytes fits in front of a text. -/
def IsField (s : String) : Prop := s.utf8ByteSize < 2 ^ 64

instance (s : String) : Decidable (IsField s) := inferInstanceAs (Decidable (_ < _))

theorem isField_toString {n : Nat} (h : n < 2 ^ 64) : IsField (toString n) := by
  have hlength : (Nat.toDigits 10 n).length ≤ 20 := by
    refine (Nat.length_toDigits_le_iff (by decide) (by decide)).2 ?_
    omega
  have hsize := utf8ByteSize_ofList_le (Nat.toDigits 10 n)
  have hbound : (String.ofList (Nat.toDigits 10 n)).utf8ByteSize < 2 ^ 64 := by omega
  exact hbound

theorem encodeField_ne_nil (s : String) : encodeField s ≠ [] := by
  intro h
  have hlength := congrArg List.length h
  simp [encodeField, length_bigEndian] at hlength

theorem prefixFree_encodeField : PrefixFree IsField encodeField := by
  intro s t x y hs ht h
  simp only [encodeField, List.append_assoc] at h
  have hparts := List.append_inj h (by rw [length_bigEndian, length_bigEndian])
  have hsize : s.utf8ByteSize = t.utf8ByteSize := by
    have hmod := mod_of_bigEndian hparts.1
    unfold IsField at hs ht
    omega
  have hbytes := List.append_inj hparts.2 (by rw [length_toUTF8, length_toUTF8, hsize])
  exact ⟨toUTF8_inj hbytes.1, hbytes.2⟩

theorem name_inj {key key' : FilterKey} (h : key.name = key'.name) : key = key' := by
  cases key <;> cases key' <;> simp_all [FilterKey.name]

theorem prefixFree_filterFields : PrefixFree (fun _ => True) filterFields := by
  intro entry entry' x y _ _ h
  simp only [filterFields, List.cons_append, List.cons.injEq] at h
  obtain ⟨hname, hcount, hvalues⟩ := h
  have hparts := List.append_inj hvalues (toString_inj hcount)
  exact ⟨Prod.ext (name_inj hname) hparts.1, hparts.2⟩

/-! ### Requests -/

theorem encodedFields_inj {r r' : SearchRequest} (h : r.encodedFields = r'.encodedFields) :
    r = r' := by
  simp only [SearchRequest.encodedFields, List.cons_append, List.cons.injEq] at h
  obtain ⟨hquery, hcount, hrest⟩ := h
  have hparts := prefixFree_filterFields.flatMap_append (by simp) (by simp) (toString_inj hcount)
    hrest
  have hfilters : r.filters = r'.filters := Filters.toList_inj hparts.1
  have hlast := hparts.2
  simp only [List.cons.injEq, and_true] at hlast
  obtain ⟨hbefore, hafter, hsize, hcursor⟩ := hlast
  have hsize : r.pageSize = r'.pageSize := toString_inj hsize
  cases r
  cases r'
  simp_all

/-- Texts have fewer than `2 ^ 64` bytes, and the numbers written are below that too. -/
structure SearchRequest.IsSized (r : SearchRequest) : Prop where
  query : IsField r.query
  count : ∀ key, (r.filters.values key).length < 2 ^ 64
  value : ∀ key, ∀ value ∈ r.filters.values key, IsField value
  before : IsField r.before
  after : IsField r.after
  pageSize : r.pageSize < 2 ^ 64
  last : IsField r.last

theorem isField_name (key : FilterKey) : IsField key.name := by
  cases key <;> decide

theorem length_toList_le (f : Filters) : f.toList.length ≤ 3 :=
  List.length_filter_le _ (FilterKey.all.map fun key => (key, f.values key))

theorem isField_of_mem {r : SearchRequest} (h : r.IsSized) {s : String}
    (hs : s ∈ r.encodedFields) : IsField s := by
  have hkeys := length_toList_le r.filters
  simp only [SearchRequest.encodedFields, filterFields, List.cons_append, List.mem_cons,
    List.mem_append, List.mem_flatMap, List.not_mem_nil, or_false] at hs
  rcases hs with rfl | rfl | ⟨⟨key, values⟩, hentry, hs⟩ | rfl | rfl | rfl | rfl
  · exact h.query
  · exact isField_toString (by omega)
  · obtain ⟨rfl, -⟩ := Filters.mem_toList.1 hentry
    rcases hs with rfl | rfl | hs
    · exact isField_name key
    · exact isField_toString (h.count key)
    · exact h.value key s hs
  · exact h.before
  · exact h.after
  · exact isField_toString h.pageSize
  · exact h.last

theorem encoding_inj {r r' : SearchRequest} (h : r.IsSized) (h' : r'.IsSized)
    (heq : r.encoding = r'.encoding) : r = r' := by
  have hfields := prefixFree_encodeField.flatMap_inj encodeField_ne_nil
    (fun s hs => isField_of_mem h hs) (fun s hs => isField_of_mem h' hs) heq
  exact encodedFields_inj hfields

/-! ### Keys -/

theorem prefixFree_hexByte : PrefixFree (fun _ => True) Sha256.hexByte := by
  intro a b x y _ _ h
  simp only [Sha256.hexByte, List.cons_append, List.nil_append, List.cons.injEq] at h
  obtain ⟨hhigh, hlow, hrest⟩ := h
  have hdigit : ∀ m < 16, ∀ n < 16, Nat.digitChar m = Nat.digitChar n → m = n := by decide
  have ha : a.toNat < 256 := a.toNat_lt
  have hb : b.toNat < 256 := b.toNat_lt
  have hhigh := hdigit _ (by omega) _ (by omega) hhigh
  have hlow := hdigit _ (by omega) _ (by omega) hlow
  exact ⟨UInt8.toNat_inj.1 (by omega), hrest⟩

theorem digest_of_hexDigest {m n : List UInt8} (h : Sha256.hexDigest m = Sha256.hexDigest n) :
    Sha256.digest m = Sha256.digest n := by
  have hchars := String.ofList_injective h
  exact prefixFree_hexByte.flatMap_inj (by simp [Sha256.hexByte]) (by simp) (by simp) hchars

theorem key_eq_iff {r r' : SearchRequest} :
    r.key = r'.key ↔ Sha256.digest r.encoding = Sha256.digest r'.encoding := by
  refine ⟨fun h => ?_, fun h => ?_⟩
  · have hchars := congrArg String.toList h
    simp only [SearchRequest.key, versionedKey, String.toList_append] at hchars
    have hprint : r.fingerprint = r'.fingerprint :=
      String.toList_inj.1 (List.append_cancel_left (List.append_cancel_left hchars))
    exact digest_of_hexDigest hprint
  · simp only [SearchRequest.key, SearchRequest.fingerprint, Sha256.hexDigest, h]

/-- Requests have the same encoding only when they are the same, and the same key only when the
digests of their encodings are the same. The order and the groups in which values were given for the
filters do not matter. -/
theorem encoding_eq_iff {r r' : SearchRequest} (h : r.IsSized) (h' : r'.IsSized) :
    (r.encoding = r'.encoding ↔ r = r') ∧
      (r.key = r'.key ↔ Sha256.digest r.encoding = Sha256.digest r'.encoding) ∧
      ∀ given given' : List (FilterKey × List String),
        (∀ key value, Filters.Gives given key value ↔ Filters.Gives given' key value) →
          SearchRequest.key { r with filters := .ofGiven given } =
            SearchRequest.key { r with filters := .ofGiven given' } := by
  refine ⟨⟨encoding_inj h h', fun heq => heq ▸ rfl⟩, key_eq_iff, fun given given' hgives => ?_⟩
  rw [Filters.ofGiven_congr hgives]

/-- A text in another field, and values given in another order and in two groups. -/
theorem encoding_eq_iff_regrouped :
    let r : SearchRequest := { SearchRequest.all with query := "tls" }
    let r' : SearchRequest := { SearchRequest.all with before := "tls" }
    r.IsSized ∧ r'.IsSized ∧ r.encoding ≠ r'.encoding ∧
      SearchRequest.key { r with filters := .ofGiven [(.type, ["fix", "Feat"])] } =
        SearchRequest.key { r with filters := .ofGiven [(.type, ["Feat"]), (.type, ["fix"])] } := by
  intro r r'
  have hcount : ∀ key, (Filters.empty.values key).length < 2 ^ 64 := by
    intro key
    cases key <;> decide
  have hvalue : ∀ key, ∀ value ∈ Filters.empty.values key, IsField value := by
    intro key
    cases key <;> simp [Filters.empty, Filters.values]
  have hr : r.IsSized := ⟨by decide, hcount, hvalue, by decide, by decide, by decide, by decide⟩
  have hr' : r'.IsSized := ⟨by decide, hcount, hvalue, by decide, by decide, by decide, by decide⟩
  have hcode := encoding_eq_iff hr hr'
  refine ⟨hr, hr', fun heq => absurd (hcode.1.1 heq) (by decide), ?_⟩
  refine hcode.2.2 _ _ fun key value => ?_
  simp only [Filters.Gives, List.mem_cons, Prod.mk.injEq, List.not_mem_nil, or_false]
  grind

end CommitSearch
