import CommitSearch.Http.SearchParameters
import CommitSearch.Proofs.Filter.Canonical

/-!
# Searches from parameters

Parameters of different names do not interfere: a request is put together from the values that each
name was given, and it does not matter how the names are mixed. `Asks` says what request that is.
Main statement: parameters with the same values for every known name give the same request or the
same error, the request is the one they ask for, and there is none exactly if a page size is not
allowed or the bounds are not valid.
-/

namespace CommitSearch.Text

/-! ### Numbers -/

/-- Characters that spell a number: one decimal digit or more, a plus sign before them or not. -/
def SpellsCount (cs : List Char) (n : Nat) : Prop :=
  ∃ digits, (cs = digits ∨ cs = '+' :: digits) ∧ digits ≠ [] ∧
    (∀ c ∈ digits, c.isDigit = true) ∧ Nat.ofDigitChars 10 digits 0 = n

theorem digitValue_ten (c : Char) :
    digitValue 10 c = if c.isDigit then some (c.toNat - '0'.toNat) else none := by
  unfold digitValue hexValue
  split
  · next h =>
    have hdigit : 48 ≤ c.toNat ∧ c.toNat ≤ 57 := Char.isDigit_iff_toNat.1 h
    have hzero : '0'.toNat = 48 := rfl
    exact Option.filter_some_pos (decide_eq_true (by omega))
  · split
    · simp
    · split <;> simp

theorem foldlM_digitValue_iff {cs : List Char} {m n : Nat} :
    cs.foldlM (fun n c => (digitValue 10 c).map (10 * n + ·)) m = some n ↔
      (∀ c ∈ cs, c.isDigit = true) ∧ Nat.ofDigitChars 10 cs m = n := by
  induction cs generalizing m with
  | nil => simp
  | cons c cs ih =>
    rw [List.foldlM_cons, digitValue_ten, Nat.ofDigitChars_cons]
    by_cases hc : c.isDigit = true
    · simp [hc, ih]
    · simp [hc]

theorem readNumeral_ten_iff {cs : List Char} {n : Nat} : readNumeral 10 cs = some n ↔
    cs ≠ [] ∧ (∀ c ∈ cs, c.isDigit = true) ∧ Nat.ofDigitChars 10 cs 0 = n := by
  unfold readNumeral
  cases cs with
  | nil => simp
  | cons c cs =>
    rw [List.isEmpty_cons, if_neg Bool.false_ne_true, foldlM_digitValue_iff]
    simp

theorem readCount_eq_some_iff {greatest n : Nat} {s : String} :
    readCount greatest s = some n ↔ SpellsCount s.toList n ∧ n ≤ greatest := by
  have hfilter : ∀ cs, (readNumeral 10 cs).filter (· ≤ greatest) = some n ↔
      readNumeral 10 cs = some n ∧ n ≤ greatest := by
    intro cs
    simp [Option.filter_eq_some_iff]
  unfold readCount
  dsimp only
  rw [hfilter]
  refine and_congr_left fun _ => ?_
  split
  · next rest hplus =>
    rw [readNumeral_ten_iff, hplus]
    constructor
    · intro h
      exact ⟨rest, .inr rfl, h⟩
    · rintro ⟨digits, hdigits | hdigits, hne, hall, hvalue⟩
      · have hsign := hall '+' (hdigits ▸ List.mem_cons_self)
        cases hsign
      · cases hdigits
        exact ⟨hne, hall, hvalue⟩
  · next hplain =>
    rw [readNumeral_ten_iff]
    constructor
    · intro h
      exact ⟨s.toList, .inl rfl, h⟩
    · rintro ⟨digits, hdigits | hdigits, h⟩
      · exact hdigits ▸ h
      · exact absurd hdigits (hplain digits)

end CommitSearch.Text

namespace CommitSearch

open CommitSearch.Http CommitSearch.Text

/-! ### Page sizes -/

/-- A text that is an allowed page size, blanks at its ends aside. -/
structure IsPageSize (text : String) (n : Nat) : Prop where
  spelled : SpellsCount (trim text).toList n
  pos : 1 ≤ n
  le : n ≤ 100

theorem readPageSize_eq_ok_iff {text : String} {n : Nat} :
    readPageSize text = .ok n ↔ IsPageSize text n := by
  have hcount : ∀ m, readCount (Nat.pow 2 32 - 1) (trim text) = some m ↔
      SpellsCount (trim text).toList m ∧ m ≤ Nat.pow 2 32 - 1 := fun _ => readCount_eq_some_iff
  unfold readPageSize
  split
  · next hnone =>
    refine iff_of_false nofun fun h => ?_
    have hread := (hcount n).2 ⟨h.spelled, Nat.le_trans h.le (by decide)⟩
    rw [hnone] at hread
    cases hread
  · next m hsome =>
    obtain ⟨hspelled, -⟩ := (hcount m).1 hsome
    have hgreatest : maxPageSize = 100 := rfl
    split
    · next hout =>
      refine iff_of_false nofun fun h => ?_
      have hread := (hcount n).2 ⟨h.spelled, Nat.le_trans h.le (by decide)⟩
      obtain rfl := Option.some.inj (hsome.symm.trans hread)
      have hpos := h.pos
      have hle := h.le
      omega
    · next hin =>
      constructor
      · intro h
        obtain rfl := Except.ok.inj h
        exact ⟨hspelled, by omega, by omega⟩
      · intro h
        have hread := (hcount n).2 ⟨h.spelled, Nat.le_trans h.le (by decide)⟩
        exact congrArg _ (Option.some.inj (hsome.symm.trans hread))

theorem mapM_eq_ok_iff {ε α β : Type} {f : α → Except ε β} {l : List α} {bs : List β} :
    l.mapM f = .ok bs ↔ l.map f = bs.map .ok := by
  induction l generalizing bs with
  | nil => cases bs <;> simp [pure, Except.pure]
  | cons a l ih =>
    rw [List.mapM_cons, List.map_cons]
    cases ha : f a with
    | error e => cases bs <;> simp [bind, Except.bind]
    | ok b =>
      cases hl : l.mapM f with
      | error e => cases bs <;> simp [bind, Except.bind, ← ih, hl]
      | ok bs' => cases bs <;> simp [bind, Except.bind, pure, Except.pure, ← ih, hl]

theorem exists_sizes_iff {texts : List String} :
    (∃ sizes, texts.mapM readPageSize = .ok sizes) ↔ ∀ text ∈ texts, ∃ n, IsPageSize text n := by
  simp only [mapM_eq_ok_iff, ← readPageSize_eq_ok_iff]
  induction texts with
  | nil => simp
  | cons text texts ih =>
    rw [List.forall_mem_cons, ← ih]
    constructor
    · rintro ⟨sizes, h⟩
      cases sizes with
      | nil => cases h
      | cons n sizes =>
        obtain ⟨hn, hsizes⟩ := List.cons.inj h
        exact ⟨⟨n, hn⟩, sizes, hsizes⟩
    · rintro ⟨⟨n, hn⟩, sizes, hsizes⟩
      exact ⟨n :: sizes, by rw [List.map_cons, List.map_cons, hn, hsizes]⟩

/-! ### The values of a name -/

theorem FilterKey.ofName_eq_ok_iff {name : String} {key : FilterKey} :
    FilterKey.ofName name = .ok key ↔ name = key.name := by
  constructor
  · intro h
    unfold FilterKey.ofName at h
    split at h
    · next found =>
      cases h
      have hname := List.find?_some found
      exact (beq_iff_eq.1 hname).symm
    · cases h
  · rintro rfl
    exact FilterKey.ofName_name key

namespace SearchRequest

/-- The values that are given for a name, in their order. -/
def given (name : String) (ps : List Http.Parameter) : List String :=
  ps.filterMap fun p => if p.1 = name then some p.2 else none

/-- The last value that is given for a name, without blanks at its ends, or another text if there is
none. -/
def lastText (otherwise name : String) (ps : List Http.Parameter) : String :=
  ((given name ps).getLast?.map trim).getD otherwise

/-- The values of a filter for which a parameter asks. -/
def choiceOf (p : Http.Parameter) : Option (FilterKey × List String) :=
  match FilterKey.ofName p.1 with
  | .ok key => some (key, fieldsAt ',' p.2)
  | .error _ => none

/-- The names that count. -/
def parameterNames : List String :=
  ["q", "before", "after", "last", "pageSize"] ++ FilterKey.all.map FilterKey.name

variable {r r' : SearchRequest} {ps ps' : List Http.Parameter} {sizes : List Nat}

theorem given_append (name : String) (ps ps' : List Http.Parameter) :
    given name (ps ++ ps') = given name ps ++ given name ps' := List.filterMap_append

theorem lastText_append (otherwise name : String) (ps ps' : List Http.Parameter) :
    lastText otherwise name (ps ++ ps') = lastText (lastText otherwise name ps) name ps' := by
  rw [lastText, given_append, List.getLast?_append, lastText, lastText]
  cases (given name ps').getLast? <;> rfl

theorem gives_choices {key : FilterKey} {value : String} :
    Filters.Gives (ps.filterMap choiceOf) key value ↔
      ∃ text ∈ given key.name ps, value ∈ fieldsAt ',' text := by
  have hchoice : ∀ p : Http.Parameter, ∀ values, choiceOf p = some (key, values) ↔
      p.1 = key.name ∧ values = fieldsAt ',' p.2 := by
    intro p values
    rw [← FilterKey.ofName_eq_ok_iff, choiceOf]
    cases FilterKey.ofName p.1 <;> simp [eq_comm]
  simp only [Filters.Gives, given, List.mem_filterMap, hchoice, Option.ite_none_right_eq_some,
    Option.some.injEq]
  constructor
  · rintro ⟨values, ⟨p, hp, hname, rfl⟩, hvalue⟩
    exact ⟨p.2, ⟨p, hp, hname, rfl⟩, hvalue⟩
  · rintro ⟨text, ⟨p, hp, hname, rfl⟩, hvalue⟩
    exact ⟨_, ⟨p, hp, hname, rfl⟩, hvalue⟩

/-! ### Parameters put into a request -/

/-- A request with what parameters ask for, whose page sizes are read as some numbers. -/
def withParameters (r : SearchRequest) (ps : List Http.Parameter) (sizes : List Nat) :
    SearchRequest where
  query := lastText r.query "q" ps
  filters := (ps.filterMap choiceOf).foldl (fun f group => f.insert group.1 group.2) r.filters
  before := lastText r.before "before" ps
  after := lastText r.after "after" ps
  pageSize := sizes.getLast?.getD r.pageSize
  last := lastText r.last "last" ps

theorem withParameters_append (r : SearchRequest) (ps ps' : List Http.Parameter)
    (sizes sizes' : List Nat) :
    r.withParameters (ps ++ ps') (sizes ++ sizes') =
      (r.withParameters ps sizes).withParameters ps' sizes' := by
  simp only [withParameters, lastText_append, List.filterMap_append, List.foldl_append,
    List.getLast?_append, Option.getD_or]

theorem setParameter_of_ne {name : String} (h : name ≠ "pageSize") (value : String) :
    r.setParameter (name, value) = .ok (r.withParameters [(name, value)] []) := by
  cases hkey : FilterKey.ofName name with
  | ok key =>
    obtain rfl := FilterKey.ofName_eq_ok_iff.1 hkey
    cases key <;> rfl
  | error e =>
    have hchoices : [(name, value)].filterMap choiceOf = [] := by simp [choiceOf, hkey]
    simp only [setParameter, h, hkey, withParameters, hchoices, List.foldl_nil, if_false]
    split_ifs <;> simp [lastText, given, *]

theorem setParameter_eq (r : SearchRequest) (p : Http.Parameter) :
    r.setParameter p =
      ((given "pageSize" [p]).mapM readPageSize).map fun sizes => r.withParameters [p] sizes := by
  obtain ⟨name, value⟩ := p
  by_cases h : name = "pageSize"
  · subst h
    have hset : r.setParameter ("pageSize", value) =
        (readPageSize value).map fun n => r.withParameters [("pageSize", value)] [n] := rfl
    have hgiven : given "pageSize" [("pageSize", value)] = [value] := rfl
    rw [hset, hgiven]
    cases hsize : readPageSize value <;>
      simp [hsize, Except.map, bind, Except.bind, pure, Except.pure]
  · have hgiven : given "pageSize" [(name, value)] = [] := by simp [given, h]
    rw [setParameter_of_ne h, hgiven]
    rfl

theorem foldlM_setParameter (r : SearchRequest) (ps : List Http.Parameter) :
    ps.foldlM setParameter r =
      ((given "pageSize" ps).mapM readPageSize).map fun sizes => r.withParameters ps sizes := by
  -- The request made so far is the one that the rest starts from.
  induction ps generalizing r with
  | nil => rfl
  | cons p ps ih =>
    have hgiven : given "pageSize" (p :: ps) = given "pageSize" [p] ++ given "pageSize" ps :=
      given_append "pageSize" [p] ps
    rw [List.foldlM_cons, setParameter_eq, hgiven, List.mapM_append]
    cases (given "pageSize" [p]).mapM readPageSize with
    | error e => rfl
    | ok sizes =>
      have hrest := ih (r.withParameters [p] sizes)
      simp only [Except.map, bind, Except.bind] at hrest ⊢
      rw [hrest]
      cases (given "pageSize" ps).mapM readPageSize with
      | error e => rfl
      | ok sizes' =>
        have happend := withParameters_append r [p] ps sizes sizes'
        exact congrArg _ happend.symm

/-! ### Requests that parameters ask for -/

/-- The bounds of a request that parameters ask for. -/
def boundsOf (ps : List Http.Parameter) : SearchRequest :=
  { all with
    before := lastText "" "before" ps
    after := lastText "" "after" ps
    last := lastText "" "last" ps }

theorem validate_congr {r r' : SearchRequest} (hbefore : r.before = r'.before)
    (hafter : r.after = r'.after) (hlast : r.last = r'.last) : r.validate = r'.validate := by
  simp only [validate, upperBound, lowerBound, hbefore, hafter, hlast]

theorem ofParameters_eq (ps : List Http.Parameter) :
    ofParameters ps = ((given "pageSize" ps).mapM readPageSize).bind fun sizes =>
      (boundsOf ps).validate.map fun _ => all.withParameters ps sizes := by
  rw [ofParameters, foldlM_setParameter]
  cases (given "pageSize" ps).mapM readPageSize with
  | error e => rfl
  | ok sizes =>
    have hvalid : (all.withParameters ps sizes).validate = (boundsOf ps).validate :=
      validate_congr rfl rfl rfl
    simp only [Except.map, bind, Except.bind, hvalid]
    cases (boundsOf ps).validate <;> rfl

/-- The request for which parameters ask. Of the texts the last one given for a name counts, of the
page sizes too, though every one has to be allowed; a filter accepts what is not blank between the
commas of the values given for it. -/
structure Asks (ps : List Http.Parameter) (r : SearchRequest) : Prop where
  query : r.query = lastText "" "q" ps
  before : r.before = lastText "" "before" ps
  after : r.after = lastText "" "after" ps
  last : r.last = lastText "" "last" ps
  allowed : ∀ text ∈ given "pageSize" ps, ∃ n, IsPageSize text n
  pageSize : ∀ text ∈ (given "pageSize" ps).getLast?, IsPageSize text r.pageSize
  defaultSize : given "pageSize" ps = [] → r.pageSize = 20
  ascending : ∀ key, (r.filters.values key).Pairwise (· < ·)
  value : ∀ key v, v ∈ r.filters.values key ↔
    ∃ text ∈ given key.name ps, ∃ part ∈ fieldsAt ',' text, HasInk part ∧ normalize part = v
  valid : r.validate = .ok ()

theorem mem_filters_withParameters {key : FilterKey} {v : String} :
    v ∈ (all.withParameters ps sizes).filters.values key ↔
      ∃ text ∈ given key.name ps, ∃ part ∈ fieldsAt ',' text, HasInk part ∧ normalize part = v := by
  have hreceives : v ∈ (all.withParameters ps sizes).filters.values key ↔
      Filters.Receives (ps.filterMap choiceOf) key v := Filters.mem_values_iff_receives
  rw [hreceives, Filters.Receives]
  simp only [gives_choices]
  grind

theorem size_of_read (h : (given "pageSize" ps).map readPageSize = sizes.map .ok) :
    (given "pageSize" ps).getLast?.map readPageSize = sizes.getLast?.map .ok := by
  rw [← List.getLast?_map, h, List.getLast?_map]

theorem asks_withParameters (hsizes : (given "pageSize" ps).mapM readPageSize = .ok sizes)
    (hvalid : (boundsOf ps).validate = .ok ()) : Asks ps (all.withParameters ps sizes) where
  query := rfl
  before := rfl
  after := rfl
  last := rfl
  allowed := by
    intro text htext
    have hread : readPageSize text ∈ sizes.map .ok :=
      mapM_eq_ok_iff.1 hsizes ▸ List.mem_map_of_mem htext
    obtain ⟨n, -, hn⟩ := List.mem_map.1 hread
    exact ⟨n, readPageSize_eq_ok_iff.1 hn.symm⟩
  pageSize := by
    intro text htext
    have hlast := size_of_read (mapM_eq_ok_iff.1 hsizes)
    rw [Option.mem_def.1 htext, Option.map_some] at hlast
    obtain ⟨n, hn, hread⟩ := Option.map_eq_some_iff.1 hlast.symm
    rw [withParameters, hn]
    exact readPageSize_eq_ok_iff.1 hread.symm
  defaultSize := by
    intro hnone
    rw [hnone] at hsizes
    cases hsizes
    rfl
  ascending := fun key => Filters.ascending_ofGiven key
  value := fun key v => mem_filters_withParameters
  valid := (validate_congr rfl rfl rfl).trans hvalid

/-- Parameters ask for one request at most. -/
theorem Asks.unique (h : Asks ps r) (h' : Asks ps r') : r = r' := by
  have hfilters : r.filters = r'.filters := by
    refine Filters.ext_values fun key => ascending_ext (h.ascending key) (h'.ascending key) ?_
    intro v
    rw [h.value, h'.value]
  have hsize : r.pageSize = r'.pageSize := by
    cases hlast : (given "pageSize" ps).getLast? with
    | none =>
      have hnone := List.getLast?_eq_none_iff.1 hlast
      rw [h.defaultSize hnone, h'.defaultSize hnone]
    | some text =>
      have hread := readPageSize_eq_ok_iff.2 (h.pageSize text hlast)
      have hread' := readPageSize_eq_ok_iff.2 (h'.pageSize text hlast)
      exact Except.ok.inj (hread.symm.trans hread')
  have hquery := h.query.trans h'.query.symm
  have hbefore := h.before.trans h'.before.symm
  have hafter := h.after.trans h'.after.symm
  have hlast := h.last.trans h'.last.symm
  cases r
  cases r'
  simp_all

theorem exists_ok_iff : (∃ r, ofParameters ps = .ok r) ↔
    (∀ text ∈ given "pageSize" ps, ∃ n, IsPageSize text n) ∧ (boundsOf ps).validate = .ok () := by
  rw [← exists_sizes_iff, ofParameters_eq]
  cases (given "pageSize" ps).mapM readPageSize with
  | error e => simp [Except.bind]
  | ok sizes => cases (boundsOf ps).validate <;> simp [Except.bind, Except.map]

theorem asks_of_ok (h : ofParameters ps = .ok r) : Asks ps r := by
  obtain ⟨hallowed, hvalid⟩ := exists_ok_iff.1 ⟨r, h⟩
  obtain ⟨sizes, hsizes⟩ := exists_sizes_iff.2 hallowed
  rw [ofParameters_eq, hsizes, Except.bind, hvalid] at h
  cases h
  exact asks_withParameters hsizes hvalid

theorem ofParameters_eq_ok_iff : ofParameters ps = .ok r ↔ Asks ps r := by
  refine ⟨asks_of_ok, fun h => ?_⟩
  have hvalid : (boundsOf ps).validate = .ok () :=
    (validate_congr h.before h.after h.last).symm.trans h.valid
  obtain ⟨r', hread⟩ := exists_ok_iff.2 ⟨h.allowed, hvalid⟩
  rw [hread, h.unique (asks_of_ok hread)]

/-! ### The order of parameters -/

theorem ofParameters_congr (h : ∀ name ∈ parameterNames, given name ps = given name ps') :
    ofParameters ps = ofParameters ps' := by
  have htext : ∀ name ∈ parameterNames, lastText "" name ps = lastText "" name ps' := by
    intro name hname
    rw [lastText, lastText, h name hname]
  have hquery := htext "q" (by decide)
  have hbefore := htext "before" (by decide)
  have hafter := htext "after" (by decide)
  have hlast := htext "last" (by decide)
  have hfilters : Filters.ofGiven (ps.filterMap choiceOf) = .ofGiven (ps'.filterMap choiceOf) := by
    refine Filters.ofGiven_congr fun key value => ?_
    rw [gives_choices, gives_choices, h key.name (by cases key <;> decide)]
  have hmade : ∀ sizes, all.withParameters ps sizes = all.withParameters ps' sizes := by
    intro sizes
    rw [SearchRequest.mk.injEq]
    exact ⟨hquery, hfilters, hbefore, hafter, rfl, hlast⟩
  have hbounds : boundsOf ps = boundsOf ps' := by
    rw [boundsOf, boundsOf, hbefore, hafter, hlast]
  rw [ofParameters_eq, ofParameters_eq, h "pageSize" (by decide), hbounds]
  simp only [hmade]

/-- The request that parameters make, or the error, depends on the values of each known name alone.
It is the request for which they ask, and there is none exactly if a page size is not allowed or the
bounds given last are not valid. -/
theorem ofParameters_order_free (ps : List Http.Parameter) :
    (∀ ps', (∀ name ∈ parameterNames, given name ps = given name ps') →
      ofParameters ps = ofParameters ps') ∧
    (∀ r, ofParameters ps = .ok r ↔ Asks ps r) ∧
    ((∃ e, ofParameters ps = .error e) ↔
      (∃ text ∈ given "pageSize" ps, ∀ n, ¬ IsPageSize text n) ∨
        (boundsOf ps).validate ≠ .ok ()) := by
  refine ⟨fun ps' h => ofParameters_congr h, fun r => ofParameters_eq_ok_iff, ?_⟩
  have hfails : (∃ e, ofParameters ps = .error e) ↔ ¬ ∃ r, ofParameters ps = .ok r := by
    cases ofParameters ps <;> simp
  rw [hfails, exists_ok_iff, not_and_or]
  simp only [not_forall, not_exists, exists_prop]

example : ofParameters
    [("type", "feat,Fix"), ("q", " TLS "), ("pageSize", " +7"), ("ref", "mail"), ("type", "fix,")] =
      .ok { all with query := "TLS", filters := ⟨[], ["feat", "fix"], []⟩, pageSize := 7 } := by
  decide +kernel

end SearchRequest
end CommitSearch
