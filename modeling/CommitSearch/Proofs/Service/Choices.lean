import CommitSearch.Http.SearchParameters
import CommitSearch.Proofs.Service.Coverage
import CommitSearch.Proofs.Store.Saving
import CommitSearch.Proofs.Store.Search

/-!
# Listed values as choices

A value that is listed for a filter is the attribute of a stored commit, in its form, so asking for
it asks for what is stored. A parameter is cut at commas before it becomes the values of a filter.
Main statement: the parameter of a listed value selects the commits whose attribute is one of its
parts, and when the value has no comma, exactly those that have it, of which there is one.
-/

namespace CommitSearch

open CommitSearch.Text

/-! ### The request for one value -/

theorem FilterKey.valueOf_sanitize (key : FilterKey) (c : Commit) :
    key.valueOf c.sanitize = normalize (key.valueOf c) := by
  cases key <;> rfl

theorem Commit.IsInForm.valueOf_eq {c : Commit} (h : c.IsInForm) (key : FilterKey) :
    normalize (key.valueOf c) = key.valueOf c := by
  rw [← key.valueOf_sanitize, h.stable]

theorem fieldsAt_of_not_mem {separator : Char} {s : String} (h : separator ∉ s.toList) :
    fieldsAt separator s = [s] := by
  have hnone : ∀ c ∈ s.toList, (c == separator) = false := by
    intro c hc
    rw [beq_eq_false_iff_ne]
    rintro rfl
    exact h hc
  rw [fieldsAt, fields_of_none hnone, List.map_singleton, String.ofList_toList]

theorem normalizeValues_singleton {v : String} (normal : normalize v = v) (given : v ≠ "") :
    normalizeValues [v] = [v] := by
  simp [normalizeValues, normal, given]

theorem ofParameters_filter (key : FilterKey) (v : String) :
    SearchRequest.ofParameters [(key.name, v)] =
      .ok { SearchRequest.all with filters := Filters.empty.insert key (fieldsAt ',' v) } := by
  have hname : SearchRequest.setParameter .all (key.name, v) =
      .ok { SearchRequest.all with filters := Filters.empty.insert key (fieldsAt ',' v) } := by
    cases key <;> rfl
  rw [SearchRequest.ofParameters, List.foldlM_cons, hname]
  rfl

/-- What a request for values of one key selects: everything when the values are all blank. -/
theorem wanted_of_filter {s : Snapshot} {key : FilterKey} {values : List String} {c : Commit} :
    Wanted s { SearchRequest.all with filters := Filters.empty.insert key values } none none c ↔
      normalizeValues values = [] ∨ key.valueOf c ∈ normalizeValues values := by
  have hmem : ∀ v, v ∈ (Filters.empty.insert key values).values key ↔ v ∈ normalizeValues values := by
    intro v
    rw [Filters.values_insert, if_pos rfl, mem_foldr_insertDistinct]
    refine or_iff_left ?_
    cases key <;> exact List.not_mem_nil
  have hnil : (Filters.empty.insert key values).values key = [] ↔ normalizeValues values = [] := by
    simp only [List.eq_nil_iff_forall_not_mem, hmem]
  constructor
  · intro wanted
    by_cases hempty : normalizeValues values = []
    · exact .inl hempty
    · have hkey : key ∈ FilterKey.all := by cases key <;> decide
      exact .inr ((hmem _).1 (wanted.value key hkey (mt hnil.1 hempty)))
  · intro h
    refine ⟨.inl rfl, fun other _ hne => ?_, nofun, nofun⟩
    by_cases hother : other = key
    · subst hother
      exact (hmem _).2 (h.resolve_left (mt hnil.2 hne))
    · rw [Filters.values_insert, if_neg hother] at hne
      exact absurd (by cases other <;> rfl) hne

namespace Service

variable {start s s' : State} {acts : List Act} {count : Nat} {a : Act}

/-! ### Stored commits are in their form -/

/-- What is stored is in its form, and so is what is about to be stored. -/
structure State.IsInForm (s : State) : Prop where
  stored : ∀ c ∈ s.store.commits, c.IsInForm
  accepted : ∀ {i c}, s.Stands i (.save (.insert c)) → c.IsInForm

theorem isInForm_of_accept {c d : Commit} (h : Store.accept c = .ok d) : d.IsInForm := by
  obtain ⟨hcheck, rfl⟩ := Store.form_of_accept h
  exact ⟨c.sanitize_sanitize, hcheck⟩

theorem isInForm_step (hl : LockFits s) (h : s.IsInForm) (hstep : Step s a s') : s'.IsInForm := by
  constructor
  · intro c hc
    rcases commits_step hstep with hsame | ⟨i, d, stands, hadded⟩
    · rw [hsame] at hc
      exact h.stored c hc
    · rw [hadded] at hc
      rcases List.mem_append.1 hc with hc | hc
      · exact h.stored c hc
      · rw [List.mem_singleton.1 hc]
        exact h.accepted stands
  · intro i c hs
    rcases save_from hl hstep hs with hold | ⟨d, -, heq⟩ | ⟨t, fault, e, stands, goes⟩
    · exact h.accepted hold
    · cases heq
    · cases goes with
      | accept check => exact isInForm_of_accept check

theorem isInForm_run (run : Run (fresh (.memory .empty)) acts count s) : s.IsInForm := by
  induction run with
  | nothing => exact ⟨nofun, fun hs => absurd hs (not_stands_fresh _)⟩
  | act run next ih => exact isInForm_step (lockFits_run run) ih (step_of_act next)

/-! ### Listed values -/

/-- A listed value is not empty and the attribute of a stored commit. -/
theorem attribute_of_listed (run : Run (fresh (.memory .empty)) acts count s) {lists : FilterValues}
    (listed : s.listed none = .ok (.filters lists)) {key : FilterKey} {values : List String}
    (entry : (key, values) ∈ lists) {v : String} (member : v ∈ values) :
    v ≠ "" ∧ ∃ c ∈ s.store.commits, key.valueOf c = v := by
  have hlists : s.store.snapshot.filters = lists := by
    cases hs : s.store with
    | memory contents =>
      rw [State.listed, hs] at listed
      cases listed
      rfl
    | disconnected => exact absurd hs (connected_run run)
  have hcovered := (fits_run run).inPlace
  cases hin : ((fresh (.memory .empty)).coverage acts).inPlace with
  | none =>
    rw [hin] at hcovered
    rw [← hlists, show s.store.snapshot = .empty from hcovered] at entry
    cases entry
  | some n =>
    rw [hin] at hcovered
    rw [← hlists, hcovered.2] at entry
    obtain ⟨k, -, heq⟩ := List.mem_map.1 entry
    cases heq
    obtain ⟨given, c, hc, hv⟩ := Snapshot.mem_valuesOf.1 member
    exact ⟨given, c, List.mem_of_mem_take hc, hv⟩

/-- The request made from one parameter that holds a listed value, in any reachable state. -/
theorem listed_value_found (run : Run (fresh (.memory .empty)) acts count s) {lists : FilterValues}
    (listed : s.listed none = .ok (.filters lists)) {key : FilterKey} {values : List String}
    (entry : (key, values) ∈ lists) {v : String} (member : v ∈ values) :
    ∃ contents r q, s.store = .memory contents ∧
      SearchRequest.ofParameters [(key.name, v)] = .ok r ∧ Store.queryOf r [] = .ok q ∧
      s.store.search r = .ok (contents.execute q) ∧
      (∀ c, c ∈ contents.selected q ↔ c ∈ contents.commits ∧
        (normalizeValues (fieldsAt ',' v) = [] ∨
          key.valueOf c ∈ normalizeValues (fieldsAt ',' v))) ∧
      (',' ∉ v.toList →
        (∀ c, c ∈ contents.selected q ↔ c ∈ contents.commits ∧ key.valueOf c = v) ∧
        ∃ c, c ∈ contents.selected q) := by
  obtain ⟨given, d, stored, hd⟩ := attribute_of_listed run listed entry member
  have normal : normalize v = v := by
    rw [← hd]
    exact ((isInForm_run run).stored d stored).valueOf_eq key
  cases hs : s.store with
  | disconnected => exact absurd hs (connected_run run)
  | memory contents =>
    rw [hs] at stored
    obtain ⟨q, hquery, hsearch, hselected⟩ := search_of_words (s := contents)
      (r := { SearchRequest.all with filters := Filters.empty.insert key (fieldsAt ',' v) })
      (.insert .empty key _) (resolve_of_blank rfl) ⟨fun _ => rfl, nofun⟩ rfl rfl rfl
    simp only [wanted_of_filter] at hselected
    refine ⟨contents, _, q, rfl, ofParameters_filter key v, hquery, hsearch, hselected, ?_⟩
    intro plain
    have hvalues : normalizeValues (fieldsAt ',' v) = [v] := by
      rw [fieldsAt_of_not_mem plain, normalizeValues_singleton normal given]
    have hexact : ∀ c, c ∈ contents.selected q ↔ c ∈ contents.commits ∧ key.valueOf c = v := by
      intro c
      rw [hselected, hvalues]
      simp
    exact ⟨hexact, d, (hexact d).2 ⟨stored, hd⟩⟩

/-- A save to its end, and then a refresh. -/
def saveThenRefresh (c : Commit) : List Act :=
  .call (.save c) :: List.replicate 3 (.step 0 none) ++
    .call .refresh :: List.replicate 4 (.step 2 none)

/-- The type that is listed finds the commit of that type. -/
theorem listed_value_found_fix :
    ∃ s lists values contents q,
      (fresh (.memory .empty)).after (saveThenRefresh savedCommit) = some s ∧
      s.listed none = .ok (.filters lists) ∧ (.type, values) ∈ lists ∧ "fix" ∈ values ∧
      s.store = .memory contents ∧
      (∀ c, c ∈ contents.selected q ↔ c ∈ contents.commits ∧ FilterKey.type.valueOf c = "fix") ∧
      ∃ c, c ∈ contents.selected q := by
  obtain ⟨s, lists, reached, listed, entry⟩ : ∃ s lists,
      (fresh (.memory .empty)).after (saveThenRefresh savedCommit) = some s ∧
      s.listed none = .ok (.filters lists) ∧ (.type, ["fix"]) ∈ lists :=
    ⟨_, _, rfl, rfl, .tail _ (.head _)⟩
  obtain ⟨count, -, run⟩ := run_of_after reached
  obtain ⟨contents, r, q, hstore, -, -, -, -, hplain⟩ :=
    listed_value_found run listed entry (List.mem_singleton_self "fix")
  exact ⟨s, lists, _, contents, q, reached, listed, entry, List.mem_singleton_self _, hstore,
    hplain (by decide +kernel)⟩

/-- A commit whose type has a comma. -/
def commaCommit : Commit := { savedCommit with type := "feat,fix" }

/-- The type that is listed does not find the commit of that type: it is taken for two. -/
theorem listed_value_with_comma_missed :
    ∃ s lists values r,
      (fresh (.memory .empty)).after (saveThenRefresh commaCommit) = some s ∧
      s.listed none = .ok (.filters lists) ∧ (.type, values) ∈ lists ∧ "feat,fix" ∈ values ∧
      SearchRequest.ofParameters [("type", "feat,fix")] = .ok r ∧
      s.store.search r = .ok ⟨[], 0⟩ ∧ s.store.commits = [commaCommit] := by
  let contents : Contents := ⟨[commaCommit], .build [commaCommit]⟩
  obtain ⟨s, lists, reached, hstore, listed, entry⟩ : ∃ s lists,
      (fresh (.memory .empty)).after (saveThenRefresh commaCommit) = some s ∧
      s.store = .memory contents ∧
      s.listed none = .ok (.filters lists) ∧ (.type, ["feat,fix"]) ∈ lists :=
    ⟨_, _, rfl, rfl, rfl, .tail _ (.head _)⟩
  let q := Query.build defaultPageSize none []
    (Filters.empty.insert .type (fieldsAt ',' "feat,fix")) none none
  have hempty : contents.execute q = ⟨[], 0⟩ := by decide +kernel
  refine ⟨s, lists, _, _, reached, listed, entry, List.mem_singleton_self _,
    ofParameters_filter .type "feat,fix", ?_, ?_⟩
  · rw [hstore, ← hempty]
    rfl
  · rw [hstore]
    rfl

end Service
end CommitSearch
