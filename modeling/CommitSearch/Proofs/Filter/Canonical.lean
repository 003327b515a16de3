import CommitSearch.Cache.Key
import CommitSearch.Proofs.Filter.Insertion
import CommitSearch.Proofs.Store.Saving

/-!
# Filters are canonical

What filters hold is the set of the values that were given, in their normal form and without blank
ones, and a query takes it over as it is: one choice for every key that has values, in the order of
the keys. Main statement: filters, and the queries that are built from them, are the same exactly
when the same values were received.
-/

namespace CommitSearch

open CommitSearch.Calendar CommitSearch.Text

/-! ### Received values -/

/-- A text that is not blank was given for a key, in one of the groups, and has a value for its
normal form. -/
def Filters.Receives (given : List (FilterKey × List String)) (key : FilterKey) (value : String) :
    Prop :=
  ∃ text, Filters.Gives given key text ∧ HasInk text ∧ normalize text = value

theorem normalize_ne_empty_iff {text : String} : normalize text ≠ "" ↔ HasInk text := by
  rw [hasInk_iff, ← isEmpty_normalize, Bool.eq_false_iff, Ne, Ne, String.isEmpty_iff]

namespace Filters

variable {given given' : List (FilterKey × List String)}

theorem mem_values_iff_receives {key : FilterKey} {value : String} :
    value ∈ (ofGiven given).values key ↔ Receives given key value := by
  rw [mem_values_ofGiven]
  constructor
  · rintro ⟨hne, text, hgives, rfl⟩
    exact ⟨text, hgives, normalize_ne_empty_iff.1 hne, rfl⟩
  · rintro ⟨text, hgives, hink, rfl⟩
    exact ⟨normalize_ne_empty_iff.2 hink, text, hgives, rfl⟩

theorem ascending_ofGiven (key : FilterKey) : ((ofGiven given).values key).Pairwise (· < ·) :=
  (built_ofGiven given).ascending key

theorem ofGiven_eq_iff : ofGiven given = ofGiven given' ↔
    ∀ key value, Receives given key value ↔ Receives given' key value := by
  constructor
  · intro h key value
    rw [← mem_values_iff_receives, h, mem_values_iff_receives]
  · intro h
    refine ext_values fun key => ascending_ext (ascending_ofGiven key) (ascending_ofGiven key) ?_
    intro value
    rw [mem_values_iff_receives, mem_values_iff_receives, h]

end Filters

/-! ### Choices of a query -/

/-- The key and the values of a predicate that asks for one of some values. -/
def Predicate.choice? : Predicate → Option (FilterKey × List String)
  | .anyOf key values => some (key, values)
  | .matchesAny _ => none
  | .before _ => none
  | .after _ => none

def Query.choices (q : Query) : List (FilterKey × List String) :=
  q.predicates.filterMap Predicate.choice?

variable {filters : Filters} {pageSize : Nat} {cursor : Option Instant} {words : List String}
  {before after : Option Instant}

theorem choices_build (h : filters.Built) :
    (Query.build pageSize cursor words filters before after).choices = filters.toList := by
  have hwords : (Query.wordPredicates words).filterMap Predicate.choice? = [] := by
    unfold Query.wordPredicates
    split <;> rfl
  have hbound : ∀ (p : Instant → Predicate) (b : Option Instant), (∀ i, (p i).choice? = none) →
      (b.map p).toList.filterMap Predicate.choice? = [] := by
    intro p b hp
    cases b with
    | none => rfl
    | some i => simp [hp]
  have hfilters :
      (Query.filterPredicates filters).filterMap Predicate.choice? = filters.toList := by
    rw [filterPredicates_of_built h, List.filterMap_map]
    exact List.filterMap_some
  rw [Query.choices, Query.build, List.filterMap_append, List.filterMap_append,
    List.filterMap_append, hwords, hfilters, hbound _ _ fun _ => rfl, hbound _ _ fun _ => rfl,
    List.append_nil, List.append_nil, List.nil_append]

theorem build_inj {filters' : Filters} (h : filters.Built) (h' : filters'.Built)
    (heq : Query.build pageSize cursor words filters before after =
      Query.build pageSize cursor words filters' before after) : filters = filters' := by
  have hchoices := congrArg Query.choices heq
  rw [choices_build h, choices_build h'] at hchoices
  exact Filters.toList_inj hchoices

/-! ### Canonical filters -/

namespace Filters

/-- Filters to which values were given in groups are determined by the values received, and so are
the fingerprints of requests with them and the queries built from them. A query has one choice for
every key that received a value, in the order of the keys, of the received values in ascending
order, and no others. -/
theorem received_determine (given : List (FilterKey × List String)) :
    (∀ given', ofGiven given = ofGiven given' ↔
      ∀ key value, Receives given key value ↔ Receives given' key value) ∧
    (∀ given', (∀ key value, Receives given key value ↔ Receives given' key value) →
      ∀ r : SearchRequest,
        SearchRequest.fingerprint { r with filters := ofGiven given } =
          SearchRequest.fingerprint { r with filters := ofGiven given' }) ∧
    (∀ given' pageSize cursor words before after,
      Query.build pageSize cursor words (ofGiven given) before after =
          Query.build pageSize cursor words (ofGiven given') before after ↔
        ∀ key value, Receives given key value ↔ Receives given' key value) ∧
    ∃ values : FilterKey → List String,
      (∀ key, (values key).Pairwise (· < ·)) ∧
      (∀ key value, value ∈ values key ↔ Receives given key value) ∧
      ∀ pageSize cursor words before after,
        (Query.build pageSize cursor words (ofGiven given) before after).choices =
          ([.repository, .type, .component].filter fun key => values key ≠ []).map
            fun key => (key, values key) := by
  refine ⟨fun given' => ofGiven_eq_iff, fun given' h r => ?_,
    fun given' pageSize cursor words before after => ⟨fun h => ?_, fun h => ?_⟩,
    (ofGiven given).values, ascending_ofGiven, fun key value => mem_values_iff_receives,
    fun pageSize cursor words before after => ?_⟩
  · rw [ofGiven_eq_iff.2 h]
  · exact ofGiven_eq_iff.1 (build_inj (built_ofGiven given) (built_ofGiven given') h)
  · rw [ofGiven_eq_iff.2 h]
  · rw [choices_build (built_ofGiven given), toList, FilterKey.all, List.filter_map]
    refine congrArg _ (List.filter_congr fun key _ => ?_)
    rw [Bool.eq_iff_iff]
    simp

example :
    let given := [(.type, [" Fix", ""]), (.component, ["\u00a0"]), (.type, ["FIX", "feat"])]
    (Query.build 20 none [] (ofGiven given) none none).choices = [(.type, ["feat", "fix"])] := by
  decide +kernel

end Filters
end CommitSearch
