import CommitSearch.Proofs.Store.Search
import CommitSearch.Proofs.Text.Ascending

/-!
# Filters by insertion

Filters hold for every key the normal forms of the values that were given for it, blank ones left
out. They ascend, so filters are the same when the same values were given, in whatever order and
groups.
-/

namespace CommitSearch

open CommitSearch.Text

namespace Filters

def ofGiven (given : List (FilterKey × List String)) : Filters :=
  given.foldl (fun f group => f.insert group.1 group.2) .empty

/-- A value was given for a key, in one of the groups. -/
def Gives (given : List (FilterKey × List String)) (key : FilterKey) (value : String) : Prop :=
  ∃ values, (key, values) ∈ given ∧ value ∈ values

theorem ext_values {f g : Filters} (h : ∀ key, f.values key = g.values key) : f = g := by
  have hrepository := h .repository
  have htype := h .type
  have hcomponent := h .component
  cases f
  cases g
  simp only [values] at hrepository htype hcomponent
  rw [hrepository, htype, hcomponent]

theorem Built.ascending {f : Filters} (h : f.Built) (key : FilterKey) :
    (f.values key).Pairwise (· < ·) := by
  induction h with
  | empty => cases key <;> exact List.Pairwise.nil
  | @insert f built key' values ih =>
    rw [values_insert]
    split
    · next hk => exact ascending_foldr_insertDistinct (hk ▸ ih) _
    · exact ih

theorem built_foldl {f : Filters} (h : f.Built) (given : List (FilterKey × List String)) :
    (given.foldl (fun f group => f.insert group.1 group.2) f).Built := by
  induction given generalizing f with
  | nil => exact h
  | cons group rest ih => exact ih (.insert h group.1 group.2)

theorem built_ofGiven (given : List (FilterKey × List String)) : (ofGiven given).Built :=
  built_foldl .empty given

theorem gives_cons {group : FilterKey × List String} {rest : List (FilterKey × List String)}
    {key : FilterKey} {value : String} : Gives (group :: rest) key value ↔
      (key = group.1 ∧ value ∈ group.2) ∨ Gives rest key value := by
  obtain ⟨k, vs⟩ := group
  simp only [Gives, List.mem_cons, Prod.mk.injEq]
  grind

theorem mem_foldl_insert {f : Filters} {given : List (FilterKey × List String)} {key : FilterKey}
    {v : String} :
    v ∈ (given.foldl (fun f group => f.insert group.1 group.2) f).values key ↔
      v ∈ f.values key ∨ (v ≠ "" ∧ ∃ u, Gives given key u ∧ normalize u = v) := by
  induction given generalizing f with
  | nil => simp [Gives]
  | cons group rest ih =>
    have hinsert : v ∈ (f.insert group.1 group.2).values key ↔
        v ∈ f.values key ∨ (v ≠ "" ∧ ∃ u, (key = group.1 ∧ u ∈ group.2) ∧ normalize u = v) := by
      rw [values_insert]
      split
      · next hk =>
        subst hk
        rw [mem_foldr_insertDistinct, mem_normalizeValues]
        grind
      · next hk => simp [hk]
    rw [List.foldl_cons, ih, hinsert]
    simp only [gives_cons]
    grind

theorem mem_values_ofGiven {given : List (FilterKey × List String)} {key : FilterKey} {v : String} :
    v ∈ (ofGiven given).values key ↔ v ≠ "" ∧ ∃ u, Gives given key u ∧ normalize u = v := by
  have hempty : v ∉ Filters.empty.values key := by cases key <;> simp [empty, values]
  rw [ofGiven, mem_foldl_insert]
  simp [hempty]

/-- Filters do not depend on the order and the groups in which values were given. -/
theorem ofGiven_congr {given given' : List (FilterKey × List String)}
    (h : ∀ key value, Gives given key value ↔ Gives given' key value) :
    ofGiven given = ofGiven given' := by
  refine ext_values fun key => ?_
  refine ascending_ext ((built_ofGiven given).ascending key) ((built_ofGiven given').ascending key) ?_
  intro v
  rw [mem_values_ofGiven, mem_values_ofGiven]
  simp only [h]

theorem mem_toList {f : Filters} {key : FilterKey} {values : List String} :
    (key, values) ∈ f.toList ↔ values = f.values key ∧ values ≠ [] := by
  have hall : key ∈ FilterKey.all := by cases key <;> decide
  simp only [toList, List.mem_filter, List.mem_map, Prod.mk.injEq]
  constructor
  · rintro ⟨⟨k, -, rfl, rfl⟩, hne⟩
    exact ⟨rfl, by simpa using hne⟩
  · rintro ⟨rfl, hne⟩
    exact ⟨⟨key, hall, rfl, rfl⟩, by simpa using hne⟩

theorem toList_inj {f g : Filters} (h : f.toList = g.toList) : f = g := by
  refine ext_values fun key => ?_
  by_cases hf : f.values key = []
  · by_cases hg : g.values key = []
    · rw [hf, hg]
    · have hm : (key, g.values key) ∈ f.toList := h ▸ mem_toList.2 ⟨rfl, hg⟩
      exact (mem_toList.1 hm).1.symm
  · have hm : (key, f.values key) ∈ g.toList := h ▸ mem_toList.2 ⟨rfl, hf⟩
    exact (mem_toList.1 hm).1

end Filters
end CommitSearch
