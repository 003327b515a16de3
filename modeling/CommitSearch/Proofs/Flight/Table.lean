import CommitSearch.Proofs.Flight.Run

/-!
# The table of flights in a run

The table holds exactly the keys that are led, each once and by one caller (`TableFits`). A step
leaves keys and leaders as they are, begins one flight or closes one; each of the three keeps the
invariant.
-/

namespace CommitSearch.Flight

variable {α : Type}

/-- The table holds exactly the keys that are led, each once and by one caller. -/
structure TableFits (g : Group α) : Prop where
  leader_unique : ∀ {key i j}, g.Leads i key → g.Leads j key → i = j
  flight_iff : ∀ key, g.flights.has key = true ↔ ∃ i, g.Leads i key
  keys_nodup : (g.flights.map Flight.key).Nodup

theorem tableFits_of_same {g g' : Group α} (h : TableFits g)
    (hl : ∀ i k, g'.Leads i k ↔ g.Leads i k) (hh : ∀ k, g'.flights.has k = g.flights.has k)
    (hk : g'.flights.map Flight.key = g.flights.map Flight.key) : TableFits g' := by
  constructor
  · intro k i j hi hj
    exact h.leader_unique ((hl i k).1 hi) ((hl j k).1 hj)
  · intro k
    rw [hh, h.flight_iff]
    exact exists_congr fun i => (hl i k).symm
  · rw [hk]
    exact h.keys_nodup

theorem tableFits_of_lead {g g' : Group α} {id : Nat} {key : String} (h : TableFits g)
    (free : g.flights.has key = false)
    (hl : ∀ i k, g'.Leads i k ↔ g.Leads i k ∨ (i = id ∧ k = key))
    (hf : g'.flights = g.flights.begin key) : TableFits g' := by
  have hnone : ∀ i, ¬g.Leads i key := by
    intro i hi
    rw [(h.flight_iff key).2 ⟨i, hi⟩] at free
    cases free
  constructor
  · intro k i j hi hj
    rcases (hl i k).1 hi with hi | ⟨hi, hk⟩ <;> rcases (hl j k).1 hj with hj | ⟨hj, hk'⟩
    · exact h.leader_unique hi hj
    · exact absurd (hk' ▸ hi) (hnone i)
    · exact absurd (hk ▸ hj) (hnone j)
    · exact hi.trans hj.symm
  · intro k
    rw [hf, Flights.has_begin, h.flight_iff]
    constructor
    · rintro (⟨i, hi⟩ | hk)
      · exact ⟨i, (hl i k).2 (.inl hi)⟩
      · exact ⟨id, (hl id k).2 (.inr ⟨rfl, hk⟩)⟩
    · rintro ⟨i, hi⟩
      rcases (hl i k).1 hi with hi | ⟨-, hk⟩
      · exact .inl ⟨i, hi⟩
      · exact .inr hk
  · have hout : key ∉ g.flights.map Flight.key := by
      intro hm
      obtain ⟨f, hf, hk⟩ := List.mem_map.1 hm
      rw [(g.flights.has_iff key).2 ⟨f, hf, hk⟩] at free
      cases free
    rw [hf, Flights.begin, List.map_append]
    refine List.nodup_append.2 ⟨h.keys_nodup, by simp, ?_⟩
    intro a ha b hb e
    have hb : b = key := by simpa using hb
    exact hout (hb ▸ e ▸ ha)

theorem tableFits_of_close {g g' : Group α} {key : String} (h : TableFits g)
    (hl : ∀ i k, g'.Leads i k ↔ g.Leads i k ∧ k ≠ key)
    (hf : g'.flights = g.flights.close key) : TableFits g' := by
  constructor
  · intro k i j hi hj
    exact h.leader_unique ((hl i k).1 hi).1 ((hl j k).1 hj).1
  · intro k
    rw [hf, Flights.has_close, h.flight_iff]
    constructor
    · rintro ⟨⟨i, hi⟩, hk⟩
      exact ⟨i, (hl i k).2 ⟨hi, hk⟩⟩
    · rintro ⟨i, hi⟩
      exact ⟨⟨i, ((hl i k).1 hi).1⟩, ((hl i k).1 hi).2⟩
  · rw [hf]
    exact h.keys_nodup.sublist (List.filter_sublist.map _)

/-! ### The leaders after a caller has moved -/

theorem leads_place {g : Group α} {id : Nat} {key : String} {p q : Phase α}
    (hp : g.Stands id key p) (hpl : p ≠ .leading) (hql : q ≠ .leading) (i : Nat) (k : String) :
    (g.place id q).Leads i k ↔ g.Leads i k := by
  simp only [Group.Leads, stands_place hp q]
  constructor
  · rintro (⟨-, -, hq⟩ | ⟨-, hl⟩)
    · exact absurd hq.symm hql
    · exact hl
  · intro hl
    refine .inr ⟨?_, hl⟩
    rintro rfl
    exact hpl (hp.inj hl).2

theorem leads_place_leading {g : Group α} {id : Nat} {key : String} (hj : g.Stands id key .joining)
    (i : Nat) (k : String) :
    (g.place id .leading).Leads i k ↔ g.Leads i k ∨ (i = id ∧ k = key) := by
  simp only [Group.Leads, stands_place hj]
  constructor
  · rintro (⟨hi, hk, -⟩ | ⟨-, hl⟩)
    · exact .inr ⟨hi, hk⟩
    · exact .inl hl
  · rintro (hl | ⟨hi, hk⟩)
    · refine .inr ⟨?_, hl⟩
      rintro rfl
      cases (hj.inj hl).2
    · exact .inl ⟨hi, hk, trivial⟩

/-- When a leader stops leading, the leaders of the other keys are left. -/
theorem leads_place_closed {g : Group α} {id : Nat} {key : String} {q : Phase α} (h : TableFits g)
    (hl : g.Leads id key) (hql : q ≠ .leading) (i : Nat) (k : String) :
    (g.place id q).Leads i k ↔ g.Leads i k ∧ k ≠ key := by
  simp only [Group.Leads, stands_place hl q]
  constructor
  · rintro (⟨-, -, hq⟩ | ⟨hi, hl'⟩)
    · exact absurd hq.symm hql
    · exact ⟨hl', fun hk => hi (h.leader_unique (hk ▸ hl') hl)⟩
  · rintro ⟨hl', hk⟩
    refine .inr ⟨?_, hl'⟩
    rintro rfl
    exact hk (hl'.inj hl).1

theorem leads_placeWaiting (g : Group α) (ids : List Nat) {q : Phase α} (hq : q ≠ .leading)
    (i : Nat) (k : String) : (g.placeWaiting ids q).Leads i k ↔ g.Leads i k := by
  simp only [Group.Leads, stands_placeWaiting]
  constructor
  · rintro (⟨-, -, he⟩ | ⟨hl, -⟩)
    · exact absurd he.symm hq
    · exact hl
  · intro hl
    exact .inr ⟨hl, fun h => by cases h.1⟩

theorem tableFits_step {g g' : Group α} {a : Act α} (h : TableFits g) (hs : Step g a g') :
    TableFits g' := by
  cases hs with
  | enter key =>
    refine tableFits_of_same h (fun i k => ?_) (fun k => rfl) rfl
    simp [Group.Leads, stands_enter]
  | lead joining free => exact tableFits_of_lead h free (leads_place_leading joining) rfl
  | wait joining taken =>
    exact tableFits_of_same h (leads_place joining (by simp) (by simp))
      (fun k => Flights.has_wait _ _ _ k) (Flights.keys_wait _ _ _)
  | publish outcome leads =>
    exact tableFits_of_close h (leads_place_closed h leads (by simp)) rfl
  | answer publishing =>
    refine tableFits_of_same h (fun i k => ?_) (fun k => rfl) rfl
    rw [leads_placeWaiting _ _ (by simp)]
    exact leads_place publishing (by simp) (by simp) i k
  | conclude publishing =>
    exact tableFits_of_same h (leads_place publishing (by simp) (by simp)) (fun k => rfl) rfl
  | receive answered =>
    exact tableFits_of_same h (leads_place answered (by simp) (by simp)) (fun k => rfl) rfl
  | retry abandoned =>
    exact tableFits_of_same h (leads_place abandoned (by simp) (by simp)) (fun k => rfl) rfl
  | abandon leads =>
    refine tableFits_of_close h (fun i k => ?_) rfl
    exact (leads_placeWaiting _ _ (by simp) i k).trans
      (leads_place_closed h leads (by simp) i k)
  | leave stands follows =>
    refine tableFits_of_same h (leads_place stands ?_ (by simp)) (fun k => rfl) rfl
    rintro rfl
    rcases follows with hf | hf <;> cases hf

theorem tableFits_run {acts : List (Act α)} {g : Group α} (h : Run acts g) : TableFits g := by
  induction h with
  | start => constructor <;> simp [Group.empty, Group.Leads, Group.Stands, Flights.has]
  | act _ ha ih => exact tableFits_step ih (step_of_act ha)

end CommitSearch.Flight
