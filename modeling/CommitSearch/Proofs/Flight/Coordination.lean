import CommitSearch.Proofs.Flight.Clients

/-!
# Coordination of flights

At every moment of every run the callers of a key agree: one of them does the work, the table knows
it, and whoever waits is known to a leader. A caller that has lost its leader remembers nothing of
it; which one it was, and that it was dropped, is read off the run (`LostLeader`).
-/

namespace CommitSearch.Flight

variable {α : Type}

/-- In a run a caller joined, for the last time, while a leader of its key did the work. -/
def JoinedUnder (acts : List (Act α)) (id leader : Nat) : Prop :=
  ∃ before after g key, acts = before ++ .join id :: after ∧ .join id ∉ after ∧ Run before g ∧
    g.Stands id key .joining ∧ g.Leads leader key

/-- In a run a leader was dropped while it did the work, after a caller had joined under it and
before that caller joined again. -/
def LostLeader (acts : List (Act α)) (id leader : Nat) : Prop :=
  ∃ before after g key, acts = before ++ .drop leader :: after ∧ .join id ∉ after ∧
    JoinedUnder before id leader ∧ Run before g ∧ g.Leads leader key

theorem JoinedUnder.snoc {acts : List (Act α)} {id leader : Nat} (h : JoinedUnder acts id leader)
    {a : Act α} (ha : a ≠ .join id) : JoinedUnder (acts ++ [a]) id leader := by
  obtain ⟨before, after, g, key, rfl, hn, hr, hj, hl⟩ := h
  refine ⟨before, after ++ [a], g, key, by simp, ?_, hr, hj, hl⟩
  simpa [hn] using ha.symm

theorem LostLeader.snoc {acts : List (Act α)} {id leader : Nat} (h : LostLeader acts id leader)
    {a : Act α} (ha : a ≠ .join id) : LostLeader (acts ++ [a]) id leader := by
  obtain ⟨before, after, g, key, rfl, hn, hj, hr, hl⟩ := h
  refine ⟨before, after ++ [a], g, key, by simp, ?_, hj, hr, hl⟩
  simpa [hn] using ha.symm

/-! ### Who begins to wait, and who is abandoned -/

theorem not_join_of_stands {g g' : Group α} {a : Act α} (hs : Step g a g') {id : Nat} {k : String}
    {p : Phase α} (h : g.Stands id k p) (hp : p ≠ .joining) : a ≠ .join id := by
  rintro rfl
  cases hs with
  | lead joining free => exact hp (h.inj joining).2
  | wait joining taken => exact hp (h.inj joining).2

theorem step_clients {g g' : Group α} {a : Act α} (ht : TableFits g) (hs : Step g a g')
    {l w : Nat} (h : w ∈ g'.clients l) :
    w ∈ g.clients l ∨ (a = .join w ∧ ∃ key, g.Stands w key .joining ∧ g.Leads l key) := by
  cases hs with
  | enter key => exact .inl (by rwa [clients_enter] at h)
  | lead joining free => exact .inl (by rwa [clients_lead joining free] at h)
  | @wait id key joining taken =>
    obtain ⟨leader, hl⟩ := (ht.flight_iff key).1 taken
    rw [clients_wait ht joining taken hl] at h
    split at h
    · next hi =>
      rcases List.mem_append.1 h with h | h
      · exact .inl h
      · rw [List.mem_singleton.1 h]
        exact .inr ⟨rfl, key, joining, hi ▸ hl⟩
    · exact .inl h
  | publish outcome leads => exact .inl (by rwa [clients_publish ht leads outcome] at h)
  | @answer id w' key outcome due publishing =>
    rw [clients_answer _ publishing] at h
    split at h
    · next hi =>
      rw [hi, clients_publishing publishing]
      exact .inl (List.mem_cons_of_mem _ h)
    · exact .inl h
  | conclude publishing =>
    exact .inl (by rwa [clients_place publishing (by simp) (by simp) (by simp) (by simp)] at h)
  | receive answered =>
    exact .inl (by rwa [clients_place answered (by simp) (by simp) (by simp) (by simp)] at h)
  | retry abandoned =>
    exact .inl (by rwa [clients_place abandoned (by simp) (by simp) (by simp) (by simp)] at h)
  | abandon leads =>
    rw [clients_abandon ht leads] at h
    split at h
    · cases h
    · exact .inl h
  | leave stands follows =>
    refine .inl ?_
    rwa [clients_place stands ?_ (by simp) ?_ (by simp)] at h
    · rintro rfl
      rcases follows with hf | hf <;> cases hf
    · rintro o d rfl
      rcases follows with hf | hf <;> cases hf

theorem step_waiting {g g' : Group α} {a : Act α} (hs : Step g a g') {w : Nat} {k : String}
    (h : g'.Stands w k .waiting) : g.Stands w k .waiting ∨ a = .join w := by
  cases hs with
  | enter key =>
    rcases (stands_enter _ _ _ _ _).1 h with h | ⟨-, -, hq⟩
    · exact .inl h
    · cases hq
  | lead joining free => exact .inl (waiting_of_place joining (by simp) h)
  | wait joining taken =>
    rcases (stands_place joining _ _ _ _).1 h with ⟨rfl, -, -⟩ | ⟨-, h⟩
    · exact .inr rfl
    · exact .inl h
  | publish outcome leads => exact .inl (waiting_of_place leads (by simp) h)
  | answer publishing =>
    rcases (stands_answer _ publishing _ _ _).1 h with ⟨-, -, hq⟩ | ⟨-, -, -, hq⟩ | ⟨-, h, -⟩
    · cases hq
    · cases hq
    · exact .inl h
  | conclude publishing => exact .inl (waiting_of_place publishing (by simp) h)
  | receive answered => exact .inl (waiting_of_place answered (by simp) h)
  | retry abandoned => exact .inl (waiting_of_place abandoned (by simp) h)
  | abandon leads =>
    rcases (stands_abandon leads _ _ _ _).1 h with ⟨-, -, hq⟩ | ⟨-, -, -, hq⟩ | ⟨-, h, -⟩
    · cases hq
    · cases hq
    · exact .inl h
  | leave stands follows => exact .inl (waiting_of_place stands (by simp) h)

/-- Callers are abandoned only by a leader that is dropped, as its clients. -/
theorem step_abandoned {g g' : Group α} {a : Act α} (hs : Step g a g') {w : Nat} {k : String}
    (h : g'.Stands w k .abandoned) :
    g.Stands w k .abandoned ∨
      ∃ l key, a = .drop l ∧ g.Leads l key ∧ w ∈ g.clients l ∧ g.Stands w k .waiting := by
  have moved : ∀ {id key p q}, g.Stands id key p → q ≠ .abandoned →
      (g.place id q).Stands w k .abandoned → g.Stands w k .abandoned := by
    intro id key p q hp hq h
    rcases (stands_place hp q _ _ _).1 h with ⟨-, -, he⟩ | ⟨-, h⟩
    · exact absurd he.symm hq
    · exact h
  cases hs with
  | enter key =>
    rcases (stands_enter _ _ _ _ _).1 h with h | ⟨-, -, hq⟩
    · exact .inl h
    · cases hq
  | lead joining free => exact .inl (moved joining (by simp) h)
  | wait joining taken => exact .inl (moved joining (by simp) h)
  | publish outcome leads => exact .inl (moved leads (by simp) h)
  | answer publishing =>
    rcases (stands_answer _ publishing _ _ _).1 h with ⟨-, -, hq⟩ | ⟨-, -, -, hq⟩ | ⟨-, h, -⟩
    · cases hq
    · cases hq
    · exact .inl h
  | conclude publishing => exact .inl (moved publishing (by simp) h)
  | receive answered => exact .inl (moved answered (by simp) h)
  | retry abandoned => exact .inl (moved abandoned (by simp) h)
  | @abandon id key leads =>
    rcases (stands_abandon leads _ _ _ _).1 h with ⟨-, -, hq⟩ | ⟨-, hw, h, -⟩ | ⟨-, h, -⟩
    · cases hq
    · exact .inr ⟨id, key, rfl, leads, clients_leading leads ▸ hw, h⟩
    · exact .inl h
  | leave stands follows => exact .inl (moved stands (by simp) h)

/-! ### What a run tells about waiters -/

theorem joinedUnder_of_client {acts : List (Act α)} {g : Group α} (h : Run acts g) {l w : Nat}
    {k : String} (hc : w ∈ g.clients l) (hw : g.Stands w k .waiting) : JoinedUnder acts w l := by
  induction h with
  | start => simp [Group.empty, Group.Stands] at hw
  | @act acts g g' a hr ha ih =>
    have hs := step_of_act ha
    rcases step_clients (tableFits_run hr) hs hc with hc | ⟨rfl, key, hj, hl⟩
    · rcases step_waiting hs hw with hw | rfl
      · exact (ih hc hw).snoc (not_join_of_stands hs hw (by simp))
      · -- A client of somebody cannot join.
        obtain ⟨k', p, -, ha'⟩ := (clientsFit_run hr).awaits hc
        rcases ha' with hd | hd
        · exact absurd rfl (not_join_of_stands hs hd (by simp))
        · exact absurd rfl (not_join_of_stands hs hd (by simp))
    · exact ⟨acts, [], g, key, rfl, by simp, hr, hj, hl⟩

theorem lostLeader_of_abandoned {acts : List (Act α)} {g : Group α} (h : Run acts g) {w : Nat}
    {k : String} (hw : g.Stands w k .abandoned) : ∃ l, LostLeader acts w l := by
  induction h with
  | start => simp [Group.empty, Group.Stands] at hw
  | @act acts g g' a hr ha ih =>
    have hs := step_of_act ha
    rcases step_abandoned hs hw with hw | ⟨l, key, rfl, hl, hc, hw⟩
    · obtain ⟨l, hl⟩ := ih hw
      exact ⟨l, hl.snoc (not_join_of_stands hs hw (by simp))⟩
    · exact ⟨l, acts, [], g, key, rfl, by simp, joinedUnder_of_client hr hc hw, hr, hl⟩

/-! ### Coordination -/

theorem server_of_waiting {g : Group α} (h : ClientsFit g) {w : Nat} {k : String}
    (hw : g.Stands w k .waiting) :
    (∃ l, g.Leads l k ∧ w ∈ g.flights.waiting k) ∨
      ∃ l o due, g.Stands l k (.publishing o due) ∧ w ∈ due := by
  obtain ⟨l, hl⟩ := h.served hw
  obtain ⟨k', p, hp, ha⟩ := h.awaits hl
  have hk : k' = k := by
    rcases ha with ha | ha
    · exact (ha.inj hw).1
    · cases (ha.inj hw).2
  rcases stands_of_mem_clients hl with ⟨k₁, hl₁, hm⟩ | ⟨k₁, o, due, hl₁, hm⟩
  · have hk₁ : k₁ = k := (hl₁.inj hp).1.trans hk
    exact .inl ⟨l, hk₁ ▸ hl₁, hk₁ ▸ hm⟩
  · have hk₁ : k₁ = k := (hl₁.inj hp).1.trans hk
    exact .inr ⟨l, o, due, hk₁ ▸ hl₁, hm⟩

theorem flights_eq_nil_of_over {g : Group α} (h : TableFits g)
    (ho : ∀ c ∈ g.callers, c.phase.isOver = true) : g.flights = [] := by
  cases hf : g.flights with
  | nil => rfl
  | cons f rest =>
    have hhas : g.flights.has f.key = true := by simp [hf, Flights.has]
    obtain ⟨i, hi⟩ := (h.flight_iff f.key).1 hhas
    have := ho _ (List.mem_of_getElem? hi)
    cases this

/-- In every run, callers of a key are led by at most one of them; the table holds a key exactly
when it is led; whoever is suspended is registered with a leader of its key, or due to be answered
by one, or has an answer or a lost leader to look at; whoever joins again has lost the leader under
which it joined; and when all callers are gone the table is empty. -/
theorem flights_coordinated {acts : List (Act α)} {g : Group α} (h : Run acts g) :
    (∀ key i j, g.Leads i key → g.Leads j key → i = j) ∧
    (∀ key, g.flights.has key = true ↔ ∃ i, g.Leads i key) ∧
    (g.flights.map Flight.key).Nodup ∧
    (∀ w key phase, g.Stands w key phase → phase.isSuspended = true →
      (∃ l, g.Leads l key ∧ w ∈ g.flights.waiting key) ∨
      (∃ l outcome due, g.Stands l key (.publishing outcome due) ∧ w ∈ due) ∨
      (∃ outcome, phase = .answered outcome) ∨ phase = .abandoned) ∧
    (∀ w g', g.act (.retry w) = some g' → ∃ l, LostLeader acts w l) ∧
    ((∀ c ∈ g.callers, c.phase.isOver = true) → g.flights = []) := by
  have ht := tableFits_run h
  refine ⟨fun _ _ _ => ht.leader_unique, ht.flight_iff, ht.keys_nodup, ?_, ?_,
    flights_eq_nil_of_over ht⟩
  · intro w key phase hw hsus
    cases phase with
    | waiting =>
      rcases server_of_waiting (clientsFit_run h) hw with hl | hd
      · exact .inl hl
      · exact .inr (.inl hd)
    | answered outcome => exact .inr (.inr (.inl ⟨outcome, rfl⟩))
    | abandoned => exact .inr (.inr (.inr rfl))
    | joining | leading | publishing | ended | dropped => cases hsus
  · intro w g' ha
    cases step_of_act ha with
    | retry abandoned => exact lostLeader_of_abandoned h abandoned

/-- Two callers of one key, of which the first is dropped while it leads: the other can join again,
and it was the first that it lost. -/
theorem flights_coordinated_abandoned :
    ∃ (acts : List (Act Nat)) (g g' : Group Nat),
      acts = [.enter "key", .enter "key", .join 0, .join 1, .drop 0] ∧ Run acts g ∧
      g.act (.retry 1) = some g' ∧ ∃ l, LostLeader acts 1 l := by
  have hr : Run (α := Nat) [.enter "key", .enter "key", .join 0, .join 1, .drop 0]
      ⟨[], [⟨"key", .dropped⟩, ⟨"key", .abandoned⟩]⟩ :=
    ((((Run.start.act rfl).act rfl).act rfl).act rfl).act rfl
  exact ⟨_, _, _, rfl, hr, rfl, (flights_coordinated hr).2.2.2.2.1 1 _ rfl⟩

end CommitSearch.Flight
