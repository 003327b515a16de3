import CommitSearch.Proofs.Flight.Table

/-!
# The clients of a caller

The clients of a caller are those it has to answer, whether they are still in the table or already
taken from it, so that publishing changes nothing about them. Whoever waits is the client of one
caller of its key, once (`ClientsFit`).
-/

namespace CommitSearch.Flight

variable {α : Type}

/-- The callers that a caller has to answer: those in the table while it leads, those that are due
while it publishes. -/
def Group.clients (g : Group α) (id : Nat) : List Nat :=
  match g.callers[id]? with
  | some ⟨key, .leading⟩ => g.flights.waiting key
  | some ⟨_, .publishing _ due⟩ => due
  | _ => []

/-- A caller that somebody has to answer: it waits, unless it was dropped meanwhile. -/
def Group.Awaits (g : Group α) (id : Nat) (key : String) : Prop :=
  g.Stands id key .waiting ∨ g.Stands id key .dropped

/-- Whoever waits is a client of one caller of its key, once, and all clients wait or are gone. -/
structure ClientsFit (g : Group α) : Prop where
  served : ∀ {key w}, g.Stands w key .waiting → ∃ l, w ∈ g.clients l
  awaits : ∀ {l w}, w ∈ g.clients l → ∃ key p, g.Stands l key p ∧ g.Awaits w key
  disjoint : ∀ {l l' w}, w ∈ g.clients l → w ∈ g.clients l' → l = l'
  nodup : ∀ l, (g.clients l).Nodup

theorem clients_leading {g : Group α} {id : Nat} {key : String} (h : g.Leads id key) :
    g.clients id = g.flights.waiting key := by
  rw [Group.clients, show g.callers[id]? = _ from h]

theorem clients_publishing {g : Group α} {id : Nat} {key : String} {o : Except Error α}
    {due : List Nat} (h : g.Stands id key (.publishing o due)) : g.clients id = due := by
  rw [Group.clients, show g.callers[id]? = _ from h]

theorem clients_eq_nil {g : Group α} {id : Nat} (hl : ∀ key, ¬g.Leads id key)
    (hp : ∀ key o due, ¬g.Stands id key (.publishing o due)) : g.clients id = [] := by
  unfold Group.clients
  split
  · next key h => exact absurd h (hl key)
  · next key o due h => exact absurd h (hp key o due)
  · rfl

theorem clients_of_idle {g : Group α} {id : Nat} {key : String} {p : Phase α}
    (h : g.Stands id key p) (hl : p ≠ .leading) (hp : ∀ o d, p ≠ .publishing o d) :
    g.clients id = [] :=
  clients_eq_nil (fun _ hk => hl (h.inj hk).2) (fun _ o d hk => hp o d (h.inj hk).2)

theorem stands_of_mem_clients {g : Group α} {id w : Nat} (h : w ∈ g.clients id) :
    (∃ key, g.Leads id key ∧ w ∈ g.flights.waiting key) ∨
      ∃ key o due, g.Stands id key (.publishing o due) ∧ w ∈ due := by
  unfold Group.clients at h
  split at h
  · next key hid => exact .inl ⟨key, hid, h⟩
  · next key o due hid => exact .inr ⟨key, o, due, hid, h⟩
  · cases h

theorem clients_congr {g g' : Group α} {id : Nat}
    (hs : ∀ key p, g'.Stands id key p ↔ g.Stands id key p)
    (hw : ∀ key, g.Leads id key → g'.flights.waiting key = g.flights.waiting key) :
    g'.clients id = g.clients id := by
  have hc : g'.callers[id]? = g.callers[id]? := by
    cases h : g.callers[id]? with
    | some c => exact (hs c.key c.phase).2 h
    | none =>
      cases h' : g'.callers[id]? with
      | some c => exact absurd ((hs c.key c.phase).1 h') (by simp [Group.Stands, h])
      | none => rfl
  unfold Group.clients
  rw [hc]
  split
  · next key h => exact hw key h
  · rfl
  · rfl

/-! ### The clients after a caller has moved -/

theorem stands_place_of_ne {g : Group α} {id : Nat} {key : String} {p q : Phase α}
    (hp : g.Stands id key p) {i : Nat} (hi : i ≠ id) (k : String) (r : Phase α) :
    (g.place id q).Stands i k r ↔ g.Stands i k r := by
  simp [stands_place hp, hi]

theorem stands_place_self {g : Group α} {id : Nat} {key : String} {p q : Phase α}
    (hp : g.Stands id key p) : (g.place id q).Stands id key q :=
  (stands_place hp q _ _ _).2 (.inl ⟨rfl, rfl, rfl⟩)

/-- Whoever is awaited stays so when a caller moves, unless it is that caller and it is not
dropped. -/
theorem awaits_place {g : Group α} {id : Nat} {key : String} {p q : Phase α}
    (hp : g.Stands id key p) (hgone : p = .waiting ∨ p = .dropped → q = .dropped) {i : Nat}
    {k : String} (ha : g.Awaits i k) : (g.place id q).Awaits i k := by
  by_cases hi : i = id
  · subst hi
    have hk : k = key ∧ (p = .waiting ∨ p = .dropped) := by
      rcases ha with ha | ha
      · exact ⟨(ha.inj hp).1, .inl (hp.inj ha).2⟩
      · exact ⟨(ha.inj hp).1, .inr (hp.inj ha).2⟩
    rw [hk.1, hgone hk.2]
    exact .inr (stands_place_self hp)
  · exact ha.imp (stands_place_of_ne hp hi _ _).2 (stands_place_of_ne hp hi _ _).2

theorem step_key {g g' : Group α} {a : Act α} (hs : Step g a g') {i : Nat} {k : String}
    {p : Phase α} (h : g.Stands i k p) : ∃ p', g'.Stands i k p' := by
  have moved : ∀ {id key p₀} (q : Phase α), g.Stands id key p₀ → ∃ p', (g.place id q).Stands i k p' := by
    intro id key p₀ q hp
    by_cases hi : i = id
    · subst hi
      rw [(h.inj hp).1]
      exact ⟨q, stands_place_self hp⟩
    · exact ⟨p, (stands_place_of_ne hp hi _ _).2 h⟩
  have woken : ∀ {g₀ : Group α} ids (q : Phase α), (∃ p', g₀.Stands i k p') →
      ∃ p', (g₀.placeWaiting ids q).Stands i k p' := by
    rintro g₀ ids q ⟨p', hp'⟩
    by_cases hw : p' = .waiting ∧ i ∈ ids
    · exact ⟨q, (stands_placeWaiting _ _ _ _ _ _).2 (.inl ⟨hw.1 ▸ hp', hw.2, rfl⟩)⟩
    · exact ⟨p', (stands_placeWaiting _ _ _ _ _ _).2 (.inr ⟨hp', hw⟩)⟩
  cases hs with
  | enter key => exact ⟨p, (stands_enter _ _ _ _ _).2 (.inl h)⟩
  | lead joining free => exact moved _ joining
  | wait joining taken => exact moved _ joining
  | publish outcome leads => exact moved _ leads
  | answer publishing => exact woken _ _ (moved _ publishing)
  | conclude publishing => exact moved _ publishing
  | receive answered => exact moved _ answered
  | retry abandoned => exact moved _ abandoned
  | abandon leads => exact woken _ _ (moved _ leads)
  | leave stands follows => exact moved _ stands

/-- Nothing is to be shown where clients stay and nobody begins to wait. -/
theorem clientsFit_of_same {g g' : Group α} {a : Act α} (h : ClientsFit g) (hs : Step g a g')
    (hc : ∀ l, g'.clients l = g.clients l)
    (hw : ∀ {w k}, g'.Stands w k .waiting → g.Stands w k .waiting)
    (ha : ∀ {i k}, g.Awaits i k → g'.Awaits i k) : ClientsFit g' := by
  constructor
  · intro k w hst
    obtain ⟨l, hl⟩ := h.served (hw hst)
    exact ⟨l, by rwa [hc]⟩
  · intro l w hl
    rw [hc] at hl
    obtain ⟨k, p, hp, hwk⟩ := h.awaits hl
    obtain ⟨p', hp'⟩ := step_key hs hp
    exact ⟨k, p', hp', ha hwk⟩
  · intro l l' w hl hl'
    rw [hc] at hl hl'
    exact h.disjoint hl hl'
  · intro l
    rw [hc]
    exact h.nodup l

theorem clients_place_of_ne {g : Group α} {id : Nat} {key : String} {p q : Phase α} {fs : Flights}
    (hp : g.Stands id key p) {l : Nat} (hl : l ≠ id)
    (hw : ∀ k, g.Leads l k → fs.waiting k = g.flights.waiting k) :
    ({ g.place id q with flights := fs } : Group α).clients l = g.clients l :=
  clients_congr (fun k r => stands_place_of_ne hp hl k r) hw

theorem clients_place {g : Group α} {id : Nat} {key : String} {p q : Phase α}
    (hp : g.Stands id key p) (hpl : p ≠ .leading) (hql : q ≠ .leading)
    (hpd : ∀ o d, p = .publishing o d → d = []) (hqp : ∀ o d, q ≠ .publishing o d) (l : Nat) :
    (g.place id q).clients l = g.clients l := by
  by_cases hl : l = id
  · subst hl
    rw [clients_of_idle (stands_place_self hp) hql hqp, eq_comm, List.eq_nil_iff_forall_not_mem]
    intro w hw
    rcases stands_of_mem_clients hw with ⟨k, h, -⟩ | ⟨k, o, d, h, hd⟩
    · exact hpl (hp.inj h).2
    · rw [hpd o d (hp.inj h).2] at hd
      cases hd
  · exact clients_place_of_ne hp hl (fun _ _ => rfl)

theorem waiting_of_place {g : Group α} {id : Nat} {key : String} {p q : Phase α}
    (hp : g.Stands id key p) (hq : q ≠ .waiting) {w : Nat} {k : String}
    (h : (g.place id q).Stands w k .waiting) : g.Stands w k .waiting := by
  rcases (stands_place hp q _ _ _).1 h with ⟨-, -, he⟩ | ⟨-, h⟩
  · exact absurd he.symm hq
  · exact h

theorem clients_enter (g : Group α) (key : String) (l : Nat) :
    (g.enter key).clients l = g.clients l := by
  have hst := stands_enter g key
  by_cases hl : ∃ k p, g.Stands l k p
  · obtain ⟨k₀, p₀, h₀⟩ := hl
    refine clients_congr (fun k p => ?_) (fun _ _ => rfl)
    rw [hst]
    refine ⟨fun hs => hs.resolve_right ?_, .inl⟩
    rintro ⟨rfl, -⟩
    simp [Group.Stands] at h₀
  · rw [clients_eq_nil (fun k hk => hl ⟨k, _, hk⟩) (fun k o d hk => hl ⟨k, _, hk⟩)]
    refine clients_eq_nil (fun k hk => ?_) (fun k o d hk => ?_)
    · rcases (hst _ _ _).1 hk with hk | ⟨-, -, hq⟩
      · exact hl ⟨k, _, hk⟩
      · cases hq
    · rcases (hst _ _ _).1 hk with hk | ⟨-, -, hq⟩
      · exact hl ⟨k, _, hk⟩
      · cases hq

theorem clientsFit_enter {g : Group α} (h : ClientsFit g) (key : String) :
    ClientsFit (g.enter key) := by
  have hst := stands_enter g key
  refine clientsFit_of_same h (.enter key) (clients_enter g key) (fun hw => ?_) (fun ha => ?_)
  · rcases (hst _ _ _).1 hw with hw | ⟨-, -, hq⟩
    · exact hw
    · cases hq
  · exact ha.imp (fun hw => (hst _ _ _).2 (.inl hw)) (fun hd => (hst _ _ _).2 (.inl hd))

theorem clients_lead {g : Group α} {id : Nat} {key : String} (hj : g.Stands id key .joining)
    (free : g.flights.has key = false) (l : Nat) :
    ({ g.place id .leading with flights := g.flights.begin key } : Group α).clients l =
      g.clients l := by
  by_cases hl : l = id
  · subst hl
    have hnew : ({ g.place l .leading with flights := g.flights.begin key } : Group α).Leads l key :=
      stands_place_self hj
    rw [clients_leading hnew, clients_of_idle hj (by simp) (by simp), Flights.waiting_begin]
    exact Flights.waiting_eq_nil free
  · exact clients_place_of_ne hj hl (fun k _ => Flights.waiting_begin _ _ _)

/-- A leader that takes its waiters from the table keeps them as its clients. -/
theorem clients_publish {g : Group α} {id : Nat} {key : String} (ht : TableFits g)
    (hl : g.Leads id key) (outcome : Except Error α) (l : Nat) :
    ({ g.place id (.publishing outcome (g.flights.waiting key)) with
      flights := g.flights.close key } : Group α).clients l = g.clients l := by
  by_cases hi : l = id
  · subst hi
    rw [clients_leading hl]
    exact clients_publishing (stands_place_self hl)
  · refine clients_place_of_ne hl hi (fun k hk => Flights.waiting_close_of_ne ?_ _)
    rintro rfl
    exact hi (ht.leader_unique hk hl)

theorem clients_wait {g : Group α} {id : Nat} {key : String} (ht : TableFits g)
    (hj : g.Stands id key .joining) (taken : g.flights.has key = true) {leader : Nat}
    (hl : g.Leads leader key) (l : Nat) :
    ({ g.place id .waiting with flights := g.flights.wait key id } : Group α).clients l =
      if l = leader then g.clients l ++ [id] else g.clients l := by
  have hne : leader ≠ id := by
    rintro rfl
    cases (hj.inj hl).2
  by_cases hi : l = leader
  · subst hi
    have hnew : ({ g.place id .waiting with flights := g.flights.wait key id } : Group α).Leads
        l key := (stands_place_of_ne hj hne _ _).2 hl
    rw [if_pos rfl, clients_leading hnew, clients_leading hl]
    exact Flights.waiting_wait ht.keys_nodup taken id
  · rw [if_neg hi]
    by_cases hid : l = id
    · subst hid
      rw [clients_of_idle hj (by simp) (by simp)]
      exact clients_of_idle (p := .waiting) (stands_place_self hj) (by simp) (by simp)
    · refine clients_place_of_ne hj hid (fun k hk => Flights.waiting_wait_of_ne ?_ _ _)
      rintro rfl
      exact hi (ht.leader_unique hk hl)

theorem clientsFit_wait {g : Group α} {id : Nat} {key : String} (h : ClientsFit g)
    (ht : TableFits g) (hj : g.Stands id key .joining) (taken : g.flights.has key = true) :
    ClientsFit { g.place id .waiting with flights := g.flights.wait key id } := by
  obtain ⟨leader, hl⟩ := (ht.flight_iff key).1 taken
  have hc := clients_wait ht hj taken hl
  have hst := stands_place hj .waiting
  -- A caller that joins is nobody's client yet.
  have hnew : ∀ l, id ∉ g.clients l := by
    intro l hm
    obtain ⟨k, p, -, ha⟩ := h.awaits hm
    rcases ha with ha | ha <;> cases (hj.inj ha).2
  have hmem : ∀ l w, w ∈ ({ g.place id .waiting with flights := g.flights.wait key id } :
      Group α).clients l ↔ w ∈ g.clients l ∨ (l = leader ∧ w = id) := by
    intro l w
    rw [hc]
    by_cases hi : l = leader <;> simp [hi]
  constructor
  · intro k w hw
    rcases (hst _ _ _).1 hw with ⟨rfl, -, -⟩ | ⟨-, hw⟩
    · exact ⟨leader, (hmem _ _).2 (.inr ⟨rfl, rfl⟩)⟩
    · obtain ⟨l, hwl⟩ := h.served hw
      exact ⟨l, (hmem _ _).2 (.inl hwl)⟩
  · intro l w hw
    rcases (hmem _ _).1 hw with hw | ⟨rfl, rfl⟩
    · obtain ⟨k, p, hp, ha⟩ := h.awaits hw
      obtain ⟨p', hp'⟩ := step_key (.wait hj taken) hp
      exact ⟨k, p', hp', awaits_place hj (by simp) ha⟩
    · obtain ⟨p', hp'⟩ := step_key (.wait hj taken) hl
      exact ⟨key, p', hp', .inl (stands_place_self hj)⟩
  · intro l l' w hw hw'
    rcases (hmem _ _).1 hw with hw | ⟨hl, hi⟩ <;> rcases (hmem _ _).1 hw' with hw' | ⟨hl', hi'⟩
    · exact h.disjoint hw hw'
    · exact absurd (hi' ▸ hw) (hnew l)
    · exact absurd (hi ▸ hw') (hnew l')
    · exact hl.trans hl'.symm
  · intro l
    rw [hc]
    split
    · exact List.nodup_append.2 ⟨h.nodup l, by simp, by
        intro a ha b hb e
        exact hnew l (by simp_all)⟩
    · exact h.nodup l

theorem stands_answer {g : Group α} {id w : Nat} {key : String} {outcome : Except Error α}
    (answer : Except Error α) {due : List Nat} (hp : g.Stands id key (.publishing outcome (w :: due))) (i : Nat) (k : String)
    (r : Phase α) :
    ((g.place id (.publishing outcome due)).placeWaiting [w] (.answered answer)).Stands i k r ↔
      (i = id ∧ k = key ∧ r = .publishing outcome due) ∨
      (i ≠ id ∧ i = w ∧ g.Stands i k .waiting ∧ r = .answered answer) ∨
      (i ≠ id ∧ g.Stands i k r ∧ ¬(r = .waiting ∧ i = w)) := by
  rw [stands_placeWaiting, stands_place hp, stands_place hp]
  grind

theorem clients_answer {g : Group α} {id w : Nat} {key : String} {outcome : Except Error α}
    (answer : Except Error α) {due : List Nat} (hp : g.Stands id key (.publishing outcome (w :: due))) (l : Nat) :
    ((g.place id (.publishing outcome due)).placeWaiting [w] (.answered answer)).clients l =
      if l = id then due else g.clients l := by
  have hst := stands_answer answer hp
  split
  · next hl =>
    subst hl
    exact clients_publishing ((hst _ _ _).2 (.inl ⟨rfl, rfl, rfl⟩))
  · next hl =>
    by_cases hw : l = w ∧ ∃ k, g.Stands l k .waiting
    · obtain ⟨rfl, k, hk⟩ := hw
      rw [clients_of_idle hk (by simp) (by simp)]
      exact clients_of_idle ((hst _ _ _).2 (.inr (.inl ⟨hl, rfl, hk, rfl⟩))) (by simp) (by simp)
    · refine clients_congr (fun k r => ?_) (fun _ _ => rfl)
      rw [hst]
      grind

theorem clientsFit_answer {g : Group α} {id w : Nat} {key : String} {outcome : Except Error α}
    {due : List Nat} (h : ClientsFit g)
    (hp : g.Stands id key (.publishing outcome (w :: due))) :
    ClientsFit
      ((g.place id (.publishing outcome due)).placeWaiting [w]
        (.answered (copyOutcome outcome))) := by
  have hst := stands_answer (copyOutcome outcome) hp
  have hc := clients_answer (copyOutcome outcome) hp
  have hid := clients_publishing hp
  have hnodup : w ∉ due ∧ due.Nodup := List.nodup_cons.1 (hid ▸ h.nodup id)
  have hmem : ∀ l v, v ∈ ((g.place id (.publishing outcome due)).placeWaiting [w]
      (.answered (copyOutcome outcome))).clients l ↔ v ∈ g.clients l ∧ v ≠ w := by
    intro l v
    rw [hc]
    split
    · next hl =>
      rw [hl, hid]
      constructor
      · intro hv
        exact ⟨List.mem_cons_of_mem _ hv, fun e => hnodup.1 (e ▸ hv)⟩
      · rintro ⟨hv, hne⟩
        exact (List.mem_cons.1 hv).resolve_left hne
    · next hl =>
      refine ⟨fun hv => ⟨hv, ?_⟩, And.left⟩
      rintro rfl
      exact hl (h.disjoint hv (hid ▸ List.mem_cons_self))
  constructor
  · intro k v hv
    rcases (hst _ _ _).1 hv with ⟨-, -, hq⟩ | ⟨-, -, -, hq⟩ | ⟨-, hv, hne⟩
    · cases hq
    · cases hq
    · obtain ⟨l, hl⟩ := h.served hv
      exact ⟨l, (hmem _ _).2 ⟨hl, fun e => hne ⟨rfl, e⟩⟩⟩
  · intro l v hv
    obtain ⟨hv, hne⟩ := (hmem _ _).1 hv
    obtain ⟨k, p, hk, ha⟩ := h.awaits hv
    obtain ⟨p', hp'⟩ := step_key (.answer hp) hk
    have hvid : v ≠ id := by
      rintro rfl
      rcases ha with ha | ha <;> cases (hp.inj ha).2
    refine ⟨k, p', hp', ha.imp (fun hs => ?_) (fun hs => ?_)⟩
    · exact (hst _ _ _).2 (.inr (.inr ⟨hvid, hs, fun e => hne e.2⟩))
    · exact (hst _ _ _).2 (.inr (.inr ⟨hvid, hs, fun e => hne e.2⟩))
  · intro l l' v hv hv'
    exact h.disjoint ((hmem _ _).1 hv).1 ((hmem _ _).1 hv').1
  · intro l
    rw [hc]
    split
    · exact hnodup.2
    · exact h.nodup l

theorem stands_abandon {g : Group α} {id : Nat} {key : String} (hl : g.Leads id key)
    (ws : List Nat) (i : Nat) (k : String) (r : Phase α) :
    ((g.place id .dropped).placeWaiting ws .abandoned).Stands i k r ↔
      (i = id ∧ k = key ∧ r = .dropped) ∨
      (i ≠ id ∧ i ∈ ws ∧ g.Stands i k .waiting ∧ r = .abandoned) ∨
      (i ≠ id ∧ g.Stands i k r ∧ ¬(r = .waiting ∧ i ∈ ws)) := by
  rw [stands_placeWaiting, stands_place hl, stands_place hl]
  grind

theorem clients_abandon {g : Group α} {id : Nat} {key : String} (ht : TableFits g)
    (hl : g.Leads id key) (l : Nat) :
    (g.abandoned id key).clients l = if l = id then [] else g.clients l := by
  have hst : ∀ i k r, (g.abandoned id key).Stands i k r ↔ _ := stands_abandon hl _
  split
  · next hi =>
    subst hi
    exact clients_of_idle ((hst _ _ _).2 (.inl ⟨rfl, rfl, rfl⟩)) (by simp) (by simp)
  · next hi =>
    by_cases hw : l ∈ g.flights.waiting key ∧ ∃ k, g.Stands l k .waiting
    · obtain ⟨hw, k, hk⟩ := hw
      rw [clients_of_idle hk (by simp) (by simp)]
      exact clients_of_idle ((hst _ _ _).2 (.inr (.inl ⟨hi, hw, hk, rfl⟩))) (by simp) (by simp)
    · refine clients_congr (fun k r => ?_) (fun k hk => Flights.waiting_close_of_ne ?_ _)
      · rw [hst]
        grind
      · rintro rfl
        exact hi (ht.leader_unique hk hl)

theorem clientsFit_abandon {g : Group α} {id : Nat} {key : String} (h : ClientsFit g)
    (ht : TableFits g) (hl : g.Leads id key) : ClientsFit (g.abandoned id key) := by
  have hst : ∀ i k r, (g.abandoned id key).Stands i k r ↔ _ := stands_abandon hl _
  have hid := clients_leading hl
  have hmem : ∀ l v, v ∈ (g.abandoned id key).clients l ↔ l ≠ id ∧ v ∈ g.clients l := by
    intro l v
    rw [clients_abandon ht hl]
    by_cases hi : l = id <;> simp [hi]
  constructor
  · intro k v hv
    rcases (hst _ _ _).1 hv with ⟨-, -, hq⟩ | ⟨-, -, -, hq⟩ | ⟨-, hv, hne⟩
    · cases hq
    · cases hq
    · obtain ⟨l, hvl⟩ := h.served hv
      refine ⟨l, (hmem _ _).2 ⟨?_, hvl⟩⟩
      rintro rfl
      exact hne ⟨rfl, hid ▸ hvl⟩
  · intro l v hv
    obtain ⟨hi, hv⟩ := (hmem _ _).1 hv
    obtain ⟨k, p, hk, ha⟩ := h.awaits hv
    obtain ⟨p', hp'⟩ := step_key (.abandon hl) hk
    have hvid : v ≠ id := by
      rintro rfl
      rcases ha with ha | ha <;> cases (hl.inj ha).2
    -- A client of another caller is not in the table under the key that is closed.
    have hout : v ∉ g.flights.waiting key := fun hm => hi (h.disjoint hv (hid ▸ hm))
    refine ⟨k, p', hp', ha.imp (fun hs => ?_) (fun hs => ?_)⟩
    · exact (hst _ _ _).2 (.inr (.inr ⟨hvid, hs, fun e => hout e.2⟩))
    · exact (hst _ _ _).2 (.inr (.inr ⟨hvid, hs, fun e => hout e.2⟩))
  · intro l l' v hv hv'
    exact h.disjoint ((hmem _ _).1 hv).2 ((hmem _ _).1 hv').2
  · intro l
    rw [clients_abandon ht hl]
    split
    · exact List.nodup_nil
    · exact h.nodup l

theorem clientsFit_step {g g' : Group α} {a : Act α} (h : ClientsFit g) (ht : TableFits g)
    (hs : Step g a g') : ClientsFit g' := by
  have moved : ∀ {id key p q}, g.Stands id key p → p ≠ .leading → q ≠ .leading → q ≠ .waiting →
      (∀ o d, p = .publishing o d → d = []) → (∀ o d, q ≠ .publishing o d) →
      (p = .waiting ∨ p = .dropped → q = .dropped) → Step g a (g.place id q) →
      ClientsFit (g.place id q) := by
    intro id key p q hp hpl hql hqw hpd hqp hgone hs
    exact clientsFit_of_same h hs (clients_place hp hpl hql hpd hqp) (waiting_of_place hp hqw)
      (awaits_place hp hgone)
  cases hs with
  | enter key => exact clientsFit_enter h key
  | lead joining free =>
    exact clientsFit_of_same h (.lead joining free) (clients_lead joining free)
      (waiting_of_place joining (by simp)) (awaits_place joining (by simp))
  | wait joining taken => exact clientsFit_wait h ht joining taken
  | publish outcome leads =>
    exact clientsFit_of_same h (.publish outcome leads) (clients_publish ht leads outcome)
      (waiting_of_place leads (by simp)) (awaits_place leads (by simp))
  | answer publishing => exact clientsFit_answer h publishing
  | conclude publishing =>
    exact moved publishing (by simp) (by simp) (by simp) (by simp) (by simp) (by simp)
      (.conclude publishing)
  | receive answered =>
    exact moved answered (by simp) (by simp) (by simp) (by simp) (by simp) (by simp)
      (.receive answered)
  | retry abandoned =>
    exact moved abandoned (by simp) (by simp) (by simp) (by simp) (by simp) (by simp)
      (.retry abandoned)
  | abandon leads => exact clientsFit_abandon h ht leads
  | leave stands follows =>
    refine moved stands ?_ (by simp) (by simp) ?_ (by simp) (by simp) (.leave stands follows)
    · rintro rfl
      rcases follows with hf | hf <;> cases hf
    · rintro o d rfl
      rcases follows with hf | hf <;> cases hf

theorem clientsFit_run {acts : List (Act α)} {g : Group α} (h : Run acts g) : ClientsFit g := by
  induction h with
  | start => constructor <;> simp [Group.empty, Group.clients, Group.Stands]
  | act hr ha ih => exact clientsFit_step ih (tableFits_run hr) (step_of_act ha)

end CommitSearch.Flight
