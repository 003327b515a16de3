import CommitSearch.Http.Message
import CommitSearch.Proofs.Flight.Coordination

/-!
# Agreement on outcomes

What a caller returns is the outcome of its own work or a copy of another's. Which of the two it is,
and whose, is read off the run: the work that acts begin (`Group.started`), the outcomes with which
they end it (`outcomesOf`), and the leader under which a caller joined last (`Delivered`). The phase
of a caller tells how much of its work has been done (`Phase.Fits`).
-/

namespace CommitSearch.Flight

variable {α : Type}

/-! ### What a run records -/

/-- The caller whose work an act begins: one that joins while its key is not in flight. -/
def Group.starter (g : Group α) : Act α → Option Nat
  | .join id =>
    match g.callers[id]? with
    | some ⟨key, .joining⟩ => if g.flights.has key then none else some id
    | _ => none
  | _ => none

/-- The callers whose work is begun by acts from a group on, in the order of the acts. -/
def Group.started (g : Group α) : List (Act α) → List Nat
  | [] => []
  | a :: rest =>
    match g.act a with
    | some g' => (g.starter a).toList ++ g'.started rest
    | none => []

/-- The outcome with which an act ends the work of a caller. -/
def Act.outcomeOf (id : Nat) : Act α → Option (Except Error α)
  | .finish i outcome => if i = id then some outcome else none
  | _ => none

def outcomesOf (id : Nat) (acts : List (Act α)) : List (Except Error α) :=
  acts.filterMap (Act.outcomeOf id)

/-- What has been handed over is a copy: a value and a client's error as they are, of any other
error the message. -/
inductive IsCopy : Except Error α → Except Error α → Prop
  | value (v : α) : IsCopy (.ok v) (.ok v)
  | client {e : Error} (ofClient : e.isClientError = true) : IsCopy (.error e) (.error e)
  | server {e : Error} (ofServer : e.isClientError = false) :
    IsCopy (.error e) (.error (.internal e.message))

/-- A caller joined, for the last time, while a leader of its key did the work, and that leader's
work ended with an outcome only after that. -/
def Delivered (acts : List (Act α)) (id : Nat) (key : String) (leader : Nat)
    (outcome : Except Error α) : Prop :=
  ∃ before after g, acts = before ++ .join id :: after ∧ .join id ∉ after ∧ Run before g ∧
    g.Stands id key .joining ∧ g.Leads leader key ∧ outcomesOf leader before = [] ∧
    .finish leader outcome ∈ after

theorem Delivered.snoc {acts : List (Act α)} {id leader : Nat} {key : String}
    {outcome : Except Error α} (h : Delivered acts id key leader outcome) {a : Act α}
    (ha : a ≠ .join id) : Delivered (acts ++ [a]) id key leader outcome := by
  obtain ⟨before, after, g, rfl, hn, hr, hj, hl, ho, hf⟩ := h
  refine ⟨before, after ++ [a], g, by simp, ?_, hr, hj, hl, ho, List.mem_append_left _ hf⟩
  simpa [hn] using ha.symm

theorem isCopy_copyOutcome (o : Except Error α) : IsCopy o (copyOutcome o) := by
  cases o with
  | ok v => exact .value v
  | error e =>
    cases e with
    | refused | notFound | unauthorized => exact .client rfl
    | storage | cache | undecodable | internal => exact .server rfl

theorem IsCopy.response_eq {e e' : Error} (h : IsCopy (.error e : Except Error α) (.error e')) :
    Http.Response.ofError e' = Http.Response.ofError e := by
  cases h with
  | client => rfl
  | server ofServer =>
    cases e with
    | refused | notFound | unauthorized => cases ofServer
    | storage | cache | undecodable | internal => rfl

/-! ### Acts one after the other -/

def Group.after (g : Group α) (acts : List (Act α)) : Option (Group α) := acts.foldlM Group.act g

theorem after_append (g : Group α) (acts rest : List (Act α)) :
    g.after (acts ++ rest) = (g.after acts).bind fun g' => g'.after rest := by
  rw [Group.after, List.foldlM_append]
  rfl

theorem Run.after_eq {acts : List (Act α)} {g : Group α} (h : Run acts g) :
    Group.empty.after acts = some g := by
  induction h with
  | start => rfl
  | act _ ha ih =>
    rw [after_append, ih]
    simpa [Group.after] using ha

theorem Run.onward {before rest : List (Act α)} {g g' : Group α} (h : Run before g)
    (h' : Run (before ++ rest) g') : g.after rest = some g' := by
  have hend := h'.after_eq
  rwa [after_append, h.after_eq] at hend

theorem stands_after {acts : List (Act α)} {g g' : Group α} (h : g.after acts = some g') {id : Nat}
    {key : String} {p : Phase α} (hp : g.Stands id key p) : ∃ p', g'.Stands id key p' := by
  induction acts generalizing g p with
  | nil =>
    cases h
    exact ⟨p, hp⟩
  | cons a rest ih =>
    rw [← List.singleton_append, after_append] at h
    obtain ⟨g₁, hg₁, hrest⟩ := Option.bind_eq_some_iff.1 h
    have ha : g.act a = some g₁ := by simpa [Group.after] using hg₁
    obtain ⟨p₁, hp₁⟩ := step_key (step_of_act ha) hp
    exact ih hrest hp₁

theorem started_snoc {acts : List (Act α)} {g g' g'' : Group α} {a : Act α}
    (h : g.after acts = some g') (ha : g'.act a = some g'') :
    g.started (acts ++ [a]) = g.started acts ++ (g'.starter a).toList := by
  induction acts generalizing g with
  | nil =>
    cases h
    simp [Group.started, ha]
  | cons b rest ih =>
    rw [← List.singleton_append, after_append] at h
    obtain ⟨g₁, hg₁, hrest⟩ := Option.bind_eq_some_iff.1 h
    have hb : g.act b = some g₁ := by simpa [Group.after] using hg₁
    simp only [List.cons_append, Group.started, hb, ih hrest, List.append_assoc]

theorem outcomesOf_snoc (id : Nat) (acts : List (Act α)) (a : Act α) :
    outcomesOf id (acts ++ [a]) = outcomesOf id acts ++ (a.outcomeOf id).toList := by
  cases h : a.outcomeOf id <;> simp [outcomesOf, h]

theorem outcomesOf_join (l id : Nat) (before after : List (Act α)) :
    outcomesOf l (before ++ .join id :: after) = outcomesOf l before ++ outcomesOf l after := by
  simp [outcomesOf, List.filterMap_cons, Act.outcomeOf]

theorem finish_of_mem_outcomesOf {id : Nat} {acts : List (Act α)} {o : Except Error α}
    (h : o ∈ outcomesOf id acts) : .finish id o ∈ acts := by
  obtain ⟨a, ha, hao⟩ := List.mem_filterMap.1 h
  cases a with
  | finish i o' =>
    simp only [Act.outcomeOf, Option.ite_none_right_eq_some, Option.some.injEq] at hao
    exact hao.1 ▸ hao.2 ▸ ha
  | enter | join | send | receive | retry | drop => cases hao

/-! ### What an act does to one caller -/

/-- How an act changes the phase of a caller, or leaves it. -/
inductive Change (g : Group α) (id : Nat) (key : String) : Act α → Phase α → Phase α → Prop
  | idle {a : Act α} (p : Phase α) (begins : g.starter a ≠ some id) (ends : a.outcomeOf id = none) :
    Change g id key a p p
  | lead (begins : g.starter (.join id) = some id) : Change g id key (.join id) .joining .leading
  | wait (begins : g.starter (.join id) = none) : Change g id key (.join id) .joining .waiting
  | publish (o : Except Error α) (due : List Nat) :
    Change g id key (.finish id o) .leading (.publishing o due)
  | answer (o : Except Error α) (w : Nat) (due : List Nat) :
    Change g id key (.send id) (.publishing o (w :: due)) (.publishing o due)
  | conclude (o : Except Error α) : Change g id key (.send id) (.publishing o []) (.ended o)
  | answered {l : Nat} {k : String} {o : Except Error α} {due : List Nat}
    (publishing : g.Stands l k (.publishing o (id :: due))) :
    Change g id key (.send l) .waiting (.answered (copyOutcome o))
  | receive (o : Except Error α) : Change g id key (.receive id) (.answered o) (.ended o)
  | abandoned (l : Nat) : Change g id key (.drop l) .waiting .abandoned
  | retry : Change g id key (.retry id) .abandoned .joining
  | dropped {p : Phase α} (busy : ∀ o due, p ≠ .publishing o due) (returned : p.isOver = false) :
    Change g id key (.drop id) p .dropped

theorem change_place {g : Group α} {a : Act α} {i id : Nat} {k key : String} {p q p' : Phase α}
    (stands : g.Stands i k p) (changes : Change g i k a p q)
    (others : id ≠ i → g.starter a ≠ some id ∧ a.outcomeOf id = none)
    (h : (g.place i q).Stands id key p') : ∃ p, g.Stands id key p ∧ Change g id key a p p' := by
  rcases (stands_place stands q id key p').1 h with ⟨hid, hk, hp⟩ | ⟨hne, hold⟩
  · subst hid hk hp
    exact ⟨p, stands, changes⟩
  · exact ⟨p', hold, .idle p' (others hne).1 (others hne).2⟩

theorem change_of_step {g g' : Group α} {a : Act α} (hs : Step g a g') {id : Nat} {key : String}
    {p' : Phase α} (h : g'.Stands id key p') :
    (a = .enter key ∧ id = g.callers.length ∧ p' = .joining) ∨
      ∃ p, g.Stands id key p ∧ Change g id key a p p' := by
  cases hs with
  | enter k =>
    rcases (stands_enter _ _ _ _ _).1 h with h | ⟨hid, hk, hp⟩
    · exact .inr ⟨p', h, .idle p' (by simp [Group.starter]) rfl⟩
    · exact .inl ⟨hk ▸ rfl, hid, hp⟩
  | @lead i k joining free =>
    have hbegins : g.starter (.join i) = some i := by
      rw [Group.starter, show g.callers[i]? = _ from joining]
      simp [free]
    refine .inr (change_place joining (.lead hbegins) (fun hne => ?_) h)
    exact ⟨by simpa [hbegins] using hne.symm, rfl⟩
  | @wait i k joining taken =>
    have hbegins : g.starter (.join i) = none := by
      rw [Group.starter, show g.callers[i]? = _ from joining]
      simp [taken]
    exact .inr (change_place joining (.wait hbegins) (fun _ => ⟨by simp [hbegins], rfl⟩) h)
  | @publish i k o leads =>
    refine .inr (change_place leads (.publish o _) (fun hne => ?_) h)
    exact ⟨by simp [Group.starter], by simp [Act.outcomeOf, hne.symm]⟩
  | @answer i w k o due publishing =>
    -- Two callers change: the one that publishes, and the one that waits for it.
    rcases (stands_answer _ publishing _ _ _).1 h with ⟨rfl, rfl, rfl⟩ | ⟨-, rfl, hw, rfl⟩ | ⟨-, h, -⟩
    · exact .inr ⟨_, publishing, .answer o w due⟩
    · exact .inr ⟨.waiting, hw, .answered publishing⟩
    · exact .inr ⟨p', h, .idle p' (by simp [Group.starter]) rfl⟩
  | conclude publishing =>
    exact .inr (change_place publishing (.conclude _) (fun _ => ⟨by simp [Group.starter], rfl⟩) h)
  | receive answered =>
    exact .inr (change_place answered (.receive _) (fun _ => ⟨by simp [Group.starter], rfl⟩) h)
  | retry abandoned =>
    exact .inr (change_place abandoned .retry (fun _ => ⟨by simp [Group.starter], rfl⟩) h)
  | @abandon i k leads =>
    rcases (stands_abandon leads _ _ _ _).1 h with ⟨rfl, rfl, rfl⟩ | ⟨-, -, hw, rfl⟩ | ⟨-, h, -⟩
    · exact .inr ⟨.leading, leads, .dropped (by simp) rfl⟩
    · exact .inr ⟨.waiting, hw, .abandoned i⟩
    · exact .inr ⟨p', h, .idle p' (by simp [Group.starter]) rfl⟩
  | @leave i k p stands follows =>
    have hbusy : (∀ o due, p ≠ .publishing o due) ∧ p.isOver = false := by
      rcases follows with hf | rfl
      · cases p <;> simp_all [Phase.isSuspended, Phase.isOver]
      · simp [Phase.isOver]
    exact .inr (change_place stands (.dropped hbusy.1 hbusy.2)
      (fun _ => ⟨by simp [Group.starter], rfl⟩) h)

/-! ### How much of its work a caller has done -/

/-- How often the work of a caller in a phase was begun, and with which outcomes it ended. -/
def Phase.Fits (starts : Nat) (outcomes : List (Except Error α)) : Phase α → Prop
  | .joining | .waiting | .abandoned | .answered _ => starts = 0 ∧ outcomes = []
  | .leading => starts = 1 ∧ outcomes = []
  | .publishing o _ => starts = 1 ∧ outcomes = [o]
  | .ended o => (starts = 1 ∧ outcomes = [o]) ∨ (starts = 0 ∧ outcomes = [])
  | .dropped => starts ≤ 1 ∧ outcomes = []

theorem fits_change {g : Group α} {id : Nat} {key : String} {a : Act α} {p p' : Phase α}
    (h : Change g id key a p p') {starts : Nat} {outcomes : List (Except Error α)}
    (hp : p.Fits starts outcomes) :
    p'.Fits (starts + (g.starter a).toList.count id) (outcomes ++ (a.outcomeOf id).toList) := by
  cases h with
  | idle p begins ends =>
    have hcount : (g.starter a).toList.count id = 0 := by
      rw [List.count_eq_zero]
      simpa using begins
    simpa [hcount, ends] using hp
  | lead begins =>
    simp only [Phase.Fits] at hp ⊢
    simp [begins, Act.outcomeOf, hp.1, hp.2]
  | wait begins =>
    simp only [Phase.Fits] at hp ⊢
    simp [begins, Act.outcomeOf, hp.1, hp.2]
  | publish o due =>
    simp only [Phase.Fits] at hp ⊢
    simp [Group.starter, Act.outcomeOf, hp.1, hp.2]
  | answer o w due => simpa [Phase.Fits, Group.starter, Act.outcomeOf] using hp
  | conclude o => exact .inl (by simpa [Phase.Fits, Group.starter, Act.outcomeOf] using hp)
  | answered publishing => simpa [Phase.Fits, Group.starter, Act.outcomeOf] using hp
  | receive o => exact .inr (by simpa [Phase.Fits, Group.starter, Act.outcomeOf] using hp)
  | abandoned l => simpa [Phase.Fits, Group.starter, Act.outcomeOf] using hp
  | retry => simpa [Phase.Fits, Group.starter, Act.outcomeOf] using hp
  | dropped busy returned =>
    cases p with
    | joining | waiting | abandoned | answered | leading =>
      simp only [Phase.Fits] at hp ⊢
      simp [Group.starter, Act.outcomeOf, hp.1, hp.2]
    | publishing o due => exact absurd rfl (busy o due)
    | ended | dropped => cases returned

theorem stands_of_starter {g : Group α} {a : Act α} {id : Nat} (h : g.starter a = some id) :
    ∃ key p, g.Stands id key p := by
  cases a with
  | join i =>
    simp only [Group.starter] at h
    split at h
    · next key hi =>
      split at h
      · cases h
      · cases h
        exact ⟨key, .joining, hi⟩
    · cases h
  | enter | finish | send | receive | retry | drop => cases h

theorem stands_of_outcomeOf {g g' : Group α} {a : Act α} (hs : Step g a g') {id : Nat}
    {o : Except Error α} (h : a.outcomeOf id = some o) : ∃ key p, g.Stands id key p := by
  cases hs with
  | @publish i key o' leads =>
    simp only [Act.outcomeOf, Option.ite_none_right_eq_some] at h
    exact ⟨key, .leading, h.1 ▸ leads⟩
  | enter | lead | wait | answer | conclude | receive | retry | abandon | leave => cases h

/-- The phase of a caller tells what was done of its work, and nothing was for one that has not
come. -/
theorem fits_run {acts : List (Act α)} {g : Group α} (h : Run acts g) (id : Nat) :
    (∀ key p, g.Stands id key p →
      p.Fits ((Group.empty.started acts).count id) (outcomesOf id acts)) ∧
    ((∀ key p, ¬g.Stands id key p) →
      (Group.empty.started acts).count id = 0 ∧ outcomesOf id acts = []) := by
  induction h with
  | start =>
    refine ⟨fun key p hp => ?_, fun _ => ⟨rfl, rfl⟩⟩
    simp [Group.Stands, Group.empty] at hp
  | @act acts g g' a hr ha ih =>
    have hs := step_of_act ha
    rw [started_snoc hr.after_eq ha, outcomesOf_snoc, List.count_append]
    refine ⟨fun key p' hp' => ?_, fun hnone => ?_⟩
    · rcases change_of_step hs hp' with ⟨rfl, hid, rfl⟩ | ⟨p, hp, hchange⟩
      · have habsent : ∀ key p, ¬g.Stands id key p := by
          intro key p hp
          simp [Group.Stands, hid] at hp
        have hnothing := ih.2 habsent
        simp [Phase.Fits, hnothing.1, hnothing.2, Group.starter, Act.outcomeOf]
      · exact fits_change hchange (ih.1 key p hp)
    · have habsent : ∀ key p, ¬g.Stands id key p := by
        intro key p hp
        obtain ⟨p', hp'⟩ := step_key hs hp
        exact hnone key p' hp'
      have hnothing := ih.2 habsent
      have hbegins : g.starter a ≠ some id := by
        intro hb
        obtain ⟨key, p, hp⟩ := stands_of_starter hb
        exact habsent key p hp
      have hends : a.outcomeOf id = none := by
        refine Option.eq_none_iff_forall_ne_some.2 fun o ho => ?_
        obtain ⟨key, p, hp⟩ := stands_of_outcomeOf hs ho
        exact habsent key p hp
      have hcount : (g.starter a).toList.count id = 0 := by
        rw [List.count_eq_zero]
        simpa using hbegins
      simp [hnothing.1, hnothing.2, hcount, hends]

theorem Phase.Fits.bounds {p : Phase α} {starts : Nat} {outcomes : List (Except Error α)}
    (h : p.Fits starts outcomes) : starts ≤ 1 ∧ outcomes.length ≤ 1 := by
  cases p with
  | ended o =>
    rcases h with h | h
    · simp [h.1, h.2]
    · simp [h.1, h.2]
  | joining | waiting | abandoned | answered | leading | publishing | dropped =>
    simp only [Phase.Fits] at h
    simp [h.1, h.2]

theorem bounds_run {acts : List (Act α)} {g : Group α} (h : Run acts g) (id : Nat) :
    (Group.empty.started acts).count id ≤ 1 ∧ (outcomesOf id acts).length ≤ 1 := by
  have hfits := fits_run h id
  by_cases hstands : ∃ key p, g.Stands id key p
  · obtain ⟨key, p, hp⟩ := hstands
    exact (hfits.1 key p hp).bounds
  · have hnothing := hfits.2 fun key p hp => hstands ⟨key, p, hp⟩
    simp [hnothing.1, hnothing.2]

/-! ### Whose outcome a caller gets -/

/-- A caller that is due for an answer gets the outcome of the leader under which it joined. -/
theorem delivered_of_due {acts : List (Act α)} {g : Group α} (h : Run acts g) {id l : Nat}
    {key k : String} {o : Except Error α} {due : List Nat}
    (hl : g.Stands l k (.publishing o (id :: due))) (hw : g.Stands id key .waiting) :
    Delivered acts id key l o := by
  have hclient : id ∈ g.clients l := by
    rw [clients_publishing hl]
    exact List.mem_cons_self
  obtain ⟨before, after, g₀, k₀, rfl, hn, hr, hj, hleads⟩ := joinedUnder_of_client h hclient hw
  have hkey : k₀ = key := by
    obtain ⟨p, hp⟩ := stands_after (hr.onward h) hj
    exact (hp.inj hw).1
  -- The leader had no outcome when the caller joined, and has one now.
  have hbefore : outcomesOf l before = [] := ((fits_run hr l).1 _ _ hleads).2
  have houtcome : outcomesOf l (before ++ .join id :: after) = [o] := ((fits_run h l).1 _ _ hl).2
  have hafter : .finish l o ∈ after := by
    rw [outcomesOf_join, hbefore, List.nil_append] at houtcome
    exact finish_of_mem_outcomesOf (houtcome ▸ List.mem_singleton_self o)
  exact ⟨before, after, g₀, rfl, hn, hr, hkey ▸ hj, hkey ▸ hleads, hbefore, hafter⟩

def Received (acts : List (Act α)) (id : Nat) (key : String) (outcome : Except Error α) : Prop :=
  ∃ leader o, Delivered acts id key leader o ∧ IsCopy o outcome

theorem Received.snoc {acts : List (Act α)} {id : Nat} {key : String} {outcome : Except Error α}
    (h : Received acts id key outcome) {a : Act α} (ha : a ≠ .join id) :
    Received (acts ++ [a]) id key outcome := by
  obtain ⟨leader, o, hd, hc⟩ := h
  exact ⟨leader, o, hd.snoc ha, hc⟩

theorem received_run {acts : List (Act α)} {g : Group α} (h : Run acts g) {id : Nat} {key : String}
    {outcome : Except Error α} :
    (g.Stands id key (.answered outcome) → Received acts id key outcome) ∧
    (g.Stands id key (.ended outcome) →
      outcomesOf id acts = [outcome] ∨ (outcomesOf id acts = [] ∧ Received acts id key outcome)) := by
  induction h with
  | start => simp [Group.Stands, Group.empty]
  | @act acts g g' a hr ha ih =>
    have hs := step_of_act ha
    refine ⟨fun hp' => ?_, fun hp' => ?_⟩
    · rcases change_of_step hs hp' with ⟨-, -, hp⟩ | ⟨p, hp, hchange⟩
      · cases hp
      · have hjoin : p ≠ .joining → a ≠ .join id := not_join_of_stands hs hp
        cases hchange with
        | idle => exact (ih.1 hp).snoc (hjoin (by simp))
        | @answered l k o due publishing =>
          exact ⟨l, o, (delivered_of_due hr publishing hp).snoc (by simp), isCopy_copyOutcome o⟩
    · rcases change_of_step hs hp' with ⟨-, -, hp⟩ | ⟨p, hp, hchange⟩
      · cases hp
      · have hjoin : p ≠ .joining → a ≠ .join id := not_join_of_stands hs hp
        rw [outcomesOf_snoc]
        cases hchange with
        | idle p begins ends =>
          refine (ih.2 hp).imp (fun ho => by simp [ho, ends]) fun ho => ?_
          exact ⟨by simp [ho.1, ends], ho.2.snoc (hjoin (by simp))⟩
        | conclude o =>
          have ho := ((fits_run hr id).1 _ _ hp).2
          exact .inl (by simp [ho, Act.outcomeOf])
        | receive o =>
          have ho := ((fits_run hr id).1 _ _ hp).2
          exact .inr ⟨by simp [ho, Act.outcomeOf], (ih.1 hp).snoc (by simp)⟩

/-- In every run, work of a caller is begun and ended at most once. A caller that has returned has
either done its own work, once, and has its outcome, or has done none and has a copy of the one
outcome of the leader of its key under which it joined last and whose work ended only after that.
Answers made of an error and of its copy are the same. -/
theorem outcomes_agree {acts : List (Act α)} {g : Group α} (h : Run acts g) :
    (∀ id, (Group.empty.started acts).count id ≤ 1 ∧ (outcomesOf id acts).length ≤ 1) ∧
    (∀ id key outcome, g.Stands id key (.ended outcome) →
      ((Group.empty.started acts).count id = 1 ∧ outcomesOf id acts = [outcome]) ∨
      ((Group.empty.started acts).count id = 0 ∧ outcomesOf id acts = [] ∧
        ∃ leader o, Delivered acts id key leader o ∧ outcomesOf leader acts = [o] ∧
          IsCopy o outcome)) ∧
    ∀ e e' : Error, IsCopy (.error e : Except Error α) (.error e') →
      Http.Response.ofError e' = Http.Response.ofError e := by
  refine ⟨bounds_run h, fun id key outcome hp => ?_, fun e e' he => he.response_eq⟩
  have hfits : ((Group.empty.started acts).count id = 1 ∧ outcomesOf id acts = [outcome]) ∨
      ((Group.empty.started acts).count id = 0 ∧ outcomesOf id acts = []) := (fits_run h id).1 _ _ hp
  rcases (received_run h).2 hp with ho | ⟨ho, leader, o, hd, hc⟩
  · refine .inl (hfits.resolve_right fun hnone => ?_)
    rw [ho] at hnone
    cases hnone.2
  · have hstarts : (Group.empty.started acts).count id = 0 := by
      rcases hfits with hown | hnone
      · rw [ho] at hown
        cases hown.2
      · exact hnone.1
    have hone : outcomesOf leader acts = [o] := by
      obtain ⟨before, after, -, hsplit, -, -, -, -, -, hf⟩ := hd
      have hmem : o ∈ outcomesOf leader acts := by
        refine List.mem_filterMap.2 ⟨.finish leader o, ?_, by simp [Act.outcomeOf]⟩
        rw [hsplit]
        exact List.mem_append_right _ (List.mem_cons_of_mem _ hf)
      have hlength := (bounds_run h leader).2
      obtain ⟨o', ho'⟩ := List.length_eq_one_iff.1
        (Nat.le_antisymm hlength (List.length_pos_of_mem hmem))
      rw [ho'] at hmem ⊢
      rw [List.mem_singleton.1 hmem]
    exact .inr ⟨hstarts, ho, leader, o, hd, hone, hc⟩

/-- Two callers of one key, of which the first does the work in vain: the other gets the message of
the error. -/
theorem outcomes_agree_waiter :
    ∃ (acts : List (Act Nat)) (g : Group Nat) (e : Error),
      acts = [.enter "key", .enter "key", .join 0, .join 1, .finish 0 (.error e), .send 0, .send 0,
        .receive 1] ∧ Run acts g ∧ e.isClientError = false ∧
      g.Stands 1 "key" (.ended (.error (.internal e.message))) ∧
      (Group.empty.started acts).count 1 = 0 ∧
      ∃ leader o, Delivered acts 1 "key" leader o ∧ outcomesOf leader acts = [o] := by
  have hr : Run (α := Nat) [.enter "key", .enter "key", .join 0, .join 1,
      .finish 0 (.error (.storage "search" .poolTimedOut)), .send 0, .send 0, .receive 1]
      ⟨[], [⟨"key", .ended (.error (.storage "search" .poolTimedOut))⟩,
        ⟨"key", .ended (copyOutcome (.error (.storage "search" .poolTimedOut)))⟩]⟩ :=
    (((((((Run.start.act rfl).act rfl).act rfl).act rfl).act rfl).act rfl).act rfl).act rfl
  have hstarts : (Group.empty.started ([.enter "key", .enter "key", .join 0, .join 1,
      .finish 0 (.error (.storage "search" .poolTimedOut)), .send 0, .send 0, .receive 1] :
      List (Act Nat))).count 1 = 0 := by decide
  rcases (outcomes_agree hr).2.1 1 "key" _ rfl with ⟨hone, -⟩ | ⟨hnone, -, l, o, hd, ho, -⟩
  · rw [hstarts] at hone
    cases hone
  · exact ⟨_, _, _, rfl, hr, rfl, rfl, hnone, l, o, hd, ho⟩

end CommitSearch.Flight
