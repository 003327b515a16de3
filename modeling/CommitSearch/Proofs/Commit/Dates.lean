import CommitSearch.Proofs.Commit.RoundTrip

/-!
# Dates of commits that were read

A commit that was read from JSON has a whole second of the calendar for its date, in whichever order
its fields came, and also if it was read from a list of values.
-/

namespace CommitSearch

open CommitSearch.Calendar CommitSearch.Json

namespace Json

theorem ok_of_map {ε α β : Type} {x : Except ε α} {f : α → β} {b : β} (h : x.map f = .ok b) :
    ∃ a, x = .ok a ∧ f a = b := by
  cases x with
  | error e => cases h
  | ok a => exact ⟨a, rfl, Except.ok.inj h⟩

theorem ok_of_located {α : Type} {place : Place} {x : Except Fault α} {a : α}
    (h : located place x = .ok a) : x = .ok a := by
  cases x with
  | error f => cases h
  | ok b => exact congrArg _ (Except.ok.inj h)

/-- What every member keeps of the state that is read into is kept by all. -/
theorem readMembers_keeps {σ : Type} {P : σ → Prop} {member : σ → String → Reader σ}
    (keeps : ∀ {s key ts s' rest}, P s → member s key ts = .ok (s', rest) → P s') {fuel : Nat}
    {first : Bool} {s s' : σ} {ts rest : List Token} (h : P s)
    (read : readMembers member fuel first s ts = .ok (s', rest)) : P s' := by
  induction fuel generalizing first s ts with
  | zero => cases read
  | succ fuel ih =>
    unfold readMembers at read
    split at read
    · cases read
    · cases read
      exact h
    · obtain ⟨⟨u, ts'⟩, hmember, hrest⟩ := ok_of_bind read
      exact ih (keeps h hmember) hrest

end Json

/-- The date of a draft, if it was read, is carried by JSON in full. -/
def CommitDraft.IsDated (d : CommitDraft) : Prop := ∀ i, d.date = some i → i.IsStorable

variable {d d' : CommitDraft} {field : CommitField} {ts rest : List Token} {c : Commit}

theorem isStorable_of_readDate {i : Instant} (read : CommitDraft.readDate ts = .ok (i, rest)) :
    i.IsStorable := by
  obtain ⟨⟨seconds, ts'⟩, -, hlegal⟩ := ok_of_bind read
  dsimp only at hlegal
  split at hlegal
  · next legal =>
    cases hlegal
    exact ⟨rfl, legal⟩
  · cases hlegal

theorem CommitDraft.date_setText (d : CommitDraft) (field : CommitField) (s : String) :
    (d.setText field s).date = d.date := by
  cases field <;> rfl

theorem isDated_readField (h : d.IsDated) (read : d.readField field ts = .ok (d', rest)) :
    d'.IsDated := by
  unfold CommitDraft.readField at read
  split at read
  · obtain ⟨⟨i, ts'⟩, hdate, heq⟩ := ok_of_map read
    cases heq
    intro j hj
    cases hj
    exact isStorable_of_readDate hdate
  · obtain ⟨⟨b, ts'⟩, -, heq⟩ := ok_of_map read
    cases heq
    intro j hj
    exact h j hj
  · obtain ⟨⟨b, ts'⟩, -, heq⟩ := ok_of_map read
    cases heq
    intro j hj
    exact h j hj
  · obtain ⟨⟨s, ts'⟩, -, heq⟩ := ok_of_map read
    cases heq
    intro j hj
    rw [CommitDraft.date_setText] at hj
    exact h j hj

theorem isDated_readMember {key : String} (h : d.IsDated)
    (read : d.readMember key ts = .ok (d', rest)) : d'.IsDated := by
  unfold CommitDraft.readMember at read
  split at read
  · obtain ⟨ts', -, heq⟩ := ok_of_map read
    cases heq
    exact h
  · split at read
    · cases read
    · split at read
      · cases read
      · exact isDated_readField h (ok_of_located read)

theorem isDated_readPositions {fields : List CommitField} {index : Nat} (h : d.IsDated)
    (read : d.readPositions index fields ts = .ok (d', rest)) : d'.IsDated := by
  induction fields generalizing d index ts with
  | nil =>
    cases read
    exact h
  | cons field fields ih =>
    unfold CommitDraft.readPositions at read
    split at read
    · cases read
    · split at read
      · exact ih h read
      · cases read
    · obtain ⟨⟨u, ts'⟩, hfield, hfields⟩ := ok_of_bind read
      exact ih (isDated_readField h (ok_of_located hfield)) hfields

theorem isStorable_of_finish (h : d.IsDated) (finished : d.finish = .ok c) : c.date.IsStorable := by
  unfold CommitDraft.finish at finished
  split at finished
  · next date hash type component content remote repository breaking revert =>
    cases finished
    exact h date rfl
  · cases finished

/-- Every date that a commit can carry in JSON is a whole second of the calendar. -/
theorem isStorable_of_decode {text : String} (read : Commit.decode text = .ok c) :
    c.date.IsStorable := by
  have hempty : CommitDraft.empty.IsDated := nofun
  obtain ⟨⟨x, rest⟩, hread, hend⟩ := ok_of_bind read
  dsimp only at hend
  split at hend
  · cases hend
    unfold Commit.read at hread
    split at hread
    · obtain ⟨⟨d, ts⟩, hmembers, hfinish⟩ := ok_of_bind hread
      dsimp only at hfinish
      split at hfinish
      · next finished =>
        cases hfinish
        exact isStorable_of_finish (readMembers_keeps isDated_readMember hempty hmembers) finished
      · cases hfinish
    · obtain ⟨⟨d, ts⟩, hpositions, hfinish⟩ := ok_of_bind hread
      dsimp only at hfinish
      split at hfinish
      · cases hfinish
      · cases hfinish
      · next finished _ =>
        cases hfinish
        exact isStorable_of_finish (isDated_readPositions hempty hpositions) finished
    · cases hread
  · cases hend

/-- A commit is read from its text as it was. -/
theorem decode_encode_commit (h : c.date.IsStorable) : Commit.decode c.encode = .ok c := by
  have hread := yields_commit h []
  rw [List.append_nil] at hread
  rw [Commit.decode, readDocument, Commit.encode, String.toList_ofList, (spells_commit c).tokens_eq,
    hread]
  rfl

end CommitSearch
