import CommitSearch.Commit.Json
import CommitSearch.Proofs.Json.Reading

/-!
# Pages are read back from JSON

A page whose dates are whole seconds of the calendar, and whose total fits into sixty-four bits, is
read from its JSON text as it was, whatever characters its texts hold.
-/

namespace CommitSearch

open CommitSearch.Calendar CommitSearch.Json

/-- A date that JSON carries in full: a whole second of the calendar. -/
structure Calendar.Instant.IsStorable (i : Instant) : Prop where
  whole : i.isWhole = true
  legal : Instant.isLegalSecond i.seconds = true

/-! ### Commits -/

theorem CommitField.ofName_name (field : CommitField) :
    CommitField.ofName field.name = some field := by
  cases field <;> decide

def Commit.tokenMembers (c : Commit) : List (String × List Token) :=
  [("date", [.number (integerNumeral c.date.seconds)]), ("hash", [.text (.ok c.hash.toList)]),
    ("type", [.text (.ok c.type.toList)]), ("component", [.text (.ok c.component.toList)]),
    ("content", [.text (.ok c.content.toList)]), ("remote", [.text (.ok c.remote.toList)]),
    ("repository", [.text (.ok c.repository.toList)]), ("breaking", [.boolean c.breaking]),
    ("revert", [.boolean c.revert])]

theorem spells_commit (c : Commit) : Spells c.write (objectTokens c.tokenMembers) :=
  spells_object
    (.cons ⟨rfl, spells_integer _⟩ <| .cons ⟨rfl, spells_text _⟩ <| .cons ⟨rfl, spells_text _⟩ <|
      .cons ⟨rfl, spells_text _⟩ <| .cons ⟨rfl, spells_text _⟩ <| .cons ⟨rfl, spells_text _⟩ <|
      .cons ⟨rfl, spells_text _⟩ <| .cons ⟨rfl, spells_boolean _⟩ <|
      .cons ⟨rfl, spells_boolean _⟩ .nil)

theorem readInteger_written {i : Int} (h0 : -2 ^ 63 ≤ i) (h1 : i < 2 ^ 64) (wanted : Wanted)
    (rest : List Token) : readInteger wanted (.number (integerNumeral i) :: rest) = .ok (i, rest) := by
  rw [readInteger, value_integerNumeral h0 h1]
  rfl

theorem readDate_written {i : Instant} (h : i.IsStorable) (rest : List Token) :
    CommitDraft.readDate (.number (integerNumeral i.seconds) :: rest) = .ok (i, rest) := by
  obtain ⟨hlow, hhigh⟩ := Bool.and_eq_true_iff.1 h.legal
  have hlow : -8334601228800 ≤ i.seconds := of_decide_eq_true hlow
  have hhigh : i.seconds ≤ 8210266876799 := of_decide_eq_true hhigh
  have hwhole : i.nanos = 0 := by simpa [Instant.isWhole] using h.whole
  have hi : Instant.ofSeconds i.seconds = i := congrArg (Instant.mk i.seconds) hwhole.symm
  rw [CommitDraft.readDate, readInteger_written (by omega) (by omega)]
  simp only [bind, Except.bind, h.legal, if_true, hi]
  rfl

theorem yields_field {d d' : CommitDraft} (field : CommitField) {ts : List Token}
    (hnew : d.holds field = false)
    (h : ∀ rest, d.readField field (ts ++ rest) = .ok (d', rest)) :
    Yields (d.readMember field.name) (.colon :: ts) d' := by
  intro rest
  rw [CommitDraft.readMember, CommitField.ofName_name]
  simp only [hnew, Bool.false_eq_true, if_false, List.cons_append, readColon, h]
  rfl

theorem yields_date {d : CommitDraft} (hnew : d.holds .date = false) {i : Instant}
    (h : i.IsStorable) :
    Yields (d.readMember "date") [.colon, .number (integerNumeral i.seconds)]
      { d with date := some i } := by
  refine yields_field .date hnew fun rest => ?_
  rw [List.singleton_append, CommitDraft.readField, readDate_written h]
  rfl

theorem yields_text {d : CommitDraft} (field : CommitField) (hnew : d.holds field = false)
    (htext : ∀ ts, d.readField field ts =
      (readText ts).map fun (s, rest) => (d.setText field s, rest)) (s : String) :
    Yields (d.readMember field.name) [.colon, .text (.ok s.toList)] (d.setText field s) := by
  refine yields_field field hnew fun rest => ?_
  rw [htext, List.singleton_append, readText]
  simp [Except.map]

theorem yields_boolean {d : CommitDraft} (field : CommitField) (hnew : d.holds field = false)
    (hboolean : ∀ ts, d.readField field ts =
      (readBoolean ts).map fun (b, rest) => (d.setBoolean field b, rest)) (b : Bool) :
    Yields (d.readMember field.name) [.colon, .boolean b] (d.setBoolean field b) := by
  refine yields_field field hnew fun rest => ?_
  rw [hboolean, List.singleton_append, readBoolean]
  rfl

theorem fills_commit {c : Commit} (h : c.date.IsStorable) :
    Fills CommitDraft.readMember .empty c.tokenMembers
      ⟨some c.date, some c.hash, some c.type, some c.component, some c.content, some c.remote,
        some c.repository, some c.breaking, some c.revert⟩ :=
  .member (yields_date rfl h) <|
  .member (yields_text .hash rfl (fun _ => rfl) _) <|
  .member (yields_text .type rfl (fun _ => rfl) _) <|
  .member (yields_text .component rfl (fun _ => rfl) _) <|
  .member (yields_text .content rfl (fun _ => rfl) _) <|
  .member (yields_text .remote rfl (fun _ => rfl) _) <|
  .member (yields_text .repository rfl (fun _ => rfl) _) <|
  .member (yields_boolean .breaking rfl (fun _ => rfl) _) <|
  .member (yields_boolean .revert rfl (fun _ => rfl) _) <|
  .done _

theorem yields_commit {c : Commit} (h : c.date.IsStorable) :
    Yields Commit.read (objectTokens c.tokenMembers) c := by
  intro rest
  have hlen : c.tokenMembers.length <
      (separatedTokens (c.tokenMembers.map memberTokens) ++ .objectClose :: rest).length + 1 := by
    simp only [Commit.tokenMembers, List.map, separatedTokens, memberTokens, List.length_append,
      List.length_cons]
    omega
  rw [objectTokens, List.cons_append, List.append_assoc, List.singleton_append, Commit.read,
    readMembers_object (fills_commit h) hlen]
  rfl

/-! ### Pages -/

/-- A page that JSON carries in full. -/
structure Page.IsStorable (p : Page) : Prop where
  dates : ∀ c ∈ p.commits, c.date.IsStorable
  total : p.total < 2 ^ 64

def Page.tokenMembers (p : Page) : List (String × List Token) :=
  [("commits", listTokens (p.commits.map fun c => objectTokens c.tokenMembers)),
    ("totalCount", [.number (integerNumeral p.total)])]

theorem spells_page (p : Page) : Spells (writeObject p.members) (objectTokens p.tokenMembers) := by
  have hcommits : List.Forall₂ Spells (p.commits.map Commit.write)
      (p.commits.map fun c => objectTokens c.tokenMembers) := by
    induction p.commits with
    | nil => exact .nil
    | cons c rest ih => exact .cons (spells_commit c) ih
  exact spells_object (.cons ⟨rfl, spells_list hcommits⟩ <| .cons ⟨rfl, spells_integer p.total⟩ .nil)

theorem yields_commits {commits : List Commit} (h : ∀ c ∈ commits, c.date.IsStorable) :
    Yields readCommits (listTokens (commits.map fun c => objectTokens c.tokenMembers)) commits := by
  refine yields_list ?_
  induction commits with
  | nil => exact .nil
  | cons c rest ih =>
    have hopens : OpensValue (objectTokens c.tokenMembers) := ⟨_, _, rfl, by simp⟩
    exact .cons ⟨hopens, yields_commit (h c List.mem_cons_self)⟩
      (ih fun d hd => h d (List.mem_cons_of_mem c hd))

theorem readTotal_written {n : Nat} (h : n < 2 ^ 64) (key : String) (rest : List Token) :
    readTotal key (.number (integerNumeral n) :: rest) = .ok (n, rest) := by
  rw [readTotal, readCount, readInteger_written (by omega) (by omega)]
  simp only [bind, Except.bind]
  rw [if_neg (by omega)]
  rfl

theorem fills_page {p : Page} (h : p.IsStorable) :
    Fills PageDraft.readMember ⟨none, none⟩ p.tokenMembers ⟨some p.commits, some p.total⟩ := by
  have hcommits : Yields (PageDraft.readMember ⟨none, none⟩ "commits")
      (.colon :: listTokens (p.commits.map fun c => objectTokens c.tokenMembers))
      ⟨some p.commits, none⟩ := by
    intro rest
    have hread := yields_commits h.dates rest
    simp only [PageDraft.readMember, if_true, Option.isSome_none, Bool.false_eq_true, if_false,
      List.cons_append, readColon, bind, Except.bind, hread]
    rfl
  have htotal : Yields (PageDraft.readMember ⟨some p.commits, none⟩ "totalCount")
      [.colon, .number (integerNumeral p.total)] ⟨some p.commits, some p.total⟩ := by
    intro rest
    have hread := readTotal_written h.total "totalCount" rest
    have hne : ¬ "totalCount" = "commits" := by decide
    simp only [PageDraft.readMember, hne, if_true, Option.isSome_none, Bool.false_eq_true, if_false,
      List.cons_append, List.nil_append, readColon, bind, Except.bind, hread]
    rfl
  exact .member hcommits <| .member htotal <| .done _

/-- A page is read from its text as it was. -/
theorem decode_encode {p : Page} (h : p.IsStorable) : Page.decode p.encode = .ok p := by
  have hlen : p.tokenMembers.length <
      (separatedTokens (p.tokenMembers.map memberTokens) ++ [Token.objectClose]).length + 1 := by
    simp only [Page.tokenMembers, List.map, separatedTokens, memberTokens, List.length_append,
      List.length_cons]
    omega
  rw [Page.decode, readDocument, Page.encode, String.toList_ofList, (spells_page p).tokens_eq,
    objectTokens, Page.read, readMembers_object (fills_page h) hlen]
  rfl

end CommitSearch
