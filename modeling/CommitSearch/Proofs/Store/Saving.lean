import CommitSearch.Proofs.Store.Parts
import CommitSearch.Proofs.Text.NormalForm

/-!
# Saving

A commit that is saved is brought into its form and then checked, so whether it is stored can be read
off the commit as it came: every required text has to hold more than blanks, and the date has to lie
outside the first second of 1970. Main statement: whatever is saved one after the other, the stored
commits are in their form and complete, they only ever grow at the end, and a save stores the form of
its commit or is refused for a field that the commit lacks.
-/

namespace CommitSearch.Text

/-- A text with a character that is not blank. -/
def HasInk (s : String) : Prop := ∃ x ∈ s.toList, isBlank x = false

theorem hasInk_iff {s : String} : HasInk s ↔ isBlankText s = false := by
  simp [HasInk, isBlankText]

theorem isEmpty_lower (s : String) : (lower s).isEmpty = s.isEmpty := by
  rw [Bool.eq_iff_iff, String.isEmpty_iff, String.isEmpty_iff, lower, String.ofList_eq_empty_iff,
    lowerChars_eq_nil_iff, String.toList_eq_nil_iff]

theorem trim_trim (s : String) : trim (trim s) = trim s := by
  have ht := isTrimmed_trim s.toList
  simp only [trim, String.toList_ofList, ht.trimStart_eq, ht.trimEnd_eq]

end CommitSearch.Text

namespace CommitSearch

open CommitSearch.Text

theorem isEmpty_normalize (s : String) : (normalize s).isEmpty = isBlankText s := by
  rw [normalize, isEmpty_lower, trim_isEmpty]

/-! ### What a commit has to have -/

def RequiredField.all : List RequiredField := [.hash, .type, .content, .date, .remote, .repository]

theorem RequiredField.mem_all (field : RequiredField) : field ∈ all := by
  cases field <;> decide

/-- Whether the check finds a field in a commit. -/
def RequiredField.isIn (c : Commit) : RequiredField → Bool
  | .hash => !c.hash.isEmpty
  | .type => !c.type.isEmpty
  | .content => !c.content.isEmpty
  | .date => c.date.seconds != 0
  | .remote => !c.remote.isEmpty
  | .repository => !c.repository.isEmpty

namespace Commit

/-- A commit, as it comes, has a field: a text that is more than blanks, or a date outside the first
second of 1970. -/
def Has (c : Commit) : RequiredField → Prop
  | .hash => HasInk c.hash
  | .type => HasInk c.type
  | .content => HasInk c.content
  | .date => c.date.seconds ≠ 0
  | .remote => HasInk c.remote
  | .repository => HasInk c.repository

/-- A commit as it is stored: it is its own form and lacks nothing. -/
structure IsInForm (c : Commit) : Prop where
  stable : c.sanitize = c
  complete : c.check = .ok ()

theorem sanitize_sanitize (c : Commit) : c.sanitize.sanitize = c.sanitize := by
  simp only [sanitize, normalize_normalize, trim_trim]

theorem isIn_sanitize (c : Commit) (field : RequiredField) :
    field.isIn c.sanitize = true ↔ c.Has field := by
  cases field with
  | hash | type | remote | repository =>
    simp only [RequiredField.isIn, sanitize, isEmpty_normalize, Has, hasInk_iff, Bool.not_eq_true']
  | content =>
    simp only [RequiredField.isIn, sanitize, trim_isEmpty, Has, hasInk_iff, Bool.not_eq_true']
  | date => simp only [RequiredField.isIn, sanitize, Has, bne_iff_ne]

/-- Fields that are required one after the other: the first that is missing is an error. -/
theorem forM_require (c : Commit) (fields : List RequiredField) :
    fields.forM (fun field => require (field.isIn c) field) =
      match fields.find? fun field => !field.isIn c with
      | none => .ok ()
      | some field => .error (.refused (.fieldRequired field)) := by
  induction fields with
  | nil => rfl
  | cons field rest ih =>
    rw [List.forM_eq_forM, List.forM_cons, ← List.forM_eq_forM, ih]
    cases hin : field.isIn c <;> simp [require, hin, bind, Except.bind]

theorem check_eq (c : Commit) :
    c.check = match RequiredField.all.find? fun field => !field.isIn c with
      | none => .ok ()
      | some field => .error (.refused (.fieldRequired field)) := by
  rw [← forM_require]
  simp [check, RequiredField.all, RequiredField.isIn]

theorem check_sanitize (c : Commit) :
    ((∀ field, c.Has field) ∧ c.sanitize.check = .ok ()) ∨
      ∃ field, ¬ c.Has field ∧ c.sanitize.check = .error (.refused (.fieldRequired field)) := by
  rw [check_eq]
  cases hfind : RequiredField.all.find? fun field => !field.isIn c.sanitize with
  | none =>
    refine .inl ⟨fun field => ?_, rfl⟩
    have hin := List.find?_eq_none.1 hfind field field.mem_all
    exact (isIn_sanitize c field).1 (by simpa using hin)
  | some field =>
    refine .inr ⟨field, fun has => ?_, rfl⟩
    have hmissing := List.find?_some hfind
    rw [(isIn_sanitize c field).2 has] at hmissing
    cases hmissing

theorem isInForm_sanitize {c : Commit} (has : ∀ field, c.Has field) : c.sanitize.IsInForm := by
  refine ⟨c.sanitize_sanitize, ?_⟩
  rcases c.check_sanitize with ⟨-, hcheck⟩ | ⟨field, hmissing, -⟩
  · exact hcheck
  · exact absurd (has field) hmissing

end Commit

/-! ### Runs of saves -/

/-- A save appends the form of a commit that lacks nothing, and refuses any other for a field that it
lacks. -/
theorem save_cases (s : Contents) (c : Commit) :
    ((∀ field, c.Has field) ∧ (Store.memory s).save c = .ok (.memory (s.insert c.sanitize))) ∨
      ∃ field, ¬ c.Has field ∧
        (Store.memory s).save c = .error (.refused (.fieldRequired field)) := by
  rcases c.check_sanitize with ⟨has, hcheck⟩ | ⟨field, lacks, hcheck⟩
  · refine .inl ⟨has, ?_⟩
    rw [Store.save, Store.accept, hcheck]
    rfl
  · refine .inr ⟨field, lacks, ?_⟩
    rw [Store.save, Store.accept, hcheck]
    rfl

namespace Contents

/-- What an attempt at the contents leaves behind: them as they were, when it fails. -/
def orAfter (s : Contents) : Except Error Store → Contents
  | .ok (.memory t) => t
  | _ => s

/-- The contents after a save. -/
def saved (s : Contents) (c : Commit) : Contents := s.orAfter ((Store.memory s).save c)

def savedAll (s : Contents) (cs : List Commit) : Contents := cs.foldl saved s

theorem savedAll_cons (s : Contents) (c : Commit) (cs : List Commit) :
    s.savedAll (c :: cs) = (s.saved c).savedAll cs := List.foldl_cons ..

theorem savedAll_append (s : Contents) (cs ds : List Commit) :
    s.savedAll (cs ++ ds) = (s.savedAll cs).savedAll ds := List.foldl_append

theorem saved_of_ok {s t : Contents} {c : Commit}
    (h : (Store.memory s).save c = .ok (.memory t)) : s.saved c = t := by
  rw [saved, h, orAfter]

theorem saved_of_error {s : Contents} {c : Commit} {e : Error}
    (h : (Store.memory s).save c = .error e) : s.saved c = s := by
  rw [saved, h]
  rfl

/-- What a save makes of the contents. -/
theorem saved_cases (s : Contents) (c : Commit) :
    ((∀ field, c.Has field) ∧ s.saved c = s.insert c.sanitize) ∨ s.saved c = s := by
  rcases save_cases s c with ⟨has, hsave⟩ | ⟨field, -, hsave⟩
  · exact .inl ⟨has, saved_of_ok hsave⟩
  · exact .inr (saved_of_error hsave)

theorem commits_saved (s : Contents) (c : Commit) : s.commits <+: (s.saved c).commits := by
  rcases s.saved_cases c with ⟨-, hsaved⟩ | hsaved
  · rw [hsaved]
    exact List.prefix_append _ _
  · exact hsaved.symm ▸ List.prefix_rfl

theorem commits_savedAll (s : Contents) (cs : List Commit) :
    s.commits <+: (s.savedAll cs).commits := by
  induction cs generalizing s with
  | nil => exact List.prefix_rfl
  | cons c rest ih =>
    rw [savedAll_cons]
    exact (s.commits_saved c).trans (ih (s.saved c))

theorem snapshot_saved (s : Contents) (c : Commit) : (s.saved c).snapshot = s.snapshot := by
  rcases s.saved_cases c with ⟨-, hsaved⟩ | hsaved
  · rw [hsaved, insert]
  · rw [hsaved]

theorem snapshot_savedAll (s : Contents) (cs : List Commit) :
    (s.savedAll cs).snapshot = s.snapshot := by
  induction cs generalizing s with
  | nil => rfl
  | cons c rest ih => rw [savedAll_cons, ih, snapshot_saved]

theorem isInForm_saved {s : Contents} (h : ∀ d ∈ s.commits, d.IsInForm) (c : Commit) :
    ∀ d ∈ (s.saved c).commits, d.IsInForm := by
  rcases s.saved_cases c with ⟨has, hsaved⟩ | hsaved
  · intro d hd
    rw [hsaved, insert] at hd
    rcases List.mem_append.1 hd with hd | hd
    · exact h d hd
    · rw [List.mem_singleton.1 hd]
      exact Commit.isInForm_sanitize has
  · rwa [hsaved]

theorem isInForm_savedAll {s : Contents} (h : ∀ d ∈ s.commits, d.IsInForm) (cs : List Commit) :
    ∀ d ∈ (s.savedAll cs).commits, d.IsInForm := by
  induction cs generalizing s with
  | nil => exact h
  | cons c rest ih =>
    rw [savedAll_cons]
    exact ih (isInForm_saved h c)

end Contents

/-- After any saves, the stored commits are in their form and those of before are still in front; a
save stores the form of its commit at the end, or the commit lacks a field for which it is refused. -/
theorem saves_in_form (cs more : List Commit) (c : Commit) :
    (∀ d ∈ (Contents.empty.savedAll cs).commits, d.sanitize = d ∧ d.check = .ok ()) ∧
    (Contents.empty.savedAll cs).commits <+: (Contents.empty.savedAll (cs ++ more)).commits ∧
    ((∀ field, c.Has field) ↔ ∃ t, (Store.memory (Contents.empty.savedAll cs)).save c = .ok t) ∧
    ((∀ field, c.Has field) →
      (Store.memory (Contents.empty.savedAll cs)).save c =
        .ok (.memory (Contents.empty.savedAll (cs ++ [c]))) ∧
      (Contents.empty.savedAll (cs ++ [c])).commits =
        (Contents.empty.savedAll cs).commits ++ [c.sanitize]) ∧
    ((¬ ∀ field, c.Has field) →
      ∃ field, ¬ c.Has field ∧
        (Store.memory (Contents.empty.savedAll cs)).save c =
          .error (.refused (.fieldRequired field)) ∧
        Contents.empty.savedAll (cs ++ [c]) = Contents.empty.savedAll cs) := by
  have hgrown : (Contents.empty.savedAll cs).commits <+:
      (Contents.empty.savedAll (cs ++ more)).commits := by
    rw [Contents.savedAll_append]
    exact Contents.commits_savedAll _ more
  have hform := Contents.isInForm_savedAll (s := .empty) nofun cs
  have hsnoc : Contents.empty.savedAll (cs ++ [c]) = (Contents.empty.savedAll cs).saved c := by
    rw [Contents.savedAll_append, Contents.savedAll_cons, Contents.savedAll, List.foldl_nil]
  rw [hsnoc]
  refine ⟨fun d hd => ⟨(hform d hd).stable, (hform d hd).complete⟩, hgrown, ?_⟩
  generalize Contents.empty.savedAll cs = s
  rcases save_cases s c with ⟨has, hsave⟩ | ⟨field, lacks, hsave⟩
  · rw [hsave, Contents.saved_of_ok hsave]
    exact ⟨⟨fun _ => ⟨_, rfl⟩, fun _ => has⟩, fun _ => ⟨rfl, rfl⟩, fun lacks => absurd has lacks⟩
  · rw [hsave, Contents.saved_of_error hsave]
    refine ⟨⟨fun has => absurd (has field) lacks, ?_⟩, fun has => absurd (has field) lacks,
      fun _ => ⟨field, lacks, rfl, rfl⟩⟩
    rintro ⟨t, ht⟩
    cases ht

/-- A commit whose texts are blanks around capitals. -/
def capitalCommit : Commit :=
  ⟨.ofSeconds 1, "\u3000A1 ", " FIX", "", " B ", "R", "\u0391\u03a3\t", false, false⟩

/-- The commit is stored in its form; one whose hash is a blank is refused after it. -/
theorem saves_in_form_capitals :
    let s := Contents.empty.savedAll [capitalCommit]
    s.commits = [⟨.ofSeconds 1, "a1", "fix", "", "B", "r", "\u03b1\u03c2", false, false⟩] ∧
      (∀ d ∈ s.commits, d.sanitize = d ∧ d.check = .ok ()) ∧
      ∃ field, (Store.memory s).save { capitalCommit with hash := "\u2003" } =
        .error (.refused (.fieldRequired field)) := by
  have has : ∀ field, capitalCommit.Has field := by
    intro field
    refine (Commit.isIn_sanitize _ field).1 ?_
    cases field <;> decide +kernel
  have lacks : ¬ ∀ field, Commit.Has { capitalCommit with hash := "\u2003" } field := by
    intro all
    obtain ⟨x, hx, hink⟩ := all .hash
    obtain rfl : x = '\u2003' := by simpa using hx
    exact absurd hink (by decide)
  have hstored := ((saves_in_form [] [] capitalCommit).2.2.2.1 has).2
  rw [List.nil_append] at hstored
  obtain ⟨hform, -, -, -, hrefused⟩ :=
    saves_in_form [capitalCommit] [] { capitalCommit with hash := "\u2003" }
  obtain ⟨field, -, hsave, -⟩ := hrefused lacks
  refine ⟨hstored.trans ?_, hform, field, hsave⟩
  decide +kernel

end CommitSearch
