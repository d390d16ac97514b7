import EndSession.Proofs.Claims.Kinds

/-
This file tells which parties are read as the audience of an issued token. Claims are stored in three
forms, and a number, unless it is zero, is the one of them that names no parties and is refused.
-/

namespace EndSession.Claims

open Number

/-- What is read of the value that is stored as the audience. The parties of a list keep their order, and
none of them is left out or repeated. -/
inductive Answers : Option Value → Except Value.Misuse (List Value) → Prop where
  | absent : Answers none (.ok [])
  | empty : Answers (some (.text "")) (.ok [])
  | party {party : Text} (filled : party ≠ "") :
      Answers (some (.text party)) (.ok [.text party])
  | parties (parties : List Text) :
      Answers (some (.list (parties.map .text))) (.ok (parties.map .text))
  | zero {number : Numeric} (isZero : number.isZero = true) :
      Answers (some (.number number)) (.ok [])
  | number {number : Numeric} (nonzero : number.isZero = false) :
      Answers (some (.number number)) (.error .kind)

/-- Whatever is stored has an answer. -/
theorem answers_stored {claims : Entries Value} {stored : StoredValue}
    (found : claims.get? "aud" = some stored.toValue) :
    Answers (some stored.toValue) (audience claims) := by
  unfold audience
  rw [found]
  cases stored with
  | text party =>
      by_cases empty : party = ""
      · rw [empty]
        exact .empty
      · simpa [StoredValue.toValue, Value.isTrue, empty] using Answers.party empty
  | texts parties =>
      cases parties with
      | nil => exact .parties []
      | cons party parties => exact .parties (party :: parties)
  | number number =>
      cases isZero : number.isZero with
      | true => simpa [StoredValue.toValue, Value.isTrue, isZero] using Answers.zero isZero
      | false =>
          simpa [StoredValue.toValue, Value.isTrue, Value.items, isZero] using Answers.number isZero

/-- What is found under a name is kept as a claim of an issued token. -/
theorem rel_isKeptAs_of_issue {given claims : Entries Value} (done : issue given = .ok claims)
    (claim : String) : Option.Rel IsKeptAs (given.get? claim) (claims.get? claim) := by
  apply Entries.rel_lookup fun _ => IsKeptAs
  refine (forall₂_of_issue done).imp ?_
  rintro before after ⟨name, stored, converted, same⟩
  rw [same]
  exact ⟨name, (isKeptAs_of_convert converted).2⟩

/-- The audience that is given to a token is kept, and what is read of it answers for what is kept. It
is a list of texts exactly when no number but zero is kept. -/
theorem audience_of_issued {given claims : Entries Value} (done : issue given = .ok claims) :
    Option.Rel IsKeptAs (given.get? "aud") (claims.get? "aud") ∧
      Answers (claims.get? "aud") (audience claims) ∧
        ((∃ parties : List Text, audience claims = .ok (parties.map .text)) ↔
          ∀ number, claims.get? "aud" = some (.number number) → number.isZero = true) := by
  have answers : Answers (claims.get? "aud") (audience claims) := by
    cases found : claims.get? "aud" with
    | none =>
        have read : audience claims = .ok [] := by simp [audience, found, Value.isTrue]
        rw [read]
        exact .absent
    | some value =>
        obtain ⟨stored, rfl⟩ := IsIssued.stored ⟨given, done⟩ found
        exact answers_stored found
  refine ⟨rel_isKeptAs_of_issue done "aud", answers, ?_⟩
  -- From here on only the pair of what is kept and what is read counts.
  generalize claims.get? "aud" = value at answers
  generalize audience claims = answer at answers
  cases answers with
  | absent => simp
  | empty => simp
  | @party party filled =>
      refine iff_of_true ⟨[party], rfl⟩ ?_
      simp
  | parties parties => simp
  | zero isZero => simp [isZero]
  | number nonzero => simp [nonzero]

/-- An audience in which a party occurs twice. -/
def repeatedAudience : Entries Value :=
  Entries.ofList [("aud", .tuple (["client-2", "client-1", "client-2"].map .text))]

/-- The audience as it is kept. -/
def listedAudience : Entries Value :=
  Entries.ofList [("aud", .list (["client-2", "client-1", "client-2"].map .text))]

/-- The parties of the tuple are read in their order, and as often as they occur. -/
theorem repeatedAudience_read :
    issue repeatedAudience = .ok listedAudience ∧
      Answers (listedAudience.get? "aud") (.ok (["client-2", "client-1", "client-2"].map .text)) ∧
      ∃ parties : List Text, audience listedAudience = .ok (parties.map .text) := by
  have done : issue repeatedAudience = .ok listedAudience := rfl
  obtain ⟨_, answers, readable⟩ := audience_of_issued done
  have unnumbered (number : Numeric)
      (found : listedAudience.get? "aud" = some (.number number)) : number.isZero = true := by
    cases found
  exact ⟨done, answers, readable.mpr unnumbered⟩

/-- An audience that is a number. -/
def numericAudience : Entries Value :=
  Entries.ofList [("aud", .number (.whole 5))]

/-- A token can be issued for a number, and then its audience is not read. -/
theorem numericAudience_refused :
    issue numericAudience = .ok numericAudience ∧ audience numericAudience = .error .kind ∧
      ¬ ∀ given claims, issue given = .ok claims →
        ∃ parties : List Text, audience claims = .ok (parties.map .text) := by
  have issued : issue numericAudience = .ok numericAudience := rfl
  have refused : audience numericAudience = .error .kind := rfl
  refine ⟨issued, refused, ?_⟩
  intro total
  obtain ⟨parties, read⟩ := total numericAudience numericAudience issued
  rw [refused] at read
  cases read

end EndSession.Claims
