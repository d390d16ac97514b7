import EndSession.Claims.IdToken
import EndSession.Proofs.Calendar.Instant
import EndSession.Proofs.Claims.Issuance

/-
This file proves that a token keeps a moment as the exact count of its seconds, rounded down, and that
the moment read from such a count is kept as this count again.
-/

namespace EndSession.Claims

open Number Calendar

/-- Claims of which there is one. -/
def single (claim : String) (value : Value) : Entries Value :=
  Entries.ofList [(claim, value)]

@[simp] theorem get?_single (claim : String) (value : Value) :
    (single claim value).get? claim = some value := by
  simp [single, Entries.ofList, Entries.get?_put]

/-- A token that is issued with this claim alone keeps the moment as this number. -/
def IsKeptAsDate (claim : String) (moment : DateTime) (timestamp : Int) : Prop :=
  ∃ claims, issue (single claim (.moment moment)) = .ok claims ∧
    claims.get? claim = some (.number (.whole timestamp))

/-- A moment is kept when its year in UTC is one of the years 1 to 9999, and then as its whole
seconds. -/
theorem isKeptAsDate_iff {claim : String} {moment : DateTime} {timestamp : Int} :
    IsKeptAsDate claim moment timestamp ↔
      moment.HasUtcYear ∧ timestamp = moment.epochSeconds := by
  constructor
  · rintro ⟨claims, done, found⟩
    obtain ⟨stored, converted, kept⟩ := get?_of_issue done (get?_single claim _)
    rw [found] at kept
    cases convert_eq_ok_iff.mp converted with
    | moment dated =>
        cases kept
        exact ⟨dated, rfl⟩
  · rintro ⟨dated, rfl⟩
    have converts : Converts claim (.moment moment) (.number (.whole moment.epochSeconds)) :=
      .moment dated
    have converted := converts.convert_eq
    obtain ⟨claims, done⟩ : ∃ claims, issue (single claim (.moment moment)) = .ok claims := by
      apply exists_issue_iff_convert.mpr
      intro pair member
      cases List.mem_singleton.mp member
      exact ⟨_, converted⟩
    obtain ⟨stored, converted', found⟩ := get?_of_issue done (get?_single claim _)
    cases converted.symm.trans converted'
    exact ⟨claims, done, found⟩

/-- The claims whose moment can be read, each with what reads it. -/
inductive IsRead : String → (Entries Value → Except DateFault (Option DateTime)) → Prop where
  | issued : IsRead "iat" issuedAt
  | expires : IsRead "exp" expiresAt

/-- What is read of a whole number is its moment, if it has one. -/
theorem IsRead.read_eq {claim : String}
    {read : Entries Value → Except DateFault (Option DateTime)} (isRead : IsRead claim read)
    {claims : Entries Value} {timestamp : Int}
    (found : claims.get? claim = some (.number (.whole timestamp))) :
    read claims = ((DateTime.ofEpoch? timestamp 0).map (Except.ok ∘ some)).getD
      (.error .outOfRange) := by
  cases isRead <;>
    cases isFound : DateTime.ofEpoch? timestamp 0 <;>
      simp [issuedAt, expiresAt, dateOf, found, isFound, Value.isNull, Value.number?,
        DateTime.ofNumber?]

/-- A moment whose year in UTC is one of the years 1 to 9999 is kept under every claim as the number of
seconds that it lies after the start of 1970, rounded down; a later moment is not kept as a smaller
number; and where the moment of a claim can be read, it is the one that was given, in UTC and without its
microseconds. A whole number of any size is read as a moment exactly when it is one of these years,
and this moment is kept as that number under every claim. -/
theorem numericDate_exact_and_invertible :
    (∀ moment utc : DateTime, moment.IsValid → utc.IsInUtc moment →
      (∃! seconds, moment.LiesAt seconds) ∧
      (∀ seconds claim, moment.LiesAt seconds → IsKeptAsDate claim moment ⌊seconds⌋) ∧
      ∀ claim read claims, IsRead claim read → issue (single claim (.moment moment)) = .ok claims →
        read claims = .ok (some { utc with microsecond := 0 })) ∧
    (∀ early late : DateTime, early.IsValid → late.IsValid →
      ∀ seconds seconds', early.LiesAt seconds → late.LiesAt seconds' → seconds ≤ seconds' →
        ∀ claim timestamp timestamp', IsKeptAsDate claim early timestamp →
          IsKeptAsDate claim late timestamp' → timestamp ≤ timestamp') ∧
    ∀ (timestamp : Int) claim read claims, IsRead claim read →
      claims.get? claim = some (.number (.whole timestamp)) →
        (-62135596800 ≤ timestamp ∧ timestamp ≤ 253402300799 →
          ∃ moment : DateTime, read claims = .ok (some moment) ∧
            ∀ claim', IsKeptAsDate claim' moment timestamp) ∧
        (¬ (-62135596800 ≤ timestamp ∧ timestamp ≤ 253402300799) →
          read claims = .error .outOfRange) := by
  refine ⟨?_, ?_, ?_⟩
  · intro moment utc valid shown
    have dated : moment.HasUtcYear := ⟨utc, shown.isUtcOf valid⟩
    refine ⟨DateTime.existsUnique_liesAt valid, ?_, ?_⟩
    · intro seconds claim lies
      exact isKeptAsDate_iff.mpr ⟨dated, lies.floor_eq valid⟩
    · intro claim read claims isRead done
      obtain ⟨claims', done', found⟩ := isKeptAsDate_iff.mpr ⟨dated, rfl⟩
      cases done.symm.trans done'
      rw [isRead.read_eq found, shown.ofEpoch?_eq valid]
      rfl
  · intro early late valid valid' seconds seconds' lies lies' order claim timestamp timestamp' kept kept'
    -- Both numbers are places rounded down, which keeps their order.
    rw [(isKeptAsDate_iff.mp kept).2, (isKeptAsDate_iff.mp kept').2, ← lies.floor_eq valid,
      ← lies'.floor_eq valid']
    exact Int.floor_le_floor order
  · intro timestamp claim read claims isRead found
    rw [isRead.read_eq found]
    have inRange := DateTime.isSome_ofEpoch? timestamp 0
    cases isFound : DateTime.ofEpoch? timestamp 0 with
    | none =>
        rw [isFound] at inRange
        refine ⟨fun years => ?_, fun _ => rfl⟩
        cases inRange.mpr years
    | some moment =>
        rw [isFound] at inRange
        refine ⟨fun _ => ⟨moment, rfl, fun claim' => ?_⟩, fun outside => absurd (inRange.mp rfl) outside⟩
        have dated := (moment.numericDate?_eq_some_iff timestamp).mp
          (DateTime.numericDate?_of_ofEpoch? isFound)
        exact isKeptAsDate_iff.mpr ⟨dated.1, dated.2.symm⟩

/-- A moment in a February of 28 days, on a clock that is one hour behind UTC. -/
def endOfFebruary : DateTime := ⟨⟨1900, 2, 28⟩, 23, 30, 0, 500000, some (-3600)⟩

/-- The start of the March after it, on a clock that names no offset. -/
def startOfMarch : DateTime := ⟨⟨1900, 3, 1⟩, 0, 0, 0, 0, none⟩

/-- In UTC the moment at the end of February is one of March, half an hour into it. It is kept as the
number below the half second, and read back as the second that this begins. The last second of the
year 9999 can be read, and the one after it cannot. -/
theorem endOfFebruary_exact_and_invertible :
    endOfFebruary.LiesAt (-2203889399.5) ∧ IsKeptAsDate "iat" endOfFebruary (-2203889400) ∧
      (∃ claims, issue (single "iat" (.moment endOfFebruary)) = .ok claims ∧
        issuedAt claims = .ok (some ⟨⟨1900, 3, 1⟩, 0, 30, 0, 0, some 0⟩)) ∧
      (∀ timestamp, IsKeptAsDate "iat" startOfMarch timestamp → timestamp ≤ -2203889400) ∧
      (∃ moment, expiresAt (single "exp" (.number (.whole 253402300799))) = .ok (some moment) ∧
        IsKeptAsDate "auth_time" moment 253402300799) ∧
      expiresAt (single "exp" (.number (.whole 253402300800))) = .error .outOfRange := by
  obtain ⟨exact, ordered, invertible⟩ := numericDate_exact_and_invertible
  have valid : endOfFebruary.IsValid :=
    ⟨by decide, by decide, by decide, by decide, by decide⟩
  have valid' : startOfMarch.IsValid :=
    ⟨by decide, by decide, by decide, by decide, by decide⟩
  have shown : DateTime.IsInUtc ⟨⟨1900, 3, 1⟩, 0, 30, 0, 500000, some 0⟩ endOfFebruary := by
    refine (DateTime.isInUtc_iff valid).mpr ⟨?_, rfl, by decide +kernel, rfl⟩
    exact ⟨by decide, by decide, by decide, by decide, by decide⟩
  have whole : endOfFebruary.epochSeconds = -2203889400 := by decide +kernel
  have whole' : startOfMarch.epochSeconds = -2203891200 := by decide +kernel
  have lies : endOfFebruary.LiesAt (-2203889399.5) := by
    rw [DateTime.liesAt_iff valid, whole]
    norm_num [endOfFebruary]
  have lies' : startOfMarch.LiesAt (-2203891200) := by
    rw [DateTime.liesAt_iff valid', whole']
    norm_num [startOfMarch]
  obtain ⟨_, keeps, reads⟩ := exact endOfFebruary _ valid shown
  have kept := keeps _ "iat" lies
  rw [lies.floor_eq valid, whole] at kept
  obtain ⟨claims, done, _⟩ := keeps _ "iat" lies
  have earlier (timestamp : Int) (before : IsKeptAsDate "iat" startOfMarch timestamp) :=
    ordered _ _ valid' valid _ _ lies' lies (by norm_num) "iat" _ _ before kept
  obtain ⟨inYears, _⟩ := invertible 253402300799 "exp" expiresAt _ .expires (get?_single _ _)
  obtain ⟨moment, read, again⟩ := inYears (by decide)
  obtain ⟨_, outside⟩ := invertible 253402300800 "exp" expiresAt _ .expires (get?_single _ _)
  exact ⟨lies, kept, ⟨claims, done, reads "iat" issuedAt claims .issued done⟩, earlier,
    ⟨moment, read, again "auth_time"⟩, outside (by decide)⟩

end EndSession.Claims
