import SwiyuIssuer.Domain.Numbers

/-! The validity of a credential type: seconds in the API, a `chrono` duration in the program, an
`INTERVAL` in the row, and what it adds to the time of an issuance. -/

namespace SwiyuIssuer.Catalogue

open Library

/-- `chrono::Duration`. -/
structure Duration where
  nanoseconds : Int
deriving DecidableEq, Repr

/-- `Duration::try_seconds`: a duration is at most `i64::MAX` milliseconds either way. -/
def Duration.trySeconds (seconds : Int) : Option Duration :=
  if |seconds| ≤ (2 ^ 63 - 1) / 1000 then some ⟨seconds * 1000000000⟩ else none

/-- `Duration::microseconds`, which takes every `i64`. -/
def Duration.microseconds (count : Int) : Duration := ⟨count * 1000⟩

def minValiditySeconds : UInt64 := 1

def maxValiditySeconds : UInt64 := 10000000000

/-- The check of `default_validity_seconds` in the create handler. -/
def validateSeconds (seconds : UInt64) : Except ApiError Duration :=
  if minValiditySeconds ≤ seconds ∧ seconds ≤ maxValiditySeconds then
    Answers.okOr (Duration.trySeconds seconds.toInt64.toInt)
      (.invalidInput "default_validity_seconds out of range for chrono::Duration")
  else .error (.invalidInput ("default_validity_seconds must be between " ++
    toString minValiditySeconds ++ " and " ++ toString maxValiditySeconds ++ ", got " ++
    toString seconds))

/-- The same check in the patch handler, for a field that may be left out. -/
def validatePatch : Option UInt64 → Except ApiError (Option Duration)
  | some seconds => (validateSeconds seconds).map some
  | none => .ok none

inductive Accepted (seconds : UInt64) (validity : Duration) : Prop
  | create : validateSeconds seconds = .ok validity → Accepted seconds validity
  | patch : validatePatch (some seconds) = .ok (some validity) → Accepted seconds validity

structure PgInterval where
  months : Int32
  days : Int32
  microseconds : Int64
deriving DecidableEq, Repr

/-- `checked_mul` and `checked_add` of `i64`. -/
def checkedI64 (exact : Int) : Option Int := if inI64 exact then some exact else none

def monthsError (months : Int32) : PersistenceError :=
  .dataIntegrity ("credential_types.default_validity_duration has non-zero months: " ++
    toString months)

def overflowError (component : String) : PersistenceError :=
  .dataIntegrity ("credential_types.default_validity_duration " ++ component ++ " overflow")

def pgIntervalToDuration (interval : PgInterval) : Except PersistenceError Duration :=
  if interval.months ≠ 0 then .error (monthsError interval.months)
  else do
    let daysMicros ← Answers.okOr (checkedI64 (interval.days.toInt * 86400000000))
      (overflowError "days component")
    let totalMicros ← Answers.okOr (checkedI64 (daysMicros + interval.microseconds.toInt))
      (overflowError "microseconds")
    return Duration.microseconds totalMicros

/-- `PgInterval::try_from(chrono::Duration)` of `sqlx`: an error when the nanoseconds do not fit an
`i64`, otherwise an interval of microseconds for a duration without smaller parts. -/
structure EncodesDurations (tryFrom : Duration → Option PgInterval) : Prop where
  overflow : ∀ duration, inI64 duration.nanoseconds = false → tryFrom duration = none
  microseconds : ∀ duration, inI64 duration.nanoseconds = true → duration.nanoseconds % 1000 = 0 →
    ∃ interval, tryFrom duration = some interval ∧ interval.months = 0 ∧ interval.days = 0 ∧
      interval.microseconds.toInt * 1000 = duration.nanoseconds

section Storage

variable (tryFrom : Duration → Option PgInterval)

/-- The `INTERVAL` that `insert` stores; `none` is a statement that fails. -/
def insertValidity (validity : Duration) : Option PgInterval := tryFrom validity

/-- `COALESCE($6, default_validity_duration)` of `update_structured`. -/
def updateValidity (validity : Option Duration) (held : PgInterval) : Option PgInterval :=
  match validity with
  | some validity => tryFrom validity
  | none => some held

/-- `DateTime::<Utc>::MIN_UTC` and `MAX_UTC`. -/
def minUtc : Int := -8334601228800000000

def maxUtc : Int := 8210266876799999999

def endOfYear9999 : Int := 253402300799999999

/-- `now + credential_type.default_validity_duration`; `none` is the panic of an overflow. -/
def expiresAt (now : DateTime) (validity : Duration) : Option DateTime :=
  let expiry := now + validity.nanoseconds / 1000
  if minUtc ≤ expiry ∧ expiry ≤ maxUtc then some expiry else none

def ReadExactly (interval : PgInterval) : Prop :=
  (∃ error, pgIntervalToDuration interval = .error error) ∨
    pgIntervalToDuration interval = .ok (Duration.microseconds
      (interval.days.toInt * 86400000000 + interval.microseconds.toInt))

/-- A validity comes back from the row as it was stored, and adds up with the time of issuance. -/
structure Survives (validity : Duration) : Prop where
  created : (insertValidity tryFrom validity).map pgIntervalToDuration = some (.ok validity)
  patched : ∀ held,
    (updateValidity tryFrom (some validity) held).map pgIntervalToDuration = some (.ok validity)
  read : ∀ interval, ReadExactly interval
  issued : ∀ now, minUtc ≤ now → now ≤ endOfYear9999 →
    expiresAt now validity = some (now + validity.nanoseconds / 1000)

end Storage

theorem pgIntervalToDuration_exact (interval : PgInterval) : ReadExactly interval := by
  cases answered : pgIntervalToDuration interval with
  | error error => exact .inl ⟨error, answered⟩
  | ok duration =>
      right
      rw [answered]
      rw [pgIntervalToDuration] at answered
      split at answered
      · cases answered
      · simp only [Answers.bind_ok, Answers.okOr_ok, checkedI64] at answered
        rcases answered with ⟨days, daysFit, total, totalFit, same⟩
        split at daysFit
        · split at totalFit
          · cases daysFit
            cases totalFit
            cases same
            rfl
          · cases totalFit
        · cases daysFit

theorem validateSeconds_ok {seconds : UInt64} {validity : Duration}
    (accepted : validateSeconds seconds = .ok validity) :
    seconds.toNat ≤ 10000000000 ∧ validity.nanoseconds = seconds.toNat * 1000000000 := by
  rw [validateSeconds] at accepted
  split at accepted
  · next inside =>
      have upper : seconds.toNat ≤ 10000000000 := UInt64.le_iff_toNat_le.mp inside.2
      have cast : seconds.toInt64.toInt = seconds.toNat := by
        have small : 2 * seconds.toBitVec.toNat < 2 ^ 64 := by
          have same : seconds.toBitVec.toNat = seconds.toNat := rfl
          omega
        exact BitVec.toInt_eq_toNat_of_lt small
      rw [Answers.okOr_ok, Duration.trySeconds, cast] at accepted
      split at accepted
      · cases accepted
        exact ⟨upper, rfl⟩
      · cases accepted
  · cases accepted

theorem Accepted.validated {seconds : UInt64} {validity : Duration}
    (accepted : Accepted seconds validity) : validateSeconds seconds = .ok validity := by
  cases accepted with
  | create validated => exact validated
  | patch validated =>
      rw [validatePatch] at validated
      cases checked : validateSeconds seconds with
      | error error =>
          rw [checked] at validated
          cases validated
      | ok duration =>
          rw [checked] at validated
          cases validated
          rfl

section Storing

variable {tryFrom : Duration → Option PgInterval} {validity : Duration} {seconds : UInt64}

theorem pgIntervalToDuration_microseconds {interval : PgInterval} (months : interval.months = 0)
    (days : interval.days = 0)
    (whole : interval.microseconds.toInt * 1000 = validity.nanoseconds) :
    pgIntervalToDuration interval = .ok validity := by
  have none : (0 : Int32).toInt = 0 := rfl
  have lower := interval.microseconds.le_toInt
  have upper := interval.microseconds.toInt_lt
  have fits : inI64 interval.microseconds.toInt = true := by
    rw [inI64, decide_eq_true_eq]
    exact ⟨lower, upper⟩
  have zero : inI64 0 = true := by decide
  simp [pgIntervalToDuration, months, days, none, checkedI64, fits, zero, Answers.okOr,
    Duration.microseconds, whole, bind, Except.bind, pure, Except.pure]

theorem stored_iff (encodes : EncodesDurations tryFrom) (whole : validity.nanoseconds % 1000 = 0) :
    (tryFrom validity).map pgIntervalToDuration = some (.ok validity) ↔
      inI64 validity.nanoseconds = true := by
  cases fits : inI64 validity.nanoseconds with
  | false => simp [encodes.overflow validity fits]
  | true =>
      rcases encodes.microseconds validity fits whole with ⟨interval, stored, months, days, same⟩
      simp [stored, pgIntervalToDuration_microseconds months days same]

theorem inside_chrono {now span : Int} (past : minUtc ≤ now) (early : now ≤ endOfYear9999)
    (forward : 0 ≤ span) (short : span ≤ 10000000000000000) :
    minUtc ≤ now + span ∧ now + span ≤ maxUtc := by
  unfold minUtc endOfYear9999 maxUtc at *
  omega

theorem expiresAt_accepted (accepted : validateSeconds seconds = .ok validity) {now : DateTime}
    (past : minUtc ≤ now) (early : now ≤ endOfYear9999) :
    expiresAt now validity = some (now + validity.nanoseconds / 1000) := by
  obtain ⟨upper, length⟩ := validateSeconds_ok accepted
  rw [expiresAt, length]
  exact if_pos (inside_chrono past early (by omega) (by omega))

/-- A validity that either handler accepts survives exactly when its nanoseconds fit an `i64`. -/
theorem validity_survives_iff (encodes : EncodesDurations tryFrom)
    (accepted : Accepted seconds validity) :
    Survives tryFrom validity ↔ seconds.toNat ≤ 9223372036 := by
  have validated := accepted.validated
  obtain ⟨upper, length⟩ := validateSeconds_ok validated
  have whole : validity.nanoseconds % 1000 = 0 := by omega
  have small : inI64 validity.nanoseconds = true ↔ seconds.toNat ≤ 9223372036 := by
    rw [inI64, decide_eq_true_eq, length]
    omega
  rw [← small, ← stored_iff encodes whole]
  constructor
  · exact fun survives => survives.created
  · intro stored
    exact ⟨stored, fun _ => stored, pgIntervalToDuration_exact,
      fun _ past early => expiresAt_accepted validated past early⟩

end Storing

section Sample

def sampleTryFrom (duration : Duration) : Option PgInterval :=
  if inI64 duration.nanoseconds = true ∧ duration.nanoseconds % 1000 = 0 then
    some ⟨0, 0, Int64.ofInt (duration.nanoseconds / 1000)⟩
  else none

theorem sampleTryFrom_encodes : EncodesDurations sampleTryFrom where
  overflow duration outside := by simp [sampleTryFrom, outside]
  microseconds duration inside whole := by
    refine ⟨_, if_pos ⟨inside, whole⟩, rfl, rfl, ?_⟩
    rw [inI64, decide_eq_true_eq] at inside
    rw [Int64.toInt_ofInt_of_le (by omega) (by omega)]
    omega

end Sample

theorem validity_survives_iff_sample : Survives sampleTryFrom ⟨31536000 * 1000000000⟩ :=
  (validity_survives_iff sampleTryFrom_encodes (.patch (
    show validatePatch (some 31536000) = .ok (some ⟨31536000 * 1000000000⟩) by
      decide +kernel))).mpr (by decide)

/-- The largest validity that the handlers accept is not stored. -/
theorem largest_validity_is_not_stored :
    validateSeconds 10000000000 = .ok ⟨10000000000 * 1000000000⟩ ∧
      ¬ Survives sampleTryFrom ⟨10000000000 * 1000000000⟩ := by
  constructor
  · decide +kernel
  · intro survives
    have refused := survives.created
    revert refused
    decide +kernel

end SwiyuIssuer.Catalogue
