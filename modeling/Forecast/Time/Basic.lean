/-!
# Instants and durations

Time is counted in whole nanoseconds.  An instant counts seconds from 1970-01-01T00:00:00 in
universal time and nanoseconds behind the second; it may lie in the leap second behind the last
second of a minute.  The difference of two instants is a duration, in which leap seconds elsewhere
do not count.  The *lead* of a valid time is its distance from the basis time at which the forecast
was issued.  It may be negative, and near a leap second it need not grow with the valid time.
-/

namespace Forecast

/-- A signed length of time. -/
structure Duration where
  /-- Length in nanoseconds. -/
  nanoseconds : Int
deriving DecidableEq, Inhabited

namespace Duration

/-- Nanoseconds in a second. -/
def second : Int := 1000000000

def zero : Duration := ⟨0⟩

/-- A number of whole seconds and further nanoseconds. -/
def ofSeconds (seconds : Int) (nanoseconds : Nat) : Duration :=
  ⟨seconds * second + nanoseconds⟩

/-- Whole seconds, rounded toward the past. -/
def seconds (duration : Duration) : Int := duration.nanoseconds.fdiv second

/-- Nanoseconds past the whole seconds. -/
def subsecond (duration : Duration) : Nat := (duration.nanoseconds.fmod second).toNat

instance : LT Duration := ⟨fun left right => left.nanoseconds < right.nanoseconds⟩

instance : LE Duration := ⟨fun left right => left.nanoseconds ≤ right.nanoseconds⟩

instance (left right : Duration) : Decidable (left < right) :=
  inferInstanceAs (Decidable (left.nanoseconds < right.nanoseconds))

instance (left right : Duration) : Decidable (left ≤ right) :=
  inferInstanceAs (Decidable (left.nanoseconds ≤ right.nanoseconds))

instance : Ord Duration := ⟨fun left right => compare left.nanoseconds right.nanoseconds⟩

instance : Sub Duration := ⟨fun left right => ⟨left.nanoseconds - right.nanoseconds⟩⟩

/-- A duration laid end to end a number of times. -/
def times (duration : Duration) (count : Nat) : Duration := ⟨duration.nanoseconds * count⟩

/-- The earlier of two bounds. -/
def min (left right : Duration) : Duration := if right < left then right else left

/-- The later of two bounds. -/
def max (left right : Duration) : Duration := if right < left then left else right

theorem lt_iff {left right : Duration} : left < right ↔ left.nanoseconds < right.nanoseconds :=
  Iff.rfl

theorem le_iff {left right : Duration} : left ≤ right ↔ left.nanoseconds ≤ right.nanoseconds :=
  Iff.rfl

@[simp]
theorem nanoseconds_sub (left right : Duration) :
    (left - right).nanoseconds = left.nanoseconds - right.nanoseconds := rfl

@[simp]
theorem nanoseconds_times (duration : Duration) (count : Nat) :
    (duration.times count).nanoseconds = duration.nanoseconds * count := rfl

theorem compare_eq_lt {left right : Duration} : compare left right = .lt ↔ left < right :=
  Int.compare_eq_lt

theorem not_le {left right : Duration} : ¬left ≤ right ↔ right < left :=
  Int.not_le

theorem nanoseconds_inj {left right : Duration} :
    left.nanoseconds = right.nanoseconds ↔ left = right := by
  cases left
  cases right
  simp

end Duration

instance : Std.TransOrd Duration :=
  inferInstanceAs (Std.TransCmp (compareOn Duration.nanoseconds))

instance : Std.LawfulEqOrd Duration where
  eq_of_compare equal :=
    Duration.nanoseconds_inj.mp (Std.LawfulEqOrd.eq_of_compare (α := Int) equal)

/-- A point in universal time: a second, and nanoseconds behind its start.  In the leap second that
may follow a second, the nanoseconds go on beyond a billion. -/
structure Instant where
  /-- Whole seconds since 1970-01-01T00:00:00, among which leap seconds do not count. -/
  second : Int
  /-- Nanoseconds behind the start of the second. -/
  nanosecond : Nat
  /-- A second has one leap second at most. -/
  bounded : nanosecond < 2000000000
deriving DecidableEq

namespace Instant

instance : Inhabited Instant := ⟨⟨0, 0, by decide⟩⟩

/-- The first representable instant, −262143-01-01T00:00:00. -/
def earliest : Instant := ⟨-8334601228800, 0, by decide⟩

/-- The last representable instant, +262142-12-31T23:59:59.999999999. -/
def latest : Instant := ⟨8210266876799, 999999999, by decide⟩

/-- A number of whole seconds since 1970 and further nanoseconds.  There are a billion of these,
and another billion for a leap second, which only the last second of a minute has. -/
def ofSeconds? (seconds : Int) (nanoseconds : Nat) : Option Instant :=
  if bounded : nanoseconds < 2000000000 then
    if (nanoseconds < 1000000000 ∨ seconds % 60 = 59)
        ∧ earliest.second ≤ seconds ∧ seconds ≤ latest.second
    then some ⟨seconds, nanoseconds, bounded⟩
    else none
  else none

/-- The instant a number of nanoseconds after 1970, outside leap seconds. -/
def ofNanoseconds (nanoseconds : Int) : Instant where
  second := nanoseconds.fdiv Duration.second
  nanosecond := (nanoseconds.fmod Duration.second).toNat
  bounded := by
    have below := Int.fmod_lt_of_pos nanoseconds (b := Duration.second) (by decide)
    simp only [Duration.second] at below ⊢
    omega

instance : LT Instant :=
  ⟨fun left right => left.second < right.second
    ∨ left.second = right.second ∧ left.nanosecond < right.nanosecond⟩

instance : LE Instant :=
  ⟨fun left right => left.second < right.second
    ∨ left.second = right.second ∧ left.nanosecond ≤ right.nanosecond⟩

instance (left right : Instant) : Decidable (left < right) :=
  inferInstanceAs (Decidable (_ ∨ _))

instance (left right : Instant) : Decidable (left ≤ right) :=
  inferInstanceAs (Decidable (_ ∨ _))

instance : Ord Instant :=
  ⟨fun left right =>
    (compare left.second right.second).then (compare left.nanosecond right.nanosecond)⟩

/-- Seconds in a day. -/
def secondsPerDay : Int := 86400

/-- Seconds since the start of the day. -/
def secondOfDay (instant : Instant) : Int := instant.second.fmod secondsPerDay

/-- Whether an instant lies in a leap second. -/
def isLeap (instant : Instant) : Bool := decide (1000000000 ≤ instant.nanosecond)

/-- Seconds between the start of the second of one instant and that of another.  The leap second
counts that the one with the lesser time of day lies in. -/
def secondsSince (later earlier : Instant) : Int :=
  later.second - earlier.second
    + if earlier.secondOfDay < later.secondOfDay ∧ earlier.isLeap = true then 1
      else if later.secondOfDay < earlier.secondOfDay ∧ later.isLeap = true then -1
      else 0

instance : HSub Instant Instant Duration :=
  ⟨fun later earlier =>
    ⟨later.secondsSince earlier * Duration.second + later.nanosecond - earlier.nanosecond⟩⟩

/-- The earlier of two instants. -/
def min (left right : Instant) : Instant := if right < left then right else left

/-- The later of two instants. -/
def max (left right : Instant) : Instant := if right < left then left else right

/-- Lead of a valid time over the basis time of its forecast. -/
def lead (basis valid : Instant) : Duration := valid - basis

theorem lt_iff {left right : Instant} :
    left < right ↔ left.second < right.second
      ∨ left.second = right.second ∧ left.nanosecond < right.nanosecond :=
  Iff.rfl

theorem le_iff {left right : Instant} :
    left ≤ right ↔ left.second < right.second
      ∨ left.second = right.second ∧ left.nanosecond ≤ right.nanosecond :=
  Iff.rfl

/-- The place of an instant among all, if every second has room for a leap second. -/
def rank (instant : Instant) : Int := instant.second * 2000000000 + instant.nanosecond

theorem lt_iff_rank {left right : Instant} : left < right ↔ left.rank < right.rank := by
  have := left.bounded
  have := right.bounded
  rw [lt_iff, rank, rank]
  omega

theorem le_iff_rank {left right : Instant} : left ≤ right ↔ left.rank ≤ right.rank := by
  have := left.bounded
  have := right.bounded
  rw [le_iff, rank, rank]
  omega

theorem rank_inj {left right : Instant} : left.rank = right.rank ↔ left = right := by
  cases left
  cases right
  simp only [rank, mk.injEq]
  omega

theorem lt_irrefl (instant : Instant) : ¬instant < instant := by
  rw [lt_iff_rank]
  omega

theorem lt_trans {first second third : Instant} (before : first < second)
    (behind : second < third) : first < third := by
  rw [lt_iff_rank] at *
  omega

theorem not_le {left right : Instant} : ¬left ≤ right ↔ right < left := by
  rw [le_iff_rank, lt_iff_rank, Int.not_le]

theorem not_lt {left right : Instant} : ¬left < right ↔ right ≤ left := by
  rw [le_iff_rank, lt_iff_rank, Int.not_lt]

theorem nanoseconds_lead (basis valid : Instant) :
    (lead basis valid).nanoseconds
      = valid.secondsSince basis * Duration.second + valid.nanosecond - basis.nanosecond := rfl

/-- Outside leap seconds no second counts but those between. -/
theorem secondsSince_of_not_leap {later earlier : Instant} (laterPlain : later.isLeap = false)
    (earlierPlain : earlier.isLeap = false) :
    later.secondsSince earlier = later.second - earlier.second := by
  simp [secondsSince, laterPlain, earlierPlain]

/-- A leap second counts for one second at most. -/
theorem secondsSince_near (later earlier : Instant) :
    later.second - earlier.second - 1 ≤ later.secondsSince earlier
      ∧ later.secondsSince earlier ≤ later.second - earlier.second + 1 := by
  rw [secondsSince]
  split
  · omega
  · split <;> omega

/-- Outside leap seconds, leads over one basis time are ordered as the valid times. -/
theorem lead_lt_iff {basis earlier later : Instant} (basisPlain : basis.isLeap = false)
    (earlierPlain : earlier.isLeap = false) (laterPlain : later.isLeap = false) :
    lead basis earlier < lead basis later ↔ earlier < later := by
  rw [Duration.lt_iff, nanoseconds_lead, nanoseconds_lead, lt_iff,
    secondsSince_of_not_leap earlierPlain basisPlain,
    secondsSince_of_not_leap laterPlain basisPlain]
  simp only [isLeap, decide_eq_false_iff_not, Duration.second] at *
  omega

/-- Half a second into the leap second at the end of 2016. -/
def leapSecond2016 : Instant := ⟨1483228799, 1500000000, by decide⟩

/-- Across a leap second leads may descend while valid times ascend. -/
example :
    lead (.ofNanoseconds 1483228740000000000) leapSecond2016 = ⟨60500000000⟩
      ∧ lead (.ofNanoseconds 1483228740000000000) (.ofNanoseconds 1483228800200000000)
        = ⟨60200000000⟩ := by
  decide

end Instant

instance : Std.TransOrd Instant :=
  inferInstanceAs
    (Std.TransCmp (compareLex (compareOn Instant.second) (compareOn Instant.nanosecond)))

instance : Std.LawfulEqOrd Instant where
  eq_of_compare {left right} equal := by
    change (compare left.second right.second).then
      (compare left.nanosecond right.nanosecond) = .eq at equal
    rw [Ordering.then_eq_eq, Std.compare_eq_iff_eq, Std.compare_eq_iff_eq] at equal
    cases left
    cases right
    simpa using equal

end Forecast
