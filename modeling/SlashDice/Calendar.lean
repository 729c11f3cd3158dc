import SlashDice.Text.Numeral

/-!
# Points in time

A time is a number of seconds since the start of 1970 and a number of
nanoseconds.  A thousand million nanoseconds or more are a leap second.  Its
text has the date and the time of day of the Gregorian calendar, as many digits
of the fraction as are needed in groups of three, and a Z for the zone.  How far
two times of 64 bits lie apart is a word that never wraps.
-/

namespace SlashDice

open Text

structure Date where
  year : Int
  month : Nat
  day : Nat
  deriving DecidableEq, Repr

/-- The number of days from the first of March of the year zero to the first of
January 1970. -/
def daysToEpoch : Int := 719468

def daysPerEra : Int := 146097

/-- The day so many days after the first of January 1970.  Years are counted
from March within an era of four hundred years. -/
def Date.ofDays (days : Int) : Date :=
  let shifted := days + daysToEpoch
  let era := shifted / daysPerEra
  let dayOfEra := (shifted % daysPerEra).toNat
  let yearOfEra := (dayOfEra - dayOfEra / 1460 + dayOfEra / 36524 - dayOfEra / 146096) / 365
  let dayOfYear := dayOfEra - (365 * yearOfEra + yearOfEra / 4 - yearOfEra / 100)
  let monthFromMarch := (5 * dayOfYear + 2) / 153
  let day := dayOfYear - (153 * monthFromMarch + 2) / 5 + 1
  let month := if monthFromMarch < 10 then monthFromMarch + 3 else monthFromMarch - 9
  let year := (yearOfEra : Int) + era * 400
  ⟨if month ≤ 2 then year + 1 else year, month, day⟩

/-- Four digits for the years from zero to 9999; a sign and at least four digits
for the others. -/
def yearText (year : Int) : List Char :=
  if 0 ≤ year ∧ year ≤ 9999 then
    Numeral.ofNatPadded 4 year.natAbs
  else
    (if year < 0 then '-' else '+') :: Numeral.ofNatPadded 4 year.natAbs

def Date.text (date : Date) : List Char :=
  yearText date.year ++ '-' :: (Numeral.ofNatPadded 2 date.month ++
    '-' :: Numeral.ofNatPadded 2 date.day)

/-- The fraction of a second: nothing, or a point with three, six or nine digits,
as few as are exact. -/
def fractionText (nanos : Nat) : List Char :=
  if nanos = 0 then []
  else if nanos % 1000000 = 0 then '.' :: Numeral.ofNatPadded 3 (nanos / 1000000)
  else if nanos % 1000 = 0 then '.' :: Numeral.ofNatPadded 6 (nanos / 1000)
  else '.' :: Numeral.ofNatPadded 9 nanos

structure Instant where
  seconds : Int
  nanos : Nat
  deriving DecidableEq, Repr

def Instant.text (instant : Instant) : String :=
  let secondOfDay := (instant.seconds % 86400).toNat
  let leap := if 1000000000 ≤ instant.nanos then 1 else 0
  String.ofList
    ((Date.ofDays (instant.seconds / 86400)).text ++
      'T' :: (Numeral.ofNatPadded 2 (secondOfDay / 3600) ++
        ':' :: (Numeral.ofNatPadded 2 (secondOfDay / 60 % 60) ++
          ':' :: (Numeral.ofNatPadded 2 (secondOfDay % 60 + leap) ++
            (fractionText (instant.nanos - leap * 1000000000) ++ ['Z'])))))

/-- The last second that a clock tells: the end of the year 262142. -/
def lastSecond : Int := 8210266876799

/-- Whether a clock tells a second: it starts with the year 1970. -/
def isTold (second : Int) : Bool :=
  0 ≤ second && second ≤ lastSecond

/-- How many seconds two times lie apart: the difference from the earlier to the
later one, as a word without a sign. -/
def secondsApart (first second : Int64) : UInt64 :=
  if first < second then second.toUInt64 - first.toUInt64
  else first.toUInt64 - second.toUInt64

private theorem toNat_toUInt64 (time : Int64) :
    (time.toUInt64.toNat : Int) = time.toInt % 0x10000000000000000 := by
  have size := time.toBitVec.isLt
  change (time.toBitVec.toNat : Int) = time.toBitVec.toInt % 0x10000000000000000
  rw [BitVec.toInt_eq_toNat_bmod]
  have wrapped := Int.bmod_emod (x := time.toBitVec.toNat) (m := 2 ^ 64)
  omega

/-- The difference of two words is the time from the earlier to the later one,
also when the difference of the times does not fit a word with a sign. -/
private theorem toNat_sub_of_le {earlier later : Int64} (ordered : earlier.toInt ≤ later.toInt) :
    ((later.toUInt64 - earlier.toUInt64).toNat : Int) = later.toInt - earlier.toInt := by
  have low : -2 ^ 63 ≤ earlier.toInt := earlier.minValue_le_toInt
  have high : later.toInt ≤ 2 ^ 63 - 1 := later.toInt_le
  have earlierWord := toNat_toUInt64 earlier
  have laterWord := toNat_toUInt64 later
  have size := earlier.toUInt64.toNat_lt
  rw [UInt64.toNat_sub]
  omega

/-- No two times are so far apart that the count of seconds between them wraps. -/
theorem toNat_secondsApart (first second : Int64) :
    (secondsApart first second).toNat = (first.toInt - second.toInt).natAbs := by
  unfold secondsApart
  split
  case isTrue before =>
    have ordered := Int64.lt_iff_toInt_lt.mp before
    have apart := toNat_sub_of_le (Int.le_of_lt ordered)
    omega
  case isFalse notBefore =>
    have ordered : second.toInt ≤ first.toInt :=
      Int.not_lt.mp fun before => notBefore (Int64.lt_iff_toInt_lt.mpr before)
    have apart := toNat_sub_of_le ordered
    omega

end SlashDice
