import SubscriptionBilling.Time.Calendar

/-! Points in time to the microsecond, read on a clock whose offset from UTC may be unknown. -/
namespace SubscriptionBilling

/-- `wall` counts microseconds on the clock since 1970-01-01T00:00:00; `zone` is the clock's offset
in seconds east of UTC. -/
structure Moment where
  wall : Int
  zone : Option Int
  deriving DecidableEq, Repr, Inhabited

namespace Moment

def second : Int := 1000000
def day : Int := 86400 * second

def ofSeconds (n : Int) : Moment := ⟨n * second, some 0⟩

/-- Microseconds since the start of 1970 in UTC; a clock of unknown offset counts as UTC. -/
def instant (m : Moment) : Int := m.wall - m.zone.getD 0 * second

def utc (m : Moment) : Moment := ⟨m.instant, some 0⟩

def date (m : Moment) : Date := Date.ofDays (m.wall / day)

/-- The date in UTC. -/
def utcDate (m : Moment) : Date := m.utc.date

def clockText (m : Moment) : String :=
  let inDay := (m.wall % day).toNat
  let seconds := inDay / 1000000
  let fraction := inDay % 1000000
  m.date.text ++ "T" ++ padDigits 2 (seconds / 3600) ++ ":" ++ padDigits 2 (seconds / 60 % 60) ++
    ":" ++ padDigits 2 (seconds % 60) ++
    (if fraction = 0 then "" else "." ++ padDigits 6 fraction)

def offsetText (zone : Int) : String :=
  let n := zone.natAbs
  (if zone < 0 then "-" else "+") ++ padDigits 2 (n / 3600) ++ ":" ++ padDigits 2 (n / 60 % 60) ++
    (if n % 60 = 0 then "" else ":" ++ padDigits 2 (n % 60))

/-- The text of a moment, with `Z` for UTC and nothing for an unknown offset. -/
def text (m : Moment) : String :=
  m.clockText ++
    match m.zone with
    | none => ""
    | some z => if z = 0 then "Z" else offsetText z

/-- The text of a moment with its offset in digits. -/
def offsetStyleText (m : Moment) : String :=
  m.clockText ++
    match m.zone with
    | none => ""
    | some z => offsetText z

/-- Why a number of seconds is no moment. -/
inductive TimestampError where
  | beyondWord
  | beyondYearWord
  | beyondCalendar
  deriving DecidableEq, Repr

/-- Numbers of 64 bits with sign lie below this bound. -/
def wordBound : Int := 9223372036854775808

/-- Numbers of 32 bits with sign lie below this bound. -/
def yearBound : Int := 2147483648

/-- The moment a count of seconds stands for. It has to fit 64 bits with sign, its year, counted
from 1900, 32 bits, and the year has to be one of 1 to 9999. -/
def ofTimestamp (seconds : Int) : Except TimestampError Moment :=
  if seconds < -wordBound ∨ wordBound ≤ seconds then .error .beyondWord
  else
    let year := (Date.ofDays (seconds / 86400)).year
    if year - 1900 < -yearBound ∨ yearBound ≤ year - 1900 then .error .beyondYearWord
    else if year < 1 ∨ 9999 < year then .error .beyondCalendar
    else .ok (ofSeconds seconds)

end Moment
end SubscriptionBilling
