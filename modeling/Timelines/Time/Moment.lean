import Timelines.Time.Calendar

/-! Moments: an instant, and the offset from universal time of the place that wrote it down.

Moments are compared by their instants alone; the offset only decides how one is written. -/
namespace Timelines

/-- An instant in nanoseconds since 1970-01-01T00:00:00Z, and an offset in minutes. -/
structure Moment where
  nanos : Int
  offset : Int
  deriving DecidableEq, Inhabited

namespace Moment

def nanosPerSecond : Int := 1000000000
def nanosPerDay : Int := 86400 * nanosPerSecond
def nanosPerMinute : Int := 60 * nanosPerSecond

/-- The first nanosecond of the year -9999 in universal time. -/
def earliest : Int := -377705116800 * nanosPerSecond

/-- The last nanosecond of the year 9999 in universal time. -/
def latest : Int := 253402300800 * nanosPerSecond - 1

/-- Whether the calendar reaches to a moment in universal time. -/
def onCalendar (m : Moment) : Bool := earliest ≤ m.nanos && m.nanos ≤ latest

/-- A moment in universal time. -/
def utc (nanos : Int) : Moment := ⟨nanos, 0⟩

/-- Nanoseconds since 1970 on the clock of the place. -/
def localNanos (m : Moment) : Int := m.nanos + m.offset * nanosPerMinute

/-- The date on the calendar of the place. -/
def localDate (m : Moment) : Date := Date.ofDayNumber (m.localNanos / nanosPerDay)

/-- Nanoseconds since midnight on the clock of the place. -/
def localTime (m : Moment) : Int := m.localNanos % nanosPerDay

end Moment
end Timelines
