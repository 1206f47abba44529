import Timelines.Time.Moment

/-! A clock that never stands still or goes back.

Readings of the wall are cut to whole microseconds. One that is not after the last answer is
answered with the microsecond after that. The clock has no answer to a reading outside the years
-9999 to 9999, nor where the next microsecond would be; it then stays as it is. -/
namespace Timelines

/-- The last answer, in microseconds since 1970. -/
structure Clock where
  last : Int
  deriving DecidableEq, Inhabited

namespace Clock

/-- A new clock stands at 1970-01-01T00:00:00Z. -/
def start : Clock := ⟨0⟩

/-- The answer to a reading of the wall in nanoseconds since 1970, and the clock after it. -/
def now? (c : Clock) (wall : Int) : Option (Moment × Clock) :=
  let micros := wall / 1000
  let next := if c.last < micros then micros else c.last + 1
  if ¬(Moment.utc wall).onCalendar ∨ Moment.latest < next * 1000 then none
  else some (.utc (next * 1000), ⟨next⟩)

/-- Each answer is later than the last. -/
theorem last_lt_of_now? {c c' : Clock} {wall : Int} {m : Moment} (h : c.now? wall = some (m, c')) :
    c.last < c'.last := by
  simp only [now?, Option.ite_none_left_eq_some, Option.some.injEq, Prod.mk.injEq] at h
  obtain ⟨-, -, rfl⟩ := h
  dsimp only
  split <;> omega

end Clock
end Timelines
