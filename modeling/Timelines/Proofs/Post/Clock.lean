import Mathlib.Data.List.Induction
import Mathlib.Order.Bounds.Basic
import Timelines.Post.Clock
import Timelines.Proofs.Time.Calendar

/-! What a clock answers.

A reading that has an answer is answered with its microsecond or the one after the last answer
(`eq_of_now?`). Over a run this unfolds: an answer is the greatest of the bounds that the readings
answered up to it give, and a further reading moves each bound by one (`bounds_snoc`). `Told` is
what one more answer preserves, and `answers_eq_greatest` is what holds of every run. -/
namespace Timelines.Clock

/-- An instant, in nanoseconds since 1970, lies in one of the years -9999 to 9999. -/
def InYears (nanos : Int) : Prop :=
  -9999 ≤ (Moment.utc nanos).localDate.year ∧ (Moment.utc nanos).localDate.year ≤ 9999

instance (nanos : Int) : Decidable (InYears nanos) :=
  inferInstanceAs (Decidable (_ ∧ _))

/-- The years that have been reached are those whose first day has been. -/
theorem le_year_utc (nanos year : Int) :
    year ≤ (Moment.utc nanos).localDate.year ↔
      Date.dayNumber ⟨year, 1, 1⟩ ≤ nanos / Moment.nanosPerDay := by
  have hdate : (Moment.utc nanos).localDate = Date.ofDayNumber (nanos / Moment.nanosPerDay) := by
    simp [Moment.localDate, Moment.localNanos, Moment.utc]
  rw [hdate, Date.le_year_iff (Date.valid_ofDayNumber _), Date.dayNumber_ofDayNumber]

theorem onCalendar_iff (nanos : Int) : (Moment.utc nanos).onCalendar ↔ InYears nanos := by
  have hfirst := le_year_utc nanos (-9999)
  have hnext := le_year_utc nanos 10000
  rw [show Date.dayNumber ⟨-9999, 1, 1⟩ = -4371587 by decide] at hfirst
  rw [show Date.dayNumber ⟨10000, 1, 1⟩ = 2932897 by decide] at hnext
  have hlast : (Moment.utc nanos).localDate.year ≤ 9999 ↔
      ¬10000 ≤ (Moment.utc nanos).localDate.year := by omega
  rw [InYears, hlast, hfirst, hnext, show Moment.nanosPerDay = 86400000000000 from rfl,
    Moment.onCalendar, Bool.and_eq_true, decide_eq_true_eq, decide_eq_true_eq,
    show Moment.earliest = -377705116800000000000 from rfl,
    show Moment.latest = 253402300799999999999 from rfl,
    show (Moment.utc nanos).nanos = nanos from rfl]
  omega

/-! ### One reading -/

/-- The microsecond that answers a reading: that of the reading, or the one after the last answer
if that is later. -/
def next (c : Clock) (wall : Int) : Int := max (wall / 1000) (c.last + 1)

theorem now?_eq (c : Clock) (wall : Int) :
    c.now? wall = if ¬InYears wall ∨ Moment.latest < c.next wall * 1000 then none
      else some (.utc (c.next wall * 1000), ⟨c.next wall⟩) := by
  have hnext : (if c.last < wall / 1000 then wall / 1000 else c.last + 1) = c.next wall := by
    unfold next
    split <;> omega
  simp only [now?, hnext, onCalendar_iff]

theorem inYears_iff (nanos : Int) :
    InYears nanos ↔ Moment.earliest ≤ nanos ∧ nanos ≤ Moment.latest := by
  rw [← onCalendar_iff, Moment.onCalendar, Bool.and_eq_true, decide_eq_true_eq, decide_eq_true_eq]
  rfl

/-- A clock past 1970 has no answer to a reading outside its years, nor to one whose microsecond is
not after the last answer when the next microsecond is outside them. -/
theorem now?_eq_none_iff {c : Clock} (hc : 0 ≤ c.last) (wall : Int) :
    c.now? wall = none ↔
      ¬InYears wall ∨ wall / 1000 ≤ c.last ∧ ¬InYears ((c.last + 1) * 1000) := by
  rw [now?_eq, ite_eq_left_iff]
  simp only [reduceCtorEq, imp_false, Decidable.not_not, inYears_iff, next]
  have hearliest : Moment.earliest ≤ 0 := by decide
  omega

theorem eq_of_now? {c c' : Clock} {wall : Int} {m : Moment} (h : c.now? wall = some (m, c')) :
    m = .utc (c.next wall * 1000) ∧ c' = ⟨c.next wall⟩ := by
  rw [now?_eq, Option.ite_none_left_eq_some] at h
  simp only [Option.some.injEq, Prod.mk.injEq] at h
  exact ⟨h.2.1.symm, h.2.2.symm⟩

/-! ### Runs of readings -/

/-- The clock after a reading. -/
def after (c : Clock) (wall : Int) : Clock :=
  match c.now? wall with
  | some (_, c') => c'
  | none => c

/-- The clock after some readings. -/
def run (c : Clock) (walls : List Int) : Clock := walls.foldl after c

/-- Those of some readings that have an answer, each with its answer. -/
def answered (c : Clock) : List Int → List (Int × Moment)
  | [] => []
  | wall :: walls =>
    match c.now? wall with
    | some (m, c') => (wall, m) :: c'.answered walls
    | none => c.answered walls

theorem run_append (c : Clock) (walls later : List Int) :
    c.run (walls ++ later) = (c.run walls).run later := List.foldl_append

theorem answered_append (c : Clock) (walls later : List Int) :
    c.answered (walls ++ later) = c.answered walls ++ (c.run walls).answered later := by
  induction walls generalizing c with
  | nil => rfl
  | cons wall walls ih =>
    rw [List.cons_append, answered, answered, run, List.foldl_cons, after]
    cases c.now? wall with
    | none => exact ih c
    | some r => exact congrArg _ (ih r.2)

/-- The microseconds that an answer comes no earlier than, when these are the readings answered up
to it: one after 1970 for each of them, and after each of them one for each that followed it. -/
def bounds (walls : List Int) : Set Int :=
  {x | x = walls.length ∨
    ∃ (i : Nat) (h : i < walls.length), x = walls[i] / 1000 + (walls.length - (i + 1) : Nat)}

/-- A further reading puts off what the earlier ones demand by a microsecond. -/
theorem bounds_snoc (walls : List Int) (wall : Int) :
    bounds (walls ++ [wall]) = insert (wall / 1000) ((· + 1) '' bounds walls) := by
  ext x
  simp only [bounds, List.length_append, List.length_singleton, Set.mem_insert_iff, Set.mem_image,
    Set.mem_ofPred_eq]
  constructor
  · rintro (rfl | ⟨i, hi, rfl⟩)
    · exact .inr ⟨walls.length, .inl rfl, by simp⟩
    · by_cases hlast : i < walls.length
      · rw [List.getElem_append_left hlast]
        exact .inr ⟨_, .inr ⟨i, hlast, rfl⟩, by omega⟩
      · obtain rfl : i = walls.length := by omega
        exact .inl (by simp)
  · rintro (rfl | ⟨y, rfl | ⟨i, hi, rfl⟩, rfl⟩)
    · exact .inr ⟨walls.length, by omega, by simp⟩
    · exact .inl (by simp)
    · refine .inr ⟨i, by omega, ?_⟩
      rw [List.getElem_append_left hi]
      omega

theorem isGreatest_bounds_snoc {walls : List Int} {c : Clock} (h : IsGreatest (bounds walls) c.last)
    (wall : Int) : IsGreatest (bounds (walls ++ [wall])) (c.next wall) := by
  have hmono : Monotone fun x : Int => x + 1 := fun x y hxy => by simpa using hxy
  rw [bounds_snoc]
  exact (hmono.map_isGreatest h).insert _

/-- What a new clock has answered, and where it stands. -/
structure Told (answers : List (Int × Moment)) (c : Clock) : Prop where
  last : IsGreatest (bounds (answers.map (·.1))) c.last
  closed : ∀ i (h : i < answers.length), ∃ micros,
    answers[i].2 = .utc (micros * 1000) ∧
      IsGreatest (bounds ((answers.take (i + 1)).map (·.1))) micros
  past : ∀ a ∈ answers, a.2.nanos ≤ c.last * 1000
  rising : answers.Pairwise (·.2.nanos < ·.2.nanos)
  heeding : ∀ a ∈ answers, a.1 / 1000 * 1000 ≤ a.2.nanos

namespace Told
variable {answers : List (Int × Moment)} {c c' : Clock}

theorem nil : Told [] start where
  last := by
    have hzero : bounds ([].map (·.1 : Int × Moment → Int)) = {0} := by
      ext x
      simp [bounds]
    rw [hzero]
    exact isGreatest_singleton
  closed i h := absurd h (Nat.not_lt_zero i)
  past a h := absurd h List.not_mem_nil
  rising := .nil
  heeding a h := absurd h List.not_mem_nil

/-- An answer is later than all before it. -/
theorem snoc (h : Told answers c) {wall : Int} {m : Moment} (hnow : c.now? wall = some (m, c')) :
    Told (answers ++ [(wall, m)]) c' := by
  obtain ⟨rfl, rfl⟩ := eq_of_now? hnow
  have hlast := isGreatest_bounds_snoc h.last wall
  have hwall : wall / 1000 ≤ c.next wall := le_max_left ..
  have hlater : c.last + 1 ≤ c.next wall := le_max_right ..
  have hmap : (answers ++ [(wall, Moment.utc (c.next wall * 1000))]).map (·.1) =
      answers.map (·.1) ++ [wall] := by simp
  refine ⟨by rwa [hmap], fun i hi => ?_, fun a ha => ?_, ?_, fun a ha => ?_⟩
  · by_cases hold : i < answers.length
    · rw [List.getElem_append_left hold, List.take_append_of_le_length hold]
      exact h.closed i hold
    · obtain rfl : i = answers.length := by
        rw [List.length_append, List.length_singleton] at hi
        omega
      refine ⟨c.next wall, by simp, ?_⟩
      rwa [List.take_of_length_le (by simp), hmap]
  · obtain hold | rfl := List.mem_append.mp ha |>.imp_right List.mem_singleton.mp
    · exact (h.past a hold).trans (by simp only; omega)
    · exact le_rfl
  · refine List.pairwise_append.mpr ⟨h.rising, List.pairwise_singleton .., fun a ha b hb => ?_⟩
    obtain rfl := List.mem_singleton.mp hb
    exact lt_of_le_of_lt (h.past a ha) (by simp only [Moment.utc]; omega)
  · obtain hold | rfl := List.mem_append.mp ha |>.imp_right List.mem_singleton.mp
    · exact h.heeding a hold
    · simp only [Moment.utc]
      omega

theorem last_nonneg (h : Told answers c) : 0 ≤ c.last :=
  (Int.natCast_nonneg _).trans (h.last.2 (.inl rfl))

end Told

theorem told (walls : List Int) : Told (start.answered walls) (start.run walls) := by
  induction walls using List.reverseRecOn with
  | nil => exact .nil
  | append_singleton walls wall ih =>
    have hrun : (start.run walls).run [wall] = (start.run walls).after wall := rfl
    rw [answered_append, run_append, hrun, after, answered]
    cases hnow : (start.run walls).now? wall with
    | none => simpa [answered] using ih
    | some r => simpa [answered] using ih.snoc hnow

/-- **The clock in closed form.** After any readings of the wall, each answer is the greatest of the
bounds that the readings answered up to it give, so a whole number of microseconds; the answers rise
and none is before its reading, cut to microseconds. A further reading has no answer just if it is
outside the years -9999 to 9999, or its microsecond is not after the last answer and the one after
that is outside them; then the clock stays as it is and later answers are as if it had not been. -/
theorem answers_eq_greatest (walls : List Int) :
    (∀ i (h : i < (start.answered walls).length), ∃ micros,
      (start.answered walls)[i].2 = .utc (micros * 1000) ∧
        IsGreatest (bounds (((start.answered walls).take (i + 1)).map (·.1))) micros) ∧
    (start.answered walls).Pairwise (·.2.nanos < ·.2.nanos) ∧
    (∀ a ∈ start.answered walls, a.1 / 1000 * 1000 ≤ a.2.nanos) ∧
    IsGreatest (bounds ((start.answered walls).map (·.1))) (start.run walls).last ∧
    ∀ wall,
      ((start.run walls).now? wall = none ↔ ¬InYears wall ∨
        wall / 1000 ≤ (start.run walls).last ∧ ¬InYears (((start.run walls).last + 1) * 1000)) ∧
      ((start.run walls).now? wall = none →
        start.run (walls ++ [wall]) = start.run walls ∧
        ∀ later, start.answered (walls ++ wall :: later) = start.answered (walls ++ later)) := by
  have h := told walls
  refine ⟨h.closed, h.rising, h.heeding, h.last, fun wall =>
    ⟨now?_eq_none_iff h.last_nonneg wall, fun hnone => ⟨?_, fun later => ?_⟩⟩⟩
  · rw [run_append, run, List.foldl_cons, List.foldl_nil, after, hnone]
  · rw [answered_append, answered_append, answered, hnone]

/-- A reading behind the last answer is answered with the next microsecond, one past the year 9999
is not answered, and the clock goes on from there. -/
theorem answered_back_and_past :
    start.answered [1500, 900, 253402300800000000000, 7999] =
        [(1500, .utc 1000), (900, .utc 2000), (7999, .utc 7000)] ∧
      start.run [1500, 900, 253402300800000000000] = start.run [1500, 900] ∧
      IsGreatest (bounds [1500, 900, 7999]) 7 := by
  have hfail := (answers_eq_greatest [1500, 900]).2.2.2.2 253402300800000000000
  have hanswers : start.answered [1500, 900, 253402300800000000000, 7999] =
      [(1500, .utc 1000), (900, .utc 2000), (7999, .utc 7000)] := by decide
  refine ⟨hanswers, (hfail.2 (hfail.1.mpr (by decide))).1, ?_⟩
  have hlast := (answers_eq_greatest [1500, 900, 253402300800000000000, 7999]).2.2.2.1
  rwa [hanswers, show (start.run [1500, 900, 253402300800000000000, 7999]).last = 7 by decide]
    at hlast

/-- It is the microsecond of a reading that counts: one half a microsecond after the last one of the
year 9999 is after the last answer, and has none. -/
theorem half_microsecond_unanswered :
    ¬∀ walls wall, ((start.run walls).now? wall = none ↔ ¬InYears wall ∨
      wall ≤ (start.run walls).last * 1000 ∧ ¬InYears (((start.run walls).last + 1) * 1000)) := by
  intro h
  have hlast : start.run [253402300799999999000] = ⟨253402300799999999⟩ := by decide
  have hnone := (h [253402300799999999000] 253402300799999999500).mp (by rw [hlast]; decide)
  rw [hlast] at hnone
  exact absurd hnone (by decide)

end Timelines.Clock
