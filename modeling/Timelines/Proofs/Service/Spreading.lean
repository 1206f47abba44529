import Timelines.Service.Fanout

/-! All that a fan-out can do.

`Fanout.Course` lists its steps, each with when it can be made; `Fanout.step?_eq_some_iff` says that
these are the steps. -/
namespace Timelines.Service.Fanout

/-- The steps of a fan-out. -/
inductive Course (f : Fanout) : Move → Fanout → Prop
  | dispatch {u : UserId} {rest : List UserId} : f.rest = u :: rest → f.cut = false →
      f.queue.length < f.capacity → Course f .dispatch
        { f with rest, queue := f.queue ++ [u], dispatched := f.dispatched + 1 }
  | stop : f.closed = false → Course f .stop { f with cut := true }
  | ask {n : Nat} {w : Worker} : f.workers[n]? = some w → w.activity = .away →
      Course f (.ask n)
        { f with workers := f.workers.set n { w with activity := .inLine }, line := f.line ++ [n] }
  | take {n : Nat} {line : List Nat} {u : UserId} {queue : List UserId} {w : Worker} :
      f.line = n :: line → f.queue = u :: queue → f.workers[n]? = some w →
      Course f .take
        { f with workers := f.workers.set n { w with activity := .writing u }, line, queue }
  | wrote {n : Nat} {w : Worker} {u : UserId} : f.workers[n]? = some w → w.activity = .writing u →
      Course f (.wrote n (.ok ()))
        { f with workers := f.workers.set n
                  { w with activity := .away, delivered := w.delivered ++ [u] } }
  | notWritten {n : Nat} {w : Worker} {u : UserId} (e : StoreError) : f.workers[n]? = some w →
      w.activity = .writing u → Course f (.wrote n (.error e))
        { f with workers := f.workers.set n { w with activity := .away, failed := w.failed + 1 } }
  | leave {n : Nat} {line : List Nat} {w : Worker} : f.line = n :: line → f.closed = true →
      f.queue = [] → f.workers[n]? = some w → Course f .leave
        { f with workers := f.workers.set n { w with activity := .gone }, line,
                 left := f.left ++ [n] }

theorem course_of_step {f f' : Fanout} {m : Move} (h : f.step? m = some f') : Course f m f' := by
  cases m with
  | dispatch =>
    simp only [step?] at h
    split at h
    next u rest hr =>
      split at h
      next => cases h
      next hc =>
        cases h
        have hcut : f.cut = false := by simpa using fun hf => hc (.inl hf)
        exact .dispatch hr hcut (Nat.lt_of_not_le fun hle => hc (.inr hle))
    next => cases h
  | stop =>
    simp only [step?] at h
    split at h
    next => cases h
    next hc =>
      cases h
      exact .stop (by simpa using hc)
  | ask n =>
    simp only [step?] at h
    split at h
    next w hw =>
      split at h
      next ha =>
        cases h
        exact .ask hw ha
      next => cases h
    next => cases h
  | take =>
    simp only [step?] at h
    split at h
    next n line u queue hl hq =>
      obtain ⟨w, hw, rfl⟩ := Option.map_eq_some_iff.mp h
      exact .take hl hq hw
    next => cases h
  | wrote n reply =>
    simp only [step?] at h
    split at h
    next w hw =>
      split at h
      next u ha =>
        cases h
        exact .wrote hw ha
      next u e ha =>
        cases h
        exact .notWritten e hw ha
      next => cases h
    next => cases h
  | leave =>
    simp only [step?] at h
    split at h
    next n line hl =>
      split at h
      next hc =>
        obtain ⟨w, hw, rfl⟩ := Option.map_eq_some_iff.mp h
        exact .leave hl hc.1 hc.2 hw
      next => cases h
    next => cases h

theorem step_of_course {f f' : Fanout} {m : Move} (h : Course f m f') : f.step? m = some f' := by
  cases h with
  | dispatch hr hc hq => simp [step?, hr, hc, Nat.not_le.mpr hq]
  | stop hc => simp [step?, hc]
  | ask hw ha => simp [step?, hw, ha]
  | take hl hq hw => simp [step?, hl, hq, hw]
  | wrote hw ha => simp [step?, hw, ha]
  | notWritten e hw ha => simp [step?, hw, ha]
  | leave hl hc hq hw => simp [step?, hl, hc, hq, hw]

/-- The courses are the steps. -/
theorem step?_eq_some_iff {f f' : Fanout} {m : Move} : f.step? m = some f' ↔ Course f m f' :=
  ⟨course_of_step, step_of_course⟩

theorem post_of_step {f f' : Fanout} {m : Move} (h : f.step? m = some f') : f'.post = f.post := by
  cases course_of_step h <;> rfl

end Timelines.Service.Fanout
