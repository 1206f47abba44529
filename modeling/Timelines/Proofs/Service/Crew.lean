import Mathlib.Algebra.GroupWithZero.Nat
import Mathlib.Data.List.Nodup
import Mathlib.Data.List.Perm.Basic
import Timelines.Proofs.Service.Spreading

/-! The workers of a fan-out.

A worker stands in line exactly when it asked for the queue and has not taken from it, and it is
counted as gone exactly when it left: `placed_of_step` keeps this through every step. Whatever is
told of the workers together changes, when one of them changes, by what that one contributes. -/
namespace Timelines.Service

/-- A sum grows by what one of its terms does. -/
theorem sum_set {α : Type} {xs : List α} {n : Nat} {x : α} (f : α → Nat) (y : α) {more : Nat}
    (h : xs[n]? = some x) (hf : f y = f x + more) :
    ((xs.set n y).map f).sum = (xs.map f).sum + more := by
  induction xs generalizing n with
  | nil => cases h
  | cons x' xs ih =>
    cases n with
    | zero =>
      cases h
      simp only [List.set_cons_zero, List.map_cons, List.sum_cons, hf]
      omega
    | succ n =>
      simp only [List.set_cons_succ, List.map_cons, List.sum_cons, ih h]
      omega

namespace Fanout

def activity? (workers : List Worker) (n : Nat) : Option Activity :=
  workers[n]?.map (·.activity)

theorem activity?_eq {workers : List Worker} {n : Nat} {w : Worker} (hw : workers[n]? = some w) :
    activity? workers n = some w.activity := by
  rw [activity?, hw, Option.map_some]

theorem activity?_set {workers : List Worker} {n : Nat} {w : Worker} (hw : workers[n]? = some w)
    (w' : Worker) (m : Nat) :
    activity? (workers.set n w') m = if m = n then some w'.activity else activity? workers m := by
  obtain ⟨hn, -⟩ := List.getElem?_eq_some_iff.mp hw
  unfold activity?
  rw [List.getElem?_set]
  by_cases h : n = m
  · subst h
    rw [if_pos rfl, if_pos hn, if_pos rfl, Option.map_some]
  · rw [if_neg h, if_neg (Ne.symm h)]

/-! ### All workers together -/

theorem delivered_set {workers : List Worker} {n : Nat} {w w' : Worker} {more : List UserId}
    (hw : workers[n]? = some w) (h : w'.delivered = w.delivered ++ more) :
    ((workers.set n w').flatMap (·.delivered)).Perm (workers.flatMap (·.delivered) ++ more) := by
  induction workers generalizing n with
  | nil => cases hw
  | cons v workers ih =>
    cases n with
    | zero =>
      cases hw
      rw [List.set_cons_zero, List.flatMap_cons, List.flatMap_cons, h]
      simp only [List.append_assoc]
      exact List.perm_append_comm.append_left _
    | succ n =>
      rw [List.set_cons_succ, List.flatMap_cons, List.flatMap_cons, List.append_assoc]
      exact (ih hw).append_left _

theorem delivered_kept {workers : List Worker} {n : Nat} {w w' : Worker}
    (hw : workers[n]? = some w) (h : w'.delivered = w.delivered) :
    ((workers.set n w').flatMap (·.delivered)).Perm (workers.flatMap (·.delivered)) := by
  have := delivered_set hw (h.trans (List.append_nil _).symm)
  rwa [List.append_nil] at this

/-- A worker that goes elsewhere takes its accounts along. -/
theorem accounts_set {workers : List Worker} {n : Nat} {w : Worker} (hw : workers[n]? = some w)
    (a : Activity) :
    ((workers.set n { w with activity := a }).flatMap (·.delivered)).Perm
        (workers.flatMap (·.delivered)) ∧
      ((workers.set n { w with activity := a }).map (·.failed)).sum =
        (workers.map (·.failed)).sum := by
  have hd : { w with activity := a }.delivered = w.delivered := rfl
  have hf : { w with activity := a }.failed = w.failed + 0 := rfl
  exact ⟨delivered_kept hw hd, sum_set (·.failed) _ hw hf⟩

/-- The workers have reached whom they had reached before, and whom a write has just reached. -/
theorem mem_delivered_of_step {f f' : Fanout} {m : Move} (h : Course f m f') (u : UserId) :
    u ∈ f'.workers.flatMap (·.delivered) ↔ u ∈ f.workers.flatMap (·.delivered) ∨
      ∃ n, m = .wrote n (.ok ()) ∧ activity? f.workers n = some (.writing u) := by
  cases h with
  | dispatch hr hc hq => simp
  | stop hc => simp
  | ask hw ha =>
    rw [(accounts_set hw .inLine).1.mem_iff]
    simp
  | take hl hq hw =>
    rw [(accounts_set hw (.writing _)).1.mem_iff]
    simp
  | wrote hw ha =>
    rw [(delivered_set hw rfl).mem_iff, List.mem_append, List.mem_singleton]
    simp [activity?_eq hw, ha, eq_comm]
  | @notWritten n w v e hw ha =>
    have hd : { w with activity := .away, failed := w.failed + 1 }.delivered = w.delivered := rfl
    rw [(delivered_kept hw hd).mem_iff]
    simp
  | leave hl hc hq hw =>
    rw [(accounts_set hw .gone).1.mem_iff]
    simp

/-! ### Where the workers are -/

structure Placed (f : Fanout) : Prop where
  line_nodup : f.line.Nodup
  mem_line : ∀ n, n ∈ f.line ↔ activity? f.workers n = some .inLine
  left_nodup : f.left.Nodup
  mem_left : ∀ n, n ∈ f.left ↔ activity? f.workers n = some .gone

theorem placed_start (bounds : Bounds) (post : Post) (followers : List UserId) :
    Placed (.start bounds post followers) := by
  have away (n : Nat) (a : Activity) (ha : a ≠ .away) :
      activity? (start bounds post followers).workers n ≠ some a := by
    intro h
    obtain ⟨w, hw, rfl⟩ := Option.map_eq_some_iff.mp h
    have := List.eq_of_mem_replicate (List.mem_of_getElem? hw)
    exact ha (by rw [this])
  exact ⟨.nil, fun n => ⟨nofun, fun h => absurd h (away n _ nofun)⟩,
    .nil, fun n => ⟨nofun, fun h => absurd h (away n _ nofun)⟩⟩

/-- A worker that ended its write is neither in line nor gone. -/
theorem Placed.ended {f : Fanout} (h : Placed f) {n : Nat} {w w' : Worker} {u : UserId}
    (hw : f.workers[n]? = some w) (ha : w.activity = .writing u) (ha' : w'.activity = .away) :
    Placed { f with workers := f.workers.set n w' } := by
  have hn := activity?_eq hw
  rw [ha] at hn
  refine ⟨h.line_nodup, fun m => ?_, h.left_nodup, fun m => ?_⟩
  · rw [activity?_set hw, h.mem_line]
    split <;> simp [*]
  · rw [activity?_set hw, h.mem_left]
    split <;> simp [*]

theorem placed_of_step {f f' : Fanout} {m : Move} (h : Placed f) (hs : Course f m f') :
    Placed f' := by
  cases hs with
  | dispatch hr hc hq => exact ⟨h.line_nodup, h.mem_line, h.left_nodup, h.mem_left⟩
  | stop hc => exact ⟨h.line_nodup, h.mem_line, h.left_nodup, h.mem_left⟩
  | @ask n w hw ha =>
    have hn := activity?_eq hw
    rw [ha] at hn
    refine ⟨?_, fun m => ?_, h.left_nodup, fun m => ?_⟩
    · have hl : n ∉ f.line := fun hl => by
        rw [h.mem_line, hn] at hl
        cases hl
      exact List.nodup_append_comm.mp (List.nodup_cons.mpr ⟨hl, h.line_nodup⟩)
    · rw [activity?_set hw, List.mem_append, List.mem_singleton, h.mem_line]
      split <;> simp [*]
    · rw [activity?_set hw, h.mem_left]
      split <;> simp [*]
  | @take n line u queue w hl hq hw =>
    have hnd := h.line_nodup
    rw [hl, List.nodup_cons] at hnd
    have hn := (h.mem_line n).mp (hl ▸ List.mem_cons_self ..)
    refine ⟨hnd.2, fun m => ?_, h.left_nodup, fun m => ?_⟩
    · have hm := h.mem_line m
      rw [hl, List.mem_cons] at hm
      rw [activity?_set hw]
      split
      next he => simp [he, hnd.1]
      next he => rw [← hm, or_iff_right he]
    · rw [activity?_set hw, h.mem_left]
      split <;> simp [*]
  | wrote hw ha => exact h.ended hw ha rfl
  | notWritten e hw ha => exact h.ended hw ha rfl
  | @leave n line w hl hc hq hw =>
    have hnd := h.line_nodup
    rw [hl, List.nodup_cons] at hnd
    have hn := (h.mem_line n).mp (hl ▸ List.mem_cons_self ..)
    refine ⟨hnd.2, fun m => ?_, ?_, fun m => ?_⟩
    · have hm := h.mem_line m
      rw [hl, List.mem_cons] at hm
      rw [activity?_set hw]
      split
      next he => simp [he, hnd.1]
      next he => rw [← hm, or_iff_right he]
    · have hl : n ∉ f.left := fun hl => by
        rw [h.mem_left, hn] at hl
        cases hl
      exact List.nodup_append_comm.mp (List.nodup_cons.mpr ⟨hl, h.left_nodup⟩)
    · rw [activity?_set hw, List.mem_append, List.mem_singleton, h.mem_left]
      split <;> simp [*]

/-! ### When all have left -/

/-- All workers have left a fan-out that is over. -/
theorem left_perm {f : Fanout} (h : Placed f) (hf : f.finished) :
    f.left.Perm (List.range f.workers.length) := by
  have hlen : f.left.length = f.workers.length := beq_iff_eq.mp hf
  refine (List.subperm_of_subset h.left_nodup fun n hn => ?_).perm_of_length_le ?_
  · obtain ⟨w, hw, -⟩ := Option.map_eq_some_iff.mp ((h.mem_left n).mp hn)
    exact List.mem_range.mpr (List.getElem?_eq_some_iff.mp hw).1
  · exact Nat.le_of_eq (List.length_range.trans hlen.symm)

theorem filterMap_range (workers : List Worker) :
    (List.range workers.length).filterMap (workers[·]?) = workers := by
  induction workers with
  | nil => rfl
  | cons w workers ih =>
    rw [List.length_cons, List.range_succ_eq_map, List.filterMap_cons, List.getElem?_cons_zero]
    simp only [List.filterMap_map, Function.comp_def, List.getElem?_cons_succ, ih]

/-- The report of a fan-out that is over has got what each worker has. -/
theorem spread_of_finished {f : Fanout} (h : Placed f) (hf : f.finished) :
    f.spread.delivered.Perm (f.workers.flatMap (·.delivered)) ∧
      f.spread.failed = (f.workers.map (·.failed)).sum := by
  have hp : (f.left.filterMap (f.workers[·]?)).Perm f.workers := by
    have := (left_perm h hf).filterMap (f.workers[·]?)
    rwa [filterMap_range] at this
  refine ⟨hp.flatMap_right _, ?_⟩
  have hs := (hp.map (·.failed)).sum_nat
  rw [← hs, List.sum_eq_foldl, List.foldl_map]
  rfl

end Fanout
end Timelines.Service
