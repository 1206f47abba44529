import Timelines.Proofs.Service.Crew

/-! The writes that a fan-out asks for.

A history lists them in the order in which they were asked for. What is written, what is queued and
what is not dispatched make up the followers, in their order, whichever worker writes what and
however long it takes (`accounted_of_step`). -/
namespace Timelines.Service.Fanout

/-- A request to write the post into a follower's timeline. -/
structure Write where
  worker : Nat
  follower : UserId
  /-- The answer, if there is one yet. -/
  reply : Option (Except StoreError Unit)

/-- Under way for a worker. -/
def Write.pending (n : Nat) (x : Write) : Bool := x.worker == n && x.reply.isNone

/-- The write under way for a worker was answered. -/
def Write.answer (n : Nat) (reply : Except StoreError Unit) (x : Write) : Write :=
  if x.pending n then { x with reply := some reply } else x

/-- The writes after a move. -/
def noted (f : Fanout) (ws : List Write) : Move → List Write
  | .take =>
    match f.line, f.queue with
    | n :: _, u :: _ => ws ++ [⟨n, u, none⟩]
    | _, _ => ws
  | .wrote n reply => ws.map (Write.answer n reply)
  | _ => ws

/-- The histories of a fan-out. -/
inductive History (bounds : Bounds) (post : Post) (followers : List UserId) :
    List Write → Fanout → Prop
  | start : History bounds post followers [] (.start bounds post followers)
  | move {ws : List Write} {f f' : Fanout} {m : Move} : History bounds post followers ws f →
      f.step? m = some f' → History bounds post followers (f.noted ws m) f'

/-- The followers whose writes were answered so. -/
def answered (p : Except StoreError Unit → Bool) (ws : List Write) : List UserId :=
  (ws.filter fun x => x.reply.any p).map (·.follower)

def reached (ws : List Write) : List UserId := answered (·.isOk) ws

def missed (ws : List Write) : List UserId := answered (!·.isOk) ws

/-- The followers to whom a worker is writing. -/
def writing (n : Nat) (ws : List Write) : List UserId :=
  (ws.filter (·.pending n)).map (·.follower)

/-! ### An answer -/

variable {n : Nat} {reply : Except StoreError Unit}

theorem follower_answer (x : Write) : (x.answer n reply).follower = x.follower := by
  unfold Write.answer
  split <;> rfl

theorem pending_answer (x : Write) (m : Nat) :
    (x.answer n reply).pending m = (decide (m ≠ n) && x.pending m) := by
  unfold Write.answer
  split
  next h =>
    have hx : x.worker = n ∧ x.reply.isNone := by simpa [Write.pending] using h
    simp only [Write.pending, Option.isNone_some, Bool.and_false, Bool.false_eq,
      Bool.and_eq_false_iff]
    by_cases hm : m = n
    · exact .inl (by simp [hm])
    · exact .inr (by simp [hx.1, Ne.symm hm])
  next h =>
    by_cases hm : m = n
    · simpa [hm] using h
    · simp [hm]

/-- An answer of a kind adds, to the followers so answered, the one to whom the worker wrote. -/
theorem answered_answer (n : Nat) (reply : Except StoreError Unit)
    (p : Except StoreError Unit → Bool) (ws : List Write) :
    (answered p (ws.map (Write.answer n reply))).Perm
      (answered p ws ++ if p reply then writing n ws else []) := by
  unfold answered writing
  induction ws with
  | nil => split <;> exact .nil
  | cons x ws ih =>
    rw [List.map_cons]
    by_cases hx : x.pending n
    · have hr : x.reply = none := by
        simp only [Write.pending, Bool.and_eq_true, Option.isNone_iff_eq_none] at hx
        exact hx.2
      rw [Write.answer, if_pos hx]
      cases hp : p reply
      · simpa [hx, hr, hp] using ih
      · have hih := (List.perm_middle.trans ((hp ▸ ih).symm.cons x.follower)).symm
        simpa [hx, hr, hp] using hih
    · rw [Write.answer, if_neg hx, List.filter_cons, List.filter_cons, List.filter_cons, if_neg hx]
      split
      · exact ih.cons x.follower
      · exact ih

theorem writing_answer (ws : List Write) (m : Nat) :
    writing m (ws.map (Write.answer n reply)) = if m = n then [] else writing m ws := by
  unfold writing
  rw [List.filter_map, List.map_map]
  simp only [Function.comp_def, follower_answer, pending_answer]
  by_cases hm : m = n <;> simp [hm]

theorem follower_answers (ws : List Write) :
    (ws.map (Write.answer n reply)).map (·.follower) = ws.map (·.follower) := by
  rw [List.map_map]
  exact List.map_congr_left fun x _ => follower_answer x

/-! ### Where the followers are -/

/-- The write of a worker, as its activity tells it. -/
def underWay : Option Activity → List UserId
  | some (.writing u) => [u]
  | _ => []

/-- The followers are those written to, those queued and the others, in their order. Each worker
has its own write under way and knows of the others how they ended. -/
structure Accounted (followers : List UserId) (ws : List Write) (f : Fanout) : Prop where
  kept : ws.map (·.follower) ++ f.queue ++ f.rest = followers
  dispatched : f.dispatched = ws.length + f.queue.length
  writing : ∀ n, writing n ws = underWay (activity? f.workers n)
  reached : (f.workers.flatMap (·.delivered)).Perm (reached ws)
  missed : (f.workers.map (·.failed)).sum = (missed ws).length

theorem accounted_start (bounds : Bounds) (post : Post) (followers : List UserId) :
    Accounted followers [] (.start bounds post followers) where
  kept := rfl
  dispatched := rfl
  writing := by
    intro n
    unfold activity? start
    rw [List.getElem?_replicate]
    split <;> rfl
  reached := by
    unfold start
    rw [List.flatMap_replicate]
    simp [reached, answered]
  missed := by
    unfold start
    simp [missed, answered]

/-- A write ended: its worker is told, and nobody else. -/
theorem Accounted.ended {followers : List UserId} {ws : List Write} {f : Fanout}
    (h : Accounted followers ws f) {w w' : Worker} {u : UserId} (hw : f.workers[n]? = some w)
    (ha : w.activity = .writing u) (ha' : w'.activity = .away)
    (hd : w'.delivered = w.delivered ++ if reply.isOk then [u] else [])
    (hf : w'.failed = w.failed + if reply.isOk then 0 else 1) :
    Accounted followers (ws.map (Write.answer n reply))
      { f with workers := f.workers.set n w' } := by
  have hn : Fanout.writing n ws = [u] := by
    rw [h.writing, activity?_eq hw, ha]
    rfl
  refine ⟨?_, ?_, fun m => ?_, ?_, ?_⟩
  · rw [follower_answers]
    exact h.kept
  · rw [List.length_map]
    exact h.dispatched
  · rw [writing_answer, activity?_set hw, ha', h.writing]
    split <;> rfl
  · have hr := answered_answer n reply (·.isOk) ws
    rw [hn] at hr
    exact (delivered_set hw hd).trans ((h.reached.append_right _).trans hr.symm)
  · have hm := (answered_answer n reply (!·.isOk) ws).length_eq
    rw [hn] at hm
    rw [sum_set (·.failed) _ hw hf, h.missed, Fanout.missed, Fanout.missed, hm, List.length_append]
    cases reply <;> rfl

/-- A worker goes elsewhere that was not writing, and does not write there. -/
theorem Accounted.idle {followers : List UserId} {ws : List Write} {f : Fanout}
    (h : Accounted followers ws f) {w : Worker} {old new : Activity} (line left : List Nat)
    (hw : f.workers[n]? = some w) (hold : activity? f.workers n = some old)
    (hidle : underWay (some old) = []) (hidle' : underWay (some new) = []) :
    Accounted followers ws
      { f with line, left, workers := f.workers.set n { w with activity := new } } := by
  obtain ⟨hd, hf⟩ := accounts_set hw new
  refine ⟨h.kept, h.dispatched, fun m => ?_, hd.trans h.reached, hf.trans h.missed⟩
  rw [activity?_set hw, h.writing]
  split
  next he => rw [he, hold, hidle, hidle']
  next => rfl

theorem accounted_of_step {followers : List UserId} {ws : List Write} {f f' : Fanout} {m : Move}
    (hp : Placed f) (h : Accounted followers ws f) (hs : Course f m f') :
    Accounted followers (f.noted ws m) f' := by
  cases hs with
  | @dispatch u rest hr hc hq =>
    refine ⟨?_, ?_, h.writing, h.reached, h.missed⟩
    · rw [← h.kept, hr]
      simp [noted]
    · rw [h.dispatched, List.length_append]
      rfl
  | stop hc => exact ⟨h.kept, h.dispatched, h.writing, h.reached, h.missed⟩
  | @ask n w hw ha => exact h.idle _ f.left hw (ha ▸ activity?_eq hw) rfl rfl
  | @take n line u queue w hl hq hw =>
    have hnote : f.noted ws .take = ws ++ [⟨n, u, none⟩] := by rw [noted, hl, hq]
    obtain ⟨hd, hf⟩ := accounts_set hw (.writing u)
    have hn := (hp.mem_line n).mp (hl ▸ List.mem_cons_self ..)
    rw [hnote]
    refine ⟨?_, ?_, fun m => ?_, hd.trans ?_, hf.trans ?_⟩
    · rw [← h.kept, hq]
      simp
    · rw [h.dispatched, hq, List.length_append, List.length_cons]
      simp only [List.length_cons, List.length_nil]
      omega
    · have hm := h.writing m
      unfold Fanout.writing at hm ⊢
      rw [activity?_set hw, List.filter_append, List.map_append, hm]
      split
      next he =>
        rw [he, hn]
        simp [underWay, Write.pending]
      next he => simp [Write.pending, Ne.symm he]
    · exact h.reached.trans (by simp [Fanout.reached, answered])
    · exact h.missed.trans (by simp [Fanout.missed, answered])
  | wrote hw ha => exact h.ended hw ha rfl rfl rfl
  | notWritten e hw ha => exact h.ended hw ha rfl (List.append_nil _).symm rfl
  | @leave n line w hl hc hq hw =>
    have hn := (hp.mem_line n).mp (hl ▸ List.mem_cons_self ..)
    exact h.idle line _ hw hn rfl rfl

end Timelines.Service.Fanout
