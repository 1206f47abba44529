import Timelines.Simulation.Basic

/-! What each thread does when it has its turn.

A thread takes one step at a time, and a step tells whether the thread can go on at once. Where it
cannot, it waits for what will wake it, or has given way. -/
namespace Timelines.Simulation
open Service
variable {ω τ : Type}

/-! ### Calls -/

/-- Makes a move of a call that creates a post. -/
def moveCreate (n : Nat) (call : Create) (m : Create.Move) : Run ω τ Unit := do
  let config := (← get).config
  match call.step? config m with
  | none => return
  | some next =>
    report (call.reports config m)
    modifyCaller n fun c => { c with call := .create next }
    if let some retry := call.launched? config m then
      modifyCaller n fun c => { c with retry := some retry }
      wake (.retry n)
    match call.stage, next.stage with
    | .resolving _, .spreading _ f =>
      (List.range f.workers.length).forM fun w => wake (.worker n w)
    | _, _ => return

/-- Makes a move of a call that reads a timeline. -/
def moveRead (n : Nat) (call : Read) (m : Read.Move) : Run ω τ Unit := do
  let config := (← get).config
  match call.step? config m with
  | none => return
  | some next =>
    report (call.reports m)
    modifyCaller n fun c => { c with call := .read next }
    if let some refill := call.launched? m then
      modifyCaller n fun c => { c with refill := some refill }
      wake (.refill n)

/-- Wakes the worker that holds the queue. -/
def wakeLine (n : Nat) : Run ω τ Unit := do
  match (← get).callers[n]? with
  | some { call := .create { stage := .spreading _ f, .. }, .. } =>
    if let some w := f.line.head? then wake (.worker n w)
  | _ => return

/-- The call's turn to dispatch; tells whether it went on. -/
def dispatch (n : Nat) (cancelled : Bool) (call : Create) (f : Fanout) : Run ω τ Bool := do
  if f.closed then return false
  else if cancelled then
    moveCreate n call (.spread .stop)
    wakeLine n
    return true
  else if (← get).turn ≠ 0 ∧ f.capacity ≤ f.queue.length then return false
  else if ← pass (.call n) then
    moveCreate n call (.spread .dispatch)
    wakeLine n
    return true
  else return false

/-- Goes on with followers in turn until the slice of one is up to date. -/
def takeTurns (peers : Peers ω τ) (n : Nat) : Nat → Run ω τ Bool
  | 0 => return false
  | fuel + 1 => do
    let s ← get
    match s.callers[n]? with
    | some { call := .create call, turns := u :: turns, .. } =>
      modifyCaller n fun c => { c with turns }
      match call.stage with
      | .maintaining post .. =>
        let q := Create.upkeep s.config post u
        match ← ask peers (.call n) (some u) q.request with
        | some reply =>
          moveCreate n call (q.answered reply)
          return true
        | none => takeTurns peers n fuel
      | _ => return false
    | _ => return false

/-- Brings slices up to date; tells whether it went on. -/
def maintain (peers : Peers ω τ) (n : Nat) (call : Create) (waiting running : List UserId) :
    Run ω τ Bool := do
  let config := (← get).config
  let mut moved := false
  if let u :: _ := waiting then
    if running.length < config.bounds.workers then
      moveCreate n call .maintain
      modifyCaller n fun c => { c with turns := c.turns ++ [u] }
      moved := true
  let done ← takeTurns peers n (waiting.length + running.length + 1)
  return moved || done

/-- One thing that a call does, if there is one it can do now. -/
def stepCall (peers : Peers ω τ) (n : Nat) : Run ω τ Bool := do
  let s ← get
  let some caller := s.callers[n]? | return false
  let t := Thread.call n
  match caller.call with
  | .create call =>
    let move (m : Create.Move) : Run ω τ Bool := do
      moveCreate n call m
      return true
    let moveWith {α : Type} (make : α → Create.Move) (reply : Option α) : Run ω τ Bool :=
      match reply with
      | some a => move (make a)
      | none => return false
    if caller.cancelled && call.cancellable then
      abandon t
      move .cancelled
    else
      match call.stage with
      | .dating =>
        match s.clock.now? (s.wall + s.now * 1000000) with
        | some (moment, clock) =>
          modify fun s => { s with clock }
          move (.dated (some moment))
        | none => move (.dated none)
      | .spreading _ f => dispatch n caller.cancelled call f
      | .maintaining _ _ _ waiting running => maintain peers n call waiting running
      | .naming .. =>
        modify fun s => { s with correlations := s.correlations + 1 }
        move (.named (.random s.correlations))
      | _ =>
        match call.question? with
        | some q => moveWith q.answered (← ask peers t none q.request)
        | none => return false
  | .read call =>
    let move (m : Read.Move) : Run ω τ Bool := do
      moveRead n call m
      return true
    let moveWith {α : Type} (make : α → Read.Move) (reply : Option α) : Run ω τ Bool :=
      match reply with
      | some a => move (make a)
      | none => return false
    if caller.cancelled && call.cancellable then
      abandon t
      move .cancelled
    else
      match call.stage with
      | .refilling _ =>
        if caller.refill.all (·.done) then
          dropTimer (.deadline t)
          move .waited
        else if ← waited t s.config.refillGuard then move .waited
        else return false
      | _ =>
        match call.question? s.config with
        | some q => moveWith q.answered (← ask peers t none q.request)
        | none => return false

/-- One thing that a worker does, if there is one it can do now. -/
def stepWorker (peers : Peers ω τ) (n w : Nat) : Run ω τ Bool := do
  let t := Thread.worker n w
  match (← get).callers[n]? with
  | some { call := .create call, holder, .. } =>
    match call.stage with
    | .spreading _ f =>
      let some worker := f.workers[w]? | return false
      match worker.activity with
      | .away =>
        if (← get).turn = 0 then pass t
        else
          moveCreate n call (.spread (.ask w))
          return true
      | .inLine =>
        if f.line.head? ≠ some w then return false
        else if holder ≠ some w then
          let passed ← pass t
          if passed then modifyCaller n fun c => { c with holder := some w }
          return passed
        else if f.queue.isEmpty ∧ !f.closed ∧ (← get).turn ≠ 0 then return false
        else if !(← pass t) then return false
        else
          modifyCaller n fun c => { c with holder := none }
          moveCreate n call (.spread (if f.queue.isEmpty then .leave else .take))
          if f.queue.isEmpty ∨ f.capacity ≤ f.queue.length then wake (.call n)
          wakeLine n
          return !f.queue.isEmpty
      | .writing _ =>
        let some q := Create.writing? f w | return false
        match ← ask peers t none q.request with
        | some reply =>
          moveCreate n call (q.answered reply)
          return true
        | none => return false
      | .gone => return false
    | _ => return false
  | _ => return false

/-! ### Background work -/

def moveRefill (n : Nat) (refill : Refill) (m : Refill.Move) : Run ω τ Unit := do
  report (refill.reports (← get).config m)
  modifyCaller n fun c => { c with refill := refill.step? m }
  wake (.call n)

def stepRefill (peers : Peers ω τ) (n : Nat) : Run ω τ Bool := do
  let s ← get
  let t := Thread.refill n
  match s.callers[n]? with
  | some { refill := some refill, .. } =>
    if refill.done then return false
    else
      match ← ask peers t none refill.question.request with
      | some reply =>
        dropTimer (.deadline t)
        moveRefill n refill (refill.question.answered reply)
      | none =>
        if ← waited t s.config.refillTimeout then
          abandon t
          moveRefill n refill .expired
      return false
  | _ => return false

def moveRetry (n : Nat) (retry : Retry) (m : Retry.Move) : Run ω τ Unit := do
  report (retry.reports m)
  modifyCaller n fun c => { c with retry := retry.step? m }

def stepRetry (peers : Peers ω τ) (n : Nat) : Run ω τ Bool := do
  match (← get).callers[n]? with
  | some { retry := some retry, .. } =>
    match retry.stage with
    | .pausing attempt =>
      if ← waited (.retry n) ((retry.pause? attempt).getD 0) then
        moveRetry n retry .rested
        return true
      else return false
    | _ =>
      let some q := retry.question? | return false
      match ← ask peers (.retry n) none q.request with
      | some reply =>
        moveRetry n retry (q.answered reply)
        return true
      | none => return false
  | _ => return false

def stepAlarm (n : Nat) : Run ω τ Bool := do
  match (← get).callers[n]? with
  | some { alarm := some ms, .. } =>
    if ← waited (.alarm n) ms then cancel n
    return false
  | _ => return false

/-! ### Threads -/

/-- One step of a thread; tells whether it can go on. -/
def step (peers : Peers ω τ) : Thread → Run ω τ Bool
  | .call n => stepCall peers n
  | .worker n w => stepWorker peers n w
  | .refill n => stepRefill peers n
  | .retry n => stepRetry peers n
  | .alarm n => stepAlarm n

end Timelines.Simulation
