import Timelines.Simulation.Step

/-! Whose turn it is, and when time goes on.

The foreground goes first, then the background goes for a round of turns, and when nothing can go on
the next timer goes off. On top of that stand the ways to begin a call and to wait for it. -/
namespace Timelines.Simulation
open Service
variable {ω τ : Type}

/-! ### Running -/

/-- Runs a thread until it waits or gives way. -/
def runThread (peers : Peers ω τ) (t : Thread) : Nat → Run ω τ Unit
  | 0 => return
  | fuel + 1 => do if ← step peers t then runThread peers t fuel

/-- More steps than a thread takes at one instant. -/
def patience : Nat := 10000000

/-- How many waiting points a thread passes in one turn. -/
def turnLength : Nat := 128

/-- Gives a thread its turn. -/
def giveTurn (peers : Peers ω τ) (t : Thread) : Run ω τ Unit := do
  modify fun s => { s with turn := turnLength }
  runThread peers t patience

/-- How many turns there are in a round. -/
def roundLength : Nat := 61

/-- Gives a number of threads that can go on their turns, those they wake among them. -/
def giveTurns (peers : Peers ω τ) : Nat → Run ω τ Unit
  | 0 => return
  | turns + 1 => do
    match (← get).ready with
    | [] => return
    | t :: ready =>
      modify fun s => { s with ready }
      giveTurn peers t
      giveTurns peers turns

/-- Whether some thread can go on. -/
def State.busy (s : State ω τ) : Bool := s.awake || !s.ready.isEmpty

/-- Runs a round, after which those that gave way can go on. -/
def runRound (peers : Peers ω τ) : Run ω τ Unit := do
  giveTurns peers roundLength
  resume

/-- Runs what can go on in the background. -/
def drain (peers : Peers ω τ) : Nat → Run ω τ Unit
  | 0 => return
  | fuel + 1 => do
    runRound peers
    if !(← get).ready.isEmpty then drain peers fuel

/-- Lets a timer go off. -/
def goOff (purpose : Purpose) : Run ω τ Unit := do
  modify fun s => { s with expired := purpose :: s.expired }
  match purpose with
  | .answer t none => wake t
  | .answer t (some u) =>
    if let .call n := t then modifyCaller n fun c => { c with turns := c.turns ++ [u] }
    wake t
  | .deadline t => wake t
  | .slept => modify fun s => { s with awake := true }

/-- Goes on to the next timer; tells whether there was one. -/
def advance : Run ω τ Bool := do
  let s ← get
  match s.timers with
  | [] => return false
  | first :: _ =>
    let now := max s.now first.due
    let due := s.timers.takeWhile (·.due ≤ now)
    set { s with now, timers := s.timers.drop due.length }
    due.forM fun timer => goOff timer.purpose
    return true

/-- Runs until the foreground has what it waits for, or nothing can happen any more. -/
def runUntil (peers : Peers ω τ) (satisfied : State ω τ → Bool) : Nat → Run ω τ Unit
  | 0 => return
  | fuel + 1 => do
    let s ← get
    if satisfied s then return
    if s.awake then
      set { s with awake := false }
      if let some n := s.foreground then giveTurn peers (.call n)
    let s ← get
    if satisfied s then return
    runRound peers
    let s ← get
    if s.busy || satisfied s then runUntil peers satisfied fuel
    else if ← advance then runUntil peers satisfied fuel

/-! ### What is done with it -/

/-- When a call is to be cancelled. -/
inductive Cancelling
  | never
  | before
  | after (ms : Nat)
  deriving Inhabited

/-- Begins a call and gives its number. -/
def begin (call : Call) (cancelling : Cancelling) : Run ω τ Nat := do
  let n := (← get).callers.size
  let alarm := match cancelling with
    | .after ms => some ms
    | _ => none
  let cancelled := match cancelling with
    | .before => true
    | _ => false
  modify fun s =>
    { s with callers := s.callers.push ⟨call, cancelled, alarm, [], none, none, none⟩ }
  return n

def outcome? (s : State ω τ) (n : Nat) : Option Outcome :=
  (s.callers[n]?).bind fun c => c.call.outcome?

/-- Whether a call is over, one way or another. -/
def ended (s : State ω τ) (n : Nat) : Bool :=
  match s.callers[n]? with
  | some c => c.call.outcome?.isSome || c.call.broken
  | none => true

/-- Lets the alarm of a call run, if it has one. -/
def setAlarm (n : Nat) : Run ω τ Unit := do
  if let some { alarm := some _, .. } := (← get).callers[n]? then wake (.alarm n)

/-- Runs a call in the foreground to its end. -/
def runCall (peers : Peers ω τ) (call : Call) (cancelling : Cancelling) : Run ω τ Nat := do
  let n ← begin call cancelling
  setAlarm n
  modify fun s => { s with foreground := some n, awake := true }
  runUntil peers (ended · n) patience
  modify fun s => { s with foreground := none, awake := false }
  return n

/-- The fan-out that a call has come through. -/
def spread? (s : State ω τ) (n : Nat) : Option Spread :=
  match s.callers[n]? with
  | some { call := .create { stage := .maintaining _ _ spread .., .. }, .. } => some spread
  | some { call := .create { stage := .naming _ _ spread, .. }, .. } => some spread
  | _ => none

/-- Runs a fan-out by itself; gives none where the queue cannot be. -/
def runFanout (peers : Peers ω τ) (post : Post) (followers : List UserId)
    (cancelling : Cancelling) : Run ω τ (Option Spread) := do
  let stage := Create.afterResolving (← get).config post followers
  let n ← begin (.create { author := post.author, content := post.content, stage }) cancelling
  setAlarm n
  if let .spreading _ f := stage then
    (List.range f.workers.length).forM fun w => wake (.worker n w)
  modify fun s => { s with foreground := some n, awake := true }
  runUntil peers (fun s => ended s n || (spread? s n).isSome) patience
  return spread? (← get) n

/-- Sets a call going in the background. -/
def spawn (call : Call) (cancelling : Cancelling) : Run ω τ Nat := do
  let n ← begin call cancelling
  wake (.call n)
  setAlarm n
  return n

/-- Lets time pass. -/
def sleep (peers : Peers ω τ) (ms : Nat) : Run ω τ Unit := do
  if ms ≠ 0 then
    setTimer .slept ms
    runUntil peers (fun s => .slept ∈ s.expired) patience
    dropTimer .slept
  modify fun s => { s with awake := false }

/-- Waits for calls in the background. -/
def join (peers : Peers ω τ) (calls : List Nat) : Run ω τ Unit := do
  runUntil peers (fun s => calls.all (ended s)) patience

/-- Runs what can go on without time passing. -/
def settle (peers : Peers ω τ) : Run ω τ Unit := drain peers patience

end Timelines.Simulation
