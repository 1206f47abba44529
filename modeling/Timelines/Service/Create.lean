import Timelines.Post.Event
import Timelines.Service.Background
import Timelines.Service.Failure
import Timelines.Service.Fanout
import Timelines.Service.Request

/-! Creating a post.

The author is looked up, the draft is dated and checked, and the post is recorded; from here on the
call cannot be undone. The author's followers are asked for, the post is spread over their
timelines, their cached timelines are brought up to date, and the post is announced. The caller's
cancelling is seen while the author is looked up, while the post is recorded and while it is
announced, and it stops the fan-out. -/
namespace Timelines.Service
open Report

/-- How far a call has come: what it waits for. -/
inductive CreateStage
  | lookingUp
  | dating
  | recording (draft : Draft)
  | resolving (post : Post)
  | spreading (followers : List UserId) (fanout : Fanout)
  /-- Followers' slices are brought up to date, several at a time. -/
  | maintaining (post : Post) (followers : Nat) (spread : Spread) (waiting running : List UserId)
  | naming (post : Post) (followers : Nat) (spread : Spread)
  | announcing (post : Post) (followers : Nat) (spread : Spread) (event : Event)
  | finished (result : Except Failure PostId)
  /-- The clock had no answer, or the queue of the fan-out cannot be. -/
  | broken
  deriving Inhabited

structure Create where
  author : UserId
  content : String
  stage : CreateStage
  deriving Inhabited

namespace Create

def start (author : UserId) (content : String) : Create := ⟨author, content, .lookingUp⟩

inductive Move
  | lookedUp (reply : Except GraphError Bool)
  | dated (moment : Option Moment)
  | recorded (reply : Except StoreError PostId)
  | resolved (reply : Except GraphError (List UserId))
  | spread (move : Fanout.Move)
  /-- The next follower's slice is taken up. -/
  | maintain
  | maintained (follower : UserId) (reply : Except CacheError Unit)
  | named (correlation : Uuid)
  | announced (reply : Except PublishError Unit)
  | cancelled
  deriving Inhabited

/-- The members of a list in the order in which they are first seen. -/
def distinct (users : List UserId) : List UserId :=
  users.foldl (fun seen u => if u ∈ seen then seen else seen ++ [u]) []

/-- The followers whose slices are to be touched: all that were dispatched, or those reached. -/
def targets (c : Config) (followers : List UserId) (s : Spread) : List UserId :=
  match c.maintenance with
  | .invalidate => followers.take s.dispatched
  | .push => s.delivered

/-- The stage after the fan-out. -/
def afterSpread (c : Config) (post : Post) (followers : List UserId) (s : Spread) : CreateStage :=
  match targets c followers s with
  | [] => .naming post followers.length s
  | waiting => .maintaining post followers.length s waiting []

/-- The stage after the followers are known. -/
def afterResolving (c : Config) (post : Post) (followers : List UserId) : CreateStage :=
  match followers with
  | [] => .naming post 0 ⟨0, [], 0, false⟩
  | followers =>
    if c.bounds.queue > Fanout.maxQueue then .broken
    else .spreading followers (.start c.bounds post followers)

/-- The stage after a move, if the move can be made. -/
def next? (c : Config) (call : Create) : Move → Option CreateStage
  | .lookedUp reply =>
    match call.stage, reply with
    | .lookingUp, .ok true => some .dating
    | .lookingUp, .ok false => some (.finished (.error (.authorNotFound call.author.text)))
    | .lookingUp, .error e => some (.finished (.error (.authorLookupFailed e)))
    | _, _ => none
  | .dated moment =>
    match call.stage, moment with
    | .dating, some moment =>
      match Draft.make call.author call.content moment with
      | .ok draft => some (.recording draft)
      | .error v => some (.finished (.error (.invalidContent v)))
    | .dating, none => some .broken
    | _, _ => none
  | .recorded reply =>
    match call.stage, reply with
    | .recording draft, .ok id => some (.resolving (draft.toPost id))
    | .recording _, .error e => some (.finished (.error (.persistenceFailed e)))
    | _, _ => none
  | .resolved reply =>
    match call.stage, reply with
    | .resolving post, .ok followers => some (afterResolving c post (distinct followers))
    | .resolving post, .error _ => some (afterResolving c post [])
    | _, _ => none
  | .spread move =>
    match call.stage with
    | .spreading followers fanout =>
      (fanout.step? move).map fun f =>
        if f.finished then afterSpread c f.post followers f.spread else .spreading followers f
    | _ => none
  | .maintain =>
    match call.stage with
    | .maintaining post n s (u :: waiting) running =>
      if c.bounds.workers ≤ running.length then none
      else some (.maintaining post n s waiting (running ++ [u]))
    | _ => none
  | .maintained u _ =>
    match call.stage with
    | .maintaining post n s waiting running =>
      if u ∉ running then none
      else
        match waiting, running.erase u with
        | [], [] => some (.naming post n s)
        | waiting, running => some (.maintaining post n s waiting running)
    | _ => none
  | .named correlation =>
    match call.stage with
    | .naming post n s =>
      match c.publish with
      | .strict => some (.announcing post n s (.announcing post correlation))
      | .bestEffort _ _ => some (.finished (.ok post.id))
    | _ => none
  | .announced reply =>
    match call.stage, reply with
    | .announcing post _ _ _, .ok () => some (.finished (.ok post.id))
    | .announcing post _ _ _, .error e => some (.finished (.error (.publishFailed post.id e)))
    | _, _ => none
  | .cancelled =>
    match call.stage with
    | .lookingUp | .recording _ => some (.finished (.error (.cancelled none)))
    | .announcing post _ _ _ => some (.finished (.error (.cancelled (some post.id))))
    | _ => none

def step? (c : Config) (call : Create) (m : Move) : Option Create :=
  (call.next? c m).map fun stage => { call with stage }

/-! ### Requests -/

/-- The request to write the post that a worker waits for. -/
def writing? (f : Fanout) (worker : Nat) : Option (Question Move) :=
  match f.workers[worker]? with
  | some { activity := .writing u, .. } =>
    some ⟨.write u f.post, fun reply => .spread (.wrote worker reply)⟩
  | _ => none

/-- The request to bring a follower's slice up to date. -/
def upkeep (c : Config) (post : Post) (follower : UserId) : Question Move :=
  match c.maintenance with
  | .invalidate => ⟨.cacheInvalidate follower, .maintained follower⟩
  | .push => ⟨.cachePush follower post c.cacheMaxEntries, .maintained follower⟩

/-- The request that the call waits for, where it waits for a single one. -/
def question? (call : Create) : Option (Question Move) :=
  match call.stage with
  | .lookingUp => some ⟨.userExists call.author, .lookedUp⟩
  | .recording draft => some ⟨.save draft, .recorded⟩
  | .resolving _ => some ⟨.followers call.author, .resolved⟩
  | .announcing _ _ _ event => some ⟨.publish event, .announced⟩
  | _ => none

/-- All requests under way for the call. -/
def questions (c : Config) (call : Create) : List (Question Move) :=
  match call.stage with
  | .spreading _ f => (List.range f.workers.length).filterMap (writing? f)
  | .maintaining post _ _ _ running => running.map (upkeep c post)
  | _ => call.question?.toList

/-! ### Reports and results -/

def createdNotice (post : Post) (followers : Nat) (s : Spread) : Report :=
  .note (.postCreated post.id followers s.delivered.length s.failed)

/-- What is reported of a move. -/
def reports (c : Config) (call : Create) : Move → List Report
  | .recorded (.ok _) => [.count .postsCreated]
  | .resolved (.error e) => sidePathFailed .followers call.author none e.message
  | .spread move =>
    match call.stage with
    | .spreading _ fanout =>
      fanout.reports move ++
        match fanout.step? move with
        | some f => if f.finished then [.count .fanoutTime] else []
        | none => []
    | _ => []
  | .maintained u (.error e) =>
    match call.stage with
    | .maintaining post .. =>
      let path := match c.maintenance with
        | .invalidate => .cacheInvalidate
        | .push => .cachePush
      sidePathFailed path u (some post.id) e.message
    | _ => []
  | .named _ =>
    match call.stage, c.publish with
    | .naming post n s, .bestEffort _ _ => [createdNotice post n s]
    | _, _ => []
  | .announced (.ok ()) =>
    match call.stage with
    | .announcing post n s _ => [createdNotice post n s]
    | _ => []
  | .announced (.error _) => [.count .publishFailures]
  | _ => []

/-- The retries that a move sets going. -/
def launched? (c : Config) (call : Create) : Move → Option Retry
  | .named correlation =>
    match call.stage, c.publish with
    | .naming post _ _, .bestEffort maxAttempts backoff =>
      some (.start (.announcing post correlation) maxAttempts backoff)
    | _, _ => none
  | _ => none

/-- Whether the caller's cancelling ends what the call waits for. -/
def cancellable (call : Create) : Bool :=
  match call.stage with
  | .lookingUp | .recording _ | .announcing .. => true
  | _ => false

def result? (call : Create) : Option (Except Failure PostId) :=
  match call.stage with
  | .finished r => some r
  | _ => none

end Create
end Timelines.Service
