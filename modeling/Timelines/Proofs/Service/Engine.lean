import Timelines.Proofs.Service.Creating
import Timelines.Proofs.Service.Reading
import Timelines.Proofs.Store.Memory

/-! Any number of calls on one engine.

The calls share the world and take turns in any order, one step at a time. A refill that a call sets
going is on its own from then on. What is told of an engine beyond its calls is only which
followers' slices could not be brought up to date. An event that is published in the background is
left out: it touches neither the store nor the cache. -/
namespace Timelines.Service

structure Engine where
  world : World
  creates : List Create
  reads : List Read
  refills : List Refill
  /-- The followers whose slices could not be brought up to date, each with the post. -/
  lapses : List (UserId × Post)

/-- The upkeep that failed with a move. -/
def Create.lapse? (call : Create) : Move → Option (UserId × Post)
  | .maintained u (.error _) =>
    match call.stage with
    | .maintaining post .. => some (u, post)
    | _ => none
  | _ => none

namespace CreateStage

/-- The post at work: recorded, and not yet shown by all slices that are to show it. -/
def post? : CreateStage → Option Post
  | .resolving post => some post
  | .spreading _ f => some f.post
  | .maintaining post .. => some post
  | _ => none

/-- The upkeep of a user's slice for a post is not over. -/
def awaits (u : UserId) (p : Post) : CreateStage → Prop
  | .resolving post => post = p
  | .spreading _ f => f.post = p
  | .maintaining post _ _ waiting running => post = p ∧ (u ∈ waiting ∨ u ∈ running)
  | _ => False

theorem post?_of_awaits {s : CreateStage} {u : UserId} {p : Post} (h : s.awaits u p) :
    s.post? = some p := by
  cases s with
  | resolving post => exact congrArg some h
  | spreading followers f => exact congrArg some h
  | maintaining post n spread waiting running => exact congrArg some h.1
  | _ => cases h

end CreateStage

namespace Engine

/-- An engine at its start, with a store of posts and an empty cache. -/
def start (c : Config) (store : Store.Memory) (users : Nat) (ttl : Option Nat) : Engine :=
  ⟨⟨store, .create ⟨users, c.cacheMaxEntries, ttl⟩⟩, [], [], [], []⟩

/-- The engine after a step of a call that creates a post. -/
def created (e : Engine) (n : Nat) (call : Create) (m : Create.Move) (next : Create) (w : World) :
    Engine :=
  { e with
    world := w
    creates := e.creates.set n next
    lapses := e.lapses ++ (call.lapse? m).toList }

/-- The engine after a step of a call that reads a timeline. -/
def readOn (e : Engine) (n : Nat) (call : Read) (m : Read.Move) (next : Read) (w : World) :
    Engine :=
  { e with
    world := w
    reads := e.reads.set n next
    refills := e.refills ++ (call.launched? m).toList }

/-- One call begins or makes a step, or a refill does. -/
inductive Step (c : Config) (e : Engine) : Engine → Prop
  | create (author : UserId) (content : String) :
      Step c e { e with creates := e.creates ++ [.start author content] }
  | read (user : UserId) : Step c e { e with reads := e.reads ++ [.start user] }
  | creating {n : Nat} {call next : Create} {m : Create.Move} {w : World} :
      e.creates[n]? = some call → (Create.machine c).Step call e.world m next w →
      Step c e (e.created n call m next w)
  | reading {n : Nat} {call next : Read} {m : Read.Move} {w : World} :
      e.reads[n]? = some call → (Read.machine c).Step call e.world m next w →
      Step c e (e.readOn n call m next w)
  | refilling {n : Nat} {r next : Refill} {m : Refill.Move} {w : World} :
      e.refills[n]? = some r → Refill.machine.Step r e.world m next w →
      Step c e { e with world := w, refills := e.refills.set n next }

/-- The states an engine can be in. -/
inductive Reachable (c : Config) : Engine → Prop
  | start {store : Store.Memory} (users : Nat) (ttl : Option Nat) : store.Sound →
      Reachable c (.start c store users ttl)
  | step {e e' : Engine} : Reachable c e → Step c e e' → Reachable c e'

section Steps
variable {c : Config} {e : Engine} {n : Nat} {call next : Create}

/-- A call that creates a post makes a step of its own. -/
theorem Reachable.own (h : Reachable c e) (hn : e.creates[n]? = some call) (m : Create.Move)
    (hm : m.own) (hs : call.step? c m = some next) :
    Reachable c (e.created n call m next e.world) :=
  h.step (.creating hn (.own hm hs))

/-- A request of a call that creates a post is answered. -/
theorem Reachable.answered (h : Reachable c e) (hn : e.creates[n]? = some call)
    {q : Question Create.Move} (hq : q ∈ call.questions c) (now : Nat) (reply : q.request.Reply)
    {w : World} (hw : e.world.answer? now q.request reply = some w)
    (hs : call.step? c (q.answered reply) = some next) :
    Reachable c (e.created n call (q.answered reply) next w) :=
  h.step (.creating hn (.answered hq hw hs))

/-- A request of a call that reads a timeline is answered. -/
theorem Reachable.readOn {call next : Read} (h : Reachable c e) (hn : e.reads[n]? = some call)
    {q : Question Read.Move} (hq : q ∈ (Read.machine c).questions call) (now : Nat)
    (reply : q.request.Reply) {w : World} (hw : e.world.answer? now q.request reply = some w)
    (hs : call.step? c (q.answered reply) = some next) :
    Reachable c (e.readOn n call (q.answered reply) next w) :=
  h.step (.reading hn (.answered hq hw hs))

/-- The request of a refill is answered. -/
theorem Reachable.refilled {r next : Refill} (h : Reachable c e) (hn : e.refills[n]? = some r)
    {q : Question Refill.Move} (hq : q ∈ Refill.machine.questions r) (now : Nat)
    (reply : q.request.Reply) {w : World} (hw : e.world.answer? now q.request reply = some w)
    (hs : r.step? (q.answered reply) = some next) :
    Reachable c { e with world := w, refills := e.refills.set n next } :=
  h.step (.refilling hn (.answered hq hw hs))

end Steps

/-- The upkeep of a user's slice for a post is over, and it did not fail. -/
def settled (e : Engine) (u : UserId) (p : Post) : Prop :=
  (∀ call ∈ e.creates, ¬call.stage.awaits u p) ∧ (u, p) ∉ e.lapses

end Engine
end Timelines.Service
