import Timelines.Cache.Store
import Timelines.Service.Create
import Timelines.Service.Read
import Timelines.Store.Memory

/-! Calls in a world.

The world is what the peers hold: the store of posts with its timelines, and the cache. A peer
answers one request at a time, and one that fails did nothing. The store gives every post an id of
its own, any that is not in use; the social graph and the publisher may answer anything.

A machine is a call or a piece of background work, told by its moves. It makes some moves by itself
and the others when a request of its own is answered. Nothing is said about when, so that whatever
holds of all steps of a machine holds of it in every order of answers, however long they take. -/
namespace Timelines.Service

/-- What the peers hold. -/
structure World where
  store : Store.Memory
  cache : Cache.Store

namespace World

/-- The world after a request was answered at some time, if it can be answered so. -/
def answer? (w : World) (now : Nat) : (r : Request) → r.Reply → Option World
  | .save draft, .ok id =>
    if w.store.posts.any (·.id = id) then none
    else some { w with store := { w.store with posts := w.store.posts ++ [draft.toPost id] } }
  | .write owner p, .ok () => some { w with store := w.store.write owner p }
  | .query owner limit, .ok posts =>
    match w.store.query owner limit with
    | .ok found => if posts = found then some w else none
    | .error _ => none
  | .cacheGet u, .ok found =>
    let (slice, cache) := w.cache.get now u
    if found = slice then some { w with cache } else none
  | .cacheVersion u, .ok version =>
    let (told, cache) := w.cache.version u
    if version = told then some { w with cache } else none
  | .cacheRefill u posts version, .ok stored =>
    let (done, cache) := w.cache.refill now u posts version
    if stored = done then some { w with cache } else none
  | .cachePush u p maxLength, .ok () => some { w with cache := w.cache.push now u p maxLength }
  | .cacheInvalidate u, .ok () => some { w with cache := w.cache.invalidate u }
  | .userExists _, .ok _ | .followers _, .ok _ | .publish _, .ok _ => some w
  | _, .error _ => some w

/-- A peer that fails did nothing. -/
theorem answer?_error (w : World) (now : Nat) (r : Request) (e : r.Error) :
    w.answer? now r (.error e) = some w := by
  cases r <;> rfl

end World

/-! ### Machines -/

structure Machine (σ μ : Type) where
  step? : σ → μ → Option σ
  /-- The requests under way. -/
  questions : σ → List (Question μ)
  /-- Whether a move is made without an answer. -/
  own : μ → Bool

/-- A step of a machine in a world. -/
inductive Machine.Step {σ μ : Type} (M : Machine σ μ) (s : σ) (w : World) : μ → σ → World → Prop
  | own {m : μ} {s' : σ} : M.own m → M.step? s m = some s' → M.Step s w m s' w
  | answered {q : Question μ} {now : Nat} {reply : q.request.Reply} {s' : σ} {w' : World} :
      q ∈ M.questions s → w.answer? now q.request reply = some w' →
      M.step? s (q.answered reply) = some s' → M.Step s w (q.answered reply) s' w'

def Create.Move.own : Create.Move → Bool
  | .dated _ | .maintain | .named _ | .cancelled => true
  | .spread (.wrote _ _) => false
  | .spread _ => true
  | _ => false

def Create.machine (c : Config) : Machine Create Create.Move where
  step? := Create.step? c
  questions := Create.questions c
  own := Create.Move.own

def Read.Move.own : Read.Move → Bool
  | .waited | .cancelled => true
  | _ => false

def Read.machine (c : Config) : Machine Read Read.Move where
  step? := Read.step? c
  questions := fun call => (call.question? c).toList
  own := Read.Move.own

def Refill.Move.own : Refill.Move → Bool
  | .expired => true
  | .stored _ => false

def Refill.machine : Machine Refill Refill.Move where
  step? := Refill.step?
  questions := fun r => [r.question]
  own := Refill.Move.own

end Timelines.Service
