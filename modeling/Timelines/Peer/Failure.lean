/-! How a peer of the engine can fail: the store of posts, the cache, the social graph and the
publisher of events. -/
namespace Timelines

inductive StoreError
  | persistence (text : String)
  | invalidInput (text : String)
  | timeout
  deriving DecidableEq, Inhabited

def StoreError.message : StoreError → String
  | persistence text => "persistence error: " ++ text
  | invalidInput text => "invalid input: " ++ text
  | timeout => "database timeout"

inductive CacheError
  | unavailable (text : String)
  deriving DecidableEq, Inhabited

def CacheError.message : CacheError → String
  | unavailable text => "timeline cache unavailable: " ++ text

inductive PublishError
  | transport (text : String)
  | rejected (status : Nat)
  | encode (text : String)
  deriving DecidableEq, Inhabited

def PublishError.message : PublishError → String
  | transport text => "event transport failed: " ++ text
  | rejected status => s!"event rejected by subscriber with status {status}"
  | encode text => "failed to encode event: " ++ text

inductive GraphError
  | transport (text : String)
  | unexpectedStatus (status : Nat)
  | decode (text : String)
  deriving DecidableEq, Inhabited

def GraphError.message : GraphError → String
  | transport text => "social graph request failed: " ++ text
  | unexpectedStatus status => s!"social graph answered with unexpected status {status}"
  | decode text => "social graph returned an invalid payload: " ++ text

end Timelines
