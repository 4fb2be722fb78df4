import ChatCommands.Reply.Chain

set_option autoImplicit false

/-!
# Sessions

The session is what changes during one invocation: whether it is initialized, how far the arguments
are loaded, the chain of replies, and a store for the handlers' own values.
-/

namespace ChatCommands

/-- A value in the store of a session. -/
inductive StoredValue where
  | text (value : String)
  | flag (value : Bool)
  | number (value : Int64)
  deriving DecidableEq, Repr

/-- The loading of the arguments. -/
inductive Loading where
  | notLoaded
  /-- Begun at least once and not finished. -/
  | loading
  /-- Finished with the arguments. -/
  | ready (arguments : List (String × Argument))
  /-- Finished with the outcome that ends the invocation. -/
  | ended (outcome : Outcome)

/-- The changing part of one invocation. The chain of replies is there once it is initialized. -/
structure Session where
  replies : Option ReplyChain
  loading : Loading
  store : List (String × StoredValue)

namespace Session

/-- The session of an invocation that has just begun. -/
def fresh : Session := ⟨none, .notLoaded, []⟩

/-- Access and replies are ready for use. -/
def isInitialized (s : Session) : Bool := s.replies.isSome

/-- The loaded argument with a name. -/
def argument? (s : Session) (name : String) : Option Argument :=
  match s.loading with
  | .ready arguments => valueOf? name arguments
  | _ => none

/-- The session with a stored value; false and unchanged when the key is taken and may not be
replaced. -/
def setStored (s : Session) (key : String) (value : StoredValue) (replace : Bool) :
    Bool × Session :=
  if !replace && s.store.any (·.1 == key) then (false, s)
  else (true, { s with store := setValue key value s.store })

/-- The stored value under a key. -/
def stored? (s : Session) (key : String) : Option StoredValue := valueOf? key s.store

/-- The name of the state of initialization. -/
def initName (s : Session) : String :=
  if s.isInitialized then "Initialized" else "Uninitialized"

/-- The name of the state of loading. -/
def loadName (s : Session) : String :=
  match s.loading with
  | .notLoaded => "NotLoaded"
  | .loading => "Loading"
  | .ready _ => "Loaded"
  | .ended _ => "Loaded"

end Session

end ChatCommands
