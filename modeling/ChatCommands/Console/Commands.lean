import ChatCommands.Argument.Typed
import ChatCommands.Command.Registry
import ChatCommands.Pipeline.Loading

set_option autoImplicit false

/-!
# Commands of the console

The console comes with a command that answers, one that repeats, one that looks up a user, and one
for its owner below a namespace that cannot be called itself.
-/

namespace ChatCommands

/-- The loaded argument with a name, read by a type. -/
def Act.argument? (name : String) (type : ArgumentType) : Act (Option type.Value) :=
  return ((← Act.session).argument? name).bind type.read?

namespace ConsoleCommand

/-- Answers that the console is there. -/
def ping : Registration where
  command := .ofPath "ping" (.parse "ping")
  handler := some fun _ => return .success (.message "Pong!")
  outcomeHandlers := []

/-- Repeats a message. -/
def parrot : Registration where
  command := { Command.ofPath "parrot" (.parse "parrot") with
    parameters := [.ofRequired "message" .freeText] }
  handler := some fun _ => do
    let message ← Act.argument? "message" .string
    let _ ← Context.reply (.ofText (message.getD ""))
    return .ok
  outcomeHandlers := []

/-- The description of a user in one line. -/
def describe (u : User) : String :=
  u.username ++ " is a " ++ (if u.bot then "bot" else "user") ++ " with id " ++ toString u.id

/-- Says who a user is. -/
def whois : Registration where
  command :=
    { Command.ofPath "whois" (.parse "whois") with parameters := [.ofRequired "user" .user] }
  handler := some fun _ => do
    match ← Act.argument? "user" .user with
    | none => return .ofMessage "user argument was not bound"
    | some user => return .success (.message (describe user))
  outcomeHandlers := []

/-- The namespace of the owner's commands. -/
def admin : Registration where
  command := { Command.ofPath "admin" (.parse "admin") with
    settings := { callable := false, ownerOnly := true } }
  handler := none
  outcomeHandlers := []

/-- Tells the owner that the pipeline is running. -/
def status : Registration where
  command := { Command.ofPath "admin.status" (.parse "admin status") with
    settings := { inheritSettings := true } }
  handler := some fun _ => return .success (.ack "✅" "Pipeline running.")
  outcomeHandlers := []

/-- The commands of the console. -/
def all : CommandTable := .ofList [ping, parrot, whois, admin, status]

end ConsoleCommand

end ChatCommands
