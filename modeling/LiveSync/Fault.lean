/-!
# Faults

Why an operation failed.  A fault about the credential ends reconnecting; a recoverable fault may
be cured by it.
-/

namespace LiveSync

/-- The two requests of the subscription protocol. -/
inductive Operation where
  /-- Ask the server to hold a subscription. -/
  | subscribe
  /-- Ask the server to release it. -/
  | unsubscribe
  deriving DecidableEq, Repr

/-- The name of a request, which is also the name of its event. -/
def Operation.name : Operation → String
  | .subscribe => "subscribe"
  | .unsubscribe => "unsubscribe"

/-- The causes of failure. -/
inductive Fault where
  /-- The server or the local check rejected the credential. -/
  | authentication (why : String)
  /-- The client was configured wrongly. -/
  | configuration (why : String)
  /-- A bounded wait elapsed. -/
  | timeout (why : String)
  /-- A payload could not be written or read. -/
  | serialization (why : String)
  /-- The transport failed. -/
  | transport (why : String)
  /-- A frame broke the wire protocol. -/
  | protocol (why : String)
  /-- The server did not acknowledge a subscription request in time. -/
  | subscriptionTimeout (entity : String) (operation : Operation)
  /-- The server refused a subscription. -/
  | subscriptionRejected (entity : String) (why : String)
  /-- There is no connection to send on. -/
  | notConnected
  /-- An argument was refused before anything was sent. -/
  | invalidArgument (why : String)
  /-- The operation was given up by teardown or by a competing call. -/
  | cancelled
  /-- The connection is gone for good. -/
  | internal (why : String)
  deriving DecidableEq, Repr

namespace Fault

/-- The text shown to users. -/
def message : Fault → String
  | authentication why => "Authentication error: " ++ why
  | configuration why => "Configuration error: " ++ why
  | timeout why => "Timeout: " ++ why
  | serialization why => "Serialization error: " ++ why
  | transport why => "WebSocket error: " ++ why
  | protocol why => "Protocol error: " ++ why
  | subscriptionTimeout entity operation =>
    operation.name ++ " for entity '" ++ entity ++ "' was not acknowledged in time"
  | subscriptionRejected entity why => "Subscription to entity '" ++ entity ++ "' rejected: " ++ why
  | notConnected => "Not connected"
  | invalidArgument why => "Invalid argument: " ++ why
  | cancelled => "Operation cancelled"
  | internal why => "Internal error: " ++ why

/-- Does the failure stem from the credential itself? -/
def isAuth : Fault → Bool
  | authentication _ => true
  | _ => false

/-- May reconnecting cure the failure? -/
def isRecoverable : Fault → Bool
  | timeout _ | transport _ | protocol _ => true
  | _ => false

end Fault

end LiveSync
