import LiveSync.Fault
import LiveSync.Text.Utf8

/-!
# Refused upgrades

What it means when a server answers the request for a websocket with an HTTP status instead.
-/

namespace LiveSync.Transport

/-- The fault of a refused upgrade, given the status and the bytes of the body. -/
def rejection (status : Nat) (body : List Nat) : Fault :=
  if status = 401 then .authentication "Unauthorized: WebSocket requires valid credentials"
  else if status = 403 then .authentication "Forbidden: Access to WebSocket denied"
  else
    match body with
    | [] => .transport ("WebSocket HTTP error: " ++ toString status)
    | bytes =>
      .transport ("WebSocket HTTP error " ++ toString status ++ ": " ++ Text.Utf8.decodeLossy bytes)

end LiveSync.Transport
