import LiveSync.Fault
import LiveSync.Text.Blank
import LiveSync.Url

/-!
# The address of the websocket

The websocket lives below the base address of the server: the scheme becomes the one of
websockets, secure if it was secure, the path of the websocket is appended to the path of the base,
and everything after the path is dropped.  A base address that carries credentials is refused.
-/

namespace LiveSync.Endpoint

/-- A fault of the configuration. -/
def misconfigured {α : Type} (why : String) : Except Fault α :=
  .error (.configuration why)

/-- The scheme of the websockets of a server. -/
def socketScheme? (scheme : String) : Option String :=
  match scheme with
  | "http" | "ws" => some "ws"
  | "https" | "wss" => some "wss"
  | _ => none

/-- The path of the websocket below a base path; one slash separates them. -/
def joinPath (base path : List Char) : List Char :=
  (base.reverse.dropWhile (· = '/')).reverse ++ '/' :: path.dropWhile (· = '/')

/-- The port of an address as it is written. -/
def portText : Option Nat → String
  | some n => ":" ++ toString n
  | none => ""

/-- The address of the websocket, for the base address of a server and a path below it. -/
def resolve (base path : String) : Except Fault String :=
  match Url.parse (Text.trim base) with
  | .error e => misconfigured ("Invalid base_url '" ++ base ++ "': " ++ e.message)
  | .ok a =>
    match a.host with
    | none => misconfigured "base_url must include a host"
    | some host =>
      if !a.username.isEmpty || a.password.isSome then
        misconfigured "base_url must not include username/password credentials"
      else
        match socketScheme? a.scheme with
        | none =>
          misconfigured
            ("Unsupported base_url scheme '" ++ a.scheme ++ "'; expected http(s) or ws(s)")
        | some scheme =>
          let below := (joinPath a.path path.toList).filter fun c =>
            !(c = '\t' || c = '\n' || c = '\r')
          .ok (scheme ++ "://" ++ host.text ++ portText a.port
            ++ String.ofList (Url.pathChars below))

end LiveSync.Endpoint
