import LiveSync.Url.Path

/-!
# Addresses

Reading an address as a web browser does: blanks around it, tabs and line breaks do not count, case
does not matter in the scheme and the host, and the default port is left out.  The schemes of the
web always have a host; any number of slashes, or none, may stand before it.  Other schemes have
one only after two slashes.
-/

namespace LiveSync.Url

/-! ## Schemes -/

/-- The default port of a scheme of the web. -/
def defaultPort? (scheme : String) : Option Nat :=
  match scheme with
  | "http" | "ws" => some 80
  | "https" | "wss" => some 443
  | "ftp" => some 21
  | _ => none

/-- Is it a scheme of the web, apart from that of files? -/
def isWeb (scheme : String) : Bool :=
  (defaultPort? scheme).isSome

/-- May the character stand in a scheme? -/
def isSchemeChar (c : Char) : Bool :=
  c.isAlphanum || c = '+' || c = '-' || c = '.'

/-- Split off the scheme, which begins with a letter and ends with a colon. -/
def splitScheme (cs : List Char) : Option (String × List Char) :=
  match cs with
  | [] => none
  | c :: _ =>
    if c.isAlpha then
      match cs.span isSchemeChar with
      | (scheme, ':' :: rest) => some (String.ofList (scheme.map Char.toLower), rest)
      | _ => none
    else none

/-! ## The parts of an address -/

/-- An address, apart from its query and its fragment. -/
structure Address where
  /-- The scheme, in lower case. -/
  scheme : String
  /-- The user name, empty if there is none. -/
  username : List Char
  /-- The password, if there is one. -/
  password : Option (List Char)
  /-- The host, if there is one. -/
  host : Option Host
  /-- The port, if it is not the default one. -/
  port : Option Nat
  /-- The path, which begins with a slash in a web address. -/
  path : List Char

/-- A character that does not count at the ends of an address. -/
def isControlOrSpace (c : Char) : Bool :=
  c.toNat ≤ 32

/-- The characters that count. -/
def significant (cs : List Char) : List Char :=
  (((cs.dropWhile isControlOrSpace).reverse.dropWhile isControlOrSpace).reverse).filter fun c =>
    !(c = '\t' || c = '\n' || c = '\r')

/-- Does the character end the part with user, host and port? -/
def endsAuthority (web : Bool) (c : Char) : Bool :=
  c = '/' || c = '?' || c = '#' || (web && c = '\\')

/-- Split at the last `@`. -/
def splitLastAt (cs : List Char) : Option (List Char × List Char) :=
  let host := (cs.reverse.takeWhile (· ≠ '@')).reverse
  if host.length = cs.length then none
  else some (cs.take (cs.length - host.length - 1), host)

/-- User name and password of the part before the `@`. -/
def userInfo (cs : List Char) : List Char × Option (List Char) :=
  match cs.span (· ≠ ':') with
  | (user, _ :: []) => (user, none)
  | (user, _ :: password) => (user, some password)
  | (user, []) => (user, none)

/-- Split host and port at the first colon that is not between brackets. -/
def splitPort (inside : Bool) : List Char → List Char × Option (List Char)
  | [] => ([], none)
  | c :: cs =>
    if c = ':' ∧ !inside then ([], some cs)
    else
      let (host, port) := splitPort (if c = '[' then true else if c = ']' then false else inside) cs
      (c :: host, port)

/-- Read a port; the default one counts as none.  A backslash ends it in any address. -/
def readPort (scheme : String) (cs : List Char) : Except UrlError (Option Nat) :=
  match cs.takeWhile (· ≠ '\\') with
  | [] => .ok none
  | digits =>
    match numberIn? 10 digits with
    | some n =>
      if 65535 < n then .error .invalidPort
      else .ok (if defaultPort? scheme = some n then none else some n)
    | none => .error .invalidPort

/-- The part of an address before its query and fragment. -/
def beforeQuery (cs : List Char) : List Char :=
  cs.takeWhile fun c => !(c = '?' || c = '#')

/-- Read what follows the slashes before the host. -/
def readAuthority (scheme : String) (cs : List Char) : Except UrlError Address :=
  let web := isWeb scheme
  let (authority, rest) := cs.span fun c => !endsAuthority web c
  let (user?, hostPort) :=
    match splitLastAt authority with
    | some (user, hostPort) => (some user, hostPort)
    | none => (none, authority)
  if user? = some [] ∧ hostPort = [] ∧ rest ≠ [] then .error .emptyHost
  else
    let (username, password) := userInfo (user?.getD [])
    let (host, port?) := splitPort false hostPort
    let named := !username.isEmpty || password.isSome
    if host.isEmpty ∧ (web ∨ port?.isSome ∨ named) then .error .emptyHost
    else do
      let parsed ← if web then Host.parse host else Host.parseOpaque host
      let port ← readPort scheme (port?.getD [])
      return {
        scheme := scheme
        username := username
        password := password
        host := if host.isEmpty then none else some parsed
        port := port
        path := if web then pathChars (beforeQuery rest) else beforeQuery rest }

/-- An address without host. -/
def hostless (scheme : String) (path : List Char) : Address :=
  { scheme := scheme, username := [], password := none, host := none, port := none, path := path }

/-- Read a file address: its host stands between two slashes and a third one, and is none if it is
empty, `localhost` or the name of a drive, or if a drive stands at the root of its path. -/
def readFile (cs : List Char) : Except UrlError Address :=
  let isSlash (c : Char) : Bool := c = '/' || c = '\\'
  match cs with
  | a :: b :: rest =>
    if isSlash a && isSlash b then
      let (host, path) := rest.span fun c => !endsAuthority true c
      if host.isEmpty || isDrive host then .ok (hostless "file" path)
      else do
        let parsed ← Host.parse host
        let drive := beginsWithDrive [] (segments (beforeQuery path))
        if parsed = .domain "localhost" ∨ drive then return hostless "file" path
        else return { hostless "file" path with host := some parsed }
    else .ok (hostless "file" cs)
  | cs => .ok (hostless "file" cs)

/-- Read an address. -/
def parse (text : String) : Except UrlError Address :=
  match splitScheme (significant text.toList) with
  | none => .error .relativeWithoutBase
  | some (scheme, rest) =>
    if scheme = "file" then readFile rest
    else if isWeb scheme then
      readAuthority scheme (rest.dropWhile fun c => c = '/' || c = '\\')
    else
      match rest with
      | '/' :: '/' :: rest => readAuthority scheme rest
      | rest => .ok (hostless scheme (beforeQuery rest))

end LiveSync.Url
