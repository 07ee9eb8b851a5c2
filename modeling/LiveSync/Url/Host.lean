import LiveSync.Idna
import LiveSync.Text.Split
import LiveSync.Text.Utf8

/-!
# Hosts

The host of an address is a domain, an IPv4 address or an IPv6 address.  The host of a web address
is percent-decoded and brought into ASCII; if its last label is a number it has to be an IPv4
address.  The hosts of other addresses are opaque.
-/

namespace LiveSync.Url

open LiveSync.Text (splitOn)

/-- Why a text is no address. -/
inductive UrlError where
  /-- It has no scheme. -/
  | relativeWithoutBase
  /-- It has no host where one is needed. -/
  | emptyHost
  /-- The port is no number below 65536. -/
  | invalidPort
  /-- The last label of the host is a number, but the host is no IPv4 address. -/
  | invalidIpv4
  /-- The host begins with a bracket, but is no IPv6 address. -/
  | invalidIpv6
  /-- The host is no domain name. -/
  | invalidDomain
  /-- The opaque host has a character that it may not have. -/
  | invalidDomainCharacter
  deriving DecidableEq, Repr

/-- The words for an error. -/
def UrlError.message : UrlError → String
  | .relativeWithoutBase => "relative URL without a base"
  | .emptyHost => "empty host"
  | .invalidPort => "invalid port number"
  | .invalidIpv4 => "invalid IPv4 address"
  | .invalidIpv6 => "invalid IPv6 address"
  | .invalidDomain => "invalid international domain name"
  | .invalidDomainCharacter => "invalid domain character"

/-- The host of an address. -/
inductive Host where
  /-- A name, in ASCII. -/
  | domain (name : String)
  /-- Four bytes, as one number. -/
  | ipv4 (address : Nat)
  /-- Eight groups of 16 bits. -/
  | ipv6 (groups : List Nat)
  deriving DecidableEq, Repr

/-! ## Characters and numbers -/

/-- The value of a digit in a base of at most sixteen. -/
def digitIn? (base : Nat) (c : Char) : Option Nat :=
  let v :=
    if c.isDigit then some (c.toNat - 48)
    else if 'a' ≤ c ∧ c ≤ 'f' then some (c.toNat - 87)
    else if 'A' ≤ c ∧ c ≤ 'F' then some (c.toNat - 55)
    else none
  v.filter (· < base)

/-- The number that digits write, the empty text being zero. -/
def numberIn? (base : Nat) (cs : List Char) : Option Nat :=
  cs.foldl (fun n c => do return (← n) * base + (← digitIn? base c)) (some 0)

/-- Decode percent signs that are followed by two hexadecimal digits. -/
def percentDecode : List Nat → List Nat
  | 37 :: a :: b :: rest =>
    match digitIn? 16 (Char.ofNat a), digitIn? 16 (Char.ofNat b) with
    | some x, some y => (x * 16 + y) :: percentDecode rest
    | _, _ => 37 :: percentDecode (a :: b :: rest)
  | n :: rest => n :: percentDecode rest
  | [] => []

/-! ## IPv4 -/

/-- One number of an IPv4 address: hexadecimal after `0x`, octal after `0`, else decimal. -/
def ipv4Number? (cs : List Char) : Option Nat :=
  match cs with
  | [] => none
  | '0' :: 'x' :: rest | '0' :: 'X' :: rest => numberIn? 16 rest
  | '0' :: c :: rest => numberIn? 8 (c :: rest)
  | cs => numberIn? 10 cs

/-- The labels of a host, without the empty one after a final dot. -/
def labels (cs : List Char) : List (List Char) :=
  let parts := splitOn '.' cs
  if parts.getLast? = some [] then parts.dropLast else parts

/-- Is the last label a number? -/
def endsInNumber (cs : List Char) : Bool :=
  match (labels cs).getLast? with
  | none => false
  | some last => (!last.isEmpty && last.all Char.isDigit) || (ipv4Number? last).isSome

/-- Read an IPv4 address of one to four numbers; the last one fills the bytes that remain. -/
def ipv4? (cs : List Char) : Option Nat := do
  let numbers ← (labels cs).mapM ipv4Number?
  let last ← numbers.getLast?
  let front := numbers.dropLast
  if 3 < front.length ∨ Nat.pow 256 (4 - front.length) ≤ last ∨ front.any (255 < ·) then none
  else
    let bytes := front.foldl (fun n b => n * 256 + b) 0
    return bytes * Nat.pow 256 (4 - front.length) + last

/-- An IPv4 address as four decimal numbers. -/
def ipv4Text (n : Nat) : String :=
  let byte (k : Nat) := toString (n / Nat.pow 256 k % 256)
  byte 3 ++ "." ++ byte 2 ++ "." ++ byte 1 ++ "." ++ byte 0

/-! ## IPv6 -/

/-- One decimal byte of an IPv4 address inside an IPv6 address: no leading zero, at most 255. -/
def ipv4Byte? (cs : List Char) : Option Nat :=
  match cs with
  | [] => none
  | '0' :: _ :: _ => none
  | cs => (numberIn? 10 cs).filter (· ≤ 255)

/-- An IPv4 address at the end of an IPv6 address, as two groups. -/
def embeddedIpv4? (cs : List Char) : Option (List Nat) :=
  match splitOn '.' cs with
  | [a, b, c, d] => do
    let a ← ipv4Byte? a
    let b ← ipv4Byte? b
    let c ← ipv4Byte? c
    let d ← ipv4Byte? d
    return [a * 256 + b, c * 256 + d]
  | _ => none

/-- Groups with colons between them; the last part may be an IPv4 address. -/
def groups? : List (List Char) → Option (List Nat)
  | [] => some []
  | [part] =>
    if part.contains '.' then embeddedIpv4? part
    else if part.isEmpty ∨ 4 < part.length then none
    else (numberIn? 16 part).map ([·])
  | part :: parts => do
    if part.isEmpty ∨ 4 < part.length then none
    else return (← numberIn? 16 part) :: (← groups? parts)

/-- The groups of one side of the double colon; no text means no groups. -/
def side? (cs : List Char) : Option (List Nat) :=
  if cs.isEmpty then some [] else groups? (splitOn ':' cs)

/-- Split at the first double colon. -/
def splitDouble : List Char → Option (List Char × List Char)
  | ':' :: ':' :: rest => some ([], rest)
  | c :: rest => (splitDouble rest).map fun (a, b) => (c :: a, b)
  | [] => none

/-- Read an IPv6 address: eight groups, of which a double colon may stand for one or more that are
zero. -/
def ipv6? (cs : List Char) : Option (List Nat) :=
  match splitDouble cs with
  | none => (groups? (splitOn ':' cs)).filter (·.length = 8)
  | some (left, right) => do
    -- an IPv4 address may only stand at the very end
    if left.contains '.' then none
    else
      let a ← side? left
      let b ← side? right
      let n := a.length + b.length
      if 8 ≤ n then none else return a ++ List.replicate (8 - n) 0 ++ b

/-- The lower-case hexadecimal digits of a number. -/
def hexText (n : Nat) : String :=
  String.ofList (Nat.toDigits 16 n)

/-- How many zeros a list begins with. -/
def leadingZeros (groups : List Nat) : Nat :=
  (groups.takeWhile (· = 0)).length

/-- Where the longest run of zeros begins, and its length; of equally long runs the first. -/
def longestRun : (place : Nat) → List Nat → Nat × Nat
  | _, [] => (0, 0)
  | place, g :: gs =>
    let here := leadingZeros (g :: gs)
    let later := longestRun (place + 1) gs
    if later.2 ≤ here then (place, here) else later

/-- An IPv6 address; its longest run of two or more zeros is written as a double colon. -/
def ipv6Text (groups : List Nat) : String :=
  let (start, length) := longestRun 0 groups
  let join (gs : List Nat) := String.intercalate ":" (gs.map hexText)
  if length < 2 then join groups
  else join (groups.take start) ++ "::" ++ join (groups.drop (start + length))

/-! ## Domains -/

/-- May the character not stand in a domain? -/
def isForbiddenInDomain (c : Char) : Bool :=
  c.toNat ≤ 32 || c.toNat = 127 || "%#/:<>?@[\\]^|".toList.contains c

/-- May the character not stand in an opaque host? -/
def isForbiddenInOpaque (c : Char) : Bool :=
  "\x00\t\n\r #/:<>?@[\\]^|".toList.contains c

/-- A domain in ASCII, in lower case. -/
def asciiDomain? (cs : List Char) : Option (List Char) :=
  (Idna.toAscii? cs).filter fun name =>
    !(name.any fun c => isForbiddenInDomain c || decide (127 < c.toNat))

/-! ## Reading and writing hosts -/

/-- What stands between brackets, as an IPv6 address. -/
def bracketed (cs : List Char) : Except UrlError Host :=
  if cs.getLast? = some ']' then
    match ipv6? cs.dropLast with
    | some groups => .ok (.ipv6 groups)
    | none => .error .invalidIpv6
  else .error .invalidIpv6

/-- Read the host of a web address. -/
def Host.parse (cs : List Char) : Except UrlError Host :=
  match cs with
  | '[' :: rest => bracketed rest
  | cs =>
    match (Text.Utf8.decode? (percentDecode (Text.Utf8.encode cs))).bind fun s =>
      asciiDomain? s.toList with
    | none => .error .invalidDomain
    | some [] => .error .emptyHost
    | some name =>
      if endsInNumber name then
        match ipv4? name with
        | some n => .ok (.ipv4 n)
        | none => .error .invalidIpv4
      else .ok (.domain (String.ofList name))

/-- Read an opaque host. -/
def Host.parseOpaque (cs : List Char) : Except UrlError Host :=
  match cs with
  | '[' :: rest => bracketed rest
  | cs =>
    if cs.any isForbiddenInOpaque then .error .invalidDomainCharacter
    else .ok (.domain (String.ofList cs))

/-- The text of a host. -/
def Host.text : Host → String
  | .domain name => name
  | .ipv4 n => ipv4Text n
  | .ipv6 groups => "[" ++ ipv6Text groups ++ "]"

end LiveSync.Url
