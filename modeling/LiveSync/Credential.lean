import LiveSync.Fault
import LiveSync.Json.Parser
import LiveSync.Text.Base64
import LiveSync.Text.Blank
import LiveSync.Text.Split
import LiveSync.Text.Utf8

/-!
# Credentials

A bearer token is looked at before it is used.  A blank token counts as none.  A token of three
parts separated by dots may carry claims in the middle part; if these have an expiry the token is
refused once the expiry lies more than the clock skew in the past.  Signatures are not checked:
only the server decides whether a token is valid.
-/

namespace LiveSync

open LiveSync.Json

/-- The local verdict on a token. -/
inductive TokenStatus where
  /-- There is no token, or a blank one. -/
  | missing
  /-- The token has an expiry, and it lies in the past. -/
  | expired
  /-- Nothing speaks against the token. -/
  | usable
  deriving DecidableEq, Repr

/-- The word for a verdict. -/
def TokenStatus.name : TokenStatus → String
  | .missing => "missing"
  | .expired => "expired"
  | .usable => "usable"

namespace Credential

/-- The seconds that a token may be past its expiry. -/
def clockSkew : Nat := 30

/-- The greatest count of seconds. -/
def maxSeconds : Nat := 0xffffffffffffffff

/-- The text without the equals signs at its end. -/
def unpadded (cs : List Char) : List Char :=
  (cs.reverse.dropWhile (· = '=')).reverse

/-- The expiry that a claim states, in seconds: what lies below zero is zero, and fractions are
cut off. -/
def secondsOf? : Value → Option Nat
  | .number (.integer n _) => some n.toNat
  | .number (.double d) =>
    let x := d.toFloat
    some (if x ≤ 0.0 then 0 else x.toUInt64.toNat)
  | _ => none

/-- The claims that the middle part of a token carries. -/
def claims? (part : List Char) : Option Value := do
  let bytes ← Text.Base64.decode? (unpadded part)
  let text ← Text.Utf8.decode? bytes
  Value.parse? text

/-- The expiry of a token, if it carries one. -/
def expiry? (token : List Char) : Option Nat :=
  match Text.splitOn '.' token with
  | [_, claims, _] => do secondsOf? (← (← claims? claims).get? "exp")
  | _ => none

/-- The verdict on a token at a time given in seconds. -/
def status (token : Option String) (now : Nat) : TokenStatus :=
  match token with
  | none => .missing
  | some token =>
    let cs := Text.trimChars token.toList
    if cs.isEmpty then .missing
    else
      match expiry? cs with
      | some seconds => if min (seconds + clockSkew) maxSeconds ≤ now then .expired else .usable
      | none => .usable

/-- The token to present now, without blanks around it, or why there is none. -/
def usable (token : Option String) (now : Nat) : Except Fault String :=
  match status token now with
  | .usable => .ok (Text.trim (token.getD ""))
  | .missing => .error (.authentication "No credential available")
  | .expired => .error (.authentication "Credential has expired")

end Credential

end LiveSync
