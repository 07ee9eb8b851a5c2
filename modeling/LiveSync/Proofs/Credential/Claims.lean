import LiveSync.Proofs.Credential
import LiveSync.Proofs.Json.Reading
import LiveSync.Proofs.Text.Base64
import LiveSync.Proofs.Text.Split
import LiveSync.Proofs.Text.Utf8
import Mathlib.Data.String.Basic

/-!
# Tokens with claims

A token of three parts carries claims: an object, written as compact text, whose UTF-8 bytes are
written in base64.  They are read back whatever stands around them, so the verdict on the token is
decided by its expiry alone.

* `ClaimsToken`, `ClaimsToken.text` — a token with claims, and how it is written.
* `Credential.claims?_part` — the claims are read as they were written.
* `Credential.splitOn_text` — the parts that are left when the token is trimmed.
* `Credential.verdict_of_claims` — the verdict.
-/

namespace LiveSync

open LiveSync.Json

namespace Text

/-! ## Trimming -/

theorem dropWhile_append_cons {p : Char → Bool} {c : Char} (hc : p c = false) (a b : List Char) :
    (a ++ c :: b).dropWhile p = a.dropWhile p ++ c :: b := by
  induction a with
  | nil => simp [hc]
  | cons x a ih => cases hx : p x <;> simp [hx, ih]

theorem rdropWhile_append_cons {p : Char → Bool} {c : Char} (hc : p c = false) (a b : List Char) :
    (a ++ c :: b).rdropWhile p = a ++ c :: b.rdropWhile p := by
  simp [List.rdropWhile, dropWhile_append_cons hc]

/-- What stands between two characters that are not blank is not touched. -/
theorem trimChars_between {c d : Char} (hc : isBlank c = false) (hd : isBlank d = false)
    (a m b : List Char) : trimChars (a ++ c :: (m ++ d :: b)) =
      a.dropWhile isBlank ++ c :: (m ++ d :: b.rdropWhile isBlank) := by
  have hlast := rdropWhile_append_cons hd (a.dropWhile isBlank ++ c :: m) b
  rw [List.append_assoc, List.append_assoc, List.cons_append, List.cons_append] at hlast
  rw [trimChars_eq, dropWhile_append_cons hc, hlast]

end Text

/-! ## Tokens -/

/-- A token that carries claims. -/
structure ClaimsToken where
  /-- The claims. -/
  claims : Fields
  /-- The fields of every object in the claims are in order. -/
  ordered : (Value.object claims).Ordered
  /-- Every number in the claims is an integer. -/
  withoutDoubles : (Value.object claims).WithoutDoubles
  /-- The claims are no deeper than a text may be. -/
  shallow : (Value.object claims).depth ≤ 127
  /-- The first part. -/
  header : List Char
  /-- The first part has no dot. -/
  header_dotless : '.' ∉ header
  /-- The last part. -/
  signature : List Char
  /-- The last part has no dot. -/
  signature_dotless : '.' ∉ signature
  /-- How many equals signs follow the claims. -/
  padding : Nat
  /-- What stands before the token. -/
  before : List Char
  /-- Only blanks stand before the token. -/
  before_blank : ∀ c ∈ before, Text.isBlank c = true
  /-- What stands after the token. -/
  after : List Char
  /-- Only blanks stand after the token. -/
  after_blank : ∀ c ∈ after, Text.isBlank c = true

namespace ClaimsToken

/-- The claims as they are written: the compact text in base64, with the padding. -/
def part (t : ClaimsToken) : List Char :=
  Text.Base64.encode (Text.Utf8.encode (Value.object t.claims).render.toList)
    ++ List.replicate t.padding '='

/-- The token with what stands around it. -/
def text (t : ClaimsToken) : String :=
  String.ofList
    ((t.before ++ t.header) ++ '.' :: (t.part ++ '.' :: (t.signature ++ t.after)))

end ClaimsToken

namespace Credential

theorem unpadded_append {digits : List Char} (h : '=' ∉ digits) (padding : Nat) :
    unpadded (digits ++ List.replicate padding '=') = digits := by
  change (digits ++ List.replicate padding '=').rdropWhile (· = '=') = digits
  induction padding with
  | zero =>
    rw [List.replicate_zero, List.append_nil, List.rdropWhile_eq_self_iff]
    intro hne hlast
    exact h (of_decide_eq_true hlast ▸ List.getLast_mem hne)
  | succ n ih =>
    rw [List.replicate_succ', ← List.append_assoc, List.rdropWhile_concat_pos _ _ _ (by decide), ih]

variable (t : ClaimsToken)

/-- **The claims are read as they were written.** -/
theorem claims?_part : claims? t.part = some (.object t.claims) := by
  have hbytes := Text.Utf8.encode_lt (Value.object t.claims).render.toList
  have hdigits := Text.Base64.equals_notMem_encode hbytes
  have hparse := parse?_render t.ordered t.withoutDoubles t.shallow
  unfold claims? ClaimsToken.part
  rw [unpadded_append hdigits, Text.Base64.decode?_encode hbytes, Option.bind_eq_bind,
    Option.bind_some, Text.Utf8.decode?_encode, Option.bind_eq_bind, Option.bind_some, hparse]

theorem dot_notMem_part : '.' ∉ t.part := by
  have hbytes := Text.Utf8.encode_lt (Value.object t.claims).render.toList
  have hdigits := Text.Base64.dot_notMem_encode hbytes
  simp [ClaimsToken.part, hdigits]

/-- The parts that are left when the token is trimmed: only the first and the last may have lost
blanks. -/
theorem splitOn_text : ∃ header signature, '.' ∈ Text.trimChars t.text.toList ∧
    Text.splitOn '.' (Text.trimChars t.text.toList) = [header, t.part, signature] := by
  have hdot : Text.isBlank '.' = false := by decide
  have hnotBlank : ∀ {cs : List Char}, (∀ c ∈ cs, Text.isBlank c = true) → '.' ∉ cs := by
    intro cs h hmem
    exact absurd (h _ hmem) (by rw [hdot]; nofun)
  let header := (t.before ++ t.header).dropWhile Text.isBlank
  let signature := (t.signature ++ t.after).rdropWhile Text.isBlank
  have htrim : Text.trimChars t.text.toList = header ++ '.' :: (t.part ++ '.' :: signature) := by
    rw [ClaimsToken.text, String.toList_ofList]
    exact Text.trimChars_between hdot hdot _ _ _
  have hheader : '.' ∉ header := by
    intro hmem
    rcases List.mem_append.1 ((List.dropWhile_suffix _).subset hmem) with hbefore | hheader
    · exact hnotBlank t.before_blank hbefore
    · exact t.header_dotless hheader
  have hsignature : '.' ∉ signature := by
    intro hmem
    rcases List.mem_append.1 ((List.rdropWhile_prefix _ _).subset hmem) with hsignature | hafter
    · exact t.signature_dotless hsignature
    · exact hnotBlank t.after_blank hafter
  refine ⟨header, signature, by simp [htrim], ?_⟩
  rw [htrim, Text.splitOn_eq, List.splitOn_append_cons_self_of_not_mem hheader,
    List.splitOn_append_cons_self_of_not_mem (dot_notMem_part t),
    List.splitOn_eq_singleton hsignature]

theorem expiry?_text : expiry? (Text.trimChars t.text.toList) =
    (Fields.get? t.claims "exp").bind secondsOf? := by
  obtain ⟨header, signature, -, hsplit⟩ := splitOn_text t
  simp [expiry?, hsplit, claims?_part, Value.get?]

/-- The verdict on a token with claims is that on its expiry. -/
theorem status_text (now : Nat) : status (some t.text) now =
    match (Fields.get? t.claims "exp").bind secondsOf? with
    | some seconds => if min (seconds + clockSkew) maxSeconds ≤ now then .expired else .usable
    | none => .usable := by
  obtain ⟨header, signature, hdot, -⟩ := splitOn_text t
  have hsome : (Text.trimChars t.text.toList).isEmpty = false :=
    List.isEmpty_eq_false_iff.2 (List.ne_nil_of_mem hdot)
  simp only [status, hsome, expiry?_text]
  rfl

/-- **The verdict on a token with claims.**  If the expiry is an integer the token is expired from
thirty seconds after it, at the greatest count of seconds at the latest; an expiry below zero counts
as zero.  If there is none, or it is not a number, the token is usable at all times.  And whatever
a token is, once expired it stays so. -/
theorem verdict_of_claims (t : ClaimsToken) :
    (∀ expiry hrange, Fields.get? t.claims "exp" = some (.number (.integer expiry hrange)) →
      ∀ now : Nat, status (some t.text) now =
        if min (max expiry 0 + 30) (2 ^ 64 - 1) ≤ (now : Int) then .expired else .usable) ∧
    ((∀ n, Fields.get? t.claims "exp" ≠ some (.number n)) →
      ∀ now, status (some t.text) now = .usable) ∧
    ∀ token now later, now ≤ later →
      status token now = .expired → status token later = .expired := by
  refine ⟨fun expiry hrange hexp now => ?_, fun hexp now => ?_, ?_⟩
  · rw [status_text, hexp, Option.bind_some, secondsOf?]
    have hiff : min (expiry.toNat + clockSkew) maxSeconds ≤ now ↔
        min (max expiry 0 + 30) (2 ^ 64 - 1) ≤ (now : Int) := by
      simp only [clockSkew, maxSeconds]
      omega
    exact if_congr hiff rfl rfl
  · rw [status_text]
    cases hclaim : Fields.get? t.claims "exp" with
    | none => rfl
    | some v =>
      cases v with
      | number n => exact absurd hclaim (hexp n)
      | _ => rfl
  · exact fun token now later hle hexpired => status_expired_of_le hle hexpired

/-- A token without an expiry, with blanks around it and equals signs after its claims. -/
def guest : ClaimsToken where
  claims := [("sub", .string "Zoë €")]
  ordered := by simp [Value.ordered_object, Fields.Ascending]
  withoutDoubles := by simp [Value.withoutDoubles_object]
  shallow := by decide
  header := "eyJhbGciOiJIUzI1NiJ9".toList
  header_dotless := by decide
  signature := "c2ln".toList
  signature_dotless := by decide
  padding := 2
  before := ['\t', ' ']
  before_blank := by simp [Text.isBlank]
  after := ['\n']
  after_blank := by simp [Text.isBlank]

/-- The same with an expiry. -/
def session (expiry : Int)
    (hrange : -0x8000000000000000 ≤ expiry ∧ expiry < 0x10000000000000000) : ClaimsToken :=
  { guest with
    claims := [("exp", .number (.integer expiry hrange)), ("sub", .string "Zoë €")]
    ordered := by
      have hkeys : ("exp" : String) < "sub" := by decide +kernel
      simpa [Value.ordered_object, Fields.Ascending] using hkeys
    withoutDoubles := by simp [Value.withoutDoubles_object, Value.withoutDoubles_number]
    shallow := by simp [Value.depth, Value.depthFields] }

/-- The verdict before and after the expiry, at both ends of the integers, and without one. -/
theorem verdict_of_claims_session :
    (status (some (session 1000 (by decide)).text) 1029 = .usable ∧
      ∀ later ≥ 1030, status (some (session 1000 (by decide)).text) later = .expired) ∧
    (status (some (session (-5) (by decide)).text) 29 = .usable ∧
      status (some (session (-5) (by decide)).text) 30 = .expired) ∧
    (status (some (session (2 ^ 64 - 1) (by decide)).text) (2 ^ 64 - 2) = .usable ∧
      status (some (session (2 ^ 64 - 1) (by decide)).text) (2 ^ 64 - 1) = .expired) ∧
    status (some guest.text) (2 ^ 64 - 1) = .usable := by
  have hexp : ∀ n hrange, Fields.get? (session n hrange).claims "exp" =
      some (.number (.integer n hrange)) := fun n hrange => by simp [session, Fields.get?]
  have hverdict := fun n hrange =>
    (verdict_of_claims (session n hrange)).1 n hrange (hexp n hrange)
  refine ⟨⟨?_, fun later hlater => ?_⟩, ⟨?_, ?_⟩, ⟨?_, ?_⟩, ?_⟩
  · exact (hverdict 1000 _ _).trans (by decide)
  · exact (verdict_of_claims (session 1000 (by decide))).2.2 _ 1030 later hlater
      ((hverdict 1000 _ _).trans (by decide))
  · exact (hverdict (-5) _ _).trans (by decide)
  · exact (hverdict (-5) _ _).trans (by decide)
  · exact (hverdict (2 ^ 64 - 1) _ _).trans (by decide)
  · exact (hverdict (2 ^ 64 - 1) _ _).trans (by decide)
  · exact (verdict_of_claims guest).2.1 (fun n => by simp [guest, Fields.get?]) _

end Credential
end LiveSync
