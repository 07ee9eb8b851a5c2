import Mathlib.Data.List.DropRight
import LiveSync.Credential

/-!
# Usable tokens

* `trim_trim` — trimming once is enough.
* `status_usable_of_le`, `status_expired_of_le` — a token that is usable was usable before, and one
  that has expired stays so.
* `usable_ok` — a token that may be presented is trimmed and not empty, and it stands the same test
  again.
-/

namespace LiveSync
namespace Text

/-- Trimming leaves a list that has no blank at either end. -/
theorem trimChars_eq (cs : List Char) : trimChars cs = (cs.dropWhile isBlank).rdropWhile isBlank :=
  rfl

theorem trimChars_trimChars (cs : List Char) : trimChars (trimChars cs) = trimChars cs := by
  have hfirst : (trimChars cs).dropWhile isBlank = trimChars cs := by
    rw [List.dropWhile_eq_self_iff]
    intro hl
    -- the first character that is left is the first one that was not dropped
    have hle : trimChars cs <+: cs.dropWhile isBlank := List.rdropWhile_prefix ..
    rw [hle.getElem hl]
    exact List.dropWhile_get_zero_not isBlank cs _
  rw [trimChars_eq (trimChars cs), hfirst, trimChars_eq, List.rdropWhile_idempotent]

theorem trim_trim (s : String) : trim (trim s) = trim s := by
  simp [trim, trimChars_trimChars]

end Text

namespace Credential

/-- The blanks around a token do not matter. -/
theorem status_trim (token : String) (now : Nat) :
    status (some (Text.trim token)) now = status (some token) now := by
  simp [status, Text.trim, Text.trimChars_trimChars]

/-- A token does not expire by going back in time. -/
theorem status_usable_of_le {token : Option String} {now earlier : Nat} (hle : earlier ≤ now)
    (h : status token now = .usable) : status token earlier = .usable := by
  cases token with
  | none => exact absurd h nofun
  | some raw =>
    unfold status at h ⊢
    dsimp only at h ⊢
    split
    · rename_i hempty
      rw [if_pos hempty] at h
      exact absurd h nofun
    · rename_i hempty
      rw [if_neg hempty] at h
      split
      · rename_i seconds hseconds
        simp only [hseconds] at h
        by_cases hexpired : min (seconds + clockSkew) maxSeconds ≤ now
        · rw [if_pos hexpired] at h
          exact absurd h nofun
        · rw [if_neg fun hearlier => hexpired (Nat.le_trans hearlier hle)]
      · rfl

/-- No token is missing only at times. -/
theorem status_missing {token : Option String} {now : Nat} (h : status token now = .missing)
    (later : Nat) : status token later = .missing := by
  cases token with
  | none => rfl
  | some raw =>
    unfold status at h ⊢
    dsimp only at h ⊢
    split
    · rfl
    · rename_i hpresent
      rw [if_neg hpresent] at h
      split at h
      · split at h
        · exact absurd h nofun
        · exact absurd h nofun
      · exact absurd h nofun

/-- An expired token stays expired. -/
theorem status_expired_of_le {token : Option String} {now later : Nat} (hle : now ≤ later)
    (h : status token now = .expired) : status token later = .expired := by
  cases hlater : status token later with
  | expired => rfl
  | usable =>
    rw [status_usable_of_le hle hlater] at h
    exact absurd h nofun
  | missing =>
    rw [status_missing hlater now] at h
    exact absurd h nofun

theorem usable_eq_ok {token : Option String} {now : Nat} {t : String}
    (h : usable token now = .ok t) : ∃ raw, token = some raw ∧ t = Text.trim raw ∧
      status (some raw) now = .usable := by
  unfold usable at h
  split at h
  · rename_i hs
    cases token with
    | none => exact absurd hs nofun
    | some raw => exact ⟨raw, rfl, (Except.ok.inj h).symm, hs⟩
  · exact absurd h nofun
  · exact absurd h nofun

/-- A usable token is presented without the blanks around it. -/
theorem usable_of_status {token : String} {now : Nat} (h : status (some token) now = .usable) :
    usable (some token) now = .ok (Text.trim token) := by
  unfold usable
  rw [h]
  rfl

/-- **What is presented** is trimmed, not empty and usable. -/
theorem usable_ok {token : Option String} {now : Nat} {t : String} (h : usable token now = .ok t) :
    Text.trim t = t ∧ t ≠ "" ∧ status (some t) now = .usable := by
  obtain ⟨raw, -, rfl, hs⟩ := usable_eq_ok h
  have hstatus : status (some (Text.trim raw)) now = .usable := (status_trim raw now).trans hs
  refine ⟨Text.trim_trim raw, fun hempty => ?_, hstatus⟩
  rw [hempty] at hstatus
  exact absurd hstatus nofun

end Credential
end LiveSync
