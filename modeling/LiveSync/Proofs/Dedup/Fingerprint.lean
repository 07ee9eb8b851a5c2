import Mathlib.Data.List.Basic
import LiveSync.Dedup
import LiveSync.Proofs.Json.Rendering
import LiveSync.Proofs.Text.Utf8

/-!
# What a fingerprint tells apart

The bytes that are hashed tell all events apart: no text has the byte that ends the name, so the
name and the text of the payload can be cut out again.  Two events with one fingerprint are
therefore the same event, or two messages that the hash takes for one; and such messages exist.

* `DedupFilter.hashed_injective` — different events are different messages.
* `DedupFilter.Twins`, `twins_iff` — one fingerprint is one event, or a collision of the hash.
* `DedupFilter.fingerprint_pongs` — two answers to a ping that collide.
-/

namespace LiveSync

open LiveSync.Json

namespace DedupFilter

variable {event event' : String} {payload payload' : Value}

theorem mark_not_mem (cs : List Char) : 0xff ∉ Text.Utf8.encode cs := fun h =>
  absurd (Text.Utf8.encode_lt_mark cs 0xff h) (by decide)

theorem eq_of_encode_eq {s s' : String}
    (h : Text.Utf8.encode s.toList = Text.Utf8.encode s'.toList) : s = s' :=
  Option.some.inj <| (Text.Utf8.decode?_encode s).symm.trans <|
    (congrArg Text.Utf8.decode? h).trans (Text.Utf8.decode?_encode s')

/-- What stands before the first mark can be cut off. -/
theorem append_mark_inj {a b rest rest' : List Nat} (ha : 0xff ∉ a) (hb : 0xff ∉ b)
    (h : a ++ 0xff :: rest = b ++ 0xff :: rest') : a = b ∧ rest = rest' := by
  have hcut (l r : List Nat) (hl : 0xff ∉ l) : (l ++ 0xff :: r).takeWhile (· ≠ 0xff) = l := by
    rw [List.takeWhile_append_of_pos fun x hx => by simpa using fun hx' : x = 0xff => hl (hx' ▸ hx)]
    simp
  have hab : a = b := (hcut a rest ha).symm.trans ((congrArg _ h).trans (hcut b rest' hb))
  subst hab
  exact ⟨rfl, (List.cons.inj (List.append_cancel_left h)).2⟩

/-- **Different events are different messages**, since the end of the name can be found again. -/
theorem hashed_injective
    (h : hashed event payload.render = hashed event' payload'.render) :
    event = event' ∧ payload = payload' := by
  unfold hashed at h
  rw [List.append_assoc, List.append_assoc] at h
  obtain ⟨hevent, hrest⟩ := append_mark_inj (mark_not_mem _) (mark_not_mem _) h
  obtain ⟨htext, -⟩ :=
    append_mark_inj (mark_not_mem _) (mark_not_mem _) (List.cons.inj hrest).2
  exact ⟨eq_of_encode_eq hevent, Value.render_injective (eq_of_encode_eq htext)⟩

/-- Two events that pass for one: they are one, or they are different messages that collide. -/
inductive Twins (event : String) (payload : Value) : String → Value → Prop where
  /-- They are one event. -/
  | same : Twins event payload event payload
  /-- The hash takes their messages for one. -/
  | collision {other : String} {value : Value}
      (hbytes : hashed event payload.render ≠ hashed other value.render)
      (hhash : SipHash.hash (hashed event payload.render) =
        SipHash.hash (hashed other value.render)) : Twins event payload other value

/-- **One fingerprint is one event, or a collision of the hash.** -/
theorem twins_iff :
    Twins event payload event' payload' ↔
      fingerprint event payload = fingerprint event' payload' := by
  constructor
  · rintro (_ | ⟨-, hhash⟩)
    · rfl
    · exact hhash
  · intro h
    by_cases hbytes : hashed event payload.render = hashed event' payload'.render
    · obtain ⟨rfl, rfl⟩ := hashed_injective hbytes
      exact .same
    · exact .collision hbytes h

/-- The answer to a ping of that number. -/
def pongOf (seq : Nat) : Value :=
  Value.ofPairs [("seq", .ofNat seq)]

/-- Two answers to a ping that collide. -/
theorem fingerprint_pongs :
    fingerprint "pong" (pongOf 3951985255804785492) =
      fingerprint "pong" (pongOf 1399741059917809693) := by
  decide +kernel

end DedupFilter
end LiveSync
