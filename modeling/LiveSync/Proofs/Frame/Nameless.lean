import LiveSync.Proofs.Frame
import LiveSync.Proofs.Json.Lookup

/-!
# Frames without a name

A frame that gives its event no name is read all the same if its payload looks like a watcher
update.  These are the only ways in which a frame is read, and the fields of a payload that was read
are in order.

* `eventName?` — the name that a frame gives its event.
* `IsSalvaged` — what an event without a name is taken for.
* `decode_cases` — the ways in which a text is read.
-/

namespace LiveSync.Frame

open LiveSync.Json

variable {text : String} {v : Value} {e : Envelope}

/-- The name that a JSON value gives its event: a text that is not empty. -/
def eventName? : Value → Option String
  | .object fields => ((Fields.get? fields "event").bind Value.asString?).bind Payload.nonEmpty?
  | .array (name :: _) => name.asString?.bind Payload.nonEmpty?
  | _ => none

/-- An event that was salvaged: it has no name of its own, and its payload is that of a watcher
update. -/
def IsSalvaged (e : Envelope) : Prop :=
  e.event = EventName.watchersChanged ∧ Payload.isWatcherUpdate e.data = true

/-- An event has the name it was given, or it has none and is salvaged. -/
theorem named_cases {name : Option Value} {data nameless : Value}
    (h : named name data nameless = .ok e) :
    (name.bind Value.asString?).bind Payload.nonEmpty? = some e.event ∧ e.data = data ∨
      (name.bind Value.asString?).bind Payload.nonEmpty? = none ∧ IsSalvaged e ∧
        e.data = nameless := by
  unfold named at h
  split at h
  · rename_i event hname
    obtain rfl := Except.ok.inj h
    exact .inl ⟨hname, rfl⟩
  · rename_i hname
    unfold salvage at h
    split at h
    · rename_i hupdate
      obtain rfl := Except.ok.inj h
      exact .inr ⟨hname, ⟨rfl, hupdate⟩, rfl⟩
    · exact absurd h nofun

/-- The payload of an event is a part of the value that describes it, so its fields are in order if
those of the value are. -/
theorem ofValue_cases (hv : v.Ordered) (h : ofValue v = .ok e) :
    e.data.Ordered ∧ (eventName? v = some e.event ∨ eventName? v = none ∧ IsSalvaged e) := by
  have hcases : ∀ {name : Option Value} {data nameless : Value}, data.Ordered →
      nameless.Ordered → named name data nameless = .ok e →
      e.data.Ordered ∧ ((name.bind Value.asString?).bind Payload.nonEmpty? = some e.event ∨
        (name.bind Value.asString?).bind Payload.nonEmpty? = none ∧ IsSalvaged e) := by
    intro name data nameless hdata hnameless hnamed
    rcases named_cases hnamed with ⟨hname, heq⟩ | ⟨hname, hsalvaged, heq⟩
    · exact ⟨heq ▸ hdata, .inl hname⟩
    · exact ⟨heq ▸ hnameless, .inr ⟨hname, hsalvaged⟩⟩
  unfold ofValue at h
  split at h
  · rename_i fields
    obtain ⟨hascending, hvalues⟩ := Value.ordered_object.1 hv
    have hdata : ∀ default : Value, default.Ordered →
        ((Fields.get? fields "data").getD default).Ordered := by
      intro default hdefault
      cases hdata : Fields.get? fields "data" with
      | none => exact hdefault
      | some data => exact hvalues _ (Fields.mem_of_get? hdata)
    have hrest : (Fields.erase (Fields.erase fields "data") "event").Sublist fields :=
      (Fields.erase_sublist _ _).trans (Fields.erase_sublist _ _)
    have hobject : (Value.object (Fields.erase (Fields.erase fields "data") "event")).Ordered :=
      Value.ordered_object.2 ⟨hascending.sublist hrest, fun f hf => hvalues f (hrest.subset hf)⟩
    exact hcases (hdata _ Value.ordered_null) (hdata _ hobject) h
  · rename_i name items
    have hitems := Value.ordered_array.1 hv
    have hdata : (items.head?.getD .null).Ordered := by
      cases items with
      | nil => exact Value.ordered_null
      | cons data rest => exact hitems data (by simp)
    exact hcases hdata hdata h
  · exact absurd h nofun

/-- **How a text is read as an event**: it is a JSON value, the payload has its fields in order, and
the event has the name that the value gives it, or none and is salvaged. -/
theorem decode_cases (h : decode text = .ok e) :
    ∃ v, Value.parse? text = some v ∧ e.data.Ordered ∧
      (eventName? v = some e.event ∨ eventName? v = none ∧ IsSalvaged e) := by
  unfold decode at h
  split at h
  · exact absurd h nofun
  split at h
  · rename_i v hparse
    exact ⟨v, hparse, ofValue_cases (ordered_of_parse? hparse) h⟩
  · exact absurd h nofun

end LiveSync.Frame
