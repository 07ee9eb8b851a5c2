import LiveSync.Frame
import LiveSync.Proofs.Json.Reading
import Mathlib.Data.String.Basic

/-!
# Frames come through

An event that is written as a frame is read as the event, and so is the array of its name and its
payload.

* `Envelope.Portable` — the events whose text can be read.
* `named_event`, `ofValue_envelope`, `ofValue_pair` — the two forms of a frame.
* `parse?_encode`, `parse?_pair` — their texts.
* `decode_encode` — a frame that is not too large is read as it was written.
-/

namespace LiveSync

open LiveSync.Json

/-- The event has a name, and its payload has fields in order, no doubles and one level of depth to
spare for the frame around it. -/
structure Envelope.Portable (e : Envelope) : Prop where
  /-- The event has a name. -/
  named : e.event ≠ ""
  /-- The fields of every object are in order. -/
  ordered : e.data.Ordered
  /-- Every number is an integer. -/
  withoutDoubles : e.data.WithoutDoubles
  /-- The frame is one level deeper than the payload, and no text may be deeper than `maxDepth`. -/
  shallow : e.data.depth ≤ 126

namespace Frame

/-! ## The two forms of a frame -/

theorem named_event {event : String} (h : event ≠ "") (data nameless : Value) :
    named (some (.string event)) data nameless = .ok ⟨event, data⟩ := by
  have hname : Payload.nonEmpty? event = some event := by
    unfold Payload.nonEmpty?
    rw [if_neg fun hempty => h (String.isEmpty_iff.1 hempty)]
  unfold named
  rw [Option.bind_some, Value.asString?, Option.bind_some, hname]

variable {e : Envelope}

theorem ofValue_envelope (h : e.event ≠ "") : ofValue e.toValue = .ok e := by
  have horder : ("event" : String) ≠ "data" ∧ ¬("event" : String) < "data" := by decide +kernel
  have hfields : Fields.ofList [("event", .string e.event), ("data", e.data)] =
      [("data", e.data), ("event", .string e.event)] := by
    rw [Fields.ofList, List.foldl_cons, List.foldl_cons, List.foldl_nil, Fields.insert,
      Fields.insert, if_neg horder.1, if_neg horder.2]
  unfold Envelope.toValue Value.ofPairs
  rw [hfields]
  exact named_event h e.data _

theorem ofValue_pair (h : e.event ≠ "") :
    ofValue (.array [.string e.event, e.data]) = .ok e :=
  named_event h e.data e.data

/-! ## Their texts -/

theorem encode_eq (e : Envelope) :
    encode e = Value.render (.object [("event", .string e.event), ("data", e.data)]) := by
  unfold encode Value.render
  simp [Value.chars, Value.fieldChars]

theorem parse?_encode (h : e.Portable) : Value.parse? (encode e) = some e.toValue := by
  rw [encode_eq]
  refine parse?_render_object fun f hf => ?_
  rcases List.mem_cons.1 hf with rfl | hf
  · exact ⟨Value.ordered_string _, Value.withoutDoubles_string _, Nat.succ_pos _⟩
  · obtain rfl := List.mem_singleton.1 hf
    exact ⟨h.ordered, h.withoutDoubles, Nat.lt_succ_of_le h.shallow⟩

theorem parse?_pair (h : e.Portable) :
    Value.parse? (Value.render (.array [.string e.event, e.data])) =
      some (.array [.string e.event, e.data]) := by
  refine parse?_render ?ordered ?withoutDoubles ?depth
  case ordered => simpa [Value.ordered_array] using h.ordered
  case withoutDoubles => simpa [Value.withoutDoubles_array] using h.withoutDoubles
  case depth =>
    have hshallow := h.shallow
    simp only [Value.depth, Value.depthItems, maxDepth]
    omega

/-- The array of name and payload is shorter than the frame. -/
theorem utf8ByteSize_pair_le (e : Envelope) :
    (Value.render (.array [.string e.event, e.data])).utf8ByteSize ≤ (encode e).utf8ByteSize := by
  have hlast : (']' : Char).utf8Size = ('\x7d' : Char).utf8Size := rfl
  have hfirst : ('[' : Char).utf8Size = ('\x7b' : Char).utf8Size := rfl
  unfold Value.render encode
  rw [String.utf8ByteSize_ofList, String.utf8ByteSize_ofList]
  simp only [Value.chars, Value.itemChars, String.utf8Len_cons, String.utf8Len_append,
    String.utf8Len_nil, hlast, hfirst]
  omega

theorem decode_of_parse? {text : String} {v : Value} (hsize : text.utf8ByteSize ≤ maxBytes)
    (h : Value.parse? text = some v) : decode text = ofValue v := by
  unfold decode
  rw [if_neg (Nat.not_lt.2 hsize), h]

/-- **A frame is read as it was written**, if it is not too large: the event with its name and its
payload, and no other.  The compact text of the array of both is read as the same event. -/
theorem decode_encode (h : e.Portable) (hsize : (encode e).utf8ByteSize ≤ maxBytes) :
    decode (encode e) = .ok e ∧
      decode (Value.render (.array [.string e.event, e.data])) = .ok e := by
  constructor
  · rw [decode_of_parse? hsize (parse?_encode h), ofValue_envelope h.named]
  · have hpair := Nat.le_trans (utf8ByteSize_pair_le e) hsize
    rw [decode_of_parse? hpair (parse?_pair h), ofValue_pair h.named]

/-- An event whose name and payload need escapes, with the least and the greatest integer. -/
def note : Envelope where
  event := "say \"hi\"\n"
  data := .object
    [("range", .array [.number (.integer (-0x8000000000000000) (by decide)),
      .number (.integer 0xffffffffffffffff (by decide))]),
     ("text", .object [("\x01\\", .string "é€"), ("é", .null)])]

theorem portable_note : note.Portable := by
  have houter : ("range" : String) < "text" := by decide +kernel
  have hinner : ("\x01\\" : String) < "é" := by decide +kernel
  refine ⟨by decide, ?_, ?_, by decide⟩
  · simpa [note, Value.ordered_object, Value.ordered_array, Fields.Ascending] using
      And.intro houter hinner
  · simp [note, Value.withoutDoubles_object, Value.withoutDoubles_array,
      Value.withoutDoubles_number]

/-- It comes through in both forms. -/
theorem decode_encode_note :
    note.Portable ∧ (encode note).utf8ByteSize ≤ maxBytes ∧ decode (encode note) = .ok note ∧
      decode (Value.render (.array [.string note.event, note.data])) = .ok note := by
  have hsize : (encode note).utf8ByteSize ≤ maxBytes := by decide +kernel
  exact ⟨portable_note, hsize, decode_encode portable_note hsize⟩

end Frame
end LiveSync
