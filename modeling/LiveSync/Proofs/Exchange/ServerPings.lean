import LiveSync.Proofs.Exchange.KeyCase
import LiveSync.Proofs.Frame.Nameless
import LiveSync.Proofs.Payload.Returning

/-!
# Pings of the server

A ping is answered with its payload.  On its way in the payload is re-cased for listeners, and on
its way out for the wire, so that the answer carries the payload of the ping exactly if every name
in it that is re-cased comes back.

* `onPing_eq` — an answer is one frame.
* `step_ping` — what a ping puts on the wire.
* `ping_echoed_iff` — when that is an echo, in every reachable state, for every configuration.
-/

namespace LiveSync

open LiveSync.Json

namespace Turn

/-- The answer to a ping is one frame, whatever befalls it. -/
theorem onPing_eq {t : Turn} {socket : SocketNumber} (h : t.conn.socket = some socket)
    (payload : Value) :
    t.onPing payload = { t with sends := t.sends + 1 }.effect (.frame socket
      ⟨EventName.pong, t.conn.normalizer.outbound payload⟩ (t.moment.sendFault t.sends)) := by
  unfold onPing
  rw [send_of_socket h]

end Turn

namespace Connection

/-- **What a ping puts on the wire**: one answer, and nothing else. -/
theorem step_ping {c : Connection} (h : c.Ready) (hc : c.state = .connected)
    {socket : SocketNumber} (hs : c.socket = some socket) (m : Moment) {frame : String} {p : Value}
    (hdecode : Frame.decode frame = .ok ⟨EventName.ping, p⟩) :
    (c.step m (.received (.ok (.text frame)))).2.filter Effect.isTraffic =
      [.frame socket ⟨EventName.pong, c.normalizer.outbound (c.normalizer.inbound p)⟩
        (m.sendFault 0)] := by
  let t : Turn := { conn := c, moment := m }
  let payload := c.normalizer.inbound p
  have hstep : t.step (.received (.ok (.text frame))) =
      (t.onPing payload).route EventName.ping payload := step_text h hc m hdecode
  calc (t.step _).traffic
      = (t.onPing payload).traffic := by rw [hstep]; simp
    _ = [.frame socket ⟨EventName.pong, c.normalizer.outbound payload⟩ (m.sendFault 0)] := by
      rw [Turn.onPing_eq hs]
      rfl

/-- **When a ping is echoed.**  Take any run of a connection that was just built, and a ping that
arrives while it is established.  One frame is written, a pong on the socket of the connection; it
carries the payload of the ping if and only if every name in the payload that is re-cased, so that
it is not excluded and not below a field that is, comes back from the case inside to the case of the
wire. -/
theorem ping_echoed_iff (config : Config) (inputs : List (Moment × Input))
    (hc : ((Connection.new config).run inputs).1.state = .connected) (m : Moment) {frame : String}
    {p : Value} (hdecode : Frame.decode frame = .ok ⟨EventName.ping, p⟩) :
    let c := ((Connection.new config).run inputs).1
    let n := (Connection.new config).normalizer
    ∃ socket data, c.socket = some socket ∧
      (c.step m (.received (.ok (.text frame)))).2.filter Effect.isTraffic =
        [.frame socket ⟨EventName.pong, data⟩ (m.sendFault 0)] ∧
      (data = p ↔ ∀ key, n.Recases key p →
        config.options.wireCase.apply (config.options.internalCase.apply key) = key) := by
  intro c n
  have hready : c.Ready := ready_run (ready_new config) inputs
  have hn : c.normalizer = n := normalizer_run config inputs
  obtain ⟨socket, hs⟩ := Option.isSome_iff_exists.1 (hready.socket.2 hc)
  obtain ⟨-, -, hordered, -⟩ := Frame.decode_cases hdecode
  refine ⟨socket, _, hs, step_ping hready hc hs m hdecode, ?_⟩
  rw [hn]
  exact Payload.Normalizer.transform_transform_eq_iff hordered

/-- A ping whose payload has a field in snake case, an excluded field and no other name is
echoed. -/
theorem ping_echoed_iff_snake :
    let config : Config := ⟨"ws://localhost/ws", {}, {}⟩
    let m : Moment :=
      { now := 0, seconds := 0, token := some "token", sendFault := fun _ => none, draw := 0.0 }
    let inputs := [Input.command .connect, .attempt, .dial, .opened (.ok 0),
      .received (.ok (.text "[\"connect\"]"))].map (m, ·)
    let frame := "[\"ping\",\x7b\"metadata\":\x7b\"sentBy\":null\x7d,\"sent_at\":[]\x7d]"
    let p : Value := .object [("metadata", .object [("sentBy", .null)]), ("sent_at", .array [])]
    Frame.decode frame = .ok ⟨EventName.ping, p⟩ ∧
      (((Connection.new config).run inputs).1.step m
        (.received (.ok (.text frame)))).2.filter Effect.isTraffic =
          [.frame 0 ⟨EventName.pong, p⟩ none] := by
  intro config m inputs frame p
  have hc : ((Connection.new config).run inputs).1.state = .connected := by decide +kernel
  have hs : ((Connection.new config).run inputs).1.socket = some 0 := by decide +kernel
  have hdecode : Frame.decode frame = .ok ⟨EventName.ping, p⟩ := by decide +kernel
  obtain ⟨socket, data, hsocket, hsent, hecho⟩ := ping_echoed_iff config inputs hc m hdecode
  obtain rfl : 0 = socket := Option.some.inj (hs.symm.trans hsocket)
  have hmetadata : (Connection.new config).normalizer.isExcluded "metadata" = true := by
    decide +kernel
  have hdata : data = p := by
    refine hecho.2 fun key hkey => ?_
    obtain ⟨f, hf, hincluded, hor⟩ := Payload.Normalizer.recases_object.1 hkey
    rcases List.mem_cons.1 hf with rfl | hf
    · exact absurd (hmetadata.symm.trans hincluded) nofun
    · obtain rfl := List.mem_singleton.1 hf
      rcases hor with ⟨rfl, -⟩ | hinner
      · decide +kernel
      · obtain ⟨v, hv, -⟩ := Payload.Normalizer.recases_array.1 hinner
        exact absurd hv List.not_mem_nil
  rw [hsent, hdata]
  exact ⟨hdecode, rfl⟩

/-- Not every ping is echoed: with the default settings, a field in camel case is answered in snake
case. -/
theorem ping_not_echoed :
    ¬∀ (config : Config) (inputs : List (Moment × Input)) (m : Moment) (frame : String) (p : Value),
      let c := ((Connection.new config).run inputs).1
      c.state = .connected → Frame.decode frame = .ok ⟨EventName.ping, p⟩ →
      (∀ n, m.sendFault n = none) →
      ∃ socket, (c.step m (.received (.ok (.text frame)))).2.filter Effect.isTraffic =
        [.frame socket ⟨EventName.pong, p⟩ none] := by
  let config : Config := ⟨"ws://localhost/ws", {}, {}⟩
  let m : Moment :=
    { now := 0, seconds := 0, token := some "token", sendFault := fun _ => none, draw := 0.0 }
  let inputs := [Input.command .connect, .attempt, .dial, .opened (.ok 0),
    .received (.ok (.text "[\"connect\"]"))].map (m, ·)
  let frame := "[\"ping\",\x7b\"sentAt\":1\x7d]"
  let p : Value := .object [("sentAt", .number (.integer 1 (by decide)))]
  intro hall
  have hc : ((Connection.new config).run inputs).1.state = .connected := by decide +kernel
  have hdecode : Frame.decode frame = .ok ⟨EventName.ping, p⟩ := by decide +kernel
  obtain ⟨socket, hsent⟩ := hall config inputs m frame p hc hdecode fun _ => rfl
  have hanswer := step_ping (ready_run (ready_new config) inputs) hc
    (show ((Connection.new config).run inputs).1.socket = some 0 by decide +kernel) m hdecode
  have hdata : ((Connection.new config).run inputs).1.normalizer.outbound
      (((Connection.new config).run inputs).1.normalizer.inbound p) ≠ p := by decide +kernel
  rw [hanswer] at hsent
  simp only [List.cons.injEq, Effect.frame.injEq, Envelope.mk.injEq] at hsent
  exact hdata hsent.1.2.1.2

end Connection
end LiveSync
