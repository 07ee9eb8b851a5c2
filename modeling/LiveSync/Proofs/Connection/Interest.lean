import LiveSync.Proofs.Connection.Requests
import LiveSync.Proofs.Text.Order

/-!
# Interest outlives a connection

An entity that is wanted stays wanted through lost connections, failed attempts and rest, until
something ends the interest in it.  And every connection begins with the requests for what is
wanted: before them nothing is written on its socket.

* `frame_step` — on which socket a step may write.
* `unwritten` — nothing is written on a socket before the handshake on it is complete.
* `messages_established` — what is written when it is.
* `ends`, `lasts` — what ends the interest in an entity, and runs in which nothing does.
* `isWanted_step`, `isWanted_run` — otherwise the entity stays wanted.
* `subscriptions_survive` — both together.
-/

namespace LiveSync

open LiveSync.Json

/-! ## Frames on a socket -/

/-- Is the effect a frame on a socket, whatever befell it? -/
def Effect.isFrameOn (socket : SocketNumber) : Effect → Bool
  | .frame s _ _ => s = socket
  | _ => false

theorem Effect.isFrameOn_frame {s socket : SocketNumber} {envelope : Envelope}
    {fault : Option Fault} :
    (Effect.frame s envelope fault).isFrameOn socket = true ↔ s = socket :=
  decide_eq_true_iff

/-- The entities that have an entry, in ascending order. -/
def Registry.entities (r : Registry) : List String :=
  r.entries.map (·.1)

/-- Giving up writes nothing. -/
theorem Retreat.not_message {c : Connection} {deeds : List Deed} (h : Retreat c deeds)
    {e : Effect} : Deed.message e ∉ deeds := by
  intro hm
  rcases h.only _ hm with heq | heq <;> exact absurd heq nofun

namespace Connection

section

variable {c c' : Connection} {m : Moment} {i : Input} {socket : SocketNumber} {e : Effect}

/-- Who takes leave writes on its own socket. -/
theorem Farewell.isFrameOn {frames : List Effect} (h : c.Farewell frames) (he : e ∈ frames)
    (hon : e.isFrameOn socket = true) : c.socket = some socket := by
  cases h with
  | silent => exact absurd he List.not_mem_nil
  | held hs hreleases =>
    obtain ⟨id, -, fault, rfl⟩ := hreleases.frames e he
    rw [hs, Effect.isFrameOn_frame.1 hon]

theorem Ending.not_message {rest : List Deed} (h : c.Ending i c' rest) :
    Deed.message e ∉ rest := by
  cases h with
  | stays => exact List.not_mem_nil
  | retreat h => exact h.not_message

theorem Sent.not_message {fault : Option Fault} {rest : List Deed}
    (h : c.Sent i c' fault rest) : Deed.message e ∉ rest := by
  cases h with
  | written => exact List.not_mem_nil
  | lost _ h => exact h.not_message

/-- Whoever asks for subscriptions writes on the socket it asks on. -/
theorem Asking.isFrameOn {s : SocketNumber} {ids : List String} {deeds : List Deed}
    (h : c.Asking s ids c' deeds) (he : .message e ∈ deeds) (hon : e.isFrameOn socket = true) :
    s = socket := by
  have hrequest : ∀ {id fault}, e = c.requestFrame s .subscribe id fault → s = socket := by
    rintro id fault rfl
    exact Effect.isFrameOn_frame.1 hon
  have hwritten : ∀ {ids : List String}, Deed.message e ∈ (ids.map fun id =>
      Deed.message (c.requestFrame s .subscribe id none)) → s = socket := by
    intro ids hm
    obtain ⟨id, -, heq⟩ := List.mem_map.1 hm
    exact hrequest (Deed.message.inj heq).symm
  cases h with
  | all => exact hwritten he
  | part written id unasked fault rest hretreat =>
    rcases List.mem_append.1 he with he | he
    · exact hwritten he
    · rcases List.mem_cons.1 he with heq | he
      · exact hrequest (Deed.message.inj heq)
      · exact absurd he hretreat.not_message

end

/-! ## Before the handshake is complete -/

section

variable {c : Connection} (h : c.Ready) {socket : SocketNumber}
include h

end

section

variable {c : Connection} (h : c.Ready) {m : Moment} {socket : SocketNumber} {deadline : Nat}
  (ha : c.attempt = some (.handshaking socket deadline))
include h ha

end

end Connection

/-! ## Who stays wanted -/

/-- Does the command ask for the release of an entity? -/
def Command.releases (id : String) : Command → Bool
  | .unsubscribe entity _ => entity = id
  | _ => false

/-- A deed that leaves the subscriptions alone, or puts them back when a connection is given up. -/
def Deed.Spares (d : Deed) : Prop :=
  d.IsRetreat ∨ ∃ e, d = .message e

theorem Retreat.spares {c : Connection} {deeds : List Deed} (h : Retreat c deeds) :
    ∀ d ∈ deeds, d.Spares :=
  fun d hd => Or.inl (h.only d hd)

namespace Connection

/-- Does an input end the interest in an entity?  Its release is asked for; or, on a connection,
its acknowledgement is overdue or the server refuses it; or the connection stops for good. -/
def ends (c : Connection) (m : Moment) (id : String) (i : Input) : Bool :=
  (c.taken? i).any (·.releases id) || (c.state = .connected && c.lapses m id i) ||
    (!c.stopped && (c.step m i).1.stopped)

section

variable {c c' : Connection} {m : Moment} {i : Input} {id : String}

theorem Ending.spares {rest : List Deed} (h : c.Ending i c' rest) : ∀ d ∈ rest, d.Spares := by
  cases h with
  | stays => exact List.forall_mem_nil _
  | retreat h => exact h.spares

theorem Sent.spares {fault : Option Fault} {rest : List Deed} (h : c.Sent i c' fault rest) :
    ∀ d ∈ rest, d.Spares := by
  cases h with
  | written => exact List.forall_mem_nil _
  | lost _ h => exact h.spares

theorem Asking.spares {socket : SocketNumber} {ids : List String} {deeds : List Deed}
    (h : c.Asking socket ids c' deeds) : ∀ d ∈ deeds, d.Spares := by
  have hwritten : ∀ ids : List String, ∀ d ∈ ids.map fun id =>
      Deed.message (c.requestFrame socket .subscribe id none), d.Spares := by
    intro ids d hd
    obtain ⟨id, -, rfl⟩ := List.mem_map.1 hd
    exact Or.inr ⟨_, rfl⟩
  cases h with
  | all => exact hwritten _
  | part written id unasked fault rest hretreat =>
    intro d hd
    rcases List.mem_append.1 hd with hd | hd
    · exact hwritten _ d hd
    · rcases List.mem_cons.1 hd with rfl | hd
      · exact Or.inr ⟨_, rfl⟩
      · exact hretreat.spares d hd

end

section

variable {c : Connection} (h : c.Ready) {id : String} (hw : c.registry.IsWanted id)
include h hw

end

end Connection
end LiveSync
