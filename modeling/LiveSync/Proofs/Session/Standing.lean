import LiveSync.Proofs.Connection.Grants
import LiveSync.Proofs.Credential
import LiveSync.Proofs.Session.Calls
import LiveSync.Session.Server

/-!
# What a caller finds that was told it is subscribed

Whoever wants to be subscribed names an entity, and blanks around the name do not count.  Whoever
asks how a subscription stands gives the entity itself, and blanks do count.  A caller who is told
that it is subscribed and asks at once, with the same argument, finds the subscription that it was
told of exactly if the argument has no blanks around it.

* `Placed` — what may happen in a session, with the requests that were made.
* `Placed.nodup` — no two requests have one caller.
* `Placed.goesOn`, `Placed.advance` — it is all that happens when a session runs by itself.
* `Wanted`, `Founded`, `founded_run` — every caller that waits, and every entry, is there for a
  request.
* `ask`, `replies_ask` — a question that is taken at once.
* `info_after_subscribe` — the answer to a question that follows at once.
* `padded_argument_unknown` — with a blank in front of the name there is no answer.
-/

namespace LiveSync

open LiveSync.Json

theorem Request.entity?_eq_ok {argument id : String} (h : Request.entity? argument = .ok id) :
    id = Text.trim argument := by
  dsimp only [entity?] at h
  split at h
  · exact absurd h nofun
  · exact (Except.ok.inj h).symm

/-- The command of a request to be subscribed. -/
theorem Request.command_subscribe {argument id : String} (h : entity? argument = .ok id)
    (ticket : Ticket) :
    (Request.subscribe argument).command ticket = .ok (.subscribe id ticket) := by
  dsimp only [command]
  rw [h]
  rfl

/-- A command to subscribe is that of a request which names the entity. -/
theorem Request.eq_subscribe_of_command {r : Request} {ticket caller : Ticket} {id : String}
    (h : r.command ticket = .ok (.subscribe id caller)) :
    caller = ticket ∧ ∃ argument, r = .subscribe argument ∧ entity? argument = .ok id := by
  cases r with
  | subscribe argument =>
    dsimp only [command] at h
    cases he : entity? argument with
    | error f => rw [he] at h; exact absurd h nofun
    | ok entity =>
      rw [he] at h
      obtain ⟨rfl, rfl⟩ := Command.subscribe.inj (Except.ok.inj h)
      exact ⟨rfl, argument, rfl, he⟩
  | unsubscribe argument =>
    dsimp only [command] at h
    cases he : entity? argument with
    | error f => rw [he] at h; exact absurd h nofun
    | ok entity => rw [he] at h; exact absurd (Except.ok.inj h) nofun
  | info entity => exact absurd (Except.ok.inj h) nofun
  | emit event payload =>
    dsimp only [command] at h
    split at h
    · exact absurd h nofun
    · exact absurd (Except.ok.inj h) nofun

/-- Who is never taken from the queue is granted nothing. -/
theorem denies_abandoned (commands : List Command) :
    Denies (commands.filterMap Command.abandoned) := by
  intro reply hreply
  obtain ⟨x, -, hx⟩ := List.mem_filterMap.1 hreply
  cases x with
  | emit | subscribe | unsubscribe | info =>
    obtain rfl := Option.some.inj hx
    rfl
  | _ => exact absurd hx nofun

namespace Session

/-! ## Runs and the requests that were made -/

/-- What may happen in a session, and the requests that were made so far, each with its caller. -/
inductive Placed (s₀ : Session) : List (Ticket × Request) → Session → Prop where
  /-- Nothing has happened. -/
  | start : Placed s₀ [] s₀
  /-- Somebody makes a request. -/
  | call {placed : List (Ticket × Request)} {s : Session} (h : Placed s₀ placed s) (r : Request) :
      Placed s₀ (placed ++ [((s.call r).1, r)]) (s.call r).2
  /-- A command is sent that nobody waits for. -/
  | send {placed : List (Ticket × Request)} {s : Session} (h : Placed s₀ placed s) {x : Command}
      (hx : x.caller? = none) : Placed s₀ placed (s.send x).2
  /-- The connection takes its next input. -/
  | react {placed : List (Ticket × Request)} {s s' : Session} {i : Input}
      (h : Placed s₀ placed s) (ht : s.Takes i s') : Placed s₀ placed (s'.react i)
  /-- Something goes on that calls do not see. -/
  | aside {placed : List (Ticket × Request)} {s s' : Session} (h : Placed s₀ placed s)
      (ha : s.Alike s') : Placed s₀ placed s'

/-- The callers that made the requests, with the kinds of their calls. -/
def callersOf (placed : List (Ticket × Request)) : List Caller :=
  placed.map fun p => (p.1, p.2.kind)

section

variable {s₀ s s' : Session} {placed : List (Ticket × Request)}

theorem Placed.runs (h : Placed s₀ placed s) : Runs s₀ (callersOf placed) s := by
  induction h with
  | start => exact .start
  | call _ r ih =>
    unfold callersOf
    rw [List.map_append]
    exact ih.call r
  | send _ hx ih => exact ih.send hx
  | react _ ht ih => exact ih.react ht
  | aside _ ha ih => exact ih.aside ha

/-- No two requests have one caller. -/
theorem Placed.nodup (h : Placed s₀ placed s) (h₀ : Accounted [] s₀) :
    (placed.map (·.1)).Nodup := by
  have hnumbered := (accounted_run h₀ h.runs).numbered
  unfold callersOf at hnumbered
  rw [List.map_map] at hnumbered
  exact hnumbered ▸ List.nodup_range

/-- What happens while no call is made. -/
theorem Placed.goesOn (h : Placed s₀ placed s) {calls : List Caller} (hruns : Runs s calls s')
    (hnone : calls = []) : Placed s₀ placed s' := by
  induction hruns with
  | start => exact h
  | call => exact absurd hnone (by simp)
  | send _ hx ih => exact (ih hnone).send hx
  | react _ ht ih => exact (ih hnone).react ht
  | aside _ ha ih => exact (ih hnone).aside ha

/-- Doing everything that can be done now. -/
theorem Placed.settle (h : Placed s₀ placed s) : Placed s₀ placed s.settle :=
  h.goesOn Runs.start.settle rfl

/-- The server sends something, which the connection has yet to take. -/
theorem Placed.push (h : Placed s₀ placed s) (socket : SocketNumber) (item : Incoming) :
    Placed s₀ placed (s.push socket item).2 := by
  have hsent : Alike s { s with network := (s.network.push socket item).2 } := ⟨rfl, rfl, rfl, rfl⟩
  exact h.aside (hsent.trans (alike_wake ..))

/-- Letting the clock run. -/
theorem Placed.advance (h : Placed s₀ placed s) (span : Nat) : Placed s₀ placed (s.advance span) :=
  h.goesOn (Runs.start.advance span) rfl

end

/-! ## What the registry is founded on -/

/-- A caller made a request to be subscribed to an entity. -/
def Wanted (placed : List (Ticket × Request)) (ticket : Ticket) (id : String) : Prop :=
  ∃ argument, (ticket, Request.subscribe argument) ∈ placed ∧ Request.entity? argument = .ok id

theorem Wanted.append {placed : List (Ticket × Request)} {ticket : Ticket} {id : String}
    (h : Wanted placed ticket id) (more : List (Ticket × Request)) :
    Wanted (placed ++ more) ticket id := by
  obtain ⟨argument, hm, he⟩ := h
  exact ⟨argument, List.mem_append_left _ hm, he⟩

/-- Commands to subscribe, callers that wait to be subscribed and entries are there for requests. -/
structure Founded (placed : List (Ticket × Request)) (s : Session) : Prop where
  /-- The connection has lost no caller. -/
  attentive : s.connection.Attentive
  /-- A command to subscribe in the queue is that of a request. -/
  queued : ∀ ticket id, .subscribe id ticket ∈ s.inbox → Wanted placed ticket id
  /-- Who waits for an entity has made a request for it. -/
  awaited : ∀ ticket id, (ticket, .subscribe) ∈ s.connection.registry.callersOf id →
    Wanted placed ticket id
  /-- An entity that has an entry is one of those that requests are for. -/
  known : ∀ id e, s.connection.registry.get? id = some e → ∃ ticket, Wanted placed ticket id

section

variable {s s' : Session} {placed : List (Ticket × Request)}

theorem Founded.append (h : Founded placed s) (more : List (Ticket × Request)) :
    Founded (placed ++ more) s where
  attentive := h.attentive
  queued := fun ticket id hm => (h.queued ticket id hm).append more
  awaited := fun ticket id hm => (h.awaited ticket id hm).append more
  known := fun id e hg => (h.known id e hg).imp fun _ hwanted => hwanted.append more

theorem Founded.aside (h : Founded placed s) (ha : s.Alike s') : Founded placed s' where
  attentive := ha.connection ▸ h.attentive
  queued := ha.inbox ▸ h.queued
  awaited := ha.connection ▸ h.awaited
  known := ha.connection ▸ h.known

/-- One more command waits in the queue. -/
theorem Founded.enqueue (h : Founded placed s) {x : Command}
    (hx : ∀ ticket id, x = .subscribe id ticket → Wanted placed ticket id) :
    Founded placed (s.enqueue x) := by
  have hqueue : Founded placed { s with inbox := s.inbox ++ [x] } :=
    { h with
      queued := fun ticket id hm => (List.mem_append.1 hm).elim (h.queued ticket id) fun hm =>
        hx ticket id (List.mem_singleton.1 hm).symm }
  exact hqueue.aside (alike_wake ..)

theorem Founded.send (h : Founded placed s) {x : Command} (hx : x.caller? = none) :
    Founded placed (s.send x).2 := by
  unfold Session.send
  split
  · exact h
  · refine h.enqueue ?_
    rintro ticket id rfl
    exact absurd hx nofun

theorem Founded.call (h : Founded placed s) (r : Request) :
    Founded (placed ++ [((s.call r).1, r)]) (s.call r).2 := by
  have hcalls : ∀ {t : Session}, t.connection = s.connection → t.inbox = s.inbox →
      Founded (placed ++ [(s.calls, r)]) t := by
    intro t hconnection hinbox
    have hmore := h.append [(s.calls, r)]
    exact ⟨hconnection ▸ hmore.attentive, hinbox ▸ hmore.queued, hconnection ▸ hmore.awaited,
      hconnection ▸ hmore.known⟩
  unfold Session.call
  dsimp only
  split
  · exact hcalls rfl rfl
  · rename_i x hx
    split
    · exact hcalls rfl rfl
    · have hcounted := hcalls
        (t := { s with calls := s.calls + 1, waiting := s.waiting ++ [s.calls] }) rfl rfl
      refine hcounted.enqueue ?_
      rintro ticket id rfl
      obtain ⟨rfl, argument, rfl, he⟩ := Request.eq_subscribe_of_command hx
      exact ⟨argument, List.mem_append_right _ List.mem_cons_self, he⟩

/-- What is taken was in the queue, and the rest stays there. -/
theorem Takes.inbox {i : Input} (h : s.Takes i s') :
    (∀ x, i = .command x → x ∈ s.inbox) ∧ ∀ x ∈ s'.inbox, x ∈ s.inbox := by
  cases h with
  | @command x rest hinbox =>
    refine ⟨fun y hy => ?_, fun y hy => ?_⟩
    · obtain rfl := Input.command.inj hy
      rw [hinbox]
      exact List.mem_cons_self
    · rw [hinbox]
      exact List.mem_cons_of_mem _ hy
  | other hi halike =>
    refine ⟨?_, fun y hy => halike.inbox ▸ hy⟩
    rintro y rfl
    exact absurd hi nofun

theorem Founded.react (h : Founded placed s) {i : Input} (ht : s.Takes i s') :
    Founded placed (s'.react i) := by
  have hattentive : s'.connection.Attentive := ht.same.1 ▸ h.attentive
  have hawaited := h.awaited
  have hknown := h.known
  rw [← ht.same.1] at hawaited hknown
  have hcall : ∀ ticket id, i = .command (.subscribe id ticket) → Wanted placed ticket id :=
    fun ticket id hi => h.queued ticket id (ht.inbox.1 _ hi)
  have hstep : ∀ {inbox : List Command} {replies : List Reply},
      (∀ x ∈ inbox, x ∈ s'.inbox) → Founded placed { s' with
        connection := (s'.connection.step s'.moment i).1, inbox := inbox, replies := replies } := by
    intro inbox replies hinbox
    constructor
    case attentive => exact (Connection.perm_step hattentive s'.moment i).2
    case queued => exact fun ticket id hm => h.queued ticket id (ht.inbox.2 _ (hinbox _ hm))
    case awaited =>
      intro ticket id hw
      rcases Connection.awaited_step hattentive.toReady hw with hbefore | hi
      · exact hawaited ticket id hbefore
      · exact hcall ticket id hi
    case known =>
      intro id e hg
      rcases Connection.known_step hattentive.toReady hg with ⟨e', hg'⟩ | ⟨ticket, hi⟩
      · exact hknown id e' hg'
      · exact ⟨ticket, hcall ticket id hi⟩
  cases hstopped : (s'.connection.step s'.moment i).1.stopped with
  | false => exact (hstep fun _ hx => hx).aside (react_running s' i hstopped)
  | true => exact (hstep (List.forall_mem_nil _)).aside (react_stopped s' i hstopped)

/-- **Whatever a session does**, its registry is founded on requests. -/
theorem founded_run {s₀ : Session} (h₀ : Founded [] s₀) (h : Placed s₀ placed s) :
    Founded placed s := by
  induction h with
  | start => exact h₀
  | call _ r ih => exact ih.call r
  | send _ hx ih => exact ih.send hx
  | react _ ht ih => exact ih.react ht
  | aside _ ha ih => exact ih.aside ha

theorem founded_new (config : Config) (token : Option String) (seconds : Nat)
    (cache : Option Cache.Sync) (failing recorded : List String) :
    Founded [] (new config token seconds cache failing recorded) := by
  have hstart : Founded []
      { seconds := seconds, token := token, connection := Connection.new config } :=
    { attentive := Connection.attentive_new config
      queued := nofun
      awaited := nofun
      known := nofun }
  exact hstart.aside (alike_new config token seconds cache failing recorded)

/-- What the registry tells of an entity is told of its own name only. -/
theorem Founded.trim_of_standing (h : Founded placed s) {id : String} {standing : Standing}
    (hs : s.connection.registry.standing? id = some standing) : Text.trim id = id := by
  obtain ⟨e, hg, -⟩ := Option.map_eq_some_iff.1 hs
  obtain ⟨ticket, argument, -, he⟩ := h.known id e hg
  rw [Request.entity?_eq_ok he, Text.trim_trim]

end

/-! ## A question that follows at once -/

section

variable {s : Session}

/-- What a reaction grants, the connection grants: nobody who is left in the queue is granted
anything. -/
theorem granted_of_react {i : Input} {answers : List Reply} {ticket : Ticket} {ack : Ack}
    (hreplies : (s.react i).replies = s.replies ++ answers)
    (hok : (ticket, .subscribed (.ok ack)) ∈ answers) :
    (ticket, .subscribed (.ok ack)) ∈ repliesOf (s.connection.step s.moment i).2 := by
  cases hstopped : (s.connection.step s.moment i).1.stopped with
  | false =>
    rw [(react_running s i hstopped).replies] at hreplies
    rwa [List.append_cancel_left hreplies]
  | true =>
    rw [(react_stopped s i hstopped).replies, List.append_assoc] at hreplies
    rw [← List.append_cancel_left hreplies] at hok
    exact (List.mem_append.1 hok).resolve_right (denies_abandoned _).not_mem

/-- Callers are numbered one after the other. -/
theorem ticket_call (s : Session) (r : Request) : (s.call r).1 = s.calls := by
  unfold call
  dsimp only
  split
  · rfl
  · split <;> rfl

/-- A call whose command is sent waits in the queue. -/
theorem alike_call {r : Request} {x : Command} (hx : r.command s.calls = .ok x)
    (hr : s.connection.stopped = false) :
    Alike { s with calls := s.calls + 1, inbox := s.inbox ++ [x] } (s.call r).2 := by
  have hcalled : (s.call r).2 = { s with
      calls := s.calls + 1, waiting := s.waiting ++ [s.calls] }.enqueue x := by
    unfold call isStopped
    dsimp only
    rw [hx]
    dsimp only
    rw [hr, if_neg Bool.false_ne_true]
  have hqueued : Alike { s with calls := s.calls + 1, inbox := s.inbox ++ [x] }
      { s with
        calls := s.calls + 1, waiting := s.waiting ++ [s.calls], inbox := s.inbox ++ [x] } :=
    ⟨rfl, rfl, rfl, rfl⟩
  rw [hcalled]
  exact hqueued.trans (alike_wake ..)

/-- It is taken at once if nothing else waits there. -/
theorem takes_call {r : Request} {x : Command} (hx : r.command s.calls = .ok x)
    (halone : s.inbox = []) (htaken : s.connection.taken? (.command x) = some x) :
    (s.call r).2.Takes (.command x) { (s.call r).2 with inbox := [] } := by
  have hcalled := alike_call hx (Connection.taken?_eq_some htaken).2.1
  rw [halone] at hcalled
  exact .command hcalled.inbox (hcalled.connection ▸ htaken)

/-- Somebody asks how a subscription stands, and the connection takes the question at once. -/
def ask (s : Session) (argument : String) : Session :=
  { (s.call (.info argument)).2 with inbox := [] }.react (.command (.info argument s.calls))

/-- It may do so if nothing else waits. -/
theorem Placed.ask {s₀ : Session} {placed : List (Ticket × Request)} (h : Placed s₀ placed s)
    {argument : String} (halone : s.inbox = [])
    (htaken : s.connection.taken? (.command (.info argument s.calls)) =
      some (.info argument s.calls)) :
    Placed s₀ (placed ++ [(s.calls, .info argument)]) (s.ask argument) := by
  have hasked := (h.call (.info argument)).react (takes_call rfl halone htaken)
  rwa [ticket_call] at hasked

/-- A question that is taken at once is answered from the registry. -/
theorem replies_ask (h : s.connection.Ready) {argument : String}
    (htaken : s.connection.taken? (.command (.info argument s.calls)) =
      some (.info argument s.calls)) :
    (s.ask argument).replies =
      s.replies ++ [(s.calls, .info (s.connection.registry.standing? argument))] := by
  obtain ⟨-, hr, -⟩ := Connection.taken?_eq_some htaken
  have hcalled := alike_call (r := .info argument) rfl hr
  let left : Session := { (s.call (.info argument)).2 with inbox := [] }
  have hconnection : left.connection = s.connection := hcalled.connection
  have hstep := Connection.step_info h htaken left.moment
  rw [← hconnection] at hstep
  have hstopped : (left.connection.step left.moment
      (.command (.info argument s.calls))).1.stopped = false := by
    rw [hstep, hconnection]
    exact hr
  unfold ask
  rw [(react_running left _ hstopped).replies, hstep, hconnection]
  show (s.call (.info argument)).2.replies ++ _ = _
  rw [hcalled.replies]
  rfl

end

/-- A session that is just connected. -/
def greeted : Session :=
  let start := new ⟨"ws://localhost/ws", {}, {}⟩ (some "token") 0 none [] []
  ((start.send .connect).2.settle.push 0 (.text "[\"connect\"]")).2.settle

/-- A session in which a caller asked to be subscribed, with a blank in front of the name. -/
def padded : Session :=
  (greeted.call (.subscribe " X-1")).2.settle

theorem placed_padded :
    Placed (new ⟨"ws://localhost/ws", {}, {}⟩ (some "token") 0 none [] [])
      [(0, .subscribe " X-1")] padded := by
  have hgreeted : Placed (new ⟨"ws://localhost/ws", {}, {}⟩ (some "token") 0 none [] [])
      [] greeted := ((Placed.start.send rfl).settle.push ..).settle
  have hasked := hgreeted.call (.subscribe " X-1")
  rw [ticket_call, show greeted.calls = 0 by decide +kernel] at hasked
  exact hasked.settle

/-- **A question that follows at once.**  Take any session of a client that was just built, and an
input by which a caller is told that it is subscribed.  Then it is told of the entity that its
argument names.  It may ask how the subscription stands, with the same argument and before anything
else happens, and the question is answered: by the active subscription that it was told of if the
argument has no blanks around it, and otherwise by none. -/
theorem info_after_subscribe (config : Config) (token : Option String) (seconds : Nat)
    (cache : Option Cache.Sync) (failing recorded : List String)
    {placed : List (Ticket × Request)} {s s' : Session} {i : Input} {answers : List Reply}
    {ticket : Ticket} {argument : String} {ack : Ack}
    (hplaced : Placed (new config token seconds cache failing recorded) placed s)
    (htakes : s.Takes i s') (hcall : (ticket, Request.subscribe argument) ∈ placed)
    (hreplies : (s'.react i).replies = s'.replies ++ answers)
    (hok : (ticket, .subscribed (.ok ack)) ∈ answers) (halone : (s'.react i).inbox = []) :
    let after := s'.react i
    ack.entity = Text.trim argument ∧
    Placed (new config token seconds cache failing recorded)
      (placed ++ [(after.calls, .info argument)]) (after.ask argument) ∧
    (after.ask argument).replies = after.replies ++ [(after.calls, .info
      (if Text.trim argument = argument then some ⟨ack.entity, .active, ack.watchers⟩
      else none))] := by
  intro after
  have hnew := founded_new config token seconds cache failing recorded
  have hbefore : Founded placed s := founded_run hnew hplaced
  have hafter : Founded placed after := founded_run hnew (hplaced.react htakes)
  have hconnection := htakes.same.1
  have hgrants := Connection.grants_step (hconnection ▸ hbefore.attentive)
    (granted_of_react hreplies hok)
  rw [← connection_react] at hgrants
  -- the caller has made one request, so that it is the one for this entity
  have hwanted : Wanted placed ticket ack.entity := by
    rcases hgrants.caller with hwaits | hi
    · exact hbefore.awaited _ _ (hconnection ▸ hwaits)
    · exact hbefore.queued _ _ (htakes.inbox.1 _ hi)
  obtain ⟨other, hother, he⟩ := hwanted
  have hnodup : (placed.map (·.1)).Nodup :=
    hplaced.nodup (accounted_new config token seconds cache failing recorded)
  have hsame : argument = other :=
    Request.subscribe.inj (Prod.mk.inj (List.inj_on_of_nodup_map hnodup hcall hother rfl)).2
  have hentity : ack.entity = Text.trim argument := hsame ▸ Request.entity?_eq_ok he
  have hready := hafter.attentive.toReady
  have htaken := Connection.taken?_of_standing hready hgrants.standing
    (.info argument after.calls)
  have hanswer : after.connection.registry.standing? argument =
      if Text.trim argument = argument then some ⟨ack.entity, .active, ack.watchers⟩ else none := by
    split
    · rename_i htrim
      rw [← htrim, ← hentity]
      exact hgrants.standing
    · rename_i htrim
      refine Option.eq_none_iff_forall_ne_some.2 fun standing hs => htrim ?_
      exact hafter.trim_of_standing hs
  refine ⟨hentity, (hplaced.react htakes).ask halone htaken, ?_⟩
  rw [replies_ask hready htaken, hanswer]

/-- The server acknowledges the subscription.  Somebody else wants it too, with no blank around the
name, is told so at once, asks how it stands, and gets an answer. -/
theorem info_after_subscribe_shared :
    let text := "[\"subscribe_ack\",\x7b\"entityId\":\"X-1\",\"watchers\":[\"u-1\"]\x7d]"
    let acked := (padded.push 0 (.text text)).2.settle
    let calling := (acked.call (.subscribe "X-1")).2
    let joined : Session := { calling with inbox := [] }
    let after := joined.react (.command (.subscribe "X-1" 1))
    granted after.replies = [(0, ⟨"X-1", [.string "u-1"]⟩), (1, ⟨"X-1", [.string "u-1"]⟩)] ∧
    (after.ask "X-1").replies =
      after.replies ++ [(after.calls, .info (some ⟨"X-1", .active, [.string "u-1"]⟩))] := by
  intro text acked calling joined after
  let answers := repliesOf (joined.connection.step joined.moment (.command (.subscribe "X-1" 1))).2
  have hcalls : acked.calls = 1 := by decide +kernel
  have hcalling := (placed_padded.push 0 (.text text)).settle.call (.subscribe "X-1")
  rw [ticket_call, hcalls] at hcalling
  have hcommand : (Request.subscribe "X-1").command acked.calls = .ok (.subscribe "X-1" 1) := by
    rw [hcalls]
    exact Request.command_subscribe (by decide +kernel) 1
  have htakes : calling.Takes (.command (.subscribe "X-1" 1)) joined :=
    takes_call hcommand (List.isEmpty_iff.1 (by decide +kernel))
      (Connection.taken?_command (by decide +kernel) (by decide +kernel) _)
  have hcall : (1, Request.subscribe "X-1") ∈ [(0, .subscribe " X-1")] ++ [(1, .subscribe "X-1")] :=
    List.mem_append_right _ List.mem_cons_self
  have hreplies : after.replies = joined.replies ++ answers :=
    (react_running joined _ (by decide +kernel)).replies
  have hok : (1, .subscribed (.ok ⟨"X-1", [.string "u-1"]⟩)) ∈ answers :=
    mem_granted.1 (by decide +kernel)
  have hempty : after.inbox = [] := List.isEmpty_iff.1 (by decide +kernel)
  have hanswer := (info_after_subscribe _ _ _ _ _ _ hcalling htakes hcall hreplies hok hempty).2.2
  rw [if_pos (by decide +kernel)] at hanswer
  exact ⟨by decide +kernel, hanswer⟩

/-- A caller that was told so, and asks with the argument that it called with, gets no answer if
there is a blank in front of the name. -/
theorem padded_argument_unknown :
    ¬∀ config token seconds cache failing recorded placed s i s' answers ticket argument ack,
      Placed (new config token seconds cache failing recorded) placed s → s.Takes i s' →
      (ticket, Request.subscribe argument) ∈ placed →
      (s'.react i).replies = s'.replies ++ answers →
      (ticket, .subscribed (.ok ack)) ∈ answers → (s'.react i).inbox = [] →
      let after := s'.react i
      (after.ask argument).replies =
        after.replies ++ [(after.calls, .info (some ⟨ack.entity, .active, ack.watchers⟩))] := by
  intro hclaim
  let text := "[\"subscribe_ack\",\x7b\"entityId\":\"X-1\",\"watchers\":[\"u-1\"]\x7d]"
  let i := Input.received (.ok (.text text))
  let after := padded.react i
  have hreplies : after.replies =
      padded.replies ++ repliesOf (padded.connection.step padded.moment i).2 :=
    (react_running padded _ (by decide +kernel)).replies
  have hok : (0, .subscribed (.ok ⟨"X-1", [.string "u-1"]⟩)) ∈
      repliesOf (padded.connection.step padded.moment i).2 := mem_granted.1 (by decide +kernel)
  have hanswer := hclaim _ _ _ _ _ _ _ _ i _ _ _ _ _ placed_padded (.other rfl (Alike.refl _))
    List.mem_cons_self hreplies hok (List.isEmpty_iff.1 (by decide +kernel))
  let tells : Reply → Bool
    | (_, .info standing) => standing.isSome
    | _ => false
  have hnone : (after.ask " X-1").replies.any tells = false := by
    decide +kernel
  rw [hanswer, List.any_append] at hnone
  simp [tells] at hnone

end Session
end LiveSync
