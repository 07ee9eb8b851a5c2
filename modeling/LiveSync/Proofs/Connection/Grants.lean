import LiveSync.Proofs.Connection.Answers
import LiveSync.Proofs.Registry.Replies

/-!
# Who is told that it is subscribed

A caller is told that it is subscribed by a change of the registry, and what else the same reaction
does takes nothing back: when the reaction is over the entity is active, with the watchers that the
answer has.  Both callers and entities get into the registry by a call to subscribe alone.

* `Answer.granted?`, `Deed.Mute` — the answers that grant a subscription, and deeds that give none.
* `Deed.Names`, `names_reaction` — a call to subscribe changes the registry for its own entity.
* `awaited_step`, `known_step` — who waits after a step, and which entities have an entry.
* `Grants`, `grants_step` — what is so once somebody was told that it is subscribed.
* `step_info` — how a question is answered.
-/

namespace LiveSync

open LiveSync.Json

/-! ## Answers that grant a subscription -/

/-- What is granted by an answer, if anything is. -/
def Answer.granted? : Answer → Option Ack
  | .subscribed (.ok ack) => some ack
  | _ => none

theorem Answer.eq_of_granted? {a : Answer} {ack : Ack} (h : a.granted? = some ack) :
    a = .subscribed (.ok ack) := by
  cases a with
  | subscribed outcome =>
    cases outcome with
    | error f => exact absurd h nofun
    | ok other => rw [Option.some.inj h]
  | _ => exact absurd h nofun

/-- The subscriptions that answers grant, each with the caller that is told. -/
def granted (replies : List Reply) : List (Ticket × Ack) :=
  replies.filterMap fun reply => reply.2.granted?.map (reply.1, ·)

theorem mem_granted {replies : List Reply} {ticket : Ticket} {ack : Ack} :
    (ticket, ack) ∈ granted replies ↔ (ticket, .subscribed (.ok ack)) ∈ replies := by
  constructor
  · intro h
    obtain ⟨⟨caller, a⟩, hreply, heq⟩ := List.mem_filterMap.1 h
    obtain ⟨other, hgranted, hpair⟩ := Option.map_eq_some_iff.1 heq
    obtain ⟨rfl, rfl⟩ := Prod.mk.inj hpair
    rwa [← Answer.eq_of_granted? hgranted]
  · exact fun h => List.mem_filterMap.2 ⟨_, h, rfl⟩

/-- None of the answers grants a subscription. -/
def Denies (replies : List Reply) : Prop :=
  ∀ reply ∈ replies, reply.2.granted? = none

theorem Denies.not_mem {replies : List Reply} (h : Denies replies) {ticket : Ticket} {ack : Ack} :
    (ticket, .subscribed (.ok ack)) ∉ replies :=
  fun hm => absurd (h _ hm) nofun

theorem denies_nil : Denies [] :=
  List.forall_mem_nil _

theorem Denies.append {a b : List Reply} (ha : Denies a) (hb : Denies b) : Denies (a ++ b) :=
  List.forall_mem_append.2 ⟨ha, hb⟩

theorem denies_tellSubscribers {e : Entry} {f : Fault} : Denies (e.tellSubscribers (.error f)) := by
  intro reply hreply
  obtain ⟨ticket, -, rfl⟩ := List.mem_map.1 hreply
  rfl

theorem denies_tellReleasers {e : Entry} {outcome : Except Fault Unit} :
    Denies (e.tellReleasers outcome) := by
  intro reply hreply
  obtain ⟨ticket, -, rfl⟩ := List.mem_map.1 hreply
  rfl

theorem denies_flatMap {entries : List (String × Entry)} {f : String × Entry → List Reply}
    (hf : ∀ p, Denies (f p)) : Denies (entries.flatMap f) := by
  intro reply hreply
  obtain ⟨p, -, hreply⟩ := List.mem_flatMap.1 hreply
  exact hf p reply hreply

/-- A change after which a request has to go out grants nothing: that is for the server to do. -/
theorem Registry.denies_of_asks {r : Registry} {x : Registry.Change} (h : r.asks x = true) :
    Denies (r.apply x).1 := by
  cases x with
  | subscribe id ticket now connected =>
    dsimp only [asks, apply] at h ⊢
    unfold subscribe at h ⊢
    cases hg : r.get? id with
    | none => exact denies_nil
    | some e =>
      rw [hg] at h
      dsimp only at h ⊢
      cases hs : e.status with
      | pending => exact denies_nil
      | active =>
        rw [hs] at h
        exact absurd h nofun
      | releasing => exact denies_tellReleasers
  | unsubscribe id ticket now connected =>
    dsimp only [asks, apply] at h ⊢
    unfold unsubscribe at h ⊢
    cases hg : r.get? id with
    | none => exact List.forall_mem_singleton.2 rfl
    | some e =>
      dsimp only
      split
      · exact denies_nil
      · split
        · exact denies_nil
        · exact denies_tellSubscribers.append (List.forall_mem_singleton.2 rfl)
  | _ => exact absurd h nofun

/-! ## Deeds that grant nothing -/

/-- The deed grants no subscription, whatever the registry. -/
def Deed.Mute (d : Deed) : Prop :=
  ∀ r : Registry, Denies (repliesOf (r.perform [d]).1)

theorem Registry.denies_perform {deeds : List Deed} (h : ∀ d ∈ deeds, d.Mute) (r : Registry) :
    Denies (repliesOf (r.perform deeds).1) := by
  induction deeds generalizing r with
  | nil => exact denies_nil
  | cons d rest ih =>
    obtain ⟨hfirst, hrest⟩ := List.forall_mem_cons.1 h
    rw [← List.singleton_append, perform_append, repliesOf_append]
    exact (hfirst r).append (ih hrest _)

theorem mute_frame {socket : SocketNumber} {envelope : Envelope} {fault : Option Fault} :
    Deed.Mute (.message (.frame socket envelope fault)) :=
  fun _ => denies_nil

/-- A change after which a request goes out, the request, and what follows from it. -/
theorem Registry.denies_asked {r : Registry} {x : Registry.Change} {socket : SocketNumber}
    {envelope : Envelope} {fault : Option Fault} {rest : List Deed} (hasks : r.asks x = true)
    (hrest : ∀ d ∈ rest, d.Mute) :
    Denies (repliesOf
      (r.perform (.change x :: .message (.frame socket envelope fault) :: rest)).1) := by
  rw [perform, repliesOf_append, repliesOf_replyEffects]
  exact (denies_of_asks hasks).append
    (denies_perform (List.forall_mem_cons.2 ⟨mute_frame, hrest⟩) _)

theorem mute_change {x : Registry.Change} (h : ∀ r : Registry, Denies (r.apply x).1) :
    Deed.Mute (.change x) := by
  intro r
  simpa [Registry.perform] using h r

theorem mute_clear (fault : Fault) : Deed.Mute (.change (.clear fault)) :=
  mute_change fun _ => denies_flatMap fun _ =>
    denies_tellSubscribers.append denies_tellReleasers

theorem Deed.IsRetreat.mute {d : Deed} (h : d.IsRetreat) : d.Mute := by
  rcases h with rfl | rfl
  · exact mute_change fun _ => denies_flatMap fun _ => denies_tellReleasers
  · exact mute_change fun _ => denies_flatMap fun _ => denies_tellSubscribers

theorem Retreat.mute {c : Connection} {deeds : List Deed} (h : Retreat c deeds) :
    ∀ d ∈ deeds, d.Mute :=
  fun d hd => (h.only d hd).mute

theorem mute_frames {frames : List Effect} (h : ∀ e ∈ frames, ∃ s x f, e = .frame s x f) :
    ∀ d ∈ frames.map Deed.message, d.Mute := by
  intro d hd
  obtain ⟨e, he, rfl⟩ := List.mem_map.1 hd
  obtain ⟨s, x, f, rfl⟩ := h e he
  exact mute_frame

namespace Connection

variable {c c' : Connection} {i : Input}

theorem Ending.mute {rest : List Deed} (h : c.Ending i c' rest) : ∀ d ∈ rest, d.Mute := by
  cases h with
  | stays => exact nofun
  | retreat h => exact h.mute

theorem Sent.mute {fault : Option Fault} {rest : List Deed} (h : c.Sent i c' fault rest) :
    ∀ d ∈ rest, d.Mute := by
  cases h with
  | written => exact nofun
  | lost _ h => exact h.mute

theorem Farewell.mute {frames : List Effect} (h : c.Farewell frames) :
    ∀ d ∈ frames.map Deed.message, d.Mute := by
  refine mute_frames fun e he => ?_
  cases h with
  | silent => exact absurd he List.not_mem_nil
  | held _ hreleases =>
    obtain ⟨id, -, fault, rfl⟩ := hreleases.frames e he
    exact ⟨_, _, _, rfl⟩

/-- Asking again writes requests and gives up what could not be written. -/
theorem Asking.forall {P : Deed → Prop}
    (hframe : ∀ socket envelope fault, P (.message (.frame socket envelope fault)))
    (hretreat : ∀ d, d.IsRetreat → P d) {socket : SocketNumber} {ids : List String}
    {deeds : List Deed} (h : c.Asking socket ids c' deeds) : ∀ d ∈ deeds, P d := by
  have hwritten : ∀ ids : List String, ∀ d ∈ ids.map fun id =>
      Deed.message (c.requestFrame socket .subscribe id none), P d := by
    intro ids d hd
    obtain ⟨id, -, rfl⟩ := List.mem_map.1 hd
    exact hframe ..
  cases h with
  | all => exact hwritten ids
  | part written id unasked fault rest h =>
    exact List.forall_mem_append.2
      ⟨hwritten written, List.forall_mem_cons.2 ⟨hframe .., fun d hd => hretreat d (h.only d hd)⟩⟩

end Connection

/-! ## Calls to subscribe -/

/-- The change is the call of somebody who wants to be subscribed to an entity. -/
def Registry.Change.Wants (x : Change) (ticket : Ticket) (id : String) : Prop :=
  x.caller? = some (ticket, .subscribe) ∧ x.entity? = some id

/-- If the deed is a call to subscribe, it is the one that the input makes. -/
def Deed.Names (i : Input) : Deed → Prop
  | .change x => ∀ ticket id, x.Wants ticket id → i = .command (.subscribe id ticket)
  | .message _ => True

theorem names_of_nobody {i : Input} {x : Registry.Change} (h : x.caller? = none) :
    Deed.Names i (.change x) :=
  fun _ _ hwants => absurd (h.symm.trans hwants.1) nofun

theorem names_messages (i : Input) (es : List Effect) : ∀ d ∈ es.map Deed.message, d.Names i := by
  intro d hd
  obtain ⟨e, -, rfl⟩ := List.mem_map.1 hd
  trivial

theorem Deed.IsRetreat.names {d : Deed} (h : d.IsRetreat) (i : Input) : d.Names i := by
  rcases h with rfl | rfl <;> exact names_of_nobody rfl

theorem Retreat.names {c : Connection} {deeds : List Deed} (h : Retreat c deeds) (i : Input) :
    ∀ d ∈ deeds, d.Names i :=
  fun d hd => (h.only d hd).names i

theorem Moment.Calls.names {m : Moment} {connected : Bool} {i : Input} {x : Registry.Change}
    {operation : Operation} {id : String} (h : m.Calls connected i x operation id) :
    Deed.Names i (.change x) := by
  cases h with
  | subscribe id ticket =>
    rintro ticket' id' ⟨hcaller, hentity⟩
    rw [(Prod.mk.inj (Option.some.inj hcaller)).1, Option.some.inj hentity]
  | unsubscribe id ticket =>
    exact fun _ _ hwants => absurd hwants.1 (by simp [Registry.Change.caller?])

namespace Connection

section

variable {c c' : Connection} {m : Moment} {i : Input} {deeds : List Deed}

theorem Ending.names (h : c.Ending i c' deeds) : ∀ d ∈ deeds, d.Names i := by
  cases h with
  | stays => exact nofun
  | retreat h => exact h.names i

theorem Sent.names {fault : Option Fault} (h : c.Sent i c' fault deeds) :
    ∀ d ∈ deeds, d.Names i := by
  cases h with
  | written => exact nofun
  | lost _ h => exact h.names i

/-- **A reaction calls for no entity but the one that its input names.** -/
theorem names_reaction (h : c.Reaction m i c' deeds) : ∀ d ∈ deeds, d.Names i := by
  cases h with
  | quiet hcaller hframes hend =>
    exact List.forall_mem_append.2 ⟨names_messages i _, hend.names⟩
  | told => exact List.forall_mem_singleton.2 trivial
  | emitted hcaller hs hend =>
    exact List.forall_mem_cons.2 ⟨trivial, List.forall_mem_cons.2 ⟨trivial, hend.names⟩⟩
  | queued hcall => exact List.forall_mem_singleton.2 hcall.names
  | called hcall => exact List.forall_mem_singleton.2 hcall.names
  | asked hcall hcaller hs hasks hsent =>
    exact List.forall_mem_cons.2 ⟨hcall.names, List.forall_mem_cons.2 ⟨trivial, hsent.names⟩⟩
  | ruled hrules => cases hrules <;> exact List.forall_mem_singleton.2 (names_of_nobody rfl)
  | expired => exact List.forall_mem_singleton.2 (names_of_nobody rfl)
  | left hcaller hfarewell hretreat =>
    exact List.forall_mem_append.2 ⟨names_messages _ _, hretreat.names _⟩
  | stopped =>
    exact List.forall_mem_append.2
      ⟨names_messages i _, List.forall_mem_singleton.2 (names_of_nobody rfl)⟩
  | established hattempt hjudge hasking =>
    exact List.forall_mem_cons.2 ⟨names_of_nobody rfl,
      hasking.forall (fun _ _ _ => trivial) fun _ hd => hd.names _⟩

end

end Connection

namespace Registry

variable {r : Registry}

/-- Only a call to subscribe makes an entry. -/
theorem known_apply (h : r.Ascending) {x : Change} {id : String} {e : Entry}
    (hg : (r.apply x).2.get? id = some e) :
    (∃ e, r.get? id = some e) ∨ ∃ ticket, x.Wants ticket id := by
  cases leaves_of_mem (mem_of_get? hg) with
  | opened ticket => exact Or.inr ⟨ticket, rfl, rfl⟩
  | kept hm | joined _ _ _ hm | rejoined _ _ _ hm | parted _ _ hm | acknowledged _ hm
  | watched _ hm | demoted hm | reissued _ hm | failed _ hm =>
    exact Or.inl ⟨_, get?_of_mem h hm⟩

/-- Whoever waits to be subscribed waited before, or the change is its call. -/
theorem awaited_apply (h : r.Ascending) {x : Change} {id : String} {ticket : Ticket}
    (hw : (ticket, .subscribe) ∈ (r.apply x).2.callersOf id) :
    (ticket, .subscribe) ∈ r.callersOf id ∨ x.Wants ticket id :=
  party_apply h hw

theorem known_perform (h : r.Ascending) {deeds : List Deed} {id : String} {e : Entry}
    (hg : (r.perform deeds).2.get? id = some e) :
    (∃ e, r.get? id = some e) ∨ ∃ x ticket, .change x ∈ deeds ∧ x.Wants ticket id := by
  induction deeds generalizing r with
  | nil => exact Or.inl ⟨e, hg⟩
  | cons d rest ih =>
    cases d with
    | message _ =>
      exact (ih h hg).imp_right fun ⟨x, ticket, hx, hwants⟩ =>
        ⟨x, ticket, List.mem_cons_of_mem _ hx, hwants⟩
    | change x =>
      rcases ih (ascending_apply h x) hg with ⟨e', hg'⟩ | ⟨y, ticket, hy, hwants⟩
      · exact (known_apply h hg').imp_right fun ⟨ticket, hwants⟩ =>
          ⟨x, ticket, List.mem_cons_self, hwants⟩
      · exact Or.inr ⟨y, ticket, List.mem_cons_of_mem _ hy, hwants⟩

theorem awaited_perform (h : r.Ascending) {deeds : List Deed} {id : String} {ticket : Ticket}
    (hw : (ticket, .subscribe) ∈ (r.perform deeds).2.callersOf id) :
    (ticket, .subscribe) ∈ r.callersOf id ∨ ∃ x, .change x ∈ deeds ∧ x.Wants ticket id := by
  induction deeds generalizing r with
  | nil => exact Or.inl hw
  | cons d rest ih =>
    cases d with
    | message _ =>
      exact (ih h hw).imp_right fun ⟨x, hx, hwants⟩ => ⟨x, List.mem_cons_of_mem _ hx, hwants⟩
    | change x =>
      rcases ih (ascending_apply h x) hw with hbefore | ⟨y, hy, hwants⟩
      · exact (awaited_apply h hbefore).imp_right fun hwants => ⟨x, List.mem_cons_self, hwants⟩
      · exact Or.inr ⟨y, List.mem_cons_of_mem _ hy, hwants⟩

end Registry

namespace Connection

section

variable {c : Connection} (h : c.Ready) {m : Moment} {i : Input} {id : String}
include h

/-- **Only a command to subscribe makes an entry.** -/
theorem known_step {e : Entry} (hg : (c.step m i).1.registry.get? id = some e) :
    (∃ e, c.registry.get? id = some e) ∨ ∃ ticket, i = .command (.subscribe id ticket) := by
  obtain ⟨deeds, hr, hregistry, -⟩ := reaction_step h m i
  rw [hregistry] at hg
  exact (Registry.known_perform h.ascending hg).imp_right fun ⟨x, ticket, hx, hwants⟩ =>
    ⟨ticket, names_reaction hr _ hx ticket id hwants⟩

/-- **Only a command to subscribe makes a caller wait to be subscribed.** -/
theorem awaited_step {ticket : Ticket}
    (hw : (ticket, .subscribe) ∈ (c.step m i).1.registry.callersOf id) :
    (ticket, .subscribe) ∈ c.registry.callersOf id ∨ i = .command (.subscribe id ticket) := by
  obtain ⟨deeds, hr, hregistry, -⟩ := reaction_step h m i
  rw [hregistry] at hw
  exact (Registry.awaited_perform h.ascending hw).imp_right fun ⟨x, hx, hwants⟩ =>
    names_reaction hr _ hx ticket id hwants

end

/-! ## What is so once a subscription was granted -/

theorem taken?_eq_some {c : Connection} {i : Input} {x : Command} (h : c.taken? i = some x) :
    i = .command x ∧ c.stopped = false ∧ ¬c.AttemptDue := by
  cases i with
  | command y =>
    dsimp only [taken?] at h
    split at h
    · exact absurd h nofun
    · rename_i hopen
      obtain ⟨hr, hd⟩ := not_or.1 hopen
      exact ⟨congrArg Input.command (Option.some.inj h), by simpa using hr, hd⟩
  | _ => exact absurd h nofun

/-- What is so once a caller was told that it is subscribed. -/
structure Grants (c : Connection) (i : Input) (c' : Connection) (ticket : Ticket) (ack : Ack) :
    Prop where
  /-- It waited for that entity, or it called for it just now. -/
  caller : (ticket, .subscribe) ∈ c.registry.callersOf ack.entity ∨
    i = .command (.subscribe ack.entity ticket)
  /-- The entity is active and has the watchers of the answer. -/
  standing : c'.registry.standing? ack.entity = some ⟨ack.entity, .active, ack.watchers⟩

section

variable {c c' : Connection} (h : c.Attentive) {i : Input} {ticket : Ticket} {ack : Ack}
include h

/-- A change of the registry that grants a subscription, and nothing after it. -/
theorem grants_change {x : Registry.Change} (hnames : Deed.Names i (.change x))
    (hregistry : c'.registry = (c.registry.apply x).2)
    (hreply : (ticket, .subscribed (.ok ack)) ∈ (c.registry.apply x).1) :
    c.Grants i c' ticket ack := by
  have hx : ∀ fault, x ≠ .failSubscribers fault ∧ x ≠ .clear fault := by
    refine fun fault => ⟨?_, ?_⟩
    · rintro rfl
      exact (denies_flatMap fun _ => denies_tellSubscribers).not_mem hreply
    · rintro rfl
      exact (denies_flatMap fun _ =>
        denies_tellSubscribers.append denies_tellReleasers).not_mem hreply
  obtain ⟨id, hparty, htruthful⟩ := Registry.sincere_apply h.ascending h.tidy hx _ hreply
  cases htruthful with
  | subscribed hg hs =>
    refine ⟨hparty.imp_right fun hwants => hnames ticket id hwants, ?_⟩
    unfold Registry.standing?
    rw [hregistry, hg, Option.map_some, hs]

/-- A subscription is granted by a change alone, if it is not told to the caller at once. -/
theorem grants_reaction {m : Moment} {deeds : List Deed} (hr : c.Reaction m i c' deeds)
    (hregistry : c'.registry = (c.registry.perform deeds).2)
    (hreply : (ticket, .subscribed (.ok ack)) ∈ repliesOf (c.registry.perform deeds).1) :
    c.Grants i c' ticket ack ∨ c.caller? i = some (ticket, .subscribe) := by
  have hnames := names_reaction hr
  have halone : ∀ {x : Registry.Change}, deeds = [.change x] → c.Grants i c' ticket ack := by
    rintro x rfl
    refine grants_change h (List.forall_mem_singleton.1 hnames) hregistry ?_
    simpa [Registry.perform] using hreply
  have hmute : (∀ d ∈ deeds, d.Mute) → False :=
    fun hmute => (Registry.denies_perform hmute _).not_mem hreply
  cases hr with
  | quiet hcaller hframes hend =>
    refine (hmute (List.forall_mem_append.2 ⟨mute_frames fun e he => ?_, hend.mute⟩)).elim
    obtain ⟨s, x, f, -, -, rfl⟩ := hframes e he
    exact ⟨s, x, f, rfl⟩
  | told hcaller =>
    obtain ⟨rfl, rfl⟩ : ticket = _ ∧ Answer.subscribed (.ok ack) = _ := by
      simpa [Registry.perform, repliesOf, Effect.reply?] using hreply
    exact Or.inr hcaller
  | emitted hcaller hs hend =>
    rename_i rest
    have hreply : (ticket, .subscribed (.ok ack)) ∈ repliesOf (c.registry.perform rest).1 := by
      simpa [Registry.perform, repliesOf, Effect.reply?] using hreply
    exact absurd hreply (Registry.denies_perform hend.mute _).not_mem
  | queued | called | ruled | expired => exact Or.inl (halone rfl)
  | asked hcall hcaller hs hasks hsent =>
    exact absurd hreply (Registry.denies_asked hasks hsent.mute).not_mem
  | left hcaller hfarewell hretreat =>
    exact (hmute (List.forall_mem_append.2 ⟨hfarewell.mute, hretreat.mute⟩)).elim
  | stopped hcaller hrunning hstopped hfarewell =>
    exact (hmute (List.forall_mem_append.2
      ⟨hfarewell.mute, List.forall_mem_singleton.2 (mute_clear _)⟩)).elim
  | established hattempt hjudge hasking =>
    exact (hmute (List.forall_mem_cons.2
      ⟨mute_change fun _ => denies_nil,
        hasking.forall (fun _ _ _ => mute_frame) fun _ => Deed.IsRetreat.mute⟩)).elim

/-- A subscription is granted at once to a caller who asks for it while the entity is active. -/
theorem grants_subscribe {m : Moment} {id : String} {caller : Ticket}
    (htaken : c.taken? (.command (.subscribe id caller)) = some (.subscribe id caller))
    (hreply : (ticket, .subscribed (.ok ack)) ∈
      repliesOf (c.step m (.command (.subscribe id caller))).2) :
    c.Grants (.command (.subscribe id caller)) (c.step m (.command (.subscribe id caller))).1 ticket
      ack := by
  let t : Turn := { conn := c, moment := m }
  let i : Input := .command (.subscribe id caller)
  obtain ⟨-, hr, hd⟩ := taken?_eq_some htaken
  have hdeeds : ∀ {t' : Turn} {deeds : List Deed}, t.step i = t' → Turn.Does t t' deeds →
      (c.step m i).1.registry = (c.registry.perform deeds).2 ∧
        (ticket, .subscribed (.ok ack)) ∈ repliesOf (c.registry.perform deeds).1 := by
    rintro t' deeds rfl hdoes
    refine ⟨hdoes.registry, ?_⟩
    rw [← repliesOf_messages] at hreply
    have hmessages : (c.step m i).2.filter Effect.isMessage = _ := hdoes.messages
    rwa [hmessages] at hreply
  have hchange : ∀ {t' : Turn} {connected : Bool}, t.step i = t' →
      Turn.Does t t' [.change (.subscribe id caller m.now connected)] →
      c.Grants i (c.step m i).1 ticket ack := by
    intro t' connected hstep hdoes
    obtain ⟨hregistry, hreply⟩ := hdeeds hstep hdoes
    have hnames : Deed.Names i (.change (.subscribe id caller m.now connected)) :=
      (Moment.Calls.subscribe (m := m) id caller).names
    exact grants_change h hnames hregistry (by simpa [Registry.perform] using hreply)
  by_cases hc : c.state = .connected
  · let x : Registry.Change := .subscribe id caller m.now true
    have hstep : t.step i = t.requestAfter (c.registry.asks x, c.registry.apply x) .subscribe id :=
      Turn.step_connected (t := t) h.toReady hc i
    unfold Turn.requestAfter at hstep
    cases hasks : c.registry.asks x with
    | false =>
      rw [hasks] at hstep
      exact hchange hstep (Turn.does_change t x)
    | true =>
      obtain ⟨socket, hs⟩ := Option.isSome_iff_exists.1 (h.socket.2 hc)
      rw [hasks] at hstep
      rcases Turn.does_request (t := t.setRegistry (c.registry.apply x)) hs
        (h.noAttempt hc) .subscribe id with ⟨hdoes, -⟩ | ⟨fault, rest, hdoes, hretreat⟩
      · have hreply := (hdeeds hstep ((Turn.does_change t x).trans hdoes)).2
        exact absurd hreply (Registry.denies_asked hasks (List.forall_mem_nil _)).not_mem
      · have hreply := (hdeeds hstep ((Turn.does_change t x).trans hdoes)).2
        exact absurd hreply (Registry.denies_asked hasks hretreat.mute).not_mem
  · have hstep : t.step i = t.commandOffline (.subscribe id caller) :=
      Turn.step_command (t := t) hr hc hd _
    dsimp only [Turn.commandOffline] at hstep
    split at hstep
    · exact hchange hstep (Turn.does_change t (.subscribe id caller m.now false))
    · have hreply := (hdeeds hstep (Turn.does_answer ..)).2
      exact absurd (List.mem_singleton.1 hreply) (by simp)

/-- **Who was told that it is subscribed, is subscribed.** -/
theorem grants_step {m : Moment}
    (hreply : (ticket, .subscribed (.ok ack)) ∈ repliesOf (c.step m i).2) :
    c.Grants i (c.step m i).1 ticket ack := by
  obtain ⟨deeds, hr, hregistry, hmessages⟩ := reaction_step h.toReady m i
  have hdeed := hreply
  rw [← repliesOf_messages, hmessages] at hdeed
  rcases grants_reaction h hr hregistry hdeed with hgrants | hcaller
  · exact hgrants
  · obtain ⟨x, htaken, hx⟩ := Option.bind_eq_some_iff.1 hcaller
    obtain ⟨rfl, -⟩ := taken?_eq_some htaken
    cases x with
    | subscribe id caller => exact grants_subscribe h htaken hreply
    | _ => exact absurd hx (by simp [Command.caller?])

end

/-! ## Questions -/

section

variable {c : Connection} (h : c.Ready) {id : String}
include h

/-- A connection that holds an active subscription takes every command. -/
theorem taken?_of_standing {ack : Ack}
    (hs : c.registry.standing? id = some ⟨ack.entity, .active, ack.watchers⟩) (x : Command) :
    c.taken? (.command x) = some x := by
  obtain ⟨e, hg, he⟩ := Option.map_eq_some_iff.1 hs
  have hactive : e.status = .active := congrArg Standing.status he
  have hc : c.state = .connected := by
    by_contra hne
    exact absurd (((h.queued hne).of_get? hg).pending.symm.trans hactive) nofun
  refine taken?_command (h.running (by rw [hc]; decide)) ?_ x
  rintro ⟨hw | hw, -⟩ <;> exact absurd (hc.symm.trans hw) nofun

/-- **A question is answered from the registry**, and changes nothing. -/
theorem step_info {ticket : Ticket}
    (htaken : c.taken? (.command (.info id ticket)) = some (.info id ticket)) (m : Moment) :
    c.step m (.command (.info id ticket)) =
      (c, [.reply ticket (.info (c.registry.standing? id))]) := by
  let t : Turn := { conn := c, moment := m }
  obtain ⟨-, hr, hd⟩ := taken?_eq_some htaken
  have hstep : t.step (.command (.info id ticket)) = t.tellStanding id ticket := by
    by_cases hc : c.state = .connected
    · exact Turn.step_connected (t := t) h hc _
    · exact Turn.step_command (t := t) hr hc hd _
  unfold step
  rw [show Turn.step { conn := c, moment := m } _ = _ from hstep]
  rfl

end

end Connection
end LiveSync
