import LiveSync.Proofs.Exchange.Turns

/-!
# What the server holds of the active entities

An acknowledgement names an entity and no request.  So the acceptance of an abandoned request can
make an entity active that a later caller asked for, while the release in between is still under
way; when the server serves the release and refuses the later request, the entity stays active
although the server does not hold it.

`Exchange.Settled` is the invariant of an exchange.  It holds after a completed handshake
(`settled_ofHandshake`), and every step keeps it (`settled_step`).

* `active_held_iff` — when nothing is under way, the server holds exactly those active entities
  whose latest acceptance was not overtaken by a release.
* `active_not_held` — an active entity that the server does not hold.
-/

namespace LiveSync

namespace Ruling

/-- What is held after a ruling: what was just accepted, and what was held and is not released. -/
theorem mem_apply_iff {v : Ruling} {held : List String} {id : String} :
    id ∈ v.apply held ↔ v = .accepted id ∨ (id ∈ held ∧ v ≠ .released id) := by
  cases v with
  | accepted other => simp [apply, eq_comm (a := id)]
  | refused other why => simp [apply]
  | released other => simp [apply, eq_comm (a := id)]

/-- Only an unsubscribe request is answered by a release. -/
theorem Answers.released_iff {r : SubscriptionRequest} {v : Ruling} (h : v.Answers r)
    {id : String} : v = .released id ↔ r = ⟨.unsubscribe, id⟩ := by
  cases h <;> simp

/-- A ruling on the wire after one more was put at its end: it is the new one, or it was there
before and the new one comes after it. -/
theorem suffix_concat {wire after : List Ruling} {v w : Ruling}
    (h : w :: after <:+ wire ++ [v]) :
    w = v ∨ ∃ before, after = before ++ [v] ∧ w :: before <:+ wire := by
  rcases List.suffix_concat_iff.1 h with hnil | ⟨front, heq, hfront⟩
  · exact absurd hnil nofun
  cases front with
  | nil => exact Or.inl (List.cons.inj heq).1
  | cons first before =>
    obtain ⟨rfl, rfl⟩ := List.cons.inj heq
    exact Or.inr ⟨before, rfl, hfront⟩

end Ruling

namespace Exchange

/-- What holds of an exchange at any time. -/
structure Settled (x : Exchange) : Prop where
  /-- The connection is what a turn leaves behind. -/
  ready : x.conn.Ready
  /-- It is established. -/
  connected : x.conn.state = .connected
  /-- An acceptance that no release follows is still in force. -/
  granted : ∀ id after, .accepted id :: after <:+ x.toClient → .released id ∉ after → id ∈ x.held
  /-- What was granted again after a release has its acceptance under way. -/
  regranted : ∀ id after, .released id :: after <:+ x.toClient → id ∈ x.held →
    .accepted id ∈ after
  /-- An active entity whose acceptance was not overtaken is held, and no release is under way. -/
  trusted : ∀ id, x.conn.registry.IsActive id → id ∉ x.overtaken →
    ¬x.Releasing id ∧ id ∈ x.held
  /-- An entity whose acceptance was overtaken is held no longer than until its release is served,
  unless another acceptance is under way. -/
  doubted : ∀ id, id ∈ x.overtaken → id ∈ x.held →
    ⟨.unsubscribe, id⟩ ∈ x.toServer ∨ .accepted id ∈ x.toClient

section

variable {x : Exchange} (h : x.Settled)
include h

/-! ## The connection reacts -/

/-- A reaction that keeps the connection, and makes no entity active that is not to be trusted. -/
theorem settled_react {m : Moment} {i : Input} (hc : (x.conn.step m i).1.state = .connected)
    (ha : ∀ id, (x.conn.step m i).1.registry.IsActive id → id ∉ x.overtaken →
      (⟨.unsubscribe, id⟩ ∉ (x.conn.step m i).2.filterMap SubscriptionRequest.ofEffect?) ∧
        ¬x.Releasing id ∧ id ∈ x.held) : (x.react m i).Settled where
  ready := Turn.ready_step (t := { conn := x.conn, moment := m }) h.ready i
  connected := hc
  granted := h.granted
  regranted := h.regranted
  trusted := by
    intro id hid ho
    obtain ⟨hout, hr, hh⟩ := ha id hid ho
    refine ⟨?_, hh⟩
    rintro (hmem | hmem)
    · rcases List.mem_append.1 hmem with hmem | hmem
      · exact hr (Or.inl hmem)
      · exact hout hmem
    · exact hr (Or.inr hmem)
  doubted := by
    intro id ho hh
    rcases h.doubted id ho hh with hmem | hmem
    · exact Or.inl (List.mem_append_left _ hmem)
    · exact Or.inr hmem

theorem settled_subscribe {m : Moment} (hm : m.Faultless) (id : String) (ticket : Ticket) :
    (x.react m (.command (.subscribe id ticket))).Settled := by
  obtain ⟨hconn, hout⟩ := Connection.step_subscribe h.ready h.connected hm id ticket
  refine settled_react h (by rw [hconn]; exact h.connected) fun other ha ho => ?_
  rw [hconn] at ha
  have hactive := (Registry.isActive_of_apply h.ready.ascending
    (x := .subscribe id ticket m.now true) ha).resolve_right nofun
  refine ⟨?_, h.trusted other hactive ho⟩
  rw [hout]
  split <;> simp

theorem settled_unsubscribe {m : Moment} (hm : m.Faultless) (id : String) (ticket : Ticket) :
    (x.react m (.command (.unsubscribe id ticket))).Settled := by
  obtain ⟨hconn, hout⟩ := Connection.step_unsubscribe h.ready h.connected hm id ticket
  refine settled_react h (by rw [hconn]; exact h.connected) fun other ha ho => ?_
  rw [hconn] at ha
  obtain ⟨hne, hactive⟩ := Registry.isActive_of_unsubscribe h.ready.ascending ha
  refine ⟨?_, h.trusted other hactive ho⟩
  rw [hout]
  split
  · simp [Ne.symm hne]
  · simp

theorem settled_expire (m : Moment) : (x.react m .acknowledgementDue).Settled := by
  obtain ⟨hconn, hout, hactive⟩ := Connection.step_expire h.ready h.connected m
  refine settled_react h hconn fun id ha ho => ⟨?_, h.trusted id (hactive id ha) ho⟩
  rw [hout]
  exact List.not_mem_nil

/-! ## The server decides -/

/-- The server decides on the oldest request. -/
theorem settled_serve {r : SubscriptionRequest} {v : Ruling} (hr : x.toServer.head? = some r)
    (hv : v.Answers r) : (x.serve v).Settled := by
  obtain ⟨rest, hrest⟩ := List.head?_eq_some_iff.1 hr
  have htail : (x.serve v).toServer = rest := by
    show x.toServer.tail = rest
    rw [hrest, List.tail_cons]
  -- what is being released was being released before
  have hreleasing : ∀ {id}, (x.serve v).Releasing id → x.Releasing id := by
    rintro id (hmem | hmem)
    · exact Or.inl (List.mem_of_mem_tail hmem)
    · rcases List.mem_append.1 hmem with hmem | hmem
      · exact Or.inr hmem
      · have hreq := hv.released_iff.1 (List.mem_singleton.1 hmem).symm
        exact Or.inl (hrest ▸ hreq ▸ List.mem_cons_self ..)
  constructor
  case ready => exact h.ready
  case connected => exact h.connected
  case granted =>
    intro id after hsuffix hafter
    show id ∈ v.apply x.held
    rcases Ruling.suffix_concat hsuffix with hlast | ⟨before, rfl, hbefore⟩
    · exact Ruling.mem_apply_iff.2 (Or.inl hlast.symm)
    · have hheld := h.granted id before hbefore fun hm => hafter (List.mem_append_left _ hm)
      refine Ruling.mem_apply_iff.2 (Or.inr ⟨hheld, fun hv => hafter ?_⟩)
      exact List.mem_append_right _ (List.mem_singleton.2 hv.symm)
  case regranted =>
    intro id after hsuffix hheld
    rcases Ruling.suffix_concat hsuffix with hlast | ⟨before, rfl, hbefore⟩
    · rcases Ruling.mem_apply_iff.1 hheld with hv | ⟨-, hv⟩
      · exact absurd (hlast.trans hv) nofun
      · exact absurd hlast.symm hv
    · rcases Ruling.mem_apply_iff.1 hheld with hv | ⟨hheld, -⟩
      · exact List.mem_append_right _ (List.mem_singleton.2 hv.symm)
      · exact List.mem_append_left _ (h.regranted id before hbefore hheld)
  case trusted =>
    intro id ha ho
    obtain ⟨hr', hheld⟩ := h.trusted id ha ho
    refine ⟨fun hs => hr' (hreleasing hs), ?_⟩
    refine Ruling.mem_apply_iff.2 (Or.inr ⟨hheld, fun hv' => hr' (Or.inl ?_)⟩)
    exact hrest ▸ hv.released_iff.1 hv' ▸ List.mem_cons_self ..
  case doubted =>
    intro id ho hheld
    rcases Ruling.mem_apply_iff.1 hheld with hv' | ⟨hheld, hne⟩
    · exact Or.inr (List.mem_append_right _ (List.mem_singleton.2 hv'.symm))
    · rcases h.doubted id ho hheld with hmem | hmem
      · rw [hrest] at hmem
        rcases List.mem_cons.1 hmem with hfirst | hmem
        · exact absurd (hv.released_iff.2 hfirst.symm) hne
        · exact Or.inl (htail ▸ hmem)
      · exact Or.inr (List.mem_append_left _ hmem)

/-! ## A ruling arrives -/

theorem trusted_advance {id : String} (ha : x.conn.registry.IsActive id) (ho : id ∉ x.overtaken) :
    ¬x.advance.Releasing id ∧ id ∈ x.held := by
  obtain ⟨hr, hheld⟩ := h.trusted id ha ho
  refine ⟨?_, hheld⟩
  rintro (hmem | hmem)
  · exact hr (Or.inl hmem)
  · exact hr (Or.inr (List.mem_of_mem_tail hmem))

theorem doubted_advance {v : Ruling} (hv : x.toClient.head? = some v) {id : String}
    (hne : v ≠ .accepted id) (ho : id ∈ x.overtaken) (hheld : id ∈ x.held) :
    ⟨.unsubscribe, id⟩ ∈ x.toServer ∨ .accepted id ∈ x.advance.toClient := by
  obtain ⟨rest, hrest⟩ := List.head?_eq_some_iff.1 hv
  rcases h.doubted id ho hheld with hmem | hmem
  · exact Or.inl hmem
  · rw [hrest] at hmem
    rcases List.mem_cons.1 hmem with hfirst | hmem
    · exact absurd hfirst.symm hne
    · refine Or.inr ?_
      show Ruling.accepted id ∈ x.toClient.tail
      rwa [hrest]

/-- An acceptance that no release overtook is in force when it arrives. -/
theorem held_of_accepted {id : String} (hv : x.toClient.head? = some (.accepted id))
    (hr : ¬x.advance.Releasing id) : id ∈ x.held := by
  obtain ⟨rest, hrest⟩ := List.head?_eq_some_iff.1 hv
  refine h.granted id rest (hrest ▸ List.suffix_rfl) fun hm => hr (Or.inr ?_)
  show Ruling.released id ∈ x.toClient.tail
  rwa [hrest]

/-- An acceptance that a release overtook is not in force for long. -/
theorem doubted_of_accepted {id : String} (hr : x.advance.Releasing id) (hheld : id ∈ x.held) :
    ⟨.unsubscribe, id⟩ ∈ x.toServer ∨ .accepted id ∈ x.advance.toClient := by
  rcases hr with hmem | hmem
  · exact Or.inl hmem
  · obtain ⟨before, after, hsplit⟩ := List.append_of_mem hmem
    have hlater : .released id :: after <:+ x.advance.toClient := ⟨before, hsplit.symm⟩
    have hafter := h.regranted id after (hlater.trans (List.tail_suffix _)) hheld
    exact Or.inr (hlater.subset (List.mem_cons_of_mem _ hafter))

/-- The oldest ruling leaves the wire. -/
theorem settled_arrive {v : Ruling} (hv : x.toClient.head? = some v) : (x.arrive v).Settled := by
  have hsuffix : x.advance.toClient <:+ x.toClient := List.tail_suffix _
  have hgranted : ∀ id after, .accepted id :: after <:+ x.advance.toClient →
      .released id ∉ after → id ∈ x.held :=
    fun id after hs => h.granted id after (hs.trans hsuffix)
  have hregranted : ∀ id after, .released id :: after <:+ x.advance.toClient → id ∈ x.held →
      .accepted id ∈ after :=
    fun id after hs => h.regranted id after (hs.trans hsuffix)
  have hother : (∀ id, v ≠ .accepted id) → x.advance.Settled := fun hne =>
    ⟨h.ready, h.connected, hgranted, hregranted, fun _ => trusted_advance h,
      fun id => doubted_advance h hv (hne id)⟩
  cases v with
  | refused id why => exact hother nofun
  | released id => exact hother nofun
  | accepted id =>
    have hne : ∀ {other}, other ≠ id → Ruling.accepted id ≠ .accepted other :=
      fun hne heq => hne (Ruling.accepted.inj heq).symm
    unfold arrive
    dsimp only
    split
    · rename_i hr
      refine ⟨h.ready, h.connected, hgranted, hregranted, fun other ha ho => ?_,
        fun other ho hheld => ?_⟩
      · exact trusted_advance h ha fun hm => ho (List.mem_cons_of_mem _ hm)
      · by_cases heq : other = id
        · subst heq
          exact doubted_of_accepted h hr hheld
        · exact doubted_advance h hv (hne heq) ((List.mem_cons.1 ho).resolve_left heq) hheld
    · rename_i hr
      refine ⟨h.ready, h.connected, hgranted, hregranted, fun other ha ho => ?_,
        fun other ho hheld => ?_⟩
      · by_cases heq : other = id
        · subst heq
          exact ⟨hr, held_of_accepted h hv hr⟩
        · exact trusted_advance h ha fun hm => ho (List.mem_filter.2 ⟨hm, by simpa using heq⟩)
      · obtain ⟨hm, heq⟩ := List.mem_filter.1 ho
        exact doubted_advance h hv (hne (by simpa using heq)) hm hheld

/-- The oldest ruling arrives in a frame. -/
theorem settled_deliver {m : Moment} {frame : String} {v : Ruling}
    (hv : x.toClient.head? = some v) (hf : v.Carries x.conn frame) :
    (x.deliver m frame v).Settled := by
  have harrive := settled_arrive h hv
  have hconn : (x.arrive v).conn = x.conn := by
    unfold arrive
    split
    · split <;> rfl
    · rfl
    · rfl
  obtain ⟨hstate, hout, hactive⟩ := Connection.step_ruling h.ready h.connected m hf
  rw [← hconn] at hstate hout hactive
  refine settled_react harrive hstate fun id ha ho => ⟨by rw [hout]; exact List.not_mem_nil, ?_⟩
  rcases hactive id ha with rfl | ha
  · -- an entity that this very acceptance made active
    unfold arrive at ho ⊢
    dsimp only at ho ⊢
    split at ho
    · exact absurd (List.mem_cons_self ..) ho
    · rename_i hr
      rw [if_neg hr]
      exact ⟨hr, held_of_accepted h hv hr⟩
  · exact harrive.trusted id ha ho

end

/-- **Every step keeps an exchange settled.** -/
theorem settled_step {x y : Exchange} (h : x.Settled) (hs : Step x y) : y.Settled := by
  cases hs with
  | subscribe m id ticket hm => exact settled_subscribe h hm id ticket
  | unsubscribe m id ticket hm => exact settled_unsubscribe h hm id ticket
  | serve r v hr hv => exact settled_serve h hr hv
  | deliver m frame v hm hv hf => exact settled_deliver h hv hf
  | expire m hm => exact settled_expire h m

/-- A completed handshake settles an exchange: nobody is active yet, and nothing is held. -/
theorem settled_ofHandshake {c : Connection} (h : c.Ready) {m : Moment} (hm : m.Faultless)
    {item : Except Fault Incoming} {socketId : Option String} {socket : SocketNumber}
    {deadline : Nat} (ha : c.attempt = some (.handshaking socket deadline))
    (hj : Turn.judge item = .established socketId) : (ofHandshake c m item).Settled := by
  have hconn := Connection.step_handshake h hm ha hj
  have hwaiting : c.state ≠ .connected := by
    obtain ⟨hs | hs, -⟩ := h.attempt (by rw [ha]; rfl) <;> rw [hs] <;> decide
  constructor
  case ready => exact Turn.ready_step (t := { conn := c, moment := m }) h (.received item)
  case connected =>
    show (c.step m (.received item)).1.state = .connected
    rw [hconn]
    exact Connection.state_established ..
  case granted => exact fun id after hs => absurd (List.suffix_nil.1 hs) nofun
  case regranted => exact fun id after hs => absurd (List.suffix_nil.1 hs) nofun
  case trusted =>
    intro id hid
    replace hid : (c.step m (.received item)).1.registry.IsActive id := hid
    rw [hconn, Connection.registry_established] at hid
    exact absurd hid (Registry.not_isActive_reissue (h.queued hwaiting) m.now)
  case doubted => exact fun id ho => absurd ho List.not_mem_nil

theorem settled_of_reachable {x : Exchange} (hx : Reachable x) : x.Settled := by
  induction hx with
  | start config inputs m item socketId socket deadline hm ha hj =>
    have hready := Connection.ready_run (Connection.ready_new config) inputs
    exact settled_ofHandshake hready hm ha hj
  | step _ hs ih => exact settled_step ih hs

/-- **When the server holds an active entity.**  Whatever was called, decided, delivered and given
up in whatever order: when no request and no ruling is under way, the server holds an active
entity exactly if the latest acceptance of it did not arrive while a release of it was still under
way. -/
theorem active_held_iff {x : Exchange} (hx : Reachable x) (hq : x.Quiet) {id : String}
    (hid : id ∈ x.conn.registry.activeEntities) : id ∈ x.held ↔ id ∉ x.overtaken := by
  have hsettled := settled_of_reachable hx
  obtain ⟨hserver, hclient⟩ := hq
  constructor
  · intro hheld ho
    rcases hsettled.doubted id ho hheld with hmem | hmem
    · exact absurd (hserver ▸ hmem) List.not_mem_nil
    · exact absurd (hclient ▸ hmem) List.not_mem_nil
  · intro ho
    have hactive := (Registry.isActive_iff_mem hsettled.ready.ascending).2 hid
    exact (hsettled.trusted id hactive ho).2

/-! ## An acceptance that is overtaken -/

/-- A moment at which nothing goes wrong. -/
def calm : Moment :=
  { now := 0, seconds := 0, token := some "token", sendFault := fun _ => none, draw := 0.0 }

/-- A connection whose socket was opened just now. -/
def opened : Connection :=
  ((Connection.new ⟨"ws://localhost/ws", {}, {}⟩).run
    [(calm, .command .connect), (calm, .attempt), (calm, .dial), (calm, .opened (.ok 0))]).1

/-- The same connection, greeted by the server. -/
def greeted : Exchange :=
  ofHandshake opened calm (.ok (.text "[\"connect\"]"))

theorem reachable_greeted : Reachable greeted := by
  have hattempt : ∃ deadline, opened.attempt = some (.handshaking 0 deadline) := ⟨_, rfl⟩
  obtain ⟨deadline, ha⟩ := hattempt
  exact Reachable.start _ _ calm _ none 0 deadline (fun _ => rfl) ha rfl

/-- Somebody subscribes to an entity, gives it up, and subscribes to it again. -/
def asked : Exchange :=
  ((greeted.react calm (.command (.subscribe "A" 0))).react calm
    (.command (.unsubscribe "A" 1))).react calm (.command (.subscribe "A" 2))

theorem reachable_asked : Reachable asked := by
  have hfirst := reachable_greeted.step (.subscribe _ calm "A" 0 fun _ => rfl)
  have hsecond := hfirst.step (.unsubscribe _ calm "A" 1 fun _ => rfl)
  exact hsecond.step (.subscribe _ calm "A" 2 fun _ => rfl)

/-- The server accepts the first request, serves the release and refuses the last request. -/
def ruled : Exchange :=
  ((asked.serve (.accepted "A")).serve (.released "A")).serve (.refused "A" "over quota")

theorem reachable_ruled : Reachable ruled := by
  have hfirst := reachable_asked.step
    (.serve _ ⟨.subscribe, "A"⟩ _ (by decide +kernel) (.accepted "A"))
  have hsecond := hfirst.step
    (.serve _ ⟨.unsubscribe, "A"⟩ _ (by decide +kernel) (.released "A"))
  exact hsecond.step
    (.serve _ ⟨.subscribe, "A"⟩ _ (by decide +kernel) (.refused "A" "over quota"))

/-- Everything arrives. -/
def arrived : Exchange :=
  ((ruled.deliver calm "[\"subscribe_ack\",\x7b\"entityId\":\"A\"\x7d]" (.accepted "A")).deliver
    calm "[\"unsubscribe_ack\",\x7b\"entityId\":\"A\"\x7d]" (.released "A")).deliver
      calm "[\"subscribe_ack\",\x7b\"entityId\":\"A\",\"error\":\"over quota\"\x7d]"
        (.refused "A" "over quota")

theorem reachable_arrived : Reachable arrived := by
  have hfirst := reachable_ruled.step (.deliver _ calm
    "[\"subscribe_ack\",\x7b\"entityId\":\"A\"\x7d]" (.accepted "A") (fun _ => rfl)
    (by decide +kernel) ⟨_, rfl, rfl, by decide +kernel, by decide +kernel⟩)
  have hsecond := hfirst.step (.deliver _ calm
    "[\"unsubscribe_ack\",\x7b\"entityId\":\"A\"\x7d]" (.released "A") (fun _ => rfl)
    (by decide +kernel) ⟨_, rfl, rfl, by decide +kernel, by decide +kernel⟩)
  exact hsecond.step (.deliver _ calm
    "[\"subscribe_ack\",\x7b\"entityId\":\"A\",\"error\":\"over quota\"\x7d]"
    (.refused "A" "over quota") (fun _ => rfl) (by decide +kernel)
    ⟨_, rfl, rfl, by decide +kernel, by decide +kernel⟩)

theorem unheld_arrived :
    arrived.Quiet ∧ "A" ∈ arrived.conn.registry.activeEntities ∧ "A" ∉ arrived.held := by
  unfold Quiet
  decide +kernel

/-- The first acceptance is overtaken by the release, and the server holds nothing. -/
theorem active_held_iff_arrived :
    Reachable arrived ∧ arrived.Quiet ∧ "A" ∈ arrived.conn.registry.activeEntities ∧
      ("A" ∈ arrived.held ↔ "A" ∉ arrived.overtaken) :=
  ⟨reachable_arrived, unheld_arrived.1, unheld_arrived.2.1,
    active_held_iff reachable_arrived unheld_arrived.1 unheld_arrived.2.1⟩

/-- **An active entity that the server does not hold.**  Nothing is under way any more, and yet
not every active entity is held. -/
theorem active_not_held :
    ¬∀ x, Reachable x → x.Quiet → ∀ id ∈ x.conn.registry.activeEntities, id ∈ x.held := by
  intro hall
  obtain ⟨hquiet, hactive, hheld⟩ := unheld_arrived
  exact hheld (hall arrived reachable_arrived hquiet "A" hactive)

end Exchange
end LiveSync
