import LiveSync.Proofs.Connection.Publications
import LiveSync.Proofs.Dedup.Provenance

/-!
# Events of the server are passed on in order

While a connection lasts, listeners are told of every event of the server in the order in which it
came in, between the reports of the connection about itself.  A `disconnect` is not passed on, and
an event that may be suppressed is not if one that passes for it was passed on lately over the
same connection; a text that is no frame of the protocol leaves no trace at all.

* `Interleaves` — a list with reports of given names between its elements.
* `Connection.relays`, `relayed` — what is passed on for an input, and in a run.
* `Connection.Heard` — what listeners are told for one event of the server, in full.
* `heard_step`, `interleaves_step` — what one step tells.
* `Connection.Recalls` — what is remembered was passed on since the connection began.
* `relayed_in_order` — what a whole connection tells.
* `withheld_by_collision` — an event that is not passed on although it is no repetition.
-/

namespace LiveSync

open LiveSync.Json

/-! ## Reports in between -/

/-- A list of events, and the same list with events of some names put in between. -/
inductive Interleaves (names : List String) :
    List (String × Value) → List (String × Value) → Prop where
  /-- Nothing at all. -/
  | nil : Interleaves names [] []
  /-- An event of the list. -/
  | kept {p : String × Value} {wire all : List (String × Value)} (h : Interleaves names wire all) :
      Interleaves names (p :: wire) (p :: all)
  /-- An event that is put in. -/
  | added {p : String × Value} {wire all : List (String × Value)} (hp : p.1 ∈ names)
      (h : Interleaves names wire all) : Interleaves names wire (p :: all)

namespace Interleaves

variable {names : List String} {wire wire' all all' : List (String × Value)}

theorem self (all : List (String × Value)) : Interleaves names all all := by
  induction all with
  | nil => exact .nil
  | cons p rest ih => exact ih.kept

theorem of_only (h : Only names all) : Interleaves names [] all := by
  induction all with
  | nil => exact .nil
  | cons p rest ih =>
    exact .added (h p List.mem_cons_self) (ih fun q hq => h q (List.mem_cons_of_mem p hq))

theorem append (h : Interleaves names wire all) (h' : Interleaves names wire' all') :
    Interleaves names (wire ++ wire') (all ++ all') := by
  induction h with
  | nil => exact h'
  | kept _ ih => exact ih.kept
  | added hp _ ih => exact ih.added hp

end Interleaves

/-! ## What is passed on -/

/-- The text that comes in, if one does. -/
def Input.text? : Input → Option String
  | .received (.ok (.text frame)) => some frame
  | _ => none

namespace Connection

/-- What of an event of the server is passed on to listeners, word for word. -/
def relaysEvent (c : Connection) (m : Moment) (event : String) (payload : Value) :
    List (String × Value) :=
  if event = EventName.disconnect then []
  else if event ≠ EventName.connectError ∧ (c.dedup.offer event payload m.now).1 then []
  else [(event, payload)]

/-- What of an input is passed on to listeners. -/
def relays (c : Connection) (m : Moment) (i : Input) : List (String × Value) :=
  match i.text?.map Frame.decode with
  | some (.ok e) => c.relaysEvent m e.event (c.normalizer.inbound e.data)
  | _ => []

/-- What is passed on in a run, and when. -/
def relayed (c : Connection) : List (Moment × Input) → List (Nat × String × Value)
  | [] => []
  | (m, i) :: rest => (c.relays m i).map (m.now, ·) ++ (c.step m i).1.relayed rest

/-- What listeners are told of an event of the server: what of it is passed on, and all they are
told, given what was passed on before. -/
inductive Heard (options : Options) (m : Moment) (before : List (Nat × String × Value))
    (event : String) (payload : Value) : (relays told : List (String × Value)) → Prop where
  /-- A `disconnect` is not passed on; the connection reports its end instead. -/
  | ended {reason : Value} {rest : List (String × Value)} (he : event = EventName.disconnect)
      (hrest : Only aftermath rest) :
      Heard options m before event payload [] ((EventName.disconnect, reason) :: rest)
  /-- A `connect_error` is passed on; then the connection reports its end. -/
  | refused {reason : Value} {rest : List (String × Value)} (he : event = EventName.connectError)
      (hrest : Only aftermath rest) :
      Heard options m before event payload [(event, payload)]
        ((event, payload) :: (EventName.disconnect, reason) :: rest)
  /-- Any other event is passed on after what is to be reported about it. -/
  | passed (hend : event ≠ EventName.disconnect) (herror : event ≠ EventName.connectError) :
      Heard options m before event payload [(event, payload)]
        (refusals event payload ++ [(event, payload)])
  /-- What passes for a repetition is not passed on: the event is one of those that may be
  suppressed, and it was passed on within the window, or one of them that collides with it was. -/
  | repeated {time : Nat} {name : String} {original : Value} (hend : event ≠ EventName.disconnect)
      (herror : event ≠ EventName.connectError) (hlisted : event ∈ options.dedupEvents)
      (hname : name ∈ options.dedupEvents) (hpassed : (time, name, original) ∈ before)
      (htwins : DedupFilter.Twins name original event payload)
      (hwindow : m.now < time + Span.ofMillis options.dedupWindowMs) :
      Heard options m before event payload [] (refusals event payload)

/-! ## One step -/

section

variable {c : Connection} {m : Moment} {i : Input} {frame : String} {e : Envelope}

theorem relays_of_no_text (h : i.text? = none) : c.relays m i = [] := by
  unfold relays
  rw [h]
  rfl

theorem relays_of_error {f : Fault} (h : Frame.decode frame = .error f) :
    c.relays m (.received (.ok (.text frame))) = [] := by
  simp only [relays, Input.text?, Option.map_some, h]

theorem relays_of_ok (h : Frame.decode frame = .ok e) :
    c.relays m (.received (.ok (.text frame))) =
      c.relaysEvent m e.event (c.normalizer.inbound e.data) := by
  simp only [relays, Input.text?, Option.map_some, h]

/-- All that listeners are told of an event of the server, given where the memory of repetitions
stems from. -/
theorem heard_onEvent (m : Moment) (event : String) (payload : Value)
    {before : List (Nat × String × Value)} {options : Options} (hstems : c.dedup.Stems before)
    (hrules : c.dedup.rules = (options.dedupEvents, Span.ofMillis options.dedupWindowMs)) :
    Heard options m before event payload (c.relaysEvent m event payload)
      (Turn.onEvent { conn := c, moment := m } event payload).published := by
  let t : Turn := { conn := c, moment := m }
  unfold Turn.onEvent relaysEvent
  by_cases herror : event = EventName.connectError
  · obtain ⟨rest, hrest, hnames⟩ := Turn.published_lose (t.publish EventName.connectError payload)
      { message := Turn.textField payload "message" "connect_error" } true
    rw [if_pos herror, if_neg (herror ▸ by decide), if_neg fun h => h.1 herror, hrest]
    subst herror
    exact .refused rfl hnames
  · rw [if_neg herror]
    by_cases hend : event = EventName.disconnect
    · obtain ⟨rest, hrest, hnames⟩ := t.published_lose
        { message := Turn.textField payload "reason" "server disconnect" }
        (DisconnectReason.endsSession (Turn.textField payload "reason" "server disconnect"))
      rw [if_pos hend, if_pos hend, hrest]
      exact .ended hend hnames
    · have hcalm := Turn.calm_absorb t event payload
      rw [if_neg hend, if_neg hend, Turn.published_route, Turn.published_absorb, hcalm.dedup,
        hcalm.moment]
      by_cases hheld : (c.dedup.offer event payload m.now).1 = true
      · obtain ⟨hlisted, noted, name, original, hpassed, hname, htwins, hfresh⟩ :=
          DedupFilter.exists_of_offer hstems hheld
        obtain ⟨hevents, hwindow⟩ := Prod.mk.inj hrules
        rw [hevents] at hlisted hname
        rw [hwindow] at hfresh
        rw [if_pos hheld, if_pos ⟨herror, hheld⟩, List.append_nil]
        exact .repeated hend herror hlisted hname hpassed htwins (by omega)
      · rw [if_neg hheld, if_neg fun h => hheld h.2]
        exact .passed hend herror

/-- What listeners are told for one event of the server. -/
theorem heard_step (h : c.Ready) (hc : c.state = .connected)
    {before : List (Nat × String × Value)} {options : Options} (hstems : c.dedup.Stems before)
    (hrules : c.dedup.rules = (options.dedupEvents, Span.ofMillis options.dedupWindowMs))
    (hdecode : Frame.decode frame = .ok e) :
    Heard options m before e.event (c.normalizer.inbound e.data)
      (c.relays m (.received (.ok (.text frame))))
      (publications (c.step m (.received (.ok (.text frame)))).2) := by
  have hstep := step_text h hc m hdecode
  have hheard := heard_onEvent m e.event (c.normalizer.inbound e.data) hstems hrules
  rw [relays_of_ok hdecode]
  show Heard _ _ _ _ _ _ (Turn.step { conn := c, moment := m } _).published
  rwa [hstep]

/-- When no text comes in, nothing but reports is told, and nothing is remembered or forgotten. -/
theorem Stride.quiet {c' : Connection} {told : List Effect} (h : c.Ready)
    (hc : c.state = .connected) (hno : i.text? = none) (hstride : c.Stride m i c' told) :
    c'.dedup = c.dedup ∧ Only remarks (publications told) := by
  cases hstride with
  | calm hdedup _ hplain => exact ⟨hdedup, Pace.only_plain hplain⟩
  | abandoned hgiven => exact ⟨hgiven.dedup, hgiven.only⟩
  | passed => exact absurd hno nofun
  | refused => exact absurd hno nofun
  | started haccepts =>
    obtain ⟨-, hs, -⟩ := haccepts
    rcases hs with hs | hs <;> exact absurd (hc.symm.trans hs) nofun
  | waited hdedup => exact ⟨hdedup, .nil⟩
  | begun _ hdedup => exact ⟨hdedup, .nil⟩
  | dialled _ hdedup => exact ⟨hdedup, .nil⟩
  | opened _ hdedup => exact ⟨hdedup, .nil⟩
  | greeted hshaking => exact absurd hc (h.ne_connected hshaking)

theorem Heard.interleaves {options : Options} {before : List (Nat × String × Value)}
    {event : String} {payload : Value} {relays told : List (String × Value)}
    (h : Heard options m before event payload relays told) : Interleaves remarks relays told := by
  have hreport : ∀ {rest : List (String × Value)} (reason : Value), Only aftermath rest →
      Only remarks ((EventName.disconnect, reason) :: rest) := fun reason hrest =>
    (Only.singleton (by decide) reason).append (hrest.mono aftermath_subset)
  cases h with
  | ended _ hrest => exact .of_only (hreport _ hrest)
  | refused _ hrest => exact .kept (.of_only (hreport _ hrest))
  | passed => exact (Interleaves.of_only (only_refusals event payload)).append (.self _)
  | repeated => exact .of_only (only_refusals event payload)

theorem text?_eq_some (h : i.text? = some frame) : i = .received (.ok (.text frame)) := by
  unfold Input.text? at h
  split at h
  · obtain rfl := Option.some.inj h
    rfl
  · exact absurd h nofun

end

/-! ## What is remembered -/

/-- A ready connection remembers nothing but what was passed on, and goes by its settings. -/
structure Recalls (c : Connection) (options : Options) (before : List (Nat × String × Value)) :
    Prop where
  /-- The connection is ready. -/
  ready : c.Ready
  /-- What is remembered was passed on. -/
  stems : c.dedup.Stems before
  /-- The settings say what may be suppressed, and for how long. -/
  rules : c.dedup.rules = (options.dedupEvents, Span.ofMillis options.dedupWindowMs)

section

variable {c : Connection} {m : Moment} {i : Input} {options : Options}
  {before : List (Nat × String × Value)}

theorem Stride.rules {c' : Connection} {told : List Effect} (h : c.Stride m i c' told) :
    c'.dedup.rules = c.dedup.rules := by
  cases h with
  | calm hdedup => rw [hdedup]
  | abandoned h => rw [h.dedup]
  | passed _ _ h => rw [h.dedup, DedupFilter.rules_offer]
  | refused _ _ _ h => rw [h.dedup]
  | started _ h => rw [h.dedup]
  | waited hdedup => rw [hdedup]
  | begun _ hdedup => rw [hdedup]
  | dialled _ hdedup => rw [hdedup]
  | opened _ hdedup => rw [hdedup]
  | greeted _ _ h => rw [h.dedup, DedupFilter.rules_clear]

theorem rules_step (h : c.Ready) (m : Moment) (i : Input) :
    (c.step m i).1.dedup.rules = c.dedup.rules :=
  (stride_step h m i).rules

theorem rules_run (h : c.Ready) (inputs : List (Moment × Input)) :
    (c.run inputs).1.dedup.rules = c.dedup.rules := by
  induction inputs generalizing c with
  | nil => rfl
  | cons first rest ih => exact (ih (ready_step h first.1 first.2)).trans (rules_step h _ _)

/-- A connection begins with nothing remembered. -/
theorem Stride.stems {c' : Connection} {told : List Effect} (hout : c.state ≠ .connected)
    (hin : c'.state = .connected) (h : c.Stride m i c' told) : c'.dedup.Stems [] := by
  have hsame : ∀ {s : ConnectionState}, c'.pace.state = s → s = .connected :=
    fun hs => hs.symm.trans hin
  cases h with
  | calm _ hpace => exact absurd (hsame (congrArg Pace.state hpace)) hout
  | abandoned h =>
    obtain ⟨_, _, _, _, hsequel⟩ := h.signals
    exact absurd hin hsequel.ne_connected
  | passed hc => exact absurd hc hout
  | refused hc => exact absurd hc hout
  | started _ h => exact absurd (hsame (congrArg Pace.state h.pace)) nofun
  | waited _ hpace => exact absurd (hsame (congrArg Pace.state hpace)) hout
  | begun _ _ hpace => exact absurd (hsame (congrArg Pace.state hpace)) hout
  | dialled _ _ hpace => exact absurd (hsame (congrArg Pace.state hpace)) hout
  | opened _ _ hpace => exact absurd (hsame (congrArg Pace.state hpace)) hout
  | greeted _ _ h =>
    rw [h.dedup]
    exact DedupFilter.stems_clear _

/-- What is remembered after a step was passed on before it or by it. -/
theorem stems_step (h : c.Ready) (hc : c.state = .connected) (hstems : c.dedup.Stems before) :
    (c.step m i).1.dedup.Stems (before ++ (c.relays m i).map (m.now, ·)) := by
  have hkept : (c.step m i).1.dedup = c.dedup →
      (c.step m i).1.dedup.Stems (before ++ (c.relays m i).map (m.now, ·)) := fun hdedup => by
    rw [hdedup]
    exact hstems.mono (List.subset_append_left ..)
  cases htext : i.text? with
  | none => exact hkept ((stride_step h m i).quiet h hc htext).1
  | some frame =>
    obtain rfl := text?_eq_some htext
    cases hdecode : Frame.decode frame with
    | error f => exact hkept (by rw [step_malformed h hc m hdecode])
    | ok e =>
      by_cases hend : e.event = EventName.disconnect
      · exact hkept (abandons_step h hc m hdecode hend).dedup
      · by_cases herror : e.event = EventName.connectError
        · obtain ⟨rest, -, hgiven⟩ := refuses_step h hc m hdecode herror
          exact hkept hgiven.dedup
        · have hpassed := (passes_step h hc m hdecode herror hend).dedup
          have hoffered := DedupFilter.stems_offer hstems e.event (c.normalizer.inbound e.data)
            m.now
          have hrelays : (c.relays m (.received (.ok (.text frame)))).map (m.now, ·) =
              if (c.dedup.offer e.event (c.normalizer.inbound e.data) m.now).1 then []
              else [(m.now, e.event, c.normalizer.inbound e.data)] := by
            rw [relays_of_ok hdecode, relaysEvent, if_neg hend]
            by_cases hheld :
                (c.dedup.offer e.event (c.normalizer.inbound e.data) m.now).1 = true
            · rw [if_pos ⟨herror, hheld⟩, if_pos hheld]
              rfl
            · rw [if_neg fun h => hheld h.2, if_neg hheld]
              rfl
          rw [hpassed, hrelays]
          exact hoffered

theorem Recalls.step (h : c.Recalls options before) (hc : c.state = .connected) :
    (c.step m i).1.Recalls options (before ++ (c.relays m i).map (m.now, ·)) :=
  ⟨ready_step h.ready m i, stems_step h.ready hc h.stems, (rules_step h.ready m i).trans h.rules⟩

/-- One step tells what it passes on, and reports around it. -/
theorem interleaves_step (h : c.Recalls options before) (hc : c.state = .connected) :
    Interleaves remarks (c.relays m i) (publications (c.step m i).2) := by
  cases htext : i.text? with
  | none =>
    have honly := ((stride_step h.ready m i).quiet h.ready hc htext).2
    rw [publications_signals] at honly
    rw [relays_of_no_text htext]
    exact .of_only honly
  | some frame =>
    obtain rfl := text?_eq_some htext
    cases hdecode : Frame.decode frame with
    | error f =>
      rw [relays_of_error hdecode, step_malformed h.ready hc m hdecode]
      exact .nil
    | ok e => exact (heard_step h.ready hc h.stems h.rules hdecode).interleaves

end

/-! ## A whole connection -/

/-- There is a connection before each of the inputs. -/
def ConnectedThrough (c : Connection) : List (Moment × Input) → Prop
  | [] => True
  | (m, i) :: rest => c.state = .connected ∧ (c.step m i).1.ConnectedThrough rest

instance decidableConnectedThrough :
    (c : Connection) → (inputs : List (Moment × Input)) → Decidable (c.ConnectedThrough inputs)
  | _, [] => isTrue trivial
  | c, (m, i) :: rest =>
    have := decidableConnectedThrough (c.step m i).1 rest
    inferInstanceAs (Decidable (c.state = .connected ∧ (c.step m i).1.ConnectedThrough rest))

section

variable {c : Connection} {options : Options} {before : List (Nat × String × Value)}
  {inputs : List (Moment × Input)}

/-- A run tells what its steps pass on, and reports around it. -/
theorem interleaves_run (h : c.Recalls options before) (hin : c.ConnectedThrough inputs) :
    Interleaves remarks ((c.relayed inputs).map Prod.snd) (publications (c.run inputs).2) := by
  induction inputs generalizing c before with
  | nil => exact .nil
  | cons first rest ih =>
    obtain ⟨m, i⟩ := first
    obtain ⟨hc, hrest⟩ := hin
    have hfirst := interleaves_step (m := m) (i := i) h hc
    have hlater := ih (h.step hc) hrest
    unfold relayed run
    rw [List.map_append, List.map_map, publications_append]
    simpa using hfirst.append hlater

/-- What is remembered at any moment of a connection was passed on since it began. -/
theorem recalls_run {earlier later : List (Moment × Input)} (h : c.Recalls options before)
    (hin : c.ConnectedThrough (earlier ++ later)) :
    (c.run earlier).1.Recalls options (before ++ c.relayed earlier) ∧
      (c.run earlier).1.ConnectedThrough later := by
  induction earlier generalizing c before with
  | nil => exact ⟨by simpa [relayed, run] using h, hin⟩
  | cons first rest ih =>
    obtain ⟨m, i⟩ := first
    obtain ⟨hc, hrest⟩ := hin
    obtain ⟨hrecalls, hthrough⟩ := ih (h.step hc) hrest
    rw [List.append_assoc] at hrecalls
    exact ⟨hrecalls, hthrough⟩

end

/-- A connection that was just entered remembers nothing. -/
theorem recalls_entered (config : Config) (before : List (Moment × Input)) (m : Moment) (i : Input)
    (hout : ((Connection.new config).run before).1.state ≠ .connected)
    (hin : (((Connection.new config).run before).1.step m i).1.state = .connected) :
    (((Connection.new config).run before).1.step m i).1.Recalls config.options [] := by
  have hready := ready_run (ready_new config) before
  refine ⟨ready_step hready m i, (stride_step hready m i).stems hout hin, ?_⟩
  rw [rules_step hready, rules_run (ready_new config)]
  rfl

/-- **Events of the server are passed on in order.**  From the input with which a connection begins
up to its end, listeners are told of the events of the server in the order in which they come in,
each with its payload in the case inside, and between them only of what the connection reports about
itself.  A text that is no frame of the protocol changes nothing and tells nothing.  Of every other
text the event is passed on, unless it is a `disconnect`, or may be suppressed and was passed on
within the window over the same connection, itself or an event whose message collides with it. -/
theorem relayed_in_order (config : Config) (before inputs : List (Moment × Input)) (m₀ : Moment)
    (i₀ : Input) (hout : ((Connection.new config).run before).1.state ≠ .connected)
    (hin : (((Connection.new config).run before).1.step m₀ i₀).1.ConnectedThrough inputs) :
    let c := (((Connection.new config).run before).1.step m₀ i₀).1
    Interleaves remarks ((c.relayed inputs).map Prod.snd) (publications (c.run inputs).2) ∧
    ∀ earlier m frame later, inputs = earlier ++ (m, .received (.ok (.text frame))) :: later →
      let now := (c.run earlier).1
      let after := now.step m (.received (.ok (.text frame)))
      (∀ f, Frame.decode frame = .error f →
        now.relays m (.received (.ok (.text frame))) = [] ∧ after = (now, [])) ∧
      (∀ e, Frame.decode frame = .ok e →
        Heard config.options m (c.relayed earlier) e.event
          ((Connection.new config).normalizer.inbound e.data)
          (now.relays m (.received (.ok (.text frame)))) (publications after.2)) := by
  intro c
  have hready : c.Ready := ready_step (ready_run (ready_new config) before) m₀ i₀
  have hentered : c.state = .connected → c.Recalls config.options [] :=
    recalls_entered config before m₀ i₀ hout
  constructor
  · cases inputs with
    | nil => exact .nil
    | cons first rest => exact interleaves_run (hentered hin.1) hin
  · rintro earlier m frame later rfl now after
    have hstart : c.state = .connected := by
      cases earlier with
      | nil => exact hin.1
      | cons first rest => exact hin.1
    obtain ⟨hrecalls, hconnected, -⟩ := recalls_run (hentered hstart) hin
    have hnormalizer : now.normalizer = (Connection.new config).normalizer := by
      have hrun : now.setup = c.setup := setup_run hready earlier
      have hstep : c.setup = ((Connection.new config).run before).1.setup :=
        setup_step (ready_run (ready_new config) before) m₀ i₀
      have hbefore := setup_run (ready_new config) before
      exact congrArg Prod.snd ((hrun.trans hstep).trans hbefore)
    refine ⟨fun f hdecode => ?_, fun e hdecode => ?_⟩
    · exact ⟨relays_of_error hdecode, step_malformed hrecalls.ready hconnected m hdecode⟩
    · rw [← hnormalizer]
      exact heard_step hrecalls.ready hconnected hrecalls.stems hrecalls.rules hdecode

/-- Progress of a job is passed on again over the second connection, although it was passed on over
the first one at the same moment.  Its repetition is not, until the window of half a second is
over. -/
theorem relayed_in_order_again :
    let config : Config := ⟨"ws://localhost/ws", {}, {}⟩
    let m (ms : Nat) : Moment :=
      { now := Span.ofMillis ms, seconds := 0, token := some "token", sendFault := fun _ => none,
        draw := 0.0 }
    let text (frame : String) : Input := .received (.ok (.text frame))
    let greeting := text "[\"connect\"]"
    let progress := text "[\"job_progress\",\x7b\"job_id\":7\x7d]"
    let before := [Input.command .connect, .attempt, .dial, .opened (.ok 0), greeting, progress,
      .received (.ok (.closed { message := "gone" })), .retryDue, .attempt, .dial,
      .opened (.ok 1)].map (m 0, ·)
    let inputs := [(m 0, progress), (m 1, progress), (m 2, text "nothing"),
      (m 3, text "[\"subscribe_ack\",\x7b\"id\":\"X-1\",\"error\":\"no\"\x7d]"), (m 500, progress)]
    let job := (EventName.jobProgress, Value.ofPairs [("jobId", .ofNat 7)])
    let refusal := (EventName.subscribeAck,
      Value.ofPairs [("id", .string "X-1"), ("error", .string "no")])
    let report := (EventName.subscriptionError, Turn.subscriptionNotice "X-1" .subscribe "no")
    ((Connection.new config).run before).1.state ≠ .connected ∧
    (((Connection.new config).run before).1.step (m 0) greeting).1.ConnectedThrough inputs ∧
    (((Connection.new config).run before).1.step (m 0) greeting).1.relayed inputs =
      [(Span.ofMillis 0, job), (Span.ofMillis 3, refusal), (Span.ofMillis 500, job)] ∧
    publications
        ((((Connection.new config).run before).1.step (m 0) greeting).1.run inputs).2 =
      [job, report, refusal, job] ∧
    Interleaves remarks [job, refusal, job] [job, report, refusal, job] := by
  intro config m text greeting progress before inputs job refusal report
  have hout : ((Connection.new config).run before).1.state ≠ .connected := by decide +kernel
  have hin : (((Connection.new config).run before).1.step (m 0) greeting).1.ConnectedThrough
      inputs := by decide +kernel
  have hrelayed : (((Connection.new config).run before).1.step (m 0) greeting).1.relayed inputs =
      [(Span.ofMillis 0, job), (Span.ofMillis 3, refusal), (Span.ofMillis 500, job)] := by
    decide +kernel
  have htold : publications
        ((((Connection.new config).run before).1.step (m 0) greeting).1.run inputs).2 =
      [job, report, refusal, job] := by decide +kernel
  have horder := (relayed_in_order config before inputs (m 0) greeting hout hin).1
  rw [hrelayed, htold] at horder
  exact ⟨hout, hin, hrelayed, htold, horder⟩

/-- Two answers to pings come in over one connection, and only the first is passed on: the second
one was not passed on before, but collides with the first. -/
theorem withheld_by_collision :
    let config : Config := ⟨"ws://localhost/ws", {}, {}⟩
    let m (ms : Nat) : Moment :=
      { now := Span.ofMillis ms, seconds := 0, token := some "token", sendFault := fun _ => none,
        draw := 0.0 }
    let text (frame : String) : Input := .received (.ok (.text frame))
    let before := [Input.command .connect, .attempt, .dial, .opened (.ok 0)].map (m 0, ·)
    let first := "[\"pong\",\x7b\"seq\":3951985255804785492\x7d]"
    let second := "[\"pong\",\x7b\"seq\":1399741059917809693\x7d]"
    let inputs := [(m 0, text first), (m 1, text second)]
    let c := (((Connection.new config).run before).1.step (m 0) (text "[\"connect\"]")).1
    let payload := DedupFilter.pongOf 1399741059917809693
    ((Connection.new config).run before).1.state ≠ .connected ∧ c.ConnectedThrough inputs ∧
    (Frame.decode second).toOption.map (fun e => (e.event, c.normalizer.inbound e.data)) =
      some (EventName.pong, payload) ∧
    publications (c.run inputs).2 =
      [(EventName.pong, DedupFilter.pongOf 3951985255804785492)] ∧
    (EventName.pong, payload) ∉ publications (c.run inputs).2 := by
  decide +kernel

end Connection
end LiveSync
