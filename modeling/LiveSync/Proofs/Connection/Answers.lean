import LiveSync.Proofs.Connection.Reaction

/-!
# Who calls is answered

Along a run of the connection, the callers whose commands were taken are those that got an answer
and those that wait in the registry, each as often as it called.  At rest nobody waits in the
registry: whoever brings a connection to rest fails those that wait to be subscribed, and at rest
nobody is taken in.

* `perm_perform` — deeds neither lose a caller nor make one up.
* `callers_reaction` — the only caller in the deeds of a reaction is the one whose command is taken.
* `unawaited_reaction` — at rest, nobody waits.
* `perm_step`, `perm_run` — the callers of a step, and of a run.
* `perm_atRest` — at rest, everyone who called was answered, as often as it called.
-/

namespace LiveSync

open LiveSync.Json

/-! ## Callers among the deeds -/

/-- The answer that an effect gives, if it does. -/
def Effect.reply? : Effect → Option Reply
  | .reply ticket a => some (ticket, a)
  | _ => none

/-- The answers among effects. -/
def repliesOf (effects : List Effect) : List Reply :=
  effects.filterMap Effect.reply?

@[simp] theorem repliesOf_append (a b : List Effect) :
    repliesOf (a ++ b) = repliesOf a ++ repliesOf b :=
  List.filterMap_append

@[simp] theorem repliesOf_replyEffects (replies : List Reply) :
    repliesOf (replyEffects replies) = replies := by
  simp [repliesOf, replyEffects, List.filterMap_map, Function.comp_def, Effect.reply?]

/-- Only messages are answers. -/
theorem repliesOf_messages (effects : List Effect) :
    repliesOf (effects.filter Effect.isMessage) = repliesOf effects :=
  filterMap_messages (fun e he => by cases e <;> first | rfl | cases he) effects

/-- The caller that a deed takes in, or answers at once. -/
def Deed.caller? : Deed → Option Caller
  | .change x => x.caller?
  | .message (.reply ticket a) => some (ticket, a.kind)
  | .message _ => none

theorem Registry.tidy_perform {r : Registry} (ht : r.All Entry.Tidy) (deeds : List Deed) :
    (r.perform deeds).2.All Entry.Tidy := by
  induction deeds generalizing r with
  | nil => exact ht
  | cons d rest ih =>
    cases d with
    | change x => exact ih (tidy_apply ht x)
    | message e => exact ih ht

/-- Deeds neither lose a caller nor make one up. -/
theorem Registry.perm_perform {r : Registry} (h : r.Ascending) (ht : r.All Entry.Tidy)
    (deeds : List Deed) :
    (answered (repliesOf (r.perform deeds).1) ++ (r.perform deeds).2.waiting).Perm
      (deeds.filterMap Deed.caller? ++ r.waiting) := by
  induction deeds generalizing r with
  | nil => exact List.Perm.refl _
  | cons d rest ih =>
    cases d with
    | change x =>
      have hx : (answered (r.apply x).1 ++ (r.apply x).2.waiting).Perm
          (x.caller?.toList ++ r.waiting) := balanced_apply h ht x
      have hrest := ih (ascending_apply h x) (tidy_apply ht x)
      have hcallers : (Deed.change x :: rest).filterMap Deed.caller? =
          x.caller?.toList ++ rest.filterMap Deed.caller? := by
        cases hc : x.caller? <;> simp [Deed.caller?, hc]
      rw [hcallers]
      refine List.perm_iff_count.2 fun c => ?_
      have hx := hx.count_eq c
      have hrest := hrest.count_eq c
      simp only [perform, repliesOf_append, repliesOf_replyEffects, answered_append,
        List.count_append] at hx hrest ⊢
      omega
    | message e =>
      cases e with
      | reply ticket a => exact (ih h ht).cons (ticket, a.kind)
      | _ => exact ih h ht

/-! ## The caller of a reaction -/

/-- Giving up takes nobody in. -/
theorem Retreat.callers {c : Connection} {deeds : List Deed} (h : Retreat c deeds) :
    deeds.filterMap Deed.caller? = [] := by
  refine List.filterMap_eq_nil_iff.2 fun d hd => ?_
  rcases h.only d hd with rfl | rfl <;> rfl

theorem callers_frames {frames : List Effect} (h : ∀ e ∈ frames, ∃ s x f, e = .frame s x f) :
    (frames.map Deed.message).filterMap Deed.caller? = [] := by
  refine List.filterMap_eq_nil_iff.2 fun d hd => ?_
  obtain ⟨e, he, rfl⟩ := List.mem_map.1 hd
  obtain ⟨s, x, f, rfl⟩ := h e he
  rfl

namespace Connection

theorem Farewell.callers {c : Connection} {frames : List Effect} (h : c.Farewell frames) :
    (frames.map Deed.message).filterMap Deed.caller? = [] := by
  refine callers_frames fun e he => ?_
  cases h with
  | silent => exact absurd he List.not_mem_nil
  | held _ hreleases =>
    obtain ⟨id, -, fault, rfl⟩ := hreleases.frames e he
    exact ⟨_, _, _, rfl⟩

theorem Ending.callers {c c' : Connection} {i : Input} {rest : List Deed}
    (h : c.Ending i c' rest) : rest.filterMap Deed.caller? = [] := by
  cases h with
  | stays => rfl
  | retreat h => exact h.callers

theorem Sent.callers {c c' : Connection} {i : Input} {fault : Option Fault} {rest : List Deed}
    (h : c.Sent i c' fault rest) : rest.filterMap Deed.caller? = [] := by
  cases h with
  | written => rfl
  | lost _ h => exact h.callers

theorem Asking.callers {c c' : Connection} {socket : SocketNumber} {ids : List String}
    {deeds : List Deed} (h : c.Asking socket ids c' deeds) :
    deeds.filterMap Deed.caller? = [] := by
  have hwritten : ∀ ids : List String, (ids.map fun id => Deed.message
      (c.requestFrame socket .subscribe id none)).filterMap Deed.caller? = [] := fun ids =>
    List.filterMap_eq_nil_iff.2 fun d hd => by
      obtain ⟨id, -, rfl⟩ := List.mem_map.1 hd
      rfl
  cases h with
  | all => exact hwritten ids
  | part written id unasked fault rest h =>
    have hlost : Deed.caller? (.message (c.requestFrame socket .subscribe id (some fault))) =
        none := rfl
    rw [List.filterMap_append, hwritten, List.filterMap_cons_none hlost, h.callers]
    rfl

/-- The only caller in the deeds of a reaction is the one whose command is taken. -/
theorem callers_reaction {c c' : Connection} {m : Moment} {i : Input} {deeds : List Deed}
    (h : c.Reaction m i c' deeds) : deeds.filterMap Deed.caller? = (c.caller? i).toList := by
  cases h with
  | quiet hcaller hframes hend =>
    have hchatter : ∀ e ∈ _, ∃ s x f, e = Effect.frame s x f := fun e he => by
      obtain ⟨s, x, f, -, -, rfl⟩ := hframes e he
      exact ⟨s, x, f, rfl⟩
    rw [List.filterMap_append, callers_frames hchatter, hend.callers, hcaller]
    rfl
  | told hcaller hstays => rw [hcaller]; rfl
  | emitted hcaller hs hend =>
    rw [hcaller, Option.toList_some, ← hend.callers]
    rfl
  | queued hcall hcaller hs hstays hrest =>
    rw [hcaller]
    cases hcall <;> rfl
  | called hcall hcaller hs hasks hstays =>
    rw [hcaller]
    cases hcall <;> rfl
  | asked hcall hcaller hs hasks hsent =>
    have hrest := hsent.callers
    rw [hcaller]
    cases hcall <;> exact congrArg (_ :: ·) hrest
  | ruled hrules hcaller hc hstays =>
    rw [hcaller]
    cases hrules <;> rfl
  | expired hc hstays => rfl
  | left hcaller hfarewell hretreat =>
    rw [List.filterMap_append, hfarewell.callers, hretreat.callers, hcaller]
    rfl
  | stopped hcaller hrunning hstopped hfarewell hsocket hattempt =>
    rw [List.filterMap_append, hfarewell.callers, hcaller]
    rfl
  | established hattempt hjudge hasking => exact hasking.callers

end Connection

/-! ## Nobody waits at rest -/

theorem Registry.waiting_eq_nil {r : Registry} (hs : r.All fun e => e.subscribers = [])
    (hq : r.All Entry.Queued) : r.waiting = [] := by
  refine List.flatMap_eq_nil_iff.2 fun p hp => ?_
  simp [Entry.callers, hs p hp, (hq p hp).unreleased]

/-- A release that is asked for without a connection is granted at once, so that nobody comes to
wait. -/
theorem Registry.waiting_unsubscribe {r : Registry} (hq : r.All Entry.Queued)
    (hw : r.waiting = []) (id : String) (ticket : Ticket) (now : Nat) :
    (r.unsubscribe id ticket now false).2.2.waiting = [] := by
  unfold unsubscribe
  split
  · exact hw
  · rename_i e hg
    have hpending := (hq.of_get? hg).pending
    rw [if_neg (by rw [hpending]; decide), if_neg (by rw [hpending]; decide)]
    refine List.flatMap_eq_nil_iff.2 fun p hp => ?_
    exact List.flatMap_eq_nil_iff.1 hw p (mem_drop hp)

namespace Connection

/-- Nobody waits while the connection is at rest. -/
def Unawaited (c : Connection) : Prop :=
  c.AtRest → c.registry.waiting = []

theorem AtRest.ne_connected {c : Connection} (h : c.AtRest) : c.state ≠ .connected := by
  rcases state_of_atRest h with hs | hs <;> rw [hs] <;> decide

/-- Who was connected and went on is not at rest. -/
theorem Stays.not_atRest {c c' : Connection} {i : Input} (hstays : c.Stays i c')
    (hc : c.state = .connected) : ¬c'.AtRest :=
  fun hrest => (hstays.rest hrest).ne_connected hc

/-- Who waited to be subscribed was failed in the end. -/
theorem unawaited_retreat {c : Connection} (h : c.Ready) {r : Registry} {deeds rest : List Deed}
    (hregistry : c.registry = (r.perform deeds).2) (hretreat : Retreat c rest)
    (hsuffix : rest <:+ deeds) : c.Unawaited := by
  intro hrest
  obtain ⟨first, rfl⟩ := hsuffix
  obtain ⟨before, rfl⟩ := hretreat.failed hrest
  refine Registry.waiting_eq_nil ?_ (h.queued hrest.ne_connected)
  rw [hregistry, ← List.append_assoc, Registry.perform_append]
  intro p hp
  obtain ⟨q, -, rfl⟩ := List.mem_map.1 hp
  rfl

/-- A reaction leaves nobody waiting at rest. -/
theorem unawaited_reaction {c c' : Connection} {m : Moment} {i : Input} {deeds : List Deed}
    (h : c.Ready) (h' : c'.Ready) (hu : c.Unawaited) (hr : c.Reaction m i c' deeds)
    (hregistry : c'.registry = (c.registry.perform deeds).2) : c'.Unawaited := by
  have hconnected : ∀ {socket}, c.socket = some socket → c.state = .connected := fun hs =>
    h.socket.1 (by rw [hs]; rfl)
  cases hr with
  | quiet hcaller hframes hend =>
    cases hend with
    | stays hstays =>
      intro hrest
      rw [hregistry, List.append_nil, Registry.perform_messages]
      exact hu (hstays.rest hrest)
    | retreat hretreat => exact unawaited_retreat h' hregistry hretreat (List.suffix_append ..)
  | told hcaller hstays =>
    intro hrest
    rw [hregistry]
    exact hu (hstays.rest hrest)
  | emitted hcaller hs hend =>
    cases hend with
    | stays hstays => exact fun hrest => absurd hrest (hstays.not_atRest (hconnected hs))
    | retreat hretreat => exact unawaited_retreat h' hregistry hretreat ⟨[_, _], rfl⟩
  | queued hcall hcaller hs hstays hrest =>
    intro hrest'
    have hbefore := hstays.rest hrest'
    rw [hregistry]
    cases hcall with
    | subscribe _ ticket => exact absurd (hrest hbefore) nofun
    | unsubscribe _ ticket =>
      exact Registry.waiting_unsubscribe (h.queued hbefore.ne_connected) (hu hbefore) _ ticket _
  | called hcall hcaller hs hasks hstays =>
    exact fun hrest => absurd hrest (hstays.not_atRest (hconnected hs))
  | asked hcall hcaller hs hasks hsent =>
    cases hsent with
    | written hstays => exact fun hrest => absurd hrest (hstays.not_atRest (hconnected hs))
    | lost fault hretreat => exact unawaited_retreat h' hregistry hretreat ⟨[_, _], rfl⟩
  | ruled hrules hcaller hc hstays => exact fun hrest => absurd hrest (hstays.not_atRest hc)
  | expired hc hstays => exact fun hrest => absurd hrest (hstays.not_atRest hc)
  | left hcaller hfarewell hretreat =>
    exact unawaited_retreat h' hregistry hretreat (List.suffix_append ..)
  | stopped hcaller hrunning hstopped hfarewell hsocket hattempt =>
    intro _
    rw [hregistry, Registry.perform_append]
    rfl
  | established hattempt hjudge hasking =>
    generalize (c.registry.reissue m.now).1 = ids at hasking
    cases hasking with
    | all => exact fun hrest => absurd (state_established ..) hrest.ne_connected
    | part written id unasked fault rest hretreat =>
      refine unawaited_retreat h' hregistry hretreat ?_
      exact ((List.suffix_cons ..).trans (List.suffix_append ..)).trans (List.suffix_cons ..)

/-! ## Steps and runs -/

/-- A connection in whose registry nobody was lost so far. -/
structure Attentive (c : Connection) : Prop extends Ready c where
  /-- The callers that wait fit the entries. -/
  tidy : c.registry.All Entry.Tidy
  /-- At rest nobody waits. -/
  unawaited : c.Unawaited

theorem attentive_new (config : Config) : (Connection.new config).Attentive :=
  { ready_new config with tidy := nofun, unawaited := fun _ => rfl }

section

variable {c : Connection} (h : c.Attentive)
include h

/-- **A step loses no caller.**  Those it answers and those that wait after it are those that
waited before, and the caller whose command was taken. -/
theorem perm_step (m : Moment) (i : Input) :
    (answered (repliesOf (c.step m i).2) ++ (c.step m i).1.registry.waiting).Perm
      ((c.caller? i).toList ++ c.registry.waiting) ∧ (c.step m i).1.Attentive := by
  have hready := ready_step h.toReady m i
  obtain ⟨deeds, hr, hregistry, hmessages⟩ := reaction_step h.toReady m i
  have hperm := Registry.perm_perform h.ascending h.tidy deeds
  rw [← hmessages, ← hregistry, repliesOf_messages, callers_reaction hr] at hperm
  exact ⟨hperm, { hready with
    tidy := hregistry ▸ Registry.tidy_perform h.tidy deeds
    unawaited := unawaited_reaction h.toReady hready h.unawaited hr hregistry }⟩

/-- The callers whose commands are taken along a run. -/
def dequeued (c : Connection) : List (Moment × Input) → List Caller
  | [] => []
  | (m, i) :: rest => (c.caller? i).toList ++ (c.step m i).1.dequeued rest

/-- **A run loses no caller.** -/
theorem perm_run (inputs : List (Moment × Input)) :
    (answered (repliesOf (c.run inputs).2) ++ (c.run inputs).1.registry.waiting).Perm
      (c.dequeued inputs ++ c.registry.waiting) ∧ (c.run inputs).1.Attentive := by
  induction inputs generalizing c with
  | nil => exact ⟨List.Perm.refl _, h⟩
  | cons first rest ih =>
    obtain ⟨m, i⟩ := first
    obtain ⟨hfirst, hnext⟩ := perm_step h m i
    obtain ⟨hrest, hend⟩ := ih hnext
    refine ⟨List.perm_iff_count.2 fun caller => ?_, hend⟩
    have hfirst := hfirst.count_eq caller
    have hrest := hrest.count_eq caller
    simp only [run, dequeued, repliesOf_append, answered_append, List.count_append]
      at hfirst hrest ⊢
    omega

/-- **At rest nobody is left hanging.**  Those who were answered along a run that ended at rest are
those whose commands were taken, each as often as it called. -/
theorem perm_atRest (hw : c.registry.waiting = []) {inputs : List (Moment × Input)}
    (hrest : (c.run inputs).1.AtRest) :
    (answered (repliesOf (c.run inputs).2)).Perm (c.dequeued inputs) := by
  obtain ⟨hperm, hend⟩ := perm_run h inputs
  rwa [hend.unawaited hrest, hw, List.append_nil, List.append_nil] at hperm

end

end Connection
end LiveSync
