import LiveSync.Proofs.Session.Reactions

/-!
# Every call is answered

Along a session, every call that was made is answered, still waits in the queue of the connection
or waits in its registry, and it is in one of these places only.  At rest nobody waits in the
registry, and when the connection has stopped nobody waits at all.

* `Runs` — what may happen in a session, with the calls that were made.
* `Runs.settle`, `Runs.advance` — it is all that happens when a session runs by itself.
* `Accounted`, `accounted_run` — where the calls are.
* `every_call_answered` — what that means at rest and after a stop.
* `queued_info_not_cancelled` — one kind of call cannot be told that it was cancelled.
-/

namespace LiveSync

open LiveSync.Json

/-! ## Requests and answers -/

/-- The kind of call that a request makes. -/
def Request.kind : Request → CallKind
  | .subscribe _ => .subscribe
  | .unsubscribe _ => .unsubscribe
  | .info _ => .info
  | .emit _ _ => .emit

theorem Request.kind_failed (r : Request) (f : Fault) : (r.failed f).kind = r.kind := by
  cases r <;> rfl

/-- The command of a request comes from its caller. -/
theorem Request.caller?_command {r : Request} {ticket : Ticket} {x : Command}
    (h : r.command ticket = .ok x) : x.caller? = some (ticket, r.kind) := by
  have hnamed : ∀ {argument : String} {f : String → Command},
      (entity? argument).map f = .ok x → ∃ entity, x = f entity := by
    intro argument f hx
    cases he : entity? argument with
    | error _ => rw [he] at hx; exact absurd hx nofun
    | ok entity => rw [he] at hx; exact ⟨entity, (Except.ok.inj hx).symm⟩
  cases r with
  | subscribe argument =>
    dsimp only [Request.command] at h
    obtain ⟨entity, rfl⟩ := hnamed h
    rfl
  | unsubscribe argument =>
    dsimp only [Request.command] at h
    obtain ⟨entity, rfl⟩ := hnamed h
    rfl
  | info entity =>
    obtain rfl := Except.ok.inj h
    rfl
  | emit event payload =>
    dsimp only [Request.command] at h
    split at h
    · exact absurd h nofun
    · obtain rfl := Except.ok.inj h
      rfl

namespace Session

/-! ## Runs -/

/-- What may happen in a session, and the calls that were made so far. -/
inductive Runs (s₀ : Session) : List Caller → Session → Prop where
  /-- Nothing has happened. -/
  | start : Runs s₀ [] s₀
  /-- Somebody makes a call. -/
  | call {calls : List Caller} {s : Session} (h : Runs s₀ calls s) (r : Request) :
      Runs s₀ (calls ++ [((s.call r).1, r.kind)]) (s.call r).2
  /-- A command is sent that nobody waits for. -/
  | send {calls : List Caller} {s : Session} (h : Runs s₀ calls s) {x : Command}
      (hx : x.caller? = none) : Runs s₀ calls (s.send x).2
  /-- The connection takes its next input. -/
  | react {calls : List Caller} {s s' : Session} {i : Input} (h : Runs s₀ calls s)
      (ht : s.Takes i s') : Runs s₀ calls (s'.react i)
  /-- Something goes on that calls do not see. -/
  | aside {calls : List Caller} {s s' : Session} (h : Runs s₀ calls s) (ha : s.Alike s') :
      Runs s₀ calls s'

namespace Runs

variable {s₀ s : Session} {calls : List Caller} (h : Runs s₀ calls s)
include h

theorem runInputs (stamp turns : Nat) : Runs s₀ calls (runInputs stamp turns s) := by
  induction turns generalizing s with
  | zero => exact h
  | succ turns ih =>
    unfold Session.runInputs
    split
    · exact h
    · rename_i hnext
      exact ih ((h.react (takes_nextInput? hnext)).aside ⟨rfl, rfl, rfl, rfl⟩)

theorem runConnection : Runs s₀ calls s.runConnection := by
  have harmed : Runs s₀ calls { s with armed := s.armed + 1 } := h.aside ⟨rfl, rfl, rfl, rfl⟩
  exact (harmed.runInputs s.armed turnLimit).aside (alike_releaseClient _)

/-- What the monitor asks for is a command that nobody waits for. -/
theorem obey (w : Watch) (r : MonitorRequest) : Runs s₀ calls (s.obey w r).2 := by
  have hsend : ∀ {x : Command}, x.caller? = none → s.isStopped = false →
      Runs s₀ calls (s.enqueue x) := by
    intro x hx hopen
    have hsent := h.send hx
    unfold Session.send at hsent
    rwa [hopen] at hsent
  unfold Session.obey
  split
  · rename_i hopen
    have hrunning : s.isStopped = false := by simp_all
    cases r <;> exact hsend rfl hrunning
  · exact h

theorem runWatch (stamp turns : Nat) (w : Watch) : Runs s₀ calls (runWatch stamp turns w s) := by
  induction turns generalizing w s with
  | zero => exact h.aside ⟨rfl, rfl, rfl, rfl⟩
  | succ turns ih =>
    unfold Session.runWatch
    split
    · dsimp only
      split
      · exact ih h _
      · exact ih (h.obey _ _) _
    · exact h.aside ⟨rfl, rfl, rfl, rfl⟩

theorem runTask (t : Task) : Runs s₀ calls (s.runTask t) := by
  cases t with
  | connection => exact h.runConnection
  | monitor =>
    show Runs s₀ calls s.runMonitor
    have harmed : Runs s₀ calls { s with armed := s.armed + 1 } := h.aside ⟨rfl, rfl, rfl, rfl⟩
    unfold runMonitor
    split
    · exact h
    · exact harmed.runWatch _ _ _
  | burst timer => exact h.aside ⟨rfl, rfl, rfl, rfl⟩

theorem runReady (turns : Nat) : Runs s₀ calls (runReady turns s) := by
  induction turns generalizing s with
  | zero => exact h
  | succ turns ih =>
    unfold Session.runReady
    split
    · exact h
    · rename_i t rest _
      have hpopped : Runs s₀ calls { s with ready := rest } := h.aside ⟨rfl, rfl, rfl, rfl⟩
      exact ih (hpopped.runTask t)

/-- Doing everything that can be done now. -/
theorem settle : Runs s₀ calls s.settle :=
  h.runReady turnLimit

theorem advanceFrom (deadline now : Nat) : Runs s₀ calls (advanceFrom deadline now s) := by
  fun_induction Session.advanceFrom deadline now s with
  | case1 now s hnone => exact h.aside ⟨rfl, rfl, rfl, rfl⟩
  | case2 now s due hdue hlater ih =>
    have hcome : Runs s₀ calls { s with now := due } := h.aside ⟨rfl, rfl, rfl, rfl⟩
    exact ih (hcome.aside (alike_fireDue _)).settle
  | case3 now s due hdue hlate => exact h.aside ⟨rfl, rfl, rfl, rfl⟩

/-- Letting the clock run. -/
theorem advance (span : Nat) : Runs s₀ calls (s.advance span) :=
  h.advanceFrom _ _

end Runs

/-! ## Where the calls are -/

/-- The callers whose commands wait in the queue. -/
def queued (s : Session) : List Caller :=
  s.inbox.filterMap Command.caller?

/-- Every call is answered, or it waits in one place. -/
structure Accounted (calls : List Caller) (s : Session) : Prop where
  /-- The connection has lost no caller. -/
  attentive : s.connection.Attentive
  /-- Callers are numbered in the order of their calls. -/
  numbered : calls.map (·.1) = List.range s.calls
  /-- Every call is answered, or it waits in the queue or in the registry. -/
  balanced : (answered s.replies ++ s.queued ++ s.connection.registry.waiting).Perm calls
  /-- When the connection has stopped the queue is empty. -/
  drained : s.connection.stopped = true → s.inbox = []

section

variable {s s' : Session} {calls : List Caller}

theorem Alike.queued (h : s.Alike s') : s'.queued = s.queued := by
  unfold Session.queued
  rw [h.inbox]

theorem Accounted.aside (h : Accounted calls s) (ha : s.Alike s') : Accounted calls s' where
  attentive := ha.connection ▸ h.attentive
  numbered := ha.calls ▸ h.numbered
  balanced := by rw [ha.replies, ha.queued, ha.connection]; exact h.balanced
  drained := by rw [ha.connection, ha.inbox]; exact h.drained

/-- A command that nobody waits for does not touch the accounts. -/
theorem Accounted.send (h : Accounted calls s) {x : Command} (hx : x.caller? = none) :
    Accounted calls (s.send x).2 := by
  unfold Session.send
  split
  · exact h
  · rename_i hopen
    have hqueued : ({ s with inbox := s.inbox ++ [x] } : Session).queued = s.queued := by
      simp [Session.queued, hx]
    have hqueue : Accounted calls { s with inbox := s.inbox ++ [x] } :=
      { attentive := h.attentive
        numbered := h.numbered
        balanced := hqueued ▸ h.balanced
        drained := fun hstopped => absurd hstopped hopen }
    exact hqueue.aside (alike_wake ..)

/-- A call is answered at once, or it waits in the queue. -/
theorem Accounted.call (h : Accounted calls s) (r : Request) :
    Accounted (calls ++ [((s.call r).1, r.kind)]) (s.call r).2 := by
  have hnumbered : (calls ++ [(s.calls, r.kind)]).map (·.1) = List.range (s.calls + 1) := by
    rw [List.map_append, h.numbered, List.range_succ]
    rfl
  have htold : ∀ f, Accounted (calls ++ [(s.calls, r.kind)])
      (({ s with calls := s.calls + 1 } : Session).reply (s.calls, r.failed f)) := by
    intro f
    refine ⟨h.attentive, hnumbered, List.perm_iff_count.2 fun caller => ?_, h.drained⟩
    have hbalanced := h.balanced.count_eq caller
    have hanswered : answered (s.replies ++ [(s.calls, r.failed f)]) =
        answered s.replies ++ [(s.calls, r.kind)] := by
      rw [answered_append, ← r.kind_failed f]
      rfl
    show List.count caller (answered (s.replies ++ [(s.calls, r.failed f)]) ++ s.queued ++
      s.connection.registry.waiting) = _
    rw [hanswered]
    simp only [List.count_append] at hbalanced ⊢
    omega
  unfold Session.call
  dsimp only
  split
  · exact htold _
  · rename_i x hx
    split
    · exact htold _
    · rename_i hopen
      have hqueued : (s.inbox ++ [x]).filterMap Command.caller? =
          s.queued ++ [(s.calls, r.kind)] := by
        simp [Session.queued, Request.caller?_command hx]
      have hqueue : Accounted (calls ++ [(s.calls, r.kind)]) { s with
          calls := s.calls + 1, waiting := s.waiting ++ [s.calls], inbox := s.inbox ++ [x] } := by
        refine ⟨h.attentive, hnumbered, List.perm_iff_count.2 fun caller => ?_,
          fun hstopped => absurd hstopped hopen⟩
        have hbalanced := h.balanced.count_eq caller
        show List.count caller (answered s.replies ++ (s.inbox ++ [x]).filterMap Command.caller? ++
          s.connection.registry.waiting) = _
        rw [hqueued]
        simp only [List.count_append] at hbalanced ⊢
        omega
      exact hqueue.aside (alike_wake ..)

/-- Who is taken from the queue is the one who called. -/
theorem Takes.queued {i : Input} (h : s.Takes i s') :
    s.queued = (s.connection.caller? i).toList ++ s'.queued := by
  cases h with
  | @command x rest hinbox htaken =>
    have hcaller : s.connection.caller? (.command x) = x.caller? := by
      simp [Connection.caller?, htaken]
    rw [hcaller]
    unfold Session.queued
    rw [hinbox]
    cases hx : x.caller? <;> simp [hx]
  | other hi halike =>
    have hnobody : s.connection.caller? i = none := by
      cases i with
      | command x => cases hi
      | _ => rfl
    rw [hnobody, halike.queued]
    rfl

theorem Takes.same {i : Input} (h : s.Takes i s') :
    s'.connection = s.connection ∧ s'.calls = s.calls ∧ s'.replies = s.replies := by
  cases h with
  | command => exact ⟨rfl, rfl, rfl⟩
  | other _ halike => exact ⟨halike.connection, halike.calls, halike.replies⟩

/-- **A reaction loses no call.** -/
theorem Accounted.react (h : Accounted calls s) {i : Input} (ht : s.Takes i s') :
    Accounted calls (s'.react i) := by
  obtain ⟨hconnection, hcalls, hreplies⟩ := ht.same
  have hattentive : s'.connection.Attentive := hconnection ▸ h.attentive
  obtain ⟨hperm, hnext⟩ := Connection.perm_step hattentive s'.moment i
  -- how the accounts change, whatever becomes of the queue
  have hcount : ∀ (left : List Caller) (caller : Caller),
      left.count caller = (answered (repliesOf (s'.connection.step s'.moment i).2)).count caller +
        s'.queued.count caller →
      (answered s'.replies).count caller + left.count caller +
        (s'.connection.step s'.moment i).1.registry.waiting.count caller = calls.count caller := by
    intro left caller hleft
    have hbalanced := h.balanced.count_eq caller
    have hstep := hperm.count_eq caller
    rw [ht.queued, ← hreplies, ← hconnection] at hbalanced
    simp only [List.count_append] at hbalanced hstep
    omega
  cases hstopped : (s'.connection.step s'.moment i).1.stopped with
  | false =>
    refine Accounted.aside ⟨hnext, hcalls.symm ▸ h.numbered, ?_, ?_⟩ (react_running s' i hstopped)
    · refine List.perm_iff_count.2 fun caller => ?_
      rw [← hcount (answered (repliesOf _) ++ s'.queued) caller (List.count_append ..)]
      simp only [Session.queued, answered_append, List.count_append]
      omega
    · exact fun hs => absurd (hstopped.symm.trans hs) nofun
  | true =>
    refine Accounted.aside ⟨hnext, hcalls.symm ▸ h.numbered, ?_, fun _ => rfl⟩
      (react_stopped s' i hstopped)
    refine List.perm_iff_count.2 fun caller => ?_
    rw [← hcount (answered (repliesOf _) ++ s'.queued) caller (List.count_append ..)]
    simp only [Session.queued, answered_append, answered_abandoned, List.filterMap_nil,
      List.count_append, List.count_nil]
    omega

/-- **A run loses no call.** -/
theorem accounted_run {s₀ : Session} (h₀ : Accounted [] s₀) (h : Runs s₀ calls s) :
    Accounted calls s := by
  induction h with
  | start => exact h₀
  | call _ r ih => exact ih.call r
  | send _ hx ih => exact ih.send hx
  | react _ ht ih => exact ih.react ht
  | aside _ ha ih => exact ih.aside ha

end

/-- Building a client makes no call. -/
theorem alike_new (config : Config) (token : Option String) (seconds : Nat)
    (cache : Option Cache.Sync) (failing recorded : List String) :
    Alike { seconds := seconds, token := token, connection := Connection.new config }
      (new config token seconds cache failing recorded) := by
  let s : Session :=
    { seconds := seconds, token := token, connection := Connection.new config, cache := cache }
  have hstart :
      Alike { seconds := seconds, token := token, connection := Connection.new config } s :=
    ⟨rfl, rfl, rfl, rfl⟩
  have hbridge : ∀ (events : List String) (s : Session), Alike s (s.attachBridge events) := by
    refine fun events s => Alike.foldl (fun _ _ => ?_) s events
    exact ⟨rfl, rfl, rfl, rfl⟩
  have hlisten : ∀ (events : List String) (s : Session),
      Alike s (events.foldl (listen .failing) s) := by
    refine fun events s => Alike.foldl (fun _ _ => ?_) s events
    exact ⟨rfl, rfl, rfl, rfl⟩
  have hrecord : ∀ (events : List String) (s : Session), Alike s (events.foldl record s) := by
    refine fun events s => Alike.foldl (fun _ _ => ?_) s events
    exact ⟨rfl, rfl, rfl, rfl⟩
  exact ((hstart.trans (hbridge _ _)).trans (hlisten failing _)).trans (hrecord _ _)

theorem accounted_new (config : Config) (token : Option String) (seconds : Nat)
    (cache : Option Cache.Sync) (failing recorded : List String) :
    Accounted [] (new config token seconds cache failing recorded) := by
  have hstart : Accounted []
      { seconds := seconds, token := token, connection := Connection.new config } :=
    { attentive := Connection.attentive_new config
      numbered := rfl
      balanced := List.Perm.refl _
      drained := fun _ => rfl }
  exact hstart.aside (alike_new config token seconds cache failing recorded)

/-- **No caller is left hanging.**  Take any run of the connection: when it is at rest, those who
were answered are those whose commands were taken, each as often as it called.  And take any
session of a client that was just built.  No two calls have one ticket.  When the connection is at
rest, every call that was made is answered or still waits in the queue, and it is so once.  When
the connection has stopped, every call that was made is answered once.  And whoever still waits in
the queue when it stops is told that the call was cancelled, save that a question how a subscription
stands is answered with none. -/
theorem every_call_answered (config : Config) (token : Option String) (seconds : Nat)
    (cache : Option Cache.Sync) (failing recorded : List String) :
    (∀ inputs, ((Connection.new config).run inputs).1.AtRest →
      (answered (repliesOf ((Connection.new config).run inputs).2)).Perm
        ((Connection.new config).dequeued inputs)) ∧
    (∀ calls s, Runs (new config token seconds cache failing recorded) calls s →
      (calls.map (·.1)).Nodup ∧
      (s.connection.AtRest → (answered s.replies ++ s.queued).Perm calls) ∧
      (s.connection.stopped = true → (answered s.replies).Perm calls)) ∧
    (∀ (s : Session) (i : Input), (s.react i).connection.stopped = true →
      ∀ caller ∈ s.queued, (caller.1, caller.2.cancelled) ∈ (s.react i).replies) := by
  have hrun : ∀ {calls s}, Runs (new config token seconds cache failing recorded) calls s →
      Accounted calls s :=
    accounted_run (accounted_new config token seconds cache failing recorded)
  refine ⟨fun inputs hrest => ?_, fun calls s h => ?_, fun s i hstopped caller hcaller => ?_⟩
  · exact Connection.perm_atRest (Connection.attentive_new config) rfl hrest
  · have haccounted := hrun h
    have hrest : s.connection.AtRest → (answered s.replies ++ s.queued).Perm calls := by
      intro hrest
      have hbalanced := haccounted.balanced
      rwa [haccounted.attentive.unawaited hrest, List.append_nil] at hbalanced
    refine ⟨haccounted.numbered ▸ List.nodup_range, hrest, fun hstopped => ?_⟩
    have hperm := hrest (Connection.atRest_of_disconnected (haccounted.attentive.stopped hstopped))
    have hnone : s.queued = [] := by rw [queued, haccounted.drained hstopped]; rfl
    rwa [hnone, List.append_nil] at hperm
  · rw [connection_react] at hstopped
    rw [(react_stopped s i hstopped).replies]
    obtain ⟨x, hx, hcalls⟩ := List.mem_filterMap.1 hcaller
    refine List.mem_append_right _ (List.mem_filterMap.2 ⟨x, hx, ?_⟩)
    rw [Command.abandoned_eq, hcalls]
    rfl

/-- The client is told to shut down, and before the connection gets to it somebody asks how a
subscription stands and somebody sends an event. -/
theorem every_call_answered_abandoned :
    let config : Config := ⟨"ws://localhost/ws", {}, {}⟩
    let m : Moment :=
      { now := 0, seconds := 0, token := some "token", sendFault := fun _ => none, draw := 0.0 }
    let inputs := [(m, Input.command (.emit "note" .null 0))]
    let s := (((new config (some "token") 0 none [] []).send .shutdown).2.call (.info "X-1")).2
    let s' := (s.call (.emit "note" .null)).2
    let left := { s' with inbox := [.info "X-1" 0, .emit "note" .null 1] }
    (answered (repliesOf ((Connection.new config).run inputs).2)).Perm
      ((Connection.new config).dequeued inputs) ∧
    (left.react (.command .shutdown)).connection.stopped = true ∧
    (answered (left.react (.command .shutdown)).replies).Perm [(0, .info), (1, .emit)] ∧
    (1, .emitted (.error .cancelled)) ∈ (left.react (.command .shutdown)).replies := by
  intro config m inputs s s' left
  have hruns : Runs (new config (some "token") 0 none [] []) [(0, .info), (1, .emit)] s' :=
    ((Runs.start.send (x := .shutdown) rfl).call (.info "X-1")).call (.emit "note" .null)
  have hinbox : s'.inbox = [.shutdown, .info "X-1" 0, .emit "note" .null 1] := rfl
  have htaken : s'.connection.taken? (.command .shutdown) = some .shutdown :=
    Connection.taken?_command (by decide +kernel) (by decide +kernel) _
  have hleft : Runs (new config (some "token") 0 none [] []) [(0, .info), (1, .emit)]
      (left.react (.command .shutdown)) := hruns.react (.command hinbox htaken)
  have hstopped : (left.react (.command .shutdown)).connection.stopped = true := by
    decide +kernel
  have hall := every_call_answered config (some "token") 0 none [] []
  exact ⟨hall.1 inputs rfl, hstopped, (hall.2.1 _ _ hleft).2.2 hstopped,
    hall.2.2 left _ hstopped (1, .emit) (by decide +kernel)⟩

/-- A question that still waits in the queue when the connection stops is not told that it was
cancelled: its answer has no room for a fault. -/
theorem queued_info_not_cancelled :
    let start := new ⟨"ws://localhost/ws", {}, {}⟩ (some "token") 0 none [] []
    ¬∀ calls s i s', Runs start calls s → s.Takes i s' →
      (s'.react i).connection.stopped = true →
      ∀ caller ∈ s'.queued, ∃ a, (caller.1, a) ∈ (s'.react i).replies ∧
        a.fault? = some .cancelled := by
  intro start hclaim
  let s := ((start.send .shutdown).2.call (.info "X-1")).2
  let left := { s with inbox := [.info "X-1" 0] }
  have hruns : Runs start [(0, .info)] s :=
    (Runs.start.send (x := .shutdown) rfl).call (.info "X-1")
  have hinbox : s.inbox = [.shutdown, .info "X-1" 0] := rfl
  have htaken : s.connection.taken? (.command .shutdown) = some .shutdown :=
    Connection.taken?_command (by decide +kernel) (by decide +kernel) _
  have hstopped : (left.react (.command .shutdown)).connection.stopped = true := by
    decide +kernel
  have hreplies : (left.react (.command .shutdown)).replies = [(0, .info none)] := rfl
  obtain ⟨a, ha, hcancelled⟩ := hclaim _ s _ left hruns (.command hinbox htaken) hstopped
    (0, .info) (by decide +kernel)
  rw [hreplies] at ha
  obtain rfl : a = .info none := by simpa using ha
  exact absurd hcancelled nofun

end Session
end LiveSync
