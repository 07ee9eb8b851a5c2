import LiveSync.Proofs.Heartbeat.Pings

/-!
# A silent peer is found out in time

The owner of a heartbeat polls it whenever the clock comes to its next deadline, and hands it the
answers of the peer as they arrive.  Ping schedule and pong deadline move independently of each
other, but together they bound the time for which a peer can be silent: a ping goes out at most one
interval after the last sign of life, and the wait for its answer is not prolonged by the pings that
are left out meanwhile.

* `Attended` — runs under a clock, with a poll at every deadline.
* `attended_polls`, `Attended.carry_on` — such a run can always go on.
* `Watch`, `watch_attended` — what bounds the silence, at every moment of a run.
* `silence_expires` — the bound, and what an expiry means.
-/

namespace LiveSync

open LiveSync.Json

namespace Heartbeat

/-! ## Runs under a clock -/

/-- From the time `clock` up to the time `horizon` a heartbeat is polled exactly when the clock
comes to its next deadline; answers arrive at any time. -/
inductive Attended (horizon : Nat) : Nat → Heartbeat → List (Nat × Call) → Prop where
  /-- Nothing more happens until the horizon, and nothing is due by then. -/
  | rest {clock : Nat} {h : Heartbeat} (hclock : clock ≤ horizon) (hahead : h.Ahead horizon) :
      Attended horizon clock h []
  /-- The clock comes to the next deadline. -/
  | poll {clock now : Nat} {h : Heartbeat} {later : List (Nat × Call)} (hclock : clock ≤ now)
      (hdue : h.nextDeadline = some now) (hlater : Attended horizon now (h.poll now).2 later) :
      Attended horizon clock h ((now, .poll) :: later)
  /-- An answer arrives; the clock is not past the next deadline. -/
  | pong {clock now : Nat} {h : Heartbeat} {payload : Value} {later : List (Nat × Call)}
      (hclock : clock ≤ now) (hdue : ∀ due, h.nextDeadline = some due → now ≤ due)
      (hlater : Attended horizon now (h.onPong payload now).2 later) :
      Attended horizon clock h ((now, .pong payload) :: later)

/-- Polls alone lead up to any horizon: every poll moves the next deadline on. -/
theorem attended_polls {horizon clock : Nat} {h : Heartbeat} (hs : h.Sound)
    (hclock : clock ≤ horizon) (hdue : ∀ due, h.nextDeadline = some due → clock ≤ due) :
    ∃ polls, (∀ c ∈ polls, c.2 = Call.poll) ∧ Attended horizon clock h polls := by
  -- the induction is on the time that is left from the next deadline to the horizon
  suffices hleft : ∀ (left : Nat) (clock floor : Nat) (h : Heartbeat), h.Sound →
      clock ≤ horizon → clock ≤ floor → horizon < floor + left →
      (∀ due, h.nextDeadline = some due → floor ≤ due) →
      ∃ polls, (∀ c ∈ polls, c.2 = Call.poll) ∧ Attended horizon clock h polls from
    hleft (horizon + 1) clock clock h hs hclock (Nat.le_refl _) (by omega) hdue
  intro left
  induction left with
  | zero =>
    intro clock floor h _ hclock _ hfloor hdue
    have hahead : h.Ahead horizon := fun due hd => Nat.lt_of_lt_of_le hfloor (hdue due hd)
    exact ⟨[], nofun, .rest hclock hahead⟩
  | succ left ih =>
    intro clock floor h hs hclock hcf hfloor hdue
    by_cases hahead : h.Ahead horizon
    · exact ⟨[], nofun, .rest hclock hahead⟩
    · obtain ⟨due, hd, hle⟩ : ∃ due, h.nextDeadline = some due ∧ due ≤ horizon := by
        simpa [Ahead] using hahead
      have hfd := hdue due hd
      have hnext : (h.poll due).2.Ahead due := hs.ahead_polls (polls_poll h due)
      obtain ⟨polls, hpolls, hatt⟩ := ih due (due + 1) (h.poll due).2
        (hs.comes (.poll (polls_poll h due))) hle (Nat.le_succ due) (by omega) hnext
      refine ⟨(due, .poll) :: polls, ?_, .poll (Nat.le_trans hcf hfd) hd hatt⟩
      intro c hc
      rcases List.mem_cons.1 hc with rfl | hc
      · rfl
      · exact hpolls c hc

/-- **A run can always go on**, to any later horizon. -/
theorem Attended.carry_on {horizon further clock : Nat} {h : Heartbeat} {calls : List (Nat × Call)}
    (hatt : Attended horizon clock h calls) (hs : h.Sound) (hfurther : horizon ≤ further) :
    ∃ polls, (∀ c ∈ polls, c.2 = Call.poll) ∧ Attended further clock h (calls ++ polls) := by
  induction hatt with
  | rest hclock hahead =>
    refine attended_polls hs (Nat.le_trans hclock hfurther) fun due hdue => ?_
    exact Nat.le_trans hclock (Nat.le_of_lt (hahead due hdue))
  | poll hclock hdue hlater ih =>
    obtain ⟨polls, hpolls, hatt⟩ := ih (hs.comes (.poll (polls_poll _ _)))
    exact ⟨polls, hpolls, .poll hclock hdue hatt⟩
  | pong hclock hdue hlater ih =>
    obtain ⟨polls, hpolls, hatt⟩ := ih (hs.comes (.pong (takes_onPong _ _ _)))
    exact ⟨polls, hpolls, .pong hclock hdue hatt⟩

/-! ## How long a peer can be silent -/

/-- The last sign of life: the answer that was accepted last, or else the beginning. -/
def IsLastSign (begun : Nat) (log : List (Nat × Event)) (time : Nat) : Prop :=
  (time = begun ∨ (time, Event.accepted) ∈ log) ∧
    ∀ t, (t, Event.accepted) ∈ log → t ≤ time

theorem IsLastSign.concat {begun time now : Nat} {log : List (Nat × Event)} {e : Event}
    (hsign : IsLastSign begun log time) (he : e ≠ .accepted) :
    IsLastSign begun (log ++ [(now, e)]) time := by
  have hmem : ∀ t, (t, Event.accepted) ∈ log ++ [(now, e)] ↔ (t, Event.accepted) ∈ log := by
    intro t
    simp [he.symm]
  unfold IsLastSign at hsign ⊢
  simpa only [hmem] using hsign

/-- An answer that is accepted now is the last sign of life. -/
theorem IsLastSign.accept {begun time now : Nat} {log : List (Nat × Event)}
    (hsign : IsLastSign begun log time) (hnow : time ≤ now) :
    IsLastSign begun (log ++ [(now, .accepted)]) now := by
  refine ⟨Or.inr (by simp), fun t ht => ?_⟩
  rcases List.mem_append.1 ht with ht | ht
  · exact Nat.le_trans (hsign.2 t ht) hnow
  · obtain ⟨rfl, -⟩ := Prod.mk.inj (List.mem_singleton.1 ht)
    exact Nat.le_refl _

/-- What bounds the silence of a peer. -/
inductive Watch (interval pongTimeout begun clock : Nat) (log : List (Nat × Event))
    (h : Heartbeat) : Prop where
  /-- The peer is probed: the next ping is due, or the outstanding one has to be answered, in time
  for the bound. -/
  | probing {last due : Nat} (hsign : IsLastSign begun log last) (hlast : last ≤ clock)
      (hr : h.running = true) (hnext : h.nextPing = some due) (hsoon : due ≤ clock + interval)
      (hping : h.outstanding = none → due ≤ last + interval)
      (hpong : ∀ p, h.outstanding = some p →
        last < p.deadline ∧ p.deadline ≤ last + interval + pongTimeout)
  /-- The silence was found out in time. -/
  | found {last now : Nat} (hsign : IsLastSign begun log last) (hr : h.running = false)
      (hout : h.outstanding = none) (hlog : (now, Event.expired) ∈ log) (hafter : last < now)
      (hbound : now ≤ last + interval + pongTimeout)

/-- No poll counts as an answer. -/
theorem eventOf_ne_accepted (a : HeartbeatAction) : eventOf a ≠ .accepted := by
  cases a <;> simp [eventOf]

section

variable {interval pongTimeout begun clock : Nat} {log : List (Nat × Event)} {h : Heartbeat}

/-- A poll at the next deadline. -/
theorem Watch.poll (hw : Watch interval pongTimeout begun clock log h)
    (hspans : h.settings = (interval, pongTimeout)) (htimeout : 0 < pongTimeout) {now : Nat}
    (hclock : clock ≤ now) (hdue : h.nextDeadline = some now) {a : HeartbeatAction}
    {h' : Heartbeat} (hp : Polls h now a h') :
    Watch interval pongTimeout begun now (log ++ [(now, eventOf a)]) h' := by
  cases hw with
  | found hsign hr hout hlog hafter hbound => simp [nextDeadline, hr] at hdue
  | @probing last due hsign hlast hr hnext hsoon hping hpong =>
    have hkept : IsLastSign begun (log ++ [(now, eventOf a)]) last :=
      hsign.concat (eventOf_ne_accepted a)
    obtain ⟨rfl, rfl⟩ := Prod.mk.inj hspans
    simp only [nextDeadline, hr, if_true, hnext] at hdue
    cases hp with
    | off hr' => simp [hr] at hr'
    | early hearly _ =>
      exact .probing hkept (by omega) hr hnext (by omega) hping hpong
    | skip _ _ hout _ =>
      refine .probing hkept (by omega) hr rfl (Nat.le_refl _) (fun hnone => ?_) hpong
      exact absurd (hout.symm.trans hnone) (Option.some_ne_none _)
    | send _ _ _ hout =>
      -- no ping was outstanding, so the deadline that has come is the one of the ping
      have hnow : due = now := by simpa [Instant.earliest, hout] using hdue
      have hbound := hping hout
      have hawaited : h.awaited now = some ⟨h.seq + 1, now + h.pongTimeout⟩ :=
        if_neg (Nat.ne_of_gt htimeout)
      refine .probing hkept (by omega) hr rfl (Nat.le_refl _) (fun hnone => ?_)
        fun p hp => ?_
      · exact absurd (hawaited.symm.trans hnone) (Option.some_ne_none _)
      · obtain rfl := Option.some.inj (hawaited.symm.trans hp)
        exact ⟨by show last < now + h.pongTimeout; omega,
          by show now + h.pongTimeout ≤ last + h.interval + h.pongTimeout; omega⟩
    | expire hout hover =>
      obtain ⟨hafter, hbound⟩ := hpong _ hout
      simp only [hout, Option.map_some, Instant.earliest, Option.some.injEq] at hdue
      have hlog : (now, Event.expired) ∈ log ++ [(now, eventOf .expired)] := by simp [eventOf]
      exact .found hkept rfl rfl hlog (by omega) (by omega)

/-- An answer arrives. -/
theorem Watch.pong (hw : Watch interval pongTimeout begun clock log h) {now : Nat}
    (hclock : clock ≤ now) {payload : Value} {accepted : Bool} {h' : Heartbeat}
    (ht : Takes h payload now accepted h') :
    Watch interval pongTimeout begun now
      (log ++ [(now, if accepted then .accepted else .ignored)]) h' := by
  cases hw with
  | found hsign hr hout hlog hafter hbound =>
    cases ht with
    | unasked _ =>
      exact .found (hsign.concat nofun) hr hout (List.mem_append_left _ hlog) hafter hbound
    | stale hsome _ => exact absurd (hout.symm.trans hsome) nofun
    | answer hsome _ => exact absurd (hout.symm.trans hsome) nofun
  | probing hsign hlast hr hnext hsoon hping hpong =>
    cases ht with
    | unasked _ =>
      exact .probing (hsign.concat nofun) (by omega) hr hnext (by omega) hping hpong
    | stale _ _ =>
      exact .probing (hsign.concat nofun) (by omega) hr hnext (by omega) hping hpong
    | answer _ _ =>
      exact .probing (hsign.accept (by omega)) (Nat.le_refl _) hr hnext (by omega)
        (fun _ => by omega) nofun

/-- **At every moment of a run** the silence of the peer is bounded; at its end nothing is due. -/
theorem watch_attended (hw : Watch interval pongTimeout begun clock log h)
    (hspans : h.settings = (interval, pongTimeout)) (htimeout : 0 < pongTimeout) {horizon : Nat}
    {calls : List (Nat × Call)} (hatt : Attended horizon clock h calls) :
    ∃ clock', Watch interval pongTimeout begun clock' (log ++ (h.run calls).1) (h.run calls).2 ∧
      (h.run calls).2.Ahead horizon := by
  induction hatt generalizing log with
  | rest hclock hahead => exact ⟨_, by simpa [run] using hw, hahead⟩
  | @poll clock now h later hclock hdue hlater ih =>
    have hp := polls_poll h now
    obtain ⟨clock', hwatch, hahead⟩ := ih (hw.poll hspans htimeout hclock hdue hp)
      ((Comes.poll hp).settings.trans hspans)
    exact ⟨clock', by simpa [run, call] using hwatch, hahead⟩
  | @pong clock now h payload later hclock hdue hlater ih =>
    have ht := takes_onPong h payload now
    obtain ⟨clock', hwatch, hahead⟩ := ih (hw.pong hclock ht)
      ((Comes.pong ht).settings.trans hspans)
    exact ⟨clock', by simpa [run, call] using hwatch, hahead⟩

/-- At a horizon beyond the bound the silence was found out. -/
theorem Watch.expired (hw : Watch interval pongTimeout begun clock log h)
    (htimeout : 0 < pongTimeout) {horizon time : Nat} (hahead : h.Ahead horizon)
    (hbegun : ∀ entry ∈ log, begun ≤ entry.1) (hsign : IsLastSign begun log time)
    (hbound : time + interval + pongTimeout ≤ horizon) :
    ∃ now, (now, Event.expired) ∈ log ∧ time < now ∧ now ≤ time + interval + pongTimeout := by
  -- the last sign of life is one moment only
  have hle : ∀ {s t}, IsLastSign begun log s → IsLastSign begun log t → s ≤ t := by
    rintro s t ⟨rfl | hs, -⟩ ⟨ht, hlast⟩
    · rcases ht with rfl | ht
      · exact Nat.le_refl _
      · exact hbegun _ ht
    · exact hlast s hs
  cases hw with
  | @found last now hlast hr hout hlog hafter hend =>
    obtain rfl := Nat.le_antisymm (hle hlast hsign) (hle hsign hlast)
    exact ⟨now, hlog, hafter, hend⟩
  | @probing last due hlast _ hr hnext hsoon hping hpong =>
    obtain rfl := Nat.le_antisymm (hle hlast hsign) (hle hsign hlast)
    obtain ⟨hdue, hover⟩ := ahead_iff.1 hahead hr
    exfalso
    cases hout : h.outstanding with
    | none =>
      have := hping hout
      have := hdue due hnext
      omega
    | some p =>
      have := hpong p hout
      have := hover p hout
      omega

end

/-! ## What an expiry means -/

/-- Time does not run backwards in a run under a clock. -/
theorem Attended.ordered {horizon clock : Nat} {h : Heartbeat} {calls : List (Nat × Call)}
    (hatt : Attended horizon clock h calls) :
    (∀ c ∈ calls, clock ≤ c.1) ∧ (calls.map Prod.fst).Pairwise (· ≤ ·) := by
  have hcons : ∀ {clock now : Nat} {c : Call} {later : List (Nat × Call)}, clock ≤ now →
      (∀ c ∈ later, now ≤ c.1) ∧ (later.map Prod.fst).Pairwise (· ≤ ·) →
      (∀ d ∈ (now, c) :: later, clock ≤ d.1) ∧
        (((now, c) :: later).map Prod.fst).Pairwise (· ≤ ·) := by
    intro clock now c later hclock hlater
    refine ⟨fun d hd => ?_, List.pairwise_cons.2 ⟨fun time ht => ?_, hlater.2⟩⟩
    · rcases List.mem_cons.1 hd with rfl | hd
      · exact hclock
      · exact Nat.le_trans hclock (hlater.1 d hd)
    · obtain ⟨d, hd, rfl⟩ := List.mem_map.1 ht
      exact hlater.1 d hd
  induction hatt with
  | rest hclock hahead => exact ⟨nofun, List.Pairwise.nil⟩
  | poll hclock hdue hlater ih => exact hcons hclock ih
  | pong hclock hdue hlater ih => exact hcons hclock ih

/-- An expiry in the log of a run comes from a ping that was awaited for the whole timeout. -/
theorem Records.awaits_of_expired {interval pongTimeout : Nat} {log : List (Nat × Event)}
    {h : Heartbeat} (hrec : Records interval pongTimeout log h) {calls : List (Nat × Call)}
    (hpast : ∀ entry ∈ log, ∀ c ∈ calls, entry.1 ≤ c.1)
    (hordered : (calls.map Prod.fst).Pairwise (· ≤ ·)) {before after : List (Nat × Event)}
    {now : Nat} (hlog : (h.run calls).1 = before ++ (now, .expired) :: after) :
    ∃ seq time, Awaits (log ++ before) seq time ∧ time + pongTimeout ≤ now := by
  obtain ⟨earlier, c, later, rfl, rfl, he⟩ := run_split hlog
  have hearlier : (earlier.map Prod.fst).Pairwise (· ≤ ·) :=
    hordered.sublist ((List.sublist_append_left earlier _).map Prod.fst)
  have hrun := hrec.run (fun entry he c hc => hpast entry he c (List.mem_append_left _ hc)) hearlier
  obtain ⟨p, hout, hover⟩ := (comes_call _ now c).overdue he
  obtain ⟨-, time, hawaits, hdeadline⟩ := (hrun.awaited p).1 hout
  exact ⟨p.seq, time, hawaits, hdeadline ▸ hover⟩

/-! ## The result -/

section

variable {h : Heartbeat} {begun : Nat}

theorem start_eq (hinterval : 0 < h.interval) : h.start begun =
    { h with running := true, outstanding := none, nextPing := some (begun + h.interval) } := by
  simp [start, isEnabled, Nat.ne_of_gt hinterval]

/-- A heartbeat that starts over records only what comes from then on. -/
theorem records_start (hinterval : 0 < h.interval) :
    Records h.interval h.pongTimeout [(begun, .started)] (h.start begun) := by
  rw [start_eq hinterval]
  refine ⟨⟨fun _ => Nat.ne_of_gt hinterval, nofun⟩, rfl, List.Pairwise.nil, nofun, ?_, fun p => ?_⟩
  · exact fun _ _ => nofun
  · refine ⟨nofun, ?_⟩
    rintro ⟨-, time, hawaits, -⟩
    have hstarted : Awaits ([] ++ [(begun, .started)]) p.seq time := hawaits
    rcases awaits_concat.1 hstarted with ⟨hping, -⟩ | ⟨hgoes, -⟩
    · exact absurd hping nofun
    · exact absurd hgoes nofun

theorem watch_start (hinterval : 0 < h.interval) :
    Watch h.interval h.pongTimeout begun begun [(begun, .started)] (h.start begun) := by
  rw [start_eq hinterval]
  exact .probing ⟨Or.inl rfl, by simp⟩ (Nat.le_refl _) rfl rfl (Nat.le_refl _)
    (fun _ => Nat.le_refl _) nofun

end

/-- **A silent peer is found out in time.**  Start a heartbeat whose interval and whose pong timeout
are not zero, poll it exactly when the clock comes to its next deadline, and hand it answers at any
time.  If no answer is accepted after the last sign of life, then the heartbeat expires after that
and no later than an interval and a pong timeout after it.  It only ever expires if a ping was sent
at least a pong timeout earlier and nothing was accepted since.  And whatever has happened, the
polls can be kept up for as long as one likes. -/
theorem silence_expires {h : Heartbeat} {begun horizon : Nat} {calls : List (Nat × Call)}
    (hinterval : 0 < h.interval) (htimeout : 0 < h.pongTimeout)
    (hatt : Attended horizon begun (h.start begun) calls) :
    let log := (h.run ((begun, .start) :: calls)).1
    (∀ time, IsLastSign begun log time → time + h.interval + h.pongTimeout ≤ horizon →
      ∃ now, (now, Event.expired) ∈ log ∧ time < now ∧
        now ≤ time + h.interval + h.pongTimeout) ∧
    (∀ before now after, log = before ++ (now, .expired) :: after →
      ∃ seq time, Awaits before seq time ∧ time + h.pongTimeout ≤ now) ∧
    (∀ further, horizon ≤ further → ∃ polls, (∀ c ∈ polls, c.2 = Call.poll) ∧
      Attended further begun (h.start begun) (calls ++ polls)) := by
  intro log
  have hlog : log = [(begun, .started)] ++ ((h.start begun).run calls).1 := rfl
  have hrec : Records h.interval h.pongTimeout [(begun, .started)] (h.start begun) :=
    records_start hinterval
  obtain ⟨hclock, hordered⟩ := hatt.ordered
  refine ⟨fun time hsign hbound => ?_, fun before now after hsplit => ?_, fun further hf => ?_⟩
  · obtain ⟨clock, hwatch, hahead⟩ :=
      watch_attended (watch_start hinterval) hrec.spans htimeout hatt
    refine hwatch.expired htimeout hahead (fun entry he => ?_) hsign hbound
    rcases List.mem_append.1 he with he | he
    · obtain rfl := List.mem_singleton.1 he
      exact Nat.le_refl _
    · have htime : entry.1 ∈ calls.map Prod.fst :=
        times_run (h.start begun) calls ▸ List.mem_map_of_mem he
      obtain ⟨c, hc, heq⟩ := List.mem_map.1 htime
      exact heq ▸ hclock c hc
  · rw [hlog] at hsplit
    cases before with
    | nil => exact absurd (List.head_eq_of_cons_eq hsplit) nofun
    | cons first before =>
      obtain ⟨rfl, hrest⟩ := List.cons.inj hsplit
      refine hrec.awaits_of_expired (fun entry he c hc => ?_) hordered hrest
      obtain rfl := List.mem_singleton.1 he
      exact hclock c hc
  · exact hatt.carry_on hrec.toSound hf

/-- A peer that answers the first ping and is silent from then on; a third ping is left out. -/
def silentAfterOne : List (Nat × Call) :=
  [(30, .poll), (45, .pong (pingPayload 1)), (60, .poll), (90, .poll), (110, .poll)]

/-- With a pong timeout longer than the interval the silence since 45 is found out by 125. -/
theorem silence_expires_after_one :
    Attended 130 0 ((new 30 50).start 0) silentAfterOne ∧
    IsLastSign 0 ((new 30 50).run ((0, .start) :: silentAfterOne)).1 45 ∧
    ∃ now, (now, Event.expired) ∈ ((new 30 50).run ((0, .start) :: silentAfterOne)).1 ∧
      45 < now ∧ now ≤ 45 + 30 + 50 := by
  have hatt : Attended 130 0 ((new 30 50).start 0) silentAfterOne := by
    refine .poll (by decide) rfl (.pong (by decide) (fun due hd => ?_) (.poll (by decide) rfl
      (.poll (by decide) rfl (.poll (by decide) rfl (.rest (by decide) nofun)))))
    obtain rfl := Option.some.inj hd
    decide
  have hsign : IsLastSign 0 ((new 30 50).run ((0, .start) :: silentAfterOne)).1 45 := by
    have hlog : ((new 30 50).run ((0, .start) :: silentAfterOne)).1 =
        [(0, .started), (30, .pinged 1), (45, .accepted), (60, .pinged 2), (90, .idle),
          (110, .expired)] := rfl
    rw [hlog]
    exact ⟨Or.inr (by decide), by simp⟩
  exact ⟨hatt, hsign, (silence_expires (by decide) (by decide) hatt).1 45 hsign (by decide)⟩

end Heartbeat
end LiveSync
