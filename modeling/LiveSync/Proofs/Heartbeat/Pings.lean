import LiveSync.Proofs.Heartbeat.Calls

/-!
# Pings and their answers

However a heartbeat is started, stopped, polled and answered, its pings are numbered upwards and
keep their distance, and an answer is accepted exactly if the ping that it names is outstanding.
When a ping is outstanding is read off the log alone: it was sent, and nothing has ended the wait
for its answer since.

* `sent`, `Awaits`, `IsOutstanding` — the pings of a log, and what became of them.
* `Records`, `records_run` — how a heartbeat records its log.
* `pongs_answer_their_ping` — what that means for pings and answers.
-/

namespace LiveSync

open LiveSync.Json

namespace Heartbeat

/-! ## Reading the log -/

/-- The number of a ping that was sent, if the event is one. -/
def Event.seq? : Event → Option Nat
  | .pinged seq => some seq
  | _ => none

/-- Does the event end the wait for an answer? -/
def Event.endsWait : Event → Bool
  | .started | .stopped | .expired | .accepted => true
  | .idle | .pinged _ | .ignored => false

/-- The pings of a log, each with its time and its number. -/
def sent (log : List (Nat × Event)) : List (Nat × Nat) :=
  log.filterMap fun entry => entry.2.seq?.map (entry.1, ·)

/-- A ping was sent at a time, and nothing has ended the wait for its answer since. -/
def Awaits (log : List (Nat × Event)) (seq time : Nat) : Prop :=
  ∃ before later, log = before ++ (time, .pinged seq) :: later ∧
    ∀ entry ∈ later, entry.2.endsWait = false

/-- A ping is outstanding; if answers do not matter none ever is. -/
def IsOutstanding (pongTimeout : Nat) (log : List (Nat × Event)) (seq : Nat) : Prop :=
  pongTimeout ≠ 0 ∧ ∃ time, Awaits log seq time

section

variable {log : List (Nat × Event)} {now : Nat} {e : Event}

theorem sent_concat (log : List (Nat × Event)) (now : Nat) (e : Event) :
    sent (log ++ [(now, e)]) = sent log ++ (e.seq?.map (now, ·)).toList := by
  simp only [sent, List.filterMap_append]
  cases he : e.seq? <;> simp [he]

/-- A ping was sent when the log says so. -/
theorem mem_of_mem_sent {x : Nat × Nat} (hx : x ∈ sent log) : (x.1, Event.pinged x.2) ∈ log := by
  obtain ⟨⟨time, e⟩, he, hseq⟩ := List.mem_filterMap.1 hx
  cases e with
  | pinged seq =>
    obtain rfl := Option.some.inj hseq
    exact he
  | _ => exact absurd hseq nofun

/-- A ping is awaited if it is sent now, or if it was awaited before and the wait goes on. -/
theorem awaits_concat {seq time : Nat} :
    Awaits (log ++ [(now, e)]) seq time ↔
      (e = .pinged seq ∧ time = now) ∨ (e.endsWait = false ∧ Awaits log seq time) := by
  constructor
  · rintro ⟨before, later, hlog, hlater⟩
    rcases List.eq_nil_or_concat later with rfl | ⟨rest, last, rfl⟩
    · obtain ⟨-, hlast⟩ := List.append_inj' hlog rfl
      obtain ⟨rfl, rfl⟩ := Prod.mk.inj (List.head_eq_of_cons_eq hlast)
      exact Or.inl ⟨rfl, rfl⟩
    · rw [List.concat_eq_append, ← List.cons_append, ← List.append_assoc] at hlog
      obtain ⟨rfl, hlast⟩ := List.append_inj' hlog rfl
      obtain rfl := List.head_eq_of_cons_eq hlast
      refine Or.inr ⟨hlater (now, e) (by simp), before, rest, rfl, fun entry he => ?_⟩
      exact hlater entry (by simp [he])
  · rintro (⟨rfl, rfl⟩ | ⟨hgoes, before, later, rfl, hlater⟩)
    · exact ⟨log, [], rfl, nofun⟩
    · refine ⟨before, later ++ [(now, e)], by simp, fun entry he => ?_⟩
      rcases List.mem_append.1 he with he | he
      · exact hlater entry he
      · obtain rfl := List.mem_singleton.1 he
        exact hgoes

end

/-! ## How a heartbeat records its log -/

/-- What the state of a heartbeat says about its log. -/
structure Records (interval pongTimeout : Nat) (log : List (Nat × Event)) (h : Heartbeat) :
    Prop extends Sound h where
  /-- The spans are those that it was made with. -/
  spans : h.settings = (interval, pongTimeout)
  /-- The pings are numbered upwards and an interval apart. -/
  apart : (sent log).Pairwise fun x y => x.2 < y.2 ∧ x.1 + interval ≤ y.1
  /-- The last ping has the greatest number. -/
  last : ∀ x ∈ sent log, x.2 ≤ h.seq
  /-- The next ping is due an interval after the others. -/
  next : ∀ due, h.nextPing = some due → ∀ x ∈ sent log, x.1 + interval ≤ due
  /-- The outstanding ping is the one that is awaited, from when it was sent. -/
  awaited : ∀ p, h.outstanding = some p ↔
    pongTimeout ≠ 0 ∧ ∃ time, Awaits log p.seq time ∧ p.deadline = time + pongTimeout

theorem records_new (interval pongTimeout : Nat) :
    Records interval pongTimeout [] (new interval pongTimeout) where
  toSound := sound_new interval pongTimeout
  spans := rfl
  apart := List.Pairwise.nil
  last := nofun
  next := nofun
  awaited := fun p => by simp [new, Awaits]

section

variable {interval pongTimeout : Nat} {log : List (Nat × Event)} {h h' : Heartbeat}

/-- A call that ends the wait. -/
theorem Records.settle (hrec : Records interval pongTimeout log h) {now : Nat} {e : Event}
    (hs : h'.Sound) (hspans : h'.settings = h.settings) (hseq : h'.seq = h.seq)
    (he : e.endsWait = true) (hout : h'.outstanding = none)
    (hnext : ∀ due, h'.nextPing = some due → ∀ x ∈ sent log, x.1 + interval ≤ due) :
    Records interval pongTimeout (log ++ [(now, e)]) h' := by
  have hsent : sent (log ++ [(now, e)]) = sent log := by
    rw [sent_concat]
    cases e <;> simp_all [Event.endsWait, Event.seq?]
  refine ⟨hs, hspans.trans hrec.spans, ?_, ?_, ?_, fun p => ?_⟩
  · rw [hsent]
    exact hrec.apart
  · rw [hsent, hseq]
    exact hrec.last
  · rw [hsent]
    exact hnext
  · rw [hout]
    refine ⟨nofun, ?_⟩
    rintro ⟨-, time, hawaits, -⟩
    rcases awaits_concat.1 hawaits with ⟨rfl, -⟩ | ⟨hgoes, -⟩
    · exact absurd he nofun
    · exact absurd (he.symm.trans hgoes) nofun

/-- A call that sends nothing and ends no wait. -/
theorem Records.pass (hrec : Records interval pongTimeout log h) {now : Nat} {e : Event}
    (hs : h'.Sound) (hspans : h'.settings = h.settings) (hseq : h'.seq = h.seq)
    (he : e = .idle ∨ e = .ignored) (hout : h'.outstanding = h.outstanding)
    (hnext : ∀ due, h'.nextPing = some due → ∀ x ∈ sent log, x.1 + interval ≤ due) :
    Records interval pongTimeout (log ++ [(now, e)]) h' := by
  have hsent : sent (log ++ [(now, e)]) = sent log := by
    rw [sent_concat]
    rcases he with rfl | rfl <;> simp [Event.seq?]
  have hawaits : ∀ seq time, Awaits (log ++ [(now, e)]) seq time ↔ Awaits log seq time := by
    intro seq time
    rw [awaits_concat]
    rcases he with rfl | rfl <;> simp [Event.endsWait]
  refine ⟨hs, hspans.trans hrec.spans, ?_, ?_, ?_, fun p => ?_⟩
  · rw [hsent]
    exact hrec.apart
  · rw [hsent, hseq]
    exact hrec.last
  · rw [hsent]
    exact hnext
  · simp only [hout, hawaits]
    exact hrec.awaited p

/-- A ping is sent. -/
theorem Records.ping (hrec : Records interval pongTimeout log h) {now due : Nat}
    (hs : Sound { h with
      nextPing := some (now + h.interval)
      seq := h.seq + 1
      lastSent := some now
      outstanding := h.awaited now })
    (hpast : ∀ entry ∈ log, entry.1 ≤ now) (hplan : h.nextPing = some due) (hdue : due ≤ now)
    (hout : h.outstanding = none) :
    Records interval pongTimeout (log ++ [(now, .pinged (h.seq + 1))]) { h with
      nextPing := some (now + h.interval)
      seq := h.seq + 1
      lastSent := some now
      outstanding := h.awaited now } := by
  obtain ⟨rfl, rfl⟩ := Prod.mk.inj hrec.spans
  have hsent : sent (log ++ [(now, .pinged (h.seq + 1))]) = sent log ++ [(now, h.seq + 1)] :=
    sent_concat ..
  refine ⟨hs, rfl, ?_, ?_, ?_, fun p => ?_⟩
  · rw [hsent, List.pairwise_append]
    refine ⟨hrec.apart, List.pairwise_singleton _ _, fun x hx y hy => ?_⟩
    obtain rfl := List.mem_singleton.1 hy
    exact ⟨Nat.lt_succ_of_le (hrec.last x hx), Nat.le_trans (hrec.next due hplan x hx) hdue⟩
  · intro x hx
    rw [hsent] at hx
    rcases List.mem_append.1 hx with hx | hx
    · exact Nat.le_trans (hrec.last x hx) (Nat.le_succ _)
    · obtain rfl := List.mem_singleton.1 hx
      exact Nat.le_refl _
  · rintro _ hnext x hx
    obtain rfl := Option.some.inj hnext
    rw [hsent] at hx
    rcases List.mem_append.1 hx with hx | hx
    · have := hpast _ (mem_of_mem_sent hx)
      exact Nat.add_le_add_right this _
    · obtain rfl := List.mem_singleton.1 hx
      exact Nat.le_refl _
  · -- no other ping is awaited, since none was outstanding
    have hnone : h.pongTimeout ≠ 0 → ∀ seq time, ¬Awaits log seq time := by
      intro htimeout seq time hawaits
      have := (hrec.awaited ⟨seq, time + h.pongTimeout⟩).2 ⟨htimeout, time, hawaits, rfl⟩
      exact absurd (hout.symm.trans this) nofun
    obtain ⟨seq, deadline⟩ := p
    simp only [Heartbeat.awaited, Option.ite_none_left_eq_some, Option.some.injEq, Ping.mk.injEq,
      awaits_concat, Event.pinged.injEq, Event.endsWait, true_and]
    constructor
    · rintro ⟨htimeout, rfl, rfl⟩
      exact ⟨htimeout, now, Or.inl ⟨rfl, rfl⟩, rfl⟩
    · rintro ⟨htimeout, time, ⟨rfl, rfl⟩ | hawaits, rfl⟩
      · exact ⟨htimeout, rfl, rfl⟩
      · exact absurd hawaits (hnone htimeout seq time)

/-- **Every call is recorded.** -/
theorem Records.comes (hrec : Records interval pongTimeout log h) {now : Nat}
    (hpast : ∀ entry ∈ log, entry.1 ≤ now) {c : Call} {e : Event} (hc : Comes h now c e h') :
    Records interval pongTimeout (log ++ [(now, e)]) h' := by
  have hs := hrec.toSound.comes hc
  have hspans := hc.settings
  -- a plan that is made now lies an interval behind every ping
  have hplanned : ∀ due, some (now + h.interval) = some due →
      ∀ x ∈ sent log, x.1 + interval ≤ due := by
    intro due hdue x hx
    obtain rfl := Option.some.inj hdue
    obtain ⟨rfl, -⟩ := Prod.mk.inj hrec.spans
    exact Nat.add_le_add_right (hpast _ (mem_of_mem_sent hx)) _
  cases hc with
  | start hi => exact hrec.settle hs hspans rfl rfl rfl hplanned
  | decline hi =>
    have hr : h.running = false := by
      cases hr : h.running with
      | false => rfl
      | true => exact absurd hi (hrec.enabled hr)
    exact hrec.settle hs hspans rfl rfl (hrec.still hr).2 hrec.next
  | stop => exact hrec.settle hs hspans rfl rfl rfl nofun
  | poll hp =>
    cases hp with
    | off hr => exact hrec.pass hs hspans rfl (Or.inl rfl) rfl hrec.next
    | early hping hpong => exact hrec.pass hs hspans rfl (Or.inl rfl) rfl hrec.next
    | skip hping hdue hout hpong => exact hrec.pass hs hspans rfl (Or.inl rfl) rfl hplanned
    | send hr hping hdue hout => exact hrec.ping hs hpast hping hdue hout
    | expire hout hpong => exact hrec.settle hs hspans rfl rfl rfl nofun
  | pong ht =>
    cases ht with
    | unasked hout => exact hrec.pass hs hspans rfl (Or.inr rfl) rfl hrec.next
    | stale hout ha => exact hrec.pass hs hspans rfl (Or.inr rfl) rfl hrec.next
    | answer hout ha => exact hrec.settle hs hspans rfl rfl rfl hrec.next

/-- **Every run is recorded**, if time does not run backwards. -/
theorem Records.run (hrec : Records interval pongTimeout log h) {calls : List (Nat × Call)}
    (hpast : ∀ entry ∈ log, ∀ c ∈ calls, entry.1 ≤ c.1)
    (hordered : (calls.map Prod.fst).Pairwise (· ≤ ·)) :
    Records interval pongTimeout (log ++ (h.run calls).1) (h.run calls).2 := by
  induction calls generalizing log h with
  | nil => simpa [Heartbeat.run] using hrec
  | cons first rest ih =>
    obtain ⟨now, c⟩ := first
    obtain ⟨hfirst, hrest⟩ := List.pairwise_cons.1 hordered
    have hstep := hrec.comes (fun entry he => hpast entry he _ List.mem_cons_self)
      (comes_call h now c)
    have hrun := ih hstep ?_ hrest
    · simpa [Heartbeat.run] using hrun
    · intro entry he d hd
      rcases List.mem_append.1 he with he | he
      · exact hpast entry he d (List.mem_cons_of_mem _ hd)
      · obtain rfl := List.mem_singleton.1 he
        exact hfirst d.1 (List.mem_map_of_mem hd)

end

theorem records_run (interval pongTimeout : Nat) {calls : List (Nat × Call)}
    (hordered : (calls.map Prod.fst).Pairwise (· ≤ ·)) :
    Records interval pongTimeout ((new interval pongTimeout).run calls).1
      ((new interval pongTimeout).run calls).2 :=
  (records_new interval pongTimeout).run nofun hordered

/-! ## The result -/

/-- A payload answers the ping whose number it carries; numbers have 64 bits. -/
theorem answers_pingPayload (p : Ping) {seq : Nat} (hseq : seq < UInt64.size) :
    answers p (pingPayload seq) = true ↔ seq = p.seq := by
  have hbound : seq < 0x10000000000000000 := hseq
  have hfield : (pingPayload seq).get? "seq" = some (.ofNat seq) := rfl
  have hnumber : (Value.ofNat seq).asNat? = some seq := by
    have hnonneg : (0 : Int) ≤ seq := Int.natCast_nonneg seq
    unfold Value.ofNat
    rw [dif_pos hbound]
    simp only [Value.asNat?, Value.asNumber?, Option.bind_some, Number.asNat?, hnonneg, if_true,
      Int.toNat_natCast]
  unfold answers
  rw [hfield, Option.bind_some, hnumber]
  exact decide_eq_true_iff

/-- What is outstanding by the log is what is outstanding by the state. -/
theorem Records.isOutstanding_iff {interval pongTimeout : Nat} {log : List (Nat × Event)}
    {h : Heartbeat} (hrec : Records interval pongTimeout log h) {seq : Nat} :
    IsOutstanding pongTimeout log seq ↔ ∃ p, h.outstanding = some p ∧ seq = p.seq := by
  constructor
  · rintro ⟨htimeout, time, hawaits⟩
    exact ⟨⟨seq, time + pongTimeout⟩, (hrec.awaited _).2 ⟨htimeout, time, hawaits, rfl⟩, rfl⟩
  · rintro ⟨p, hout, rfl⟩
    obtain ⟨htimeout, time, hawaits, -⟩ := (hrec.awaited p).1 hout
    exact ⟨htimeout, time, hawaits⟩

/-- **A pong never answers the wrong ping.**  Start, stop, poll and answer a heartbeat in any order,
at times that do not run backwards.  Over the whole run the numbers of the pings increase, and two
pings are at least an interval apart.  At most one ping is outstanding.  The payload of a ping is
accepted as an answer exactly if that ping is the outstanding one, and an answer that is not
accepted changes nothing at all. -/
theorem pongs_answer_their_ping (interval pongTimeout : Nat) (calls : List (Nat × Call))
    (hordered : (calls.map Prod.fst).Pairwise (· ≤ ·)) :
    let log := ((new interval pongTimeout).run calls).1
    let h := ((new interval pongTimeout).run calls).2
    ((sent log).Pairwise fun x y => x.2 < y.2 ∧ x.1 + interval ≤ y.1) ∧
    (∀ seq seq', IsOutstanding pongTimeout log seq → IsOutstanding pongTimeout log seq' →
      seq = seq') ∧
    (∀ seq < UInt64.size, ∀ now, (h.onPong (pingPayload seq) now).1 = true ↔
      IsOutstanding pongTimeout log seq) ∧
    (∀ payload now, (h.onPong payload now).1 = false → (h.onPong payload now).2 = h) := by
  intro log h
  have hrec : Records interval pongTimeout log h := records_run interval pongTimeout hordered
  refine ⟨hrec.apart, ?_, ?_, ?_⟩
  · intro seq seq' hseq hseq'
    obtain ⟨p, hp, rfl⟩ := hrec.isOutstanding_iff.1 hseq
    obtain ⟨q, hq, rfl⟩ := hrec.isOutstanding_iff.1 hseq'
    rw [Option.some.inj (hp.symm.trans hq)]
  · intro seq hseq now
    rw [(takes_onPong h _ now).accepted_iff, hrec.isOutstanding_iff]
    simp only [answers_pingPayload _ hseq]
  · intro payload now hi
    have ht := takes_onPong h payload now
    rw [hi] at ht
    exact ht.ignored

/-- A heartbeat that was stopped and started again between two pings. -/
def restarted : List (Nat × Call) :=
  [(0, .start), (30, .poll), (35, .stop), (40, .start), (70, .poll)]

/-- The second ping is outstanding after a restart, and the answer to the first one comes too
late. -/
theorem pongs_answer_their_ping_restarted :
    (restarted.map Prod.fst).Pairwise (· ≤ ·) ∧
    sent ((new 30 10).run restarted).1 = [(30, 1), (70, 2)] ∧
    (((new 30 10).run restarted).2.onPong (pingPayload 2) 75).1 = true ∧
    (((new 30 10).run restarted).2.onPong (pingPayload 1) 75).2 =
      ((new 30 10).run restarted).2 := by
  have hordered : (restarted.map Prod.fst).Pairwise (· ≤ ·) := by decide
  obtain ⟨-, hone, haccepts, hignores⟩ := pongs_answer_their_ping 30 10 restarted hordered
  have hsecond : IsOutstanding 10 ((new 30 10).run restarted).1 2 :=
    ⟨by decide, 70, [(0, .started), (30, .pinged 1), (35, .stopped), (40, .started)], [], rfl,
      nofun⟩
  refine ⟨hordered, rfl, (haccepts 2 (by decide) 75).2 hsecond, hignores _ _ ?_⟩
  rw [Bool.eq_false_iff, Ne, haccepts 1 (by decide) 75]
  intro hfirst
  exact absurd (hone 1 2 hfirst hsecond) (by decide)

end Heartbeat
end LiveSync
