import LiveSync.Proofs.TokenMonitor.Commands

/-!
# A token monitor comes to rest

From some moment on the credential store gives one answer.  Wherever the monitor is then, it lets
the delay run out that may be running, polls once more, lets the token settle that it may find, and
has adopted the answer of the store; from then on it sends nothing.

* `Occasion.Finds`, `Attended` — a store that gives one answer, and turns that come in time.
* `Nearing`, `Nearing.acts` — the stages that the monitor goes through.
* `Timely`, `restsBy_le` — how long that takes.
* `Attended.carry_on` — turns can come in time for as long as one likes.
* `converges` — the result.
-/

namespace LiveSync
namespace TokenMonitor

/-! ## Turns that come in time -/

/-- A turn in which the store gives that answer whenever it is read. -/
def Occasion.Finds (found : Option String) : Occasion → Prop
  | .turn _ seen checked => seen.usable? = found ∧ checked.usable? = found
  | _ => False

/-- Turns under a clock: what is due is done no more than `lag` late, and at the horizon nothing is
left that is later than that. -/
inductive Attended (lag horizon : Nat) : Nat → Post → List Occasion → Prop where
  /-- There are no more turns. -/
  | rest {clock : Nat} {p : Post} (hclock : clock ≤ horizon)
      (hahead : ∀ m, p.monitor? = some m → horizon < m.due + lag) :
      Attended lag horizon clock p []
  /-- A turn comes in time. -/
  | turn {clock now : Nat} {p : Post} {seen checked : Reading} {later : List Occasion}
      (hclock : clock ≤ now) (hdue : ∀ m, p.monitor? = some m → now ≤ max clock (m.due + lag))
      (hlater : Attended lag horizon now (p.take (.turn now seen checked)).2 later) :
      Attended lag horizon clock p (.turn now seen checked :: later)

/-! ## Stages -/

/-- The spans that a monitor was made with. -/
def settings (m : TokenMonitor) : Nat × Nat :=
  (m.period, m.settleDelay)

theorem Acts.settings {m m' : TokenMonitor} {now : Nat} {seen checked : Reading}
    {r : Option MonitorRequest} (h : Acts m now seen checked r m') : m'.settings = m.settings := by
  cases h <;> simp only [TokenMonitor.settings]

/-- A poll that finds what was adopted changes nothing but the time of the next poll. -/
theorem Acts.of_settled {m m' : TokenMonitor} {now : Nat} {seen checked : Reading}
    {r : Option MonitorRequest} (h : Acts m now seen checked r m') (hidle : m.settledAt = none)
    (hseen : seen.usable? = m.current) :
    r = none ∧ m'.settledAt = none ∧ m'.current = m.current := by
  cases h with
  | early => exact ⟨rfl, hidle, rfl⟩
  | vanished hsettling => exact absurd (hidle.symm.trans hsettling) nofun
  | adopted hsettling => exact absurd (hidle.symm.trans hsettling) nofun
  | unchanged => exact ⟨rfl, hidle, rfl⟩
  | lost _ _ hnone hcurrent => exact absurd (hseen.symm.trans hnone) hcurrent
  | settles _ _ hfound hnew => exact absurd (hseen.symm.trans hfound) hnew
  | vanishedAtOnce _ _ hfound hnew => exact absurd (hseen.symm.trans hfound) hnew
  | adoptedAtOnce _ _ hfound hnew => exact absurd (hseen.symm.trans hfound) hnew

/-- How far a monitor is on its way to the one answer of the store. -/
inductive Nearing (found : Option String) (lag pollBy clock : Nat) (m : TokenMonitor) : Prop where
  /-- It has not looked yet, and it will have by that time. -/
  | waiting (hclock : clock ≤ pollBy) (hdue : m.due + lag ≤ pollBy)
      (hnext : m.nextPoll + lag ≤ pollBy)
  /-- It has found a token, which settles. -/
  | settling {due : Nat} (hsettling : m.settledAt = some due)
      (hdue : due ≤ pollBy + m.settleDelay) (hfound : found ≠ none)
  /-- It has adopted the answer. -/
  | settled (hidle : m.settledAt = none) (hcurrent : m.current = found)

variable {found : Option String} {lag pollBy clock now : Nat} {m m' : TokenMonitor}
  {seen checked : Reading} {r : Option MonitorRequest}

/-- What one turn comes to at each stage. -/
theorem Nearing.acts (h : Nearing found lag pollBy clock m) (hnow : now ≤ max clock (m.due + lag))
    (hseen : seen.usable? = found) (hchecked : checked.usable? = found)
    (ha : Acts m now seen checked r m') : Nearing found lag pollBy now m' := by
  cases h with
  | waiting hclock hdue hnext =>
    have hle : now ≤ pollBy := by omega
    cases ha with
    | early => exact .waiting hle hdue hnext
    | vanished => exact .waiting hle hnext hnext
    | adopted _ _ hfound => exact .settled rfl (hfound.symm.trans hchecked)
    | unchanged hidle _ hsame => exact .settled hidle (hsame.symm.trans hseen)
    | lost hidle _ hnone => exact .settled hidle (hnone.symm.trans hseen)
    | settles _ _ hfound =>
      refine .settling rfl (Nat.add_le_add_right hle _) ?_
      rw [← hseen, hfound]
      exact nofun
    | vanishedAtOnce _ _ hfound _ _ hnone =>
      exact absurd ((hfound.symm.trans hseen).trans (hchecked.symm.trans hnone)) nofun
    | adoptedAtOnce hidle _ _ _ _ hfound => exact .settled hidle (hfound.symm.trans hchecked)
  | settling hsettling hdue hfound =>
    cases ha with
    | early => exact .settling hsettling hdue hfound
    | vanished _ _ hnone => exact absurd (hchecked.symm.trans hnone) hfound
    | adopted _ _ hnew => exact .settled rfl (hnew.symm.trans hchecked)
    | unchanged hidle => exact absurd (hsettling.symm.trans hidle) nofun
    | lost hidle => exact absurd (hsettling.symm.trans hidle) nofun
    | settles hidle => exact absurd (hsettling.symm.trans hidle) nofun
    | vanishedAtOnce hidle => exact absurd (hsettling.symm.trans hidle) nofun
    | adoptedAtOnce hidle => exact absurd (hsettling.symm.trans hidle) nofun
  | settled hidle hcurrent =>
    obtain ⟨-, hidle', hcurrent'⟩ := ha.of_settled hidle (hseen.trans hcurrent.symm)
    exact .settled hidle' (hcurrent'.trans hcurrent)

namespace Post

/-- A monitor that has a client keeps its post in a turn. -/
theorem take_turn {p : Post} (hmonitor : p.monitor? = some m) (hclient : p.clientHere = true)
    (now : Nat) (seen checked : Reading) : ∃ r m', Acts m now seen checked r m' ∧
      p.take (.turn now seen checked) = (r, { p with monitor? := some m' }) := by
  have ha := acts_poll m now seen checked
  cases hpoll : m.poll now seen checked with
  | mk r m' =>
    rw [hpoll] at ha
    refine ⟨r, m', ha, ?_⟩
    cases r with
    | none => simp [take, hmonitor, hpoll]
    | some r => simp [take, hmonitor, hpoll, hclient]

variable {p : Post} {horizon : Nat} {history : List Occasion}

/-- **Turns that come in time** bring a monitor on its way. -/
theorem nearing_after (hatt : Attended lag horizon clock p history)
    (hfinds : ∀ o ∈ history, o.Finds found) (hmonitor : p.monitor? = some m)
    (hclient : p.clientHere = true) (h : Nearing found lag pollBy clock m) :
    ∃ m' clock', (p.after history).monitor? = some m' ∧ (p.after history).clientHere = true ∧
      m'.settings = m.settings ∧ Nearing found lag pollBy clock' m' ∧ horizon < m'.due + lag := by
  induction hatt generalizing m with
  | rest hclock hahead => exact ⟨m, _, hmonitor, hclient, rfl, h, hahead m hmonitor⟩
  | @turn clock now p seen checked later hclock hdue hlater ih =>
    obtain ⟨⟨hseen, hchecked⟩, hrest⟩ := List.forall_mem_cons.1 hfinds
    obtain ⟨r, m', ha, htake⟩ := take_turn hmonitor hclient now seen checked
    have hnext := h.acts (hdue m hmonitor) hseen hchecked ha
    rw [htake] at ih
    obtain ⟨n, clock', hn, hclient', hsettings, hnearing, hahead⟩ := ih hrest rfl hclient hnext
    refine ⟨n, clock', ?_, ?_, hsettings.trans ha.settings, hnearing, hahead⟩
    · simpa [after, htake] using hn
    · simpa [after, htake] using hclient'

/-- A monitor that has adopted the one answer of the store sends nothing any more. -/
theorem sent_of_settled (hidle : p.All fun m => m.settledAt = none ∧ m.current = found)
    (hfinds : ∀ o ∈ history, o.Finds found) : p.sent history = [] := by
  refine sent_of_silent (P := fun q => q.All fun m => m.settledAt = none ∧ m.current = found)
    (fun {q o} hidle ho => ?_) hidle
  have hfound := hfinds o ho
  have ht := takes_take q o
  generalize (q.take o).1 = r at ht ⊢
  generalize (q.take o).2 = q' at ht ⊢
  cases ht with
  | absent => exact ⟨rfl, hidle⟩
  | silent hmonitor ha =>
    obtain ⟨hsettled, hcurrent⟩ := hidle _ hmonitor
    obtain ⟨-, hsettled', hcurrent'⟩ := ha.of_settled hsettled (hfound.1.trans hcurrent.symm)
    refine ⟨rfl, fun m hm => ?_⟩
    obtain rfl := Option.some.inj hm
    exact ⟨hsettled', hcurrent'.trans hcurrent⟩
  | sends hmonitor ha =>
    obtain ⟨hsettled, hcurrent⟩ := hidle _ hmonitor
    exact absurd (ha.of_settled hsettled (hfound.1.trans hcurrent.symm)).1 (Option.some_ne_none _)
  | ends hmonitor ha =>
    obtain ⟨hsettled, hcurrent⟩ := hidle _ hmonitor
    exact absurd (ha.of_settled hsettled (hfound.1.trans hcurrent.symm)).1 (Option.some_ne_none _)
  | clientGone => exact hfound.elim
  | stop => exact hfound.elim

end Post

/-! ## How long it takes -/

/-- When the monitor has come to rest: the delay that runs, if one does, is over, it has polled once
more, and the delay after that is over, too.  Each turn may be `lag` late. -/
def restsBy (m : TokenMonitor) (s lag : Nat) : Nat :=
  max s (max m.due m.nextPoll + lag) + m.settleDelay + lag

/-- What is due comes no later than a poll or a delay from now. -/
def Timely (m : TokenMonitor) (now : Nat) : Prop :=
  m.nextPoll ≤ now + m.period ∧ ∀ due, m.settledAt = some due → due ≤ now + m.settleDelay

theorem pollAfter_le {m : TokenMonitor} {now : Nat} (hdue : m.nextPoll ≤ now) :
    m.pollAfter now ≤ now + m.period := by
  unfold pollAfter
  split <;> omega

theorem Timely.acts {s : Nat} (h : m.Timely s) (hnow : now ≤ s)
    (ha : Acts m now seen checked r m') : m'.Timely s := by
  have hpoll : m.nextPoll ≤ now → m.pollAfter now ≤ s + m.period := fun hdue =>
    Nat.le_trans (pollAfter_le hdue) (Nat.add_le_add_right hnow _)
  cases ha with
  | early => exact h
  | vanished => exact ⟨h.1, nofun⟩
  | adopted => exact ⟨h.1, nofun⟩
  | unchanged _ hdue => exact ⟨hpoll hdue, h.2⟩
  | lost _ hdue => exact ⟨hpoll hdue, h.2⟩
  | settles _ hdue =>
    refine ⟨hpoll hdue, fun due hsettling => ?_⟩
    obtain rfl := Option.some.inj hsettling
    exact Nat.add_le_add_right hnow _
  | vanishedAtOnce _ hdue => exact ⟨hpoll hdue, h.2⟩
  | adoptedAtOnce _ hdue => exact ⟨hpoll hdue, h.2⟩

/-- The monitor rests a poll or a delay, and one more delay, from now. -/
theorem Timely.restsBy_le {s : Nat} (h : m.Timely s) (lag : Nat) :
    m.restsBy s lag ≤ s + max m.period m.settleDelay + m.settleDelay + 2 * lag := by
  obtain ⟨hnext, hsettling⟩ := h
  have hdue : m.due ≤ s + max m.period m.settleDelay := by
    unfold due
    cases hsettled : m.settledAt with
    | none => simp only [Option.getD_none]; omega
    | some due =>
      have := hsettling due hsettled
      simp only [Option.getD_some]
      omega
  unfold restsBy
  omega

/-- The occasion is not later than that. -/
def Occasion.Until (s : Nat) : Occasion → Prop
  | .turn now _ _ => now ≤ s
  | _ => True

theorem Post.timely_after {s : Nat} {p : Post} (h : p.All (·.Timely s)) {history : List Occasion}
    (huntil : ∀ o ∈ history, o.Until s) : (p.after history).All (·.Timely s) :=
  h.after history fun ho htimely ha => htimely.acts (huntil _ ho) ha

theorem Post.settings_after {spans : Nat × Nat} {p : Post} (h : p.All (·.settings = spans))
    (history : List Occasion) : (p.after history).All (·.settings = spans) :=
  h.after history fun _ hsettings ha => ha.settings.trans hsettings

/-! ## Turns can always come in time -/

/-- The next poll lies ahead. -/
theorem lt_pollAfter {m : TokenMonitor} (hperiod : shortestPeriod ≤ m.period) (now : Nat) :
    now < m.pollAfter now := by
  unfold pollAfter
  unfold shortestPeriod Span.ofMillis at hperiod
  unfold tolerance Span.ofMillis
  split <;> omega

/-- When something is due, a turn ends the delay or moves the next poll beyond now. -/
theorem Acts.advances (h : Acts m now seen checked r m') (hperiod : shortestPeriod ≤ m.period)
    (hdue : m.due ≤ now) :
    m.settledAt.isSome = true ∧ m'.settledAt = none ∧ m'.nextPoll = m.nextPoll ∨
      m.nextPoll ≤ now ∧ now < m'.nextPoll := by
  have hpoll := lt_pollAfter hperiod now
  cases h with
  | early hearly => omega
  | vanished hsettling => exact .inl ⟨Option.isSome_of_eq_some hsettling, rfl, rfl⟩
  | adopted hsettling => exact .inl ⟨Option.isSome_of_eq_some hsettling, rfl, rfl⟩
  | unchanged _ hle => exact .inr ⟨hle, hpoll⟩
  | lost _ hle => exact .inr ⟨hle, hpoll⟩
  | settles _ hle => exact .inr ⟨hle, hpoll⟩
  | vanishedAtOnce _ hle => exact .inr ⟨hle, hpoll⟩
  | adoptedAtOnce _ hle => exact .inr ⟨hle, hpoll⟩

/-- How much is left to do up to a horizon: two turns for each instant at which a poll may come. -/
def left (m : TokenMonitor) (horizon : Nat) : Nat :=
  2 * (horizon + 1 - m.nextPoll) + if m.settledAt.isSome then 1 else 0

theorem Acts.left_lt {horizon : Nat} (h : Acts m now seen checked r m')
    (hperiod : shortestPeriod ≤ m.period) (hdue : m.due ≤ now) (hnow : now ≤ horizon) :
    m'.left horizon < m.left horizon := by
  unfold left
  rcases h.advances hperiod hdue with ⟨hsettling, hidle, hnext⟩ | ⟨hle, hlt⟩
  · simp [hsettling, hidle, hnext]
  · split <;> split <;> omega

/-- The monitor does not poll too often. -/
def Paced (m : TokenMonitor) : Prop :=
  shortestPeriod ≤ m.period

theorem Paced.acts (h : m.Paced) (ha : Acts m now seen checked r m') : m'.Paced := by
  have hperiod : m'.period = m.period := congrArg Prod.fst ha.settings
  unfold Paced at h ⊢
  rwa [hperiod]

/-- From any moment on turns can come in time, up to any horizon. -/
theorem exists_attended {horizon clock : Nat} {p : Post} (hpaced : p.All Paced)
    (hclock : clock ≤ horizon) (lag : Nat) (reading : Reading) :
    ∃ turns, (∀ o ∈ turns, o.Finds reading.usable?) ∧ Attended lag horizon clock p turns := by
  have hrest : ∀ {clock : Nat} {p : Post}, p.monitor? = none → clock ≤ horizon →
      Attended lag horizon clock p [] := fun hnone hclock =>
    .rest hclock fun m hm => absurd (hnone.symm.trans hm) nofun
  cases hmonitor : p.monitor? with
  | none => exact ⟨[], nofun, hrest hmonitor hclock⟩
  | some m =>
    induction hn : m.left horizon using Nat.strongRecOn generalizing clock p m with
    | ind n ih =>
      by_cases hdue : horizon < m.due
      · refine ⟨[], nofun, .rest hclock fun m' hm' => ?_⟩
        obtain rfl := Option.some.inj (hmonitor.symm.trans hm')
        omega
      · -- the next turn comes exactly when something is due, or at once if it is overdue
        let now := max clock m.due
        have hnow : now ≤ horizon := by omega
        let next := (p.take (.turn now reading reading)).2
        suffices hturns : ∃ turns, (∀ o ∈ turns, o.Finds reading.usable?) ∧
            Attended lag horizon now next turns by
          obtain ⟨turns, hfinds, hatt⟩ := hturns
          refine ⟨.turn now reading reading :: turns,
            List.forall_mem_cons.2 ⟨⟨rfl, rfl⟩, hfinds⟩, .turn (by omega) (fun m' hm' => ?_) hatt⟩
          obtain rfl := Option.some.inj (hmonitor.symm.trans hm')
          omega
        cases hnext : next.monitor? with
        | none => exact ⟨[], nofun, hrest hnext hnow⟩
        | some m' =>
          obtain ⟨n, _, _, _, r, ⟨⟩, hmonitor', ha⟩ | ⟨⟨⟩, -⟩ := Post.monitor?_take hnext
          obtain rfl := Option.some.inj (hmonitor.symm.trans hmonitor')
          have hleft := ha.left_lt (hpaced m hmonitor) (by omega) hnow
          exact ih _ (hn ▸ hleft) (hpaced.take _ fun _ => Paced.acts) hnow m' hnext rfl

/-- Turns in time can be carried on. -/
theorem Attended.carry_on {lag horizon clock further : Nat} {p : Post} {history : List Occasion}
    (hatt : Attended lag horizon clock p history) (hpaced : p.All Paced)
    (hfurther : horizon ≤ further) (reading : Reading) :
    ∃ turns, (∀ o ∈ turns, o.Finds reading.usable?) ∧
      Attended lag further clock p (history ++ turns) := by
  induction hatt with
  | rest hclock hahead =>
    exact exists_attended hpaced (Nat.le_trans hclock hfurther) lag reading
  | turn hclock hdue hlater ih =>
    obtain ⟨turns, hfinds, hatt⟩ := ih (hpaced.take _ fun _ => Paced.acts)
    exact ⟨turns, hfinds, .turn hclock hdue hatt⟩

/-! ## The result -/

open Post

section

variable {p : Post} {s horizon : Nat} {after : List Occasion}

/-- **Once there was time enough** the monitor has adopted the one answer of the store. -/
theorem rests_after (hatt : Attended lag horizon s p after) (hfinds : ∀ o ∈ after, o.Finds found)
    (hmonitor : p.monitor? = some m) (hclient : p.clientHere = true)
    (hrests : m.restsBy s lag ≤ horizon) :
    ∃ m', (p.after after).monitor? = some m' ∧ m'.settledAt = none ∧ m'.current = found := by
  unfold restsBy at hrests
  have hstart : Nearing found lag (max s (max m.due m.nextPoll + lag)) s m :=
    .waiting (by omega) (by omega) (by omega)
  obtain ⟨m', clock, hm', -, hsettings, hnearing, hahead⟩ :=
    nearing_after hatt hfinds hmonitor hclient hstart
  have hdelay : m'.settleDelay = m.settleDelay := congrArg Prod.snd hsettings
  cases hnearing with
  | waiting hclock hdue hnext => omega
  | settling hsettling hdue hfound =>
    simp only [due, hsettling, Option.getD_some] at hahead
    omega
  | settled hidle hcurrent => exact ⟨m', hm', hidle, hcurrent⟩

end

theorem timely_start {period settleDelay begun s : Nat} (h : begun ≤ s) :
    (start period settleDelay begun).Timely s :=
  ⟨by simp only [start]; omega, nofun⟩

/-- **A token monitor comes to rest.**  Take any history up to a moment `s`, and let the credential
store give one answer from then on, while the monitor gets its turns in time and neither it stops
nor its client goes.  Once the delay that may be running is over, one more poll was taken and the
delay after it is over as well, the adopted token is the answer of the store, the last command asked
for a connection exactly if there is one, and nothing is sent any more.  That takes no longer than a
delay after the next poll or the end of the running delay; and turns can come in time for as long as
one likes. -/
theorem converges {period settleDelay begun s lag horizon : Nat} {before after : List Occasion}
    {m : TokenMonitor} {found : Option String} :
    let p := (atWork period settleDelay begun).after before
    p.monitor? = some m → p.clientHere = true →
    Attended lag horizon s p after → (∀ o ∈ after, o.Finds found) →
    let q := p.after after
    let log := (atWork period settleDelay begun).sent (before ++ after)
    (m.restsBy s lag ≤ horizon →
      q.adopted = found ∧
      (found ≠ none → log.getLast? = some .connect) ∧
      (found = none → log.getLast? = none ∨ log.getLast? = some .disconnect) ∧
      ∀ further, (∀ o ∈ further, o.Finds found) → q.sent further = []) ∧
    (begun ≤ s → (∀ o ∈ before, o.Until s) → m.restsBy s lag ≤
      s + max (max period shortestPeriod) settleDelay + settleDelay + 2 * lag) ∧
    ∀ (reading : Reading) further, reading.usable? = found → horizon ≤ further →
      ∃ turns, (∀ o ∈ turns, o.Finds found) ∧ Attended lag further s p (after ++ turns) := by
  intro p hmonitor hclient hatt hfinds q log
  have hsettings : m.settings = (max period shortestPeriod, settleDelay) :=
    settings_after (p := atWork period settleDelay begun) (fun n hn => by
      obtain rfl := Option.some.inj hn
      simp only [TokenMonitor.settings, start]) before m hmonitor
  have hperiod : m.period = max period shortestPeriod := congrArg Prod.fst hsettings
  have hdelay : m.settleDelay = settleDelay := congrArg Prod.snd hsettings
  refine ⟨fun hrests => ?_, fun hbegun huntil => ?_, fun reading further hreading hfurther => ?_⟩
  · obtain ⟨m', hm', hidle, hcurrent⟩ := rests_after hatt hfinds hmonitor hclient hrests
    have hstep : m'.current.isSome = true ↔ log.getLast? = some .connect :=
      inStep_after period settleDelay begun (before ++ after) m'
        (by rw [after_append]; exact hm')
    refine ⟨by simp [q, adopted, hm', hcurrent], fun hfound => ?_, fun hfound => ?_, ?_⟩
    · exact hstep.1 (by rw [hcurrent]; exact Option.isSome_iff_ne_none.2 hfound)
    · have hnot : log.getLast? ≠ some .connect := fun h => by
        have := hstep.2 h
        simp [hcurrent, hfound] at this
      cases hlast : log.getLast? with
      | none => exact .inl rfl
      | some r =>
        cases r with
        | connect => exact absurd hlast hnot
        | disconnect => exact .inr rfl
    · refine fun further => sent_of_settled fun n hn => ?_
      obtain rfl := Option.some.inj (hm'.symm.trans hn)
      exact ⟨hidle, hcurrent⟩
  · have htimely : m.Timely s := timely_after (p := atWork period settleDelay begun)
      (fun n hn => by obtain rfl := Option.some.inj hn; exact timely_start hbegun) huntil m hmonitor
    have hle := htimely.restsBy_le lag
    rwa [hperiod, hdelay] at hle
  · obtain ⟨turns, hturns, hcarried⟩ := hatt.carry_on (fun n hn => by
      obtain rfl := Option.some.inj (hmonitor.symm.trans hn)
      unfold Paced
      omega) hfurther reading
    exact ⟨turns, hreading ▸ hturns, hcarried⟩

/-- A token was adopted, and another one was seen and settles. -/
def midway : List Occasion :=
  [.turn 0 ⟨some "first", 0⟩ ⟨some "first", 0⟩,
   .turn (Span.ofMillis 200) ⟨some "first", 0⟩ ⟨some "first", 0⟩,
   .turn (Span.ofMillis 1000) ⟨some "second", 0⟩ ⟨some "second", 0⟩]

/-- The store holds nothing any more. -/
def signedOut : List Occasion :=
  [.turn (Span.ofMillis 1200) ⟨none, 0⟩ ⟨none, 0⟩, .turn (Span.ofMillis 2000) ⟨none, 0⟩ ⟨none, 0⟩]

/-- In the middle of a delay both tokens vanish: the monitor rests after the next poll. -/
theorem converges_midway :
    let p := (atWork (Span.ofMillis 1000) (Span.ofMillis 200) 0).after midway
    let q := p.after signedOut
    let log := (atWork (Span.ofMillis 1000) (Span.ofMillis 200) 0).sent (midway ++ signedOut)
    Attended 0 (Span.ofMillis 2200) (Span.ofMillis 1100) p signedOut ∧
    (∀ o ∈ signedOut, o.Finds none) ∧ q.adopted = none ∧
    (log.getLast? = none ∨ log.getLast? = some .disconnect) ∧
    ∀ further, (∀ o ∈ further, o.Finds none) → q.sent further = [] := by
  intro p q log
  -- the monitor in the middle of the delay, after it, and after the poll
  let settling : TokenMonitor :=
    { period := Span.ofMillis 1000, settleDelay := Span.ofMillis 200, current := some "first"
      nextPoll := Span.ofMillis 2000, settledAt := some (Span.ofMillis 1200) }
  have hsettling : p.monitor? = some settling := by decide +kernel
  have hidle : (p.after (signedOut.take 1)).monitor? =
      some { settling with settledAt := none } := by decide +kernel
  have hrest : q.monitor? = some { settling with
      settledAt := none, current := none, nextPoll := Span.ofMillis 3000 } := by
    decide +kernel
  have hatt : Attended 0 (Span.ofMillis 2200) (Span.ofMillis 1100) p signedOut := by
    refine .turn (by decide +kernel) (fun m hm => ?_) (.turn (by decide +kernel) (fun m hm => ?_)
      (.rest (by decide +kernel) fun m hm => ?_))
    · obtain rfl := Option.some.inj (hsettling.symm.trans hm)
      decide +kernel
    · obtain rfl := Option.some.inj (hidle.symm.trans hm)
      decide +kernel
    · obtain rfl := Option.some.inj (hrest.symm.trans hm)
      decide +kernel
  have hfinds : ∀ o ∈ signedOut, o.Finds none := by
    simp [signedOut, Occasion.Finds, Reading.usable?, Credential.usable, Credential.status,
      Except.toOption]
  obtain ⟨hadopted, -, hlast, hsilent⟩ :=
    (converges hsettling (by decide +kernel) hatt hfinds).1 (by decide +kernel)
  exact ⟨hatt, hfinds, hadopted, hlast rfl, hsilent⟩

end TokenMonitor
end LiveSync
