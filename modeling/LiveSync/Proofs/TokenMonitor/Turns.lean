import LiveSync.TokenMonitor

/-!
# The turns of a token monitor

A monitor at its post gets turns, the client that it drives may go, and it may be told to stop.  All
that it does in a turn is listed once, with what is known in each case.  The credential store may
hold anything whenever it is read: each turn brings what a poll finds in it and what is found when a
new token has settled, and the two need not agree even when no time lies between them.

* `Acts`, `acts_poll` — what a turn comes to.
* `Occasion`, `Post`, `Post.take` — what may happen to a monitor, and what it sends.
* `Post.Polls`, `Post.Checks` — when the store is read.
* `Post.take_eq_connect_iff`, `Post.take_eq_disconnect_iff` — when a command is sent.
-/

namespace LiveSync
namespace TokenMonitor

/-! ## What a turn comes to -/

/-- What a turn comes to: the request, if there is one, and the monitor afterwards. -/
inductive Acts (m : TokenMonitor) (now : Nat) (seen checked : Reading) :
    Option MonitorRequest → TokenMonitor → Prop where
  /-- Nothing is due. -/
  | early (hdue : now < m.due) : Acts m now seen checked none m
  /-- The new token has settled, and it is gone. -/
  | vanished {due : Nat} (hsettling : m.settledAt = some due) (hdue : due ≤ now)
      (hchecked : checked.usable? = none) :
      Acts m now seen checked none { m with settledAt := none }
  /-- The new token has settled, and the one that is there now is adopted. -/
  | adopted {due : Nat} {t : String} (hsettling : m.settledAt = some due) (hdue : due ≤ now)
      (hchecked : checked.usable? = some t) :
      Acts m now seen checked (some .connect) { m with settledAt := none, current := some t }
  /-- A poll finds what was adopted. -/
  | unchanged (hidle : m.settledAt = none) (hdue : m.nextPoll ≤ now)
      (hseen : seen.usable? = m.current) :
      Acts m now seen checked none { m with nextPoll := m.pollAfter now }
  /-- A poll finds no usable token any more. -/
  | lost (hidle : m.settledAt = none) (hdue : m.nextPoll ≤ now) (hseen : seen.usable? = none)
      (hcurrent : m.current ≠ none) :
      Acts m now seen checked (some .disconnect)
        { m with nextPoll := m.pollAfter now, current := none }
  /-- A poll finds a new token, which settles. -/
  | settles {t : String} (hidle : m.settledAt = none) (hdue : m.nextPoll ≤ now)
      (hseen : seen.usable? = some t) (hnew : m.current ≠ some t) (hdelay : m.settleDelay ≠ 0) :
      Acts m now seen checked none
        { m with nextPoll := m.pollAfter now, settledAt := some (now + m.settleDelay) }
  /-- A poll finds a new token, and without a delay it is gone at once. -/
  | vanishedAtOnce {t : String} (hidle : m.settledAt = none) (hdue : m.nextPoll ≤ now)
      (hseen : seen.usable? = some t) (hnew : m.current ≠ some t) (hdelay : m.settleDelay = 0)
      (hchecked : checked.usable? = none) :
      Acts m now seen checked none { m with nextPoll := m.pollAfter now }
  /-- A poll finds a new token, and without a delay the one that is there is adopted at once. -/
  | adoptedAtOnce {t u : String} (hidle : m.settledAt = none) (hdue : m.nextPoll ≤ now)
      (hseen : seen.usable? = some t) (hnew : m.current ≠ some t) (hdelay : m.settleDelay = 0)
      (hchecked : checked.usable? = some u) :
      Acts m now seen checked (some .connect)
        { m with nextPoll := m.pollAfter now, current := some u }

/-- **A turn comes to one of these.** -/
theorem acts_poll (m : TokenMonitor) (now : Nat) (seen checked : Reading) :
    Acts m now seen checked (m.poll now seen checked).1 (m.poll now seen checked).2 := by
  obtain ⟨period, settleDelay, current, nextPoll, settledAt⟩ := m
  cases settledAt with
  | some due =>
    by_cases hdue : due ≤ now
    · cases hchecked : checked.usable? with
      | none => simpa [poll, hdue, adopt, hchecked] using Acts.vanished rfl hdue hchecked
      | some t => simpa [poll, hdue, adopt, hchecked] using Acts.adopted rfl hdue hchecked
    · simpa [poll, hdue] using Acts.early (Nat.lt_of_not_le hdue)
  | none =>
    by_cases hdue : nextPoll ≤ now
    · by_cases hsame : seen.usable? = current
      · simpa [poll, hdue, look, hsame] using Acts.unchanged rfl hdue hsame
      · cases hseen : seen.usable? with
        | none =>
          have hcurrent : current ≠ none := fun h => hsame (hseen.trans h.symm)
          simpa [poll, hdue, look, hseen, hcurrent.symm] using Acts.lost rfl hdue hseen hcurrent
        | some t =>
          have hnew : current ≠ some t := fun h => hsame (hseen.trans h.symm)
          by_cases hdelay : settleDelay = 0
          · subst hdelay
            cases hchecked : checked.usable? with
            | none =>
              simpa [poll, hdue, look, hseen, hnew.symm, adopt, hchecked] using
                Acts.vanishedAtOnce rfl hdue hseen hnew rfl hchecked
            | some u =>
              simpa [poll, hdue, look, hseen, hnew.symm, adopt, hchecked] using
                Acts.adoptedAtOnce rfl hdue hseen hnew rfl hchecked
          · simpa [poll, hdue, look, hseen, hnew.symm, hdelay] using
              Acts.settles rfl hdue hseen hnew hdelay
    · simpa [poll, hdue] using Acts.early (Nat.lt_of_not_le hdue)

/-- The monitor looks at the store in a turn at that time. -/
def Polls (m : TokenMonitor) (now : Nat) : Prop :=
  m.settledAt = none ∧ m.nextPoll ≤ now

/-- The monitor looks again, since a new token has settled. -/
def Checks (m : TokenMonitor) (now : Nat) (seen : Reading) : Prop :=
  (∃ due, m.settledAt = some due ∧ due ≤ now) ∨
    m.Polls now ∧ m.settleDelay = 0 ∧ seen.usable? ≠ none ∧ seen.usable? ≠ m.current

section

variable {m m' : TokenMonitor} {now : Nat} {seen checked : Reading} {r : Option MonitorRequest}

/-- The adopted token is that of the last request. -/
theorem Acts.current_eq (h : Acts m now seen checked r m') : m'.current =
    match r with
    | none => m.current
    | some .connect => checked.usable?
    | some .disconnect => none := by
  cases h with
  | adopted _ _ hchecked => exact hchecked.symm
  | adoptedAtOnce _ _ _ _ _ hchecked => exact hchecked.symm
  | _ => rfl

/-- A connection is asked for when a second look finds a usable token. -/
theorem Acts.eq_connect_iff (h : Acts m now seen checked r m') :
    r = some .connect ↔ m.Checks now seen ∧ ∃ t, checked.usable? = some t := by
  cases h with
  | early hdue =>
    refine ⟨nofun, ?_⟩
    rintro ⟨⟨settled, hsettling, hle⟩ | ⟨⟨hidle, hle⟩, -⟩, -⟩
    · simp only [due, hsettling, Option.getD_some] at hdue
      omega
    · simp only [due, hidle, Option.getD_none] at hdue
      omega
  | vanished hsettling hdue hchecked => simp [hchecked]
  | adopted hsettling hdue hchecked => simp [Checks, hsettling, hdue, hchecked]
  | unchanged hidle hdue hseen => simp [Checks, hidle, hseen]
  | lost hidle hdue hseen hcurrent => simp [Checks, hidle, hseen]
  | settles hidle hdue hseen hnew hdelay => simp [Checks, hidle, hdelay]
  | vanishedAtOnce hidle hdue hseen hnew hdelay hchecked => simp [hchecked]
  | adoptedAtOnce hidle hdue hseen hnew hdelay hchecked =>
    simp [Checks, Polls, hidle, hdue, hseen, hnew.symm, hdelay, hchecked]

/-- The end of a connection is asked for when a poll finds no usable token and one was adopted. -/
theorem Acts.eq_disconnect_iff (h : Acts m now seen checked r m') :
    r = some .disconnect ↔ m.Polls now ∧ seen.usable? = none ∧ m.current ≠ none := by
  cases h with
  | early hdue =>
    refine ⟨nofun, ?_⟩
    rintro ⟨⟨hidle, hle⟩, -⟩
    simp only [due, hidle, Option.getD_none] at hdue
    omega
  | vanished hsettling hdue hchecked => simp [Polls, hsettling]
  | adopted hsettling hdue hchecked => simp [Polls, hsettling]
  | unchanged hidle hdue hseen => simp [hseen]
  | lost hidle hdue hseen hcurrent => simp [Polls, hidle, hdue, hseen, hcurrent]
  | settles hidle hdue hseen hnew hdelay => simp [hseen]
  | vanishedAtOnce hidle hdue hseen hnew hdelay hchecked => simp [hseen]
  | adoptedAtOnce hidle hdue hseen hnew hdelay hchecked => simp [hseen]

end

/-! ## A monitor at its post -/

/-- Something that happens to a monitor at its post. -/
inductive Occasion where
  /-- It gets a turn at a time.  `seen` is what a poll finds, and `checked` what is found when a new
  token has settled. -/
  | turn (now : Nat) (seen checked : Reading)
  /-- The client that it drives goes. -/
  | clientGone
  /-- It is told to stop, or dropped. -/
  | stop

/-- A monitor at its post. -/
structure Post where
  /-- The monitor, until it comes to its end. -/
  monitor? : Option TokenMonitor
  /-- Does the client take commands? -/
  clientHere : Bool

namespace Post

/-- A monitor that starts now. -/
def atWork (period settleDelay begun : Nat) : Post :=
  ⟨some (start period settleDelay begun), true⟩

/-- The token that was adopted last. -/
def adopted (p : Post) : Option String :=
  p.monitor?.bind (·.current)

/-- What a monitor sends on an occasion, and its post afterwards.  If the client is gone the monitor
comes to its end when it would send something. -/
def take (p : Post) : Occasion → Option MonitorRequest × Post
  | .turn now seen checked =>
    match p.monitor? with
    | none => (none, p)
    | some m =>
      match m.poll now seen checked with
      | (none, m) => (none, { p with monitor? := some m })
      | (some r, m) =>
        if p.clientHere then (some r, { p with monitor? := some m })
        else (none, { p with monitor? := none })
  | .clientGone => (none, { p with clientHere := false })
  | .stop => (none, { p with monitor? := none })

/-- The post after some occasions. -/
def after (p : Post) (history : List Occasion) : Post :=
  history.foldl (fun p o => (p.take o).2) p

/-- What is sent on some occasions. -/
def sent (p : Post) : List Occasion → List MonitorRequest
  | [] => []
  | o :: rest => (p.take o).1.toList ++ (p.take o).2.sent rest

/-- A poll on an occasion finds this. -/
def Polls (p : Post) : Occasion → Option String → Prop
  | .turn now seen _, found => (∃ m, p.monitor? = some m ∧ m.Polls now) ∧ seen.usable? = found
  | _, _ => False

/-- A second look on an occasion finds this. -/
def Checks (p : Post) : Occasion → Option String → Prop
  | .turn now seen checked, found =>
    (∃ m, p.monitor? = some m ∧ m.Checks now seen) ∧ checked.usable? = found
  | _, _ => False

theorem after_append (p : Post) (a b : List Occasion) : p.after (a ++ b) = (p.after a).after b :=
  List.foldl_append

theorem sent_append (p : Post) (a b : List Occasion) :
    p.sent (a ++ b) = p.sent a ++ (p.after a).sent b := by
  induction a generalizing p with
  | nil => rfl
  | cons o rest ih => simp [sent, after, ih]

/-- Nothing is sent as long as each occasion is met in silence. -/
theorem sent_of_silent {P : Post → Prop} {history : List Occasion}
    (hstep : ∀ {q o}, P q → o ∈ history → (q.take o).1 = none ∧ P (q.take o).2) {p : Post}
    (h : P p) : p.sent history = [] := by
  induction history generalizing p with
  | nil => rfl
  | cons o rest ih =>
    obtain ⟨hsilent, hnext⟩ := hstep h (List.mem_cons_self ..)
    rw [sent, hsilent, ih (fun hq ho => hstep hq (List.mem_cons_of_mem _ ho)) hnext]
    rfl

/-- What an occasion comes to. -/
inductive Takes (p : Post) : Occasion → Option MonitorRequest → Post → Prop where
  /-- The monitor came to its end before. -/
  | absent {now : Nat} {seen checked : Reading} (hmonitor : p.monitor? = none) :
      Takes p (.turn now seen checked) none p
  /-- The monitor asks for nothing. -/
  | silent {m m' : TokenMonitor} {now : Nat} {seen checked : Reading}
      (hmonitor : p.monitor? = some m) (ha : Acts m now seen checked none m') :
      Takes p (.turn now seen checked) none { p with monitor? := some m' }
  /-- What the monitor asks for is sent. -/
  | sends {m m' : TokenMonitor} {now : Nat} {seen checked : Reading} {r : MonitorRequest}
      (hmonitor : p.monitor? = some m) (ha : Acts m now seen checked (some r) m')
      (hclient : p.clientHere = true) :
      Takes p (.turn now seen checked) (some r) { p with monitor? := some m' }
  /-- What the monitor asks for cannot be sent, and it comes to its end. -/
  | ends {m m' : TokenMonitor} {now : Nat} {seen checked : Reading} {r : MonitorRequest}
      (hmonitor : p.monitor? = some m) (ha : Acts m now seen checked (some r) m')
      (hclient : p.clientHere = false) :
      Takes p (.turn now seen checked) none { p with monitor? := none }
  /-- The client goes. -/
  | clientGone : Takes p .clientGone none { p with clientHere := false }
  /-- The monitor stops. -/
  | stop : Takes p .stop none { p with monitor? := none }

/-- **An occasion comes to one of these.** -/
theorem takes_take (p : Post) (o : Occasion) : Takes p o (p.take o).1 (p.take o).2 := by
  cases o with
  | clientGone => exact .clientGone
  | stop => exact .stop
  | turn now seen checked =>
    cases hmonitor : p.monitor? with
    | none => simpa [take, hmonitor] using Takes.absent hmonitor
    | some m =>
      have ha := acts_poll m now seen checked
      cases hpoll : m.poll now seen checked with
      | mk request m' =>
        rw [hpoll] at ha
        cases request with
        | none => simpa [take, hmonitor, hpoll] using Takes.silent hmonitor ha
        | some r =>
          cases hclient : p.clientHere with
          | true => simpa [take, hmonitor, hpoll, hclient] using Takes.sends hmonitor ha hclient
          | false => simpa [take, hmonitor, hpoll, hclient] using Takes.ends hmonitor ha hclient

section

variable {p : Post} {o : Occasion} {m m' : TokenMonitor}

/-- A monitor that is still at its post has acted, or the occasion was none of its own. -/
theorem monitor?_take (h : (p.take o).2.monitor? = some m') :
    (∃ m now seen checked r, o = .turn now seen checked ∧ p.monitor? = some m ∧
      Acts m now seen checked r m') ∨ o = .clientGone ∧ p.monitor? = some m' := by
  have ht := takes_take p o
  generalize (p.take o).1 = r at ht
  generalize (p.take o).2 = q at ht h
  cases ht with
  | absent hnone => exact absurd (hnone.symm.trans h) nofun
  | silent hmonitor ha =>
    obtain rfl := Option.some.inj h
    exact .inl ⟨_, _, _, _, _, rfl, hmonitor, ha⟩
  | sends hmonitor ha =>
    obtain rfl := Option.some.inj h
    exact .inl ⟨_, _, _, _, _, rfl, hmonitor, ha⟩
  | ends => exact absurd h nofun
  | clientGone => exact .inr ⟨rfl, h⟩
  | stop => exact absurd h nofun

/-- What holds of the monitor, unless it came to its end. -/
def All (p : Post) (P : TokenMonitor → Prop) : Prop :=
  ∀ m, p.monitor? = some m → P m

theorem All.take {P : TokenMonitor → Prop} (h : p.All P) (o : Occasion)
    (hkeeps : ∀ {m m' now seen checked r}, o = .turn now seen checked → P m →
      Acts m now seen checked r m' → P m') : (p.take o).2.All P := by
  intro m' hm'
  rcases monitor?_take hm' with ⟨m, now, seen, checked, r, ho, hmonitor, ha⟩ | ⟨-, hmonitor⟩
  · exact hkeeps ho (h m hmonitor) ha
  · exact h m' hmonitor

/-- What every turn keeps holds at the end. -/
theorem All.after {P : TokenMonitor → Prop} (h : p.All P) (history : List Occasion)
    (hkeeps : ∀ {m m' now seen checked r}, .turn now seen checked ∈ history → P m →
      Acts m now seen checked r m' → P m') : (p.after history).All P := by
  induction history generalizing p with
  | nil => exact h
  | cons o rest ih =>
    have hnext := h.take o fun ho => hkeeps (ho ▸ List.mem_cons_self ..)
    exact ih hnext fun ho => hkeeps (List.mem_cons_of_mem _ ho)

end

section

variable {p : Post} {m : TokenMonitor} {now : Nat} {seen checked : Reading} {found : Option String}

theorem polls_turn (hmonitor : p.monitor? = some m) :
    p.Polls (.turn now seen checked) found ↔ m.Polls now ∧ seen.usable? = found := by
  simp [Polls, hmonitor]

theorem adopted_eq (hmonitor : p.monitor? = some m) : p.adopted = m.current := by
  simp [adopted, hmonitor]

theorem checks_turn (hmonitor : p.monitor? = some m) :
    p.Checks (.turn now seen checked) found ↔ m.Checks now seen ∧ checked.usable? = found := by
  simp [Checks, hmonitor]

end

/-- **When a connection is asked for.** -/
theorem take_eq_connect_iff {p : Post} {o : Occasion} :
    (p.take o).1 = some .connect ↔ p.clientHere = true ∧ ∃ t, p.Checks o (some t) := by
  have h := takes_take p o
  generalize (p.take o).1 = r at h
  generalize (p.take o).2 = q at h
  cases h with
  | absent hmonitor => simp [Checks, hmonitor]
  | silent hmonitor ha =>
    simp only [checks_turn hmonitor, exists_and_left, ← ha.eq_connect_iff]
    simp
  | sends hmonitor ha hclient =>
    simp only [checks_turn hmonitor, exists_and_left, ← ha.eq_connect_iff, hclient, true_and]
  | ends hmonitor ha hclient => simp [hclient]
  | clientGone => simp [Checks]
  | stop => simp [Checks]

/-- **When the end of a connection is asked for.** -/
theorem take_eq_disconnect_iff {p : Post} {o : Occasion} :
    (p.take o).1 = some .disconnect ↔
      p.clientHere = true ∧ p.Polls o none ∧ p.adopted ≠ none := by
  have h := takes_take p o
  generalize (p.take o).1 = r at h
  generalize (p.take o).2 = q at h
  cases h with
  | absent hmonitor => simp [Polls, hmonitor]
  | silent hmonitor ha =>
    rw [polls_turn hmonitor, adopted_eq hmonitor, and_assoc, ← ha.eq_disconnect_iff]
    simp
  | sends hmonitor ha hclient =>
    rw [polls_turn hmonitor, adopted_eq hmonitor, and_assoc, ← ha.eq_disconnect_iff, hclient]
    simp
  | ends hmonitor ha hclient => simp [hclient]
  | clientGone => simp [Polls]
  | stop => simp [Polls]

end Post

end TokenMonitor
end LiveSync
