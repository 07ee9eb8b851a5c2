import LiveSync.Proofs.Cache.Stations

/-!
# Timers that are left over

Detaching a bridge forgets the payloads that wait, but not the timers.  A timer that is left over
takes what waits in its slot when it fires, so that a later burst is applied before its window is
over; and the timer of that burst is then left over in turn.

* `Station.Move`, `Station.Punctual` — what can happen at a station, and the runs its clock allows.
* `Station.advance_punctual`, `Station.emit_eq_moves` — what a station does is made of such moves.
* `Gathering`, `Station.gathered` — what was taken in for a slot since it was last emptied, and the
  timers that were left over then.
* `Bridge.Keeps`, `Bridge.Fresh` — how a slot stands.
* `Station.stands_move`, `Station.stands_moves` — what one move makes of that, and a whole run.
* `Station.firing_of_punctual` — what a timer does when it fires.
-/

namespace LiveSync.Cache

open LiveSync.Json

namespace Station

/-! ## Runs of a station -/

/-- Something that happens at a station. -/
inductive Move where
  /-- An event is taken in. -/
  | handle (event : String) (payload : Value)
  /-- A timer fires. -/
  | fire (timer : BurstTimer)
  /-- The bridge is attached to the router. -/
  | attach
  /-- The bridge is detached. -/
  | detach
  /-- Time goes by. -/
  | wait (span : Nat)

/-- Let something happen. -/
def move (s : Station) : Move → Station
  | .handle event payload => s.handle event payload
  | .fire timer => { s with sync := s.sync.fire s.now timer }
  | .attach => s.attach
  | .detach => s.detach
  | .wait span => { s with now := s.now + span }

/-- Let several things happen. -/
def moves (s : Station) (ms : List Move) : Station :=
  ms.foldl move s

/-- What the clock allows: a timer fires when it is due, and time does not pass one that is. -/
def Allows (s : Station) : Move → Prop
  | .fire timer => timer ∈ s.sync.timers ∧ timer.due = s.now
  | .wait span => ∀ t ∈ s.sync.timers, s.now + span ≤ t.due
  | _ => True

instance (s : Station) (m : Move) : Decidable (s.Allows m) :=
  match m with
  | .fire _ => inferInstanceAs (Decidable (_ ∧ _))
  | .wait span => inferInstanceAs (Decidable (∀ t ∈ s.sync.timers, s.now + span ≤ t.due))
  | .handle .. | .attach | .detach => .isTrue trivial

/-- A run that the clock allows.  What happens at one instant may happen in any order. -/
inductive Punctual : Station → List Move → Prop where
  | nil (s : Station) : Punctual s []
  | cons {s : Station} {m : Move} {rest : List Move} (hm : s.Allows m)
      (hrest : Punctual (s.move m) rest) : Punctual s (m :: rest)

theorem punctual_cons {s : Station} {m : Move} {rest : List Move} :
    Punctual s (m :: rest) ↔ s.Allows m ∧ Punctual (s.move m) rest :=
  ⟨fun | .cons hm hrest => ⟨hm, hrest⟩, fun h => .cons h.1 h.2⟩

instance Punctual.decidable : (s : Station) → (ms : List Move) → Decidable (Punctual s ms)
  | s, [] => .isTrue (.nil s)
  | s, m :: rest =>
    have := Punctual.decidable (s.move m) rest
    decidable_of_iff _ punctual_cons.symm

theorem Punctual.of_append {s : Station} {a b : List Move} (h : Punctual s (a ++ b)) :
    Punctual s a ∧ Punctual (s.moves a) b := by
  induction a generalizing s with
  | nil => exact ⟨.nil s, h⟩
  | cons m rest ih =>
    obtain ⟨hm, hrest⟩ := punctual_cons.1 h
    obtain ⟨hfirst, hsecond⟩ := ih hrest
    exact ⟨.cons hm hfirst, hsecond⟩

/-- Telling the listeners of an event is taking it in, once for each. -/
theorem emit_eq_moves (s : Station) (event : String) (payload : Value) :
    (s.emit event payload).2 =
      s.moves ((s.router.recipients event).map fun r => .handle r.2 payload) := by
  unfold emit moves
  rw [List.foldl_map]
  rfl

/-- Where no timer is due before, time goes by. -/
theorem exists_wait {s : Station} {deadline : Nat} (hle : s.now ≤ deadline)
    (hdue : ∀ t ∈ s.sync.timers, deadline ≤ t.due) :
    s.Allows (.wait (deadline - s.now)) ∧
      s.move (.wait (deadline - s.now)) = { s with now := deadline } := by
  have hnow : s.now + (deadline - s.now) = deadline := Nat.add_sub_cancel' hle
  exact ⟨fun t ht => hnow.symm ▸ hdue t ht, by simp only [move, hnow]⟩

theorem fireUntil_punctual {count deadline : Nat} {s : Station} {b : Bridge}
    (hb : s.sync.bridge = some b) (hcount : b.timers.length ≤ count) (hle : s.now ≤ deadline)
    (hdue : ∀ t ∈ b.timers, s.now ≤ t.due) :
    ∃ ms, Punctual s ms ∧
      s.moves ms = { s with now := deadline, sync := s.sync.fireUntil deadline count } := by
  induction count generalizing s b with
  | zero =>
    have hnone : s.sync.timers = [] := by
      rw [Sync.timers_of_bridge hb]
      exact List.length_eq_zero_iff.1 (Nat.le_zero.1 hcount)
    obtain ⟨hallows, hmove⟩ := exists_wait hle (by simp [hnone])
    exact ⟨_, .cons hallows (.nil _), hmove⟩
  | succ count ih =>
    have hnext : s.sync.nextTimer = b.nextTimer := by
      simp only [Sync.nextTimer, hb, Option.bind_some]
    have htimers := Sync.timers_of_bridge hb
    simp only [Sync.fireUntil, hnext]
    cases hn : b.nextTimer with
    | none =>
      have hnone := htimers.trans (Bridge.timers_of_nextTimer_none hn)
      obtain ⟨hallows, hmove⟩ := exists_wait hle (by simp [hnone])
      exact ⟨_, .cons hallows (.nil _), hmove⟩
    | some t =>
      obtain ⟨hmem, hfirst⟩ := Bridge.nextTimer_spec hn
      by_cases hlate : t.due ≤ deadline
      · simp only [if_pos hlate]
        obtain ⟨hallows, hmove⟩ := exists_wait (hdue t hmem) (htimers ▸ hfirst)
        have hfewer : (b.timers.filter (· ≠ t)).length < b.timers.length :=
          List.length_filter_lt_length_iff_exists.2 ⟨t, hmem, by simp⟩
        let fired : Station := { s with now := t.due, sync := s.sync.fire t.due t }
        have hleft := Bridge.timers_fire b s.sync.store t
        obtain ⟨ms, hrun, hms⟩ := @ih fired _ (Sync.bridge_fire hb t.due t)
          (by rw [hleft]; omega) hlate fun t' ht' =>
            hfirst t' (List.mem_filter.1 (hleft ▸ ht')).1
        refine ⟨.wait (t.due - s.now) :: .fire t :: ms, .cons hallows ?_, ?_⟩
        · rw [hmove]
          exact .cons ⟨htimers ▸ hmem, rfl⟩ hrun
        · show ((s.move (.wait _)).move (.fire t)).moves ms = _
          rw [hmove]
          exact hms
      · simp only [if_neg hlate]
        obtain ⟨hallows, hmove⟩ := exists_wait hle fun t' ht' => by
          have := hfirst t' (htimers ▸ ht')
          omega
        exact ⟨_, .cons hallows (.nil _), hmove⟩

/-- **Letting the clock run** is a row of such moves. -/
theorem advance_punctual {s : Station} {b : Bridge} (hb : s.sync.bridge = some b)
    (hdue : ∀ t ∈ b.timers, s.now ≤ t.due) (span : Nat) :
    ∃ ms, Punctual s ms ∧ s.moves ms = s.advance span :=
  fireUntil_punctual hb (Nat.le_of_eq (congrArg List.length (Sync.timers_of_bridge hb).symm))
    (Nat.le_add_right s.now span) hdue

end Station

/-! ## What was taken in since a slot was emptied -/

deriving instance DecidableEq for Burst

/-- The payloads that wait in a slot, with the timers of the slot that were left over when the first
of them came. -/
structure Gathering where
  /-- The payloads. -/
  burst : Burst
  /-- The timers that had been armed for the slot before, and had not fired. -/
  left : List BurstTimer := []
  deriving DecidableEq

/-- When the last of the payloads is applied: when the first of the timers that were left over is
due or, if there were none, when the window is over. -/
def Gathering.due (window : Nat) (x : Gathering) : Nat :=
  (x.left.head?.map (·.due)).getD (x.burst.first.1 + window)

/-- One more payload.  If it is the first one, the timers that there are were left over. -/
def Gathering.add (g : Option Gathering) (timers : List BurstTimer) (time : Nat)
    (payload : Value) : Gathering :=
  match g with
  | none => ⟨⟨(time, payload), []⟩, timers⟩
  | some x => { x with burst := x.burst.join time payload }

/-- The timers of a slot. -/
def Bridge.slotTimers (b : Bridge) (slot : Slot) : List BurstTimer :=
  b.timers.filter (·.slot = slot)

namespace Station

/-- What waits in a slot after something happened.  Detaching empties the slot, and so does a timer
of the slot that fires. -/
def gather (rules : RuleTable) (slot : Slot) (s : Station) (g : Option Gathering) :
    Move → Option Gathering
  | .handle event payload =>
    if (rules.place? event payload).map (·.1) = some slot then
      some (.add g (s.sync.timers.filter (·.slot = slot)) s.now payload)
    else g
  | .fire timer => if timer.slot = slot then none else g
  | .detach => none
  | .attach => g
  | .wait _ => g

/-- What waits in a slot after a run. -/
def gathered (rules : RuleTable) (slot : Slot) (s : Station) (g : Option Gathering) :
    List Move → Option Gathering
  | [] => g
  | m :: rest => gathered rules slot (s.move m) (s.gather rules slot g m) rest

end Station

/-! ## How a slot stands -/

namespace Bridge

/-- How a slot stands at an instant: its timers are in the order in which they are due, and if
payloads wait, the last timer is that of the first of them. -/
structure Keeps (b : Bridge) (slot : Slot) (window now : Nat) (g : Option Gathering) : Prop where
  /-- The last payload waits. -/
  waiting : b.pending? slot = g.map (·.burst.last)
  /-- The first payload armed a timer, behind those that were left over. -/
  armed : ∀ x ∈ g, ∃ t, t.due = x.burst.first.1 + window ∧ b.slotTimers slot = x.left ++ [t]
  /-- The timers are due in the order in which they were armed. -/
  ordered : (b.slotTimers slot).Pairwise (·.due ≤ ·.due)
  /-- They are due when a timer that is armed now is due, or before. -/
  near : ∀ t ∈ b.slotTimers slot, t.due ≤ now + window

/-- No timer of the slot is left over. -/
structure Fresh (b : Bridge) (slot : Slot) (g : Option Gathering) : Prop where
  /-- If nothing waits there is no timer. -/
  idle : g = none → b.slotTimers slot = []
  /-- There was none when the first payload came. -/
  alone : ∀ x ∈ g, x.left = []

section

variable {b b' : Bridge} {slot : Slot} {window now now' : Nat} {g : Option Gathering}

/-- What happens elsewhere, and time that goes by, make no difference. -/
theorem Keeps.elsewhere (h : b.Keeps slot window now g) (hnow : now ≤ now')
    (hpending : b'.pending? slot = b.pending? slot)
    (htimers : b'.slotTimers slot = b.slotTimers slot) : b'.Keeps slot window now' g where
  waiting := hpending.trans h.waiting
  armed := htimers ▸ h.armed
  ordered := htimers ▸ h.ordered
  near := fun t ht => Nat.le_trans (h.near t (htimers ▸ ht)) (Nat.add_le_add_right hnow window)

theorem Fresh.elsewhere (h : b.Fresh slot g) (htimers : b'.slotTimers slot = b.slotTimers slot) :
    b'.Fresh slot g where
  idle := htimers ▸ h.idle
  alone := h.alone

/-- The timers of a slot after one of its payloads came in. -/
theorem slotTimers_handle (b : Bridge) (store : Store) {event : String} {payload : Value}
    (hplace : b.rules.place? event payload = some (slot, window)) (now order : Nat) :
    (b.handle store event payload now order).2.slotTimers slot = b.slotTimers slot ++
      if (b.pending? slot).isSome then [] else [⟨now + window, order, slot⟩] := by
  rw [slotTimers, timers_handle, hplace]
  cases hp : b.pending? slot <;> simp [hp, Option.filter, slotTimers]

/-- A payload that finds the slot empty arms a timer, behind those that are left over. -/
theorem Keeps.open_handle (h : b.Keeps slot window now none) (store : Store) {event : String}
    {payload : Value} (hplace : b.rules.place? event payload = some (slot, window)) (order : Nat) :
    (b.handle store event payload now order).2.Keeps slot window now
      (some (.add none (b.slotTimers slot) now payload)) := by
  have hempty : b.pending? slot = none := h.waiting
  have htimers : (b.handle store event payload now order).2.slotTimers slot =
      b.slotTimers slot ++ [⟨now + window, order, slot⟩] := by
    rw [slotTimers_handle b store hplace, hempty]
    rfl
  constructor
  case waiting =>
    rw [pending?_handle, hplace]
    simp [Gathering.add, Burst.last]
  case armed =>
    intro x hx
    obtain rfl := Option.some.inj hx
    exact ⟨_, rfl, htimers⟩
  case ordered =>
    rw [htimers]
    refine List.pairwise_append.2 ⟨h.ordered, List.pairwise_singleton .., fun t ht t' ht' => ?_⟩
    obtain rfl := List.mem_singleton.1 ht'
    exact h.near t ht
  case near =>
    rw [htimers]
    intro t ht
    rcases List.mem_append.1 ht with ht | ht
    · exact h.near t ht
    · obtain rfl := List.mem_singleton.1 ht
      exact Nat.le_refl _

/-- A payload that finds one waiting takes its place. -/
theorem Keeps.join_handle {x : Gathering} (h : b.Keeps slot window now (some x)) (store : Store)
    {event : String} {payload : Value}
    (hplace : b.rules.place? event payload = some (slot, window)) (order : Nat) :
    (b.handle store event payload now order).2.Keeps slot window now
      (some (.add (some x) (b.slotTimers slot) now payload)) := by
  have hwaits : b.pending? slot = some x.burst.last := h.waiting
  have htimers : (b.handle store event payload now order).2.slotTimers slot =
      b.slotTimers slot := by
    rw [slotTimers_handle b store hplace, hwaits]
    exact List.append_nil _
  constructor
  case waiting =>
    rw [pending?_handle, hplace]
    simp [Gathering.add]
  case armed =>
    intro y hy
    obtain rfl := Option.some.inj hy
    rw [htimers]
    exact h.armed x rfl
  case ordered => exact htimers ▸ h.ordered
  case near => exact htimers ▸ h.near

/-- A payload of the slot comes in. -/
theorem Keeps.handle (h : b.Keeps slot window now g) (store : Store) {event : String}
    {payload : Value} (hplace : b.rules.place? event payload = some (slot, window)) (order : Nat) :
    (b.handle store event payload now order).2.Keeps slot window now
      (some (.add g (b.slotTimers slot) now payload)) := by
  cases g with
  | none => exact h.open_handle store hplace order
  | some x => exact h.join_handle store hplace order

theorem Fresh.add (h : b.Fresh slot g) (time : Nat) (payload : Value) :
    b'.Fresh slot (some (.add g (b.slotTimers slot) time payload)) where
  idle := nofun
  alone := by
    intro x hx
    obtain rfl := Option.some.inj hx
    cases g with
    | none => exact h.idle rfl
    | some x => exact h.alone x rfl

/-- A timer that fires empties its slot, and the other timers are left over. -/
theorem Keeps.fire (h : b.Keeps slot window now g) (store : Store) {timer : BurstTimer}
    (hslot : timer.slot = slot) : (b.fire store timer).2.Keeps slot window now none := by
  have htimers : (b.fire store timer).2.slotTimers slot =
      (b.slotTimers slot).filter (· ≠ timer) := slotTimers_fire b store timer slot
  constructor
  case waiting => rw [pending?_fire, if_pos hslot]; rfl
  case armed => exact nofun
  case ordered => exact htimers ▸ h.ordered.filter _
  case near =>
    rw [htimers]
    exact fun t ht => h.near t (List.mem_filter.1 ht).1

/-- If no timer was left over, none is when the timer of the slot has fired. -/
theorem Fresh.fire (hfresh : b.Fresh slot g) (h : b.Keeps slot window now g) (store : Store)
    {timer : BurstTimer} (hslot : timer.slot = slot) (harmed : timer ∈ b.timers) :
    (b.fire store timer).2.Fresh slot none := by
  refine ⟨fun _ => ?_, nofun⟩
  have htimers : (b.fire store timer).2.slotTimers slot =
      (b.slotTimers slot).filter (· ≠ timer) := slotTimers_fire b store timer slot
  have hmem : timer ∈ b.slotTimers slot := List.mem_filter.2 ⟨harmed, by simpa using hslot⟩
  cases g with
  | none =>
    rw [hfresh.idle rfl] at hmem
    contradiction
  | some x =>
    obtain ⟨t, -, hone⟩ := h.armed x rfl
    rw [hfresh.alone x rfl, List.nil_append] at hone
    rw [hone] at hmem htimers
    obtain rfl := List.mem_singleton.1 hmem
    rw [htimers]
    simp

/-- Detaching empties the slot, and its timers are left over. -/
theorem Keeps.detach (h : b.Keeps slot window now g) : b.detach.Keeps slot window now none where
  waiting := rfl
  armed := nofun
  ordered := h.ordered
  near := h.near

end

end Bridge

namespace Station

/-- How a slot of a station stands, with the bridge of the station. -/
structure Stands (rules : RuleTable) (slot : Slot) (window : Nat) (s : Station)
    (g : Option Gathering) (b : Bridge) : Prop where
  /-- The bridge is there. -/
  bridge : s.sync.bridge = some b
  /-- It has the rules. -/
  rules : b.rules = rules
  /-- It keeps the slot. -/
  keeps : b.Keeps slot window s.now g
  /-- No timer is overdue. -/
  prompt : ∀ t ∈ b.timers, s.now ≤ t.due

theorem attach_eq (s : Station) : s.attach.sync = s.sync ∧ s.attach.now = s.now := by
  have hfold : ∀ (events : List String) (s : Station),
      (events.foldl attachEvent s).sync = s.sync ∧ (events.foldl attachEvent s).now = s.now := by
    intro events
    induction events with
    | nil => exact fun _ => ⟨rfl, rfl⟩
    | cons event rest ih => exact fun s => ih (s.attachEvent event)
  unfold attach
  split
  · exact ⟨rfl, rfl⟩
  · exact hfold _ s

section

variable {rules : RuleTable} {slot : Slot} {rule : Rule} {window : Nat}
  (hrule : rules.rule? slot.event = some rule) (hwindow : rule.window? = some window)
include hrule hwindow

/-- An event is taken in. -/
theorem Stands.handle {s : Station} {g : Option Gathering} {b : Bridge}
    (h : Stands rules slot window s g b) (event : String) (payload : Value) :
    ∃ b', Stands rules slot window (s.move (.handle event payload))
        (s.gather rules slot g (.handle event payload)) b' ∧
      (b.Fresh slot g → b'.Fresh slot (s.gather rules slot g (.handle event payload))) := by
  obtain ⟨hb, hrules, hkeeps, hprompt⟩ := h
  have htimers := Sync.timers_of_bridge hb
  have hprompt' : ∀ t ∈ (b.handle s.sync.store event payload s.now s.armed).2.timers,
      s.now ≤ t.due := by
    intro t ht
    rw [Bridge.timers_handle] at ht
    rcases List.mem_append.1 ht with ht | ht
    · exact hprompt t ht
    · obtain ⟨place, -, rfl⟩ := Option.map_eq_some_iff.1 (Option.mem_toList.1 ht)
      exact Nat.le_add_right _ _
  have hrules' := (b.rules_handle s.sync.store event payload s.now s.armed).trans hrules
  have hb' := Sync.bridge_handle hb s.now s.armed event payload
  have hleft : s.sync.timers.filter (·.slot = slot) = b.slotTimers slot := by
    rw [Sync.timers_of_bridge hb, Bridge.slotTimers]
  by_cases hplace : (rules.place? event payload).map (·.1) = some slot
  · have hgather : s.gather rules slot g (.handle event payload) =
        some (.add g (b.slotTimers slot) s.now payload) := by
      rw [gather, if_pos hplace, hleft]
    obtain ⟨⟨slot, w⟩, hsome, rfl⟩ := Option.map_eq_some_iff.1 hplace
    obtain rfl := RuleTable.window_of_place? hsome hrule hwindow
    rw [hgather]
    exact ⟨_, ⟨hb', hrules', hkeeps.handle s.sync.store (hrules ▸ hsome) s.armed, hprompt'⟩,
      fun hfresh => hfresh.add s.now payload⟩
  · have hgather : s.gather rules slot g (.handle event payload) = g := by
      rw [gather, if_neg hplace]
    obtain ⟨hpending, htimers⟩ :=
      b.handle_elsewhere s.sync.store (hrules.symm ▸ hplace) s.now s.armed
    rw [hgather]
    exact ⟨_, ⟨hb', hrules', hkeeps.elsewhere (Nat.le_refl _) hpending htimers, hprompt'⟩,
      fun hfresh => hfresh.elsewhere htimers⟩

end

/-- A timer fires. -/
theorem Stands.fire {rules : RuleTable} {slot : Slot} {window : Nat} {s : Station}
    {g : Option Gathering} {b : Bridge} (h : Stands rules slot window s g b) {timer : BurstTimer}
    (harmed : timer ∈ s.sync.timers) :
    ∃ b', Stands rules slot window (s.move (.fire timer)) (s.gather rules slot g (.fire timer)) b' ∧
      (b.Fresh slot g → b'.Fresh slot (s.gather rules slot g (.fire timer))) := by
  obtain ⟨hb, hrules, hkeeps, hprompt⟩ := h
  rw [Sync.timers_of_bridge hb] at harmed
  have hrules' := (b.rules_fire s.sync.store timer).trans hrules
  have hb' := Sync.bridge_fire hb s.now timer
  have hprompt' : ∀ t ∈ (b.fire s.sync.store timer).2.timers, s.now ≤ t.due := by
    rw [Bridge.timers_fire]
    exact fun t ht => hprompt t (List.mem_filter.1 ht).1
  by_cases hslot : timer.slot = slot
  · have hgather : s.gather rules slot g (.fire timer) = none := if_pos hslot
    rw [hgather]
    exact ⟨_, ⟨hb', hrules', hkeeps.fire s.sync.store hslot, hprompt'⟩,
      fun hfresh => hfresh.fire hkeeps s.sync.store hslot harmed⟩
  · have hgather : s.gather rules slot g (.fire timer) = g := if_neg hslot
    obtain ⟨hpending, htimers⟩ := b.fire_elsewhere s.sync.store hslot
    rw [hgather]
    exact ⟨_, ⟨hb', hrules', hkeeps.elsewhere (Nat.le_refl _) hpending htimers, hprompt'⟩,
      fun hfresh => hfresh.elsewhere htimers⟩

section

variable {rules : RuleTable} {slot : Slot} {rule : Rule} {window : Nat}
  (hrule : rules.rule? slot.event = some rule) (hwindow : rule.window? = some window)
include hrule hwindow

/-- **One step.**  A slot keeps standing as it should, and only detaching leaves timers over. -/
theorem stands_move {s : Station} {g : Option Gathering} {b : Bridge}
    (h : Stands rules slot window s g b) {m : Move} (hm : s.Allows m) :
    ∃ b', Stands rules slot window (s.move m) (s.gather rules slot g m) b' ∧
      (m ≠ .detach → b.Fresh slot g → b'.Fresh slot (s.gather rules slot g m)) := by
  cases m with
  | handle event payload =>
    obtain ⟨b', hstands, hfresh⟩ := h.handle hrule hwindow event payload
    exact ⟨b', hstands, fun _ => hfresh⟩
  | fire timer =>
    obtain ⟨b', hstands, hfresh⟩ := h.fire hm.1
    exact ⟨b', hstands, fun _ => hfresh⟩
  | attach =>
    obtain ⟨hsync, hnow⟩ := s.attach_eq
    refine ⟨b, ⟨?_, h.rules, ?_, ?_⟩, fun _ => id⟩
    · exact (congrArg Sync.bridge hsync).trans h.bridge
    · exact hnow.symm ▸ h.keeps
    · exact hnow.symm ▸ h.prompt
  | detach =>
    refine ⟨b.detach, ⟨?_, h.rules, h.keeps.detach, h.prompt⟩, fun hne => absurd rfl hne⟩
    show s.sync.bridge.map Bridge.detach = some b.detach
    rw [h.bridge]
    rfl
  | wait span =>
    rw [Allows, Sync.timers_of_bridge h.bridge] at hm
    exact ⟨b, ⟨h.bridge, h.rules, h.keeps.elsewhere (Nat.le_add_right _ _) rfl rfl, hm⟩,
      fun _ => id⟩

/-- **A whole run.** -/
theorem stands_moves {s : Station} {ms : List Move} (hrun : Punctual s ms)
    {g : Option Gathering} {b : Bridge} (h : Stands rules slot window s g b) :
    ∃ b', Stands rules slot window (s.moves ms) (gathered rules slot s g ms) b' ∧
      (.detach ∉ ms → b.Fresh slot g → b'.Fresh slot (gathered rules slot s g ms)) := by
  induction hrun generalizing g b with
  | nil s => exact ⟨b, h, fun _ => id⟩
  | @cons s m rest hm _ ih =>
    obtain ⟨b₁, hstands₁, hfresh₁⟩ := stands_move hrule hwindow h hm
    obtain ⟨b', hstands, hfresh⟩ := ih hstands₁
    refine ⟨b', hstands, fun hnone hstart => ?_⟩
    rw [List.mem_cons, not_or] at hnone
    exact hfresh hnone.2 (hfresh₁ (Ne.symm hnone.1) hstart)

end

/-! ## A timer that fires -/

section

variable {rules : RuleTable} {window : Nat} {s : Station} {g : Option Gathering} {b : Bridge}
  {timer : BurstTimer}

/-- What waits in the slot of a timer is applied when it fires. -/
theorem Stands.opsOf_fire (h : Stands rules timer.slot window s g b) {rule : Rule}
    (hrule : rules.rule? timer.slot.event = some rule) :
    s.sync.opsOf (.fire s.now timer) =
      g.toList.flatMap fun x => (applyRule rule s.sync.store x.burst.last).2 := by
  obtain ⟨hb, rfl, hkeeps, -⟩ := h
  simp only [Sync.opsOf, Sync.applied?, hb, Option.bind_some, Bridge.applied?, hkeeps.waiting]
  cases g with
  | none => rfl
  | some x => simp [hrule]

/-- What waits is applied when the first timer of the slot is due. -/
theorem Stands.due_eq {x : Gathering} (h : Stands rules timer.slot window s (some x) b)
    (hm : s.Allows (.fire timer)) : timer.due = x.due window := by
  obtain ⟨hb, -, hkeeps, hprompt⟩ := h
  obtain ⟨harmed, hnow⟩ := hm
  rw [Sync.timers_of_bridge hb] at harmed
  obtain ⟨own, hown, htimers⟩ := hkeeps.armed x rfl
  have hmem : timer ∈ b.slotTimers timer.slot := List.mem_filter.2 ⟨harmed, by simp⟩
  have hordered := hkeeps.ordered
  unfold Gathering.due
  cases hleft : x.left with
  | nil =>
    rw [htimers, hleft] at hmem
    obtain rfl := List.mem_singleton.1 hmem
    exact hown
  | cons first rest =>
    have hfirst : first ∈ b.slotTimers timer.slot := by
      rw [htimers, hleft]
      exact List.mem_cons_self
    have hle : first.due ≤ timer.due := by
      rw [htimers, hleft] at hmem hordered
      rcases List.mem_cons.1 hmem with rfl | hmem
      · exact Nat.le_refl _
      · exact (List.pairwise_cons.1 hordered).1 timer hmem
    have hnot : s.now ≤ first.due := hprompt first (List.mem_filter.1 hfirst).1
    show timer.due = first.due
    omega

/-- The timers that were left over are due when the window is over, or before. -/
theorem Stands.left_le {slot : Slot} {x : Gathering}
    (h : Stands rules slot window s (some x) b) :
    ∀ t ∈ x.left, t.due ≤ x.burst.first.1 + window := by
  obtain ⟨own, hown, htimers⟩ := h.keeps.armed x rfl
  have hordered := h.keeps.ordered
  rw [htimers] at hordered
  exact fun t ht => hown ▸ (List.pairwise_append.1 hordered).2.2 t ht own List.mem_cons_self

/-- What waits is applied when the window is over exactly if no timer is left over that is due
before. -/
theorem Stands.onTime_iff {slot : Slot} {x : Gathering}
    (h : Stands rules slot window s (some x) b) :
    x.due window = x.burst.first.1 + window ↔ ∀ t ∈ x.left, t.due = x.burst.first.1 + window := by
  have hle := h.left_le
  obtain ⟨own, -, htimers⟩ := h.keeps.armed x rfl
  have hordered := h.keeps.ordered
  rw [htimers] at hordered
  unfold Gathering.due
  cases hleft : x.left with
  | nil => exact iff_of_true rfl nofun
  | cons first rest =>
    rw [hleft] at hle hordered
    show first.due = x.burst.first.1 + window ↔ _
    constructor
    · intro hfirst t ht
      have hlast := hle t ht
      rcases List.mem_cons.1 ht with rfl | ht
      · exact hfirst
      · have hbehind := (List.pairwise_cons.1 hordered).1 t (List.mem_append_left _ ht)
        omega
    · exact fun hall => hall first List.mem_cons_self

end

/-- What a timer does that fires in a station, if payloads are gathered in its slot.  `g` is what
waits there after the moves `before`: what was taken in for the slot since the bridge was last
detached and since a timer of the slot last fired. -/
structure Firing (s : Station) (g : Option Gathering) (before : List Move) (timer : BurstTimer)
    (rule : Rule) (window : Nat) : Prop where
  /-- The last payload that waits is applied.  Nothing else is done, and nothing at all if none
  waits. -/
  recorded : (s.move (.fire timer)).sync.changes = s.sync.changes ++
    (g.toList.flatMap fun x => (applyRule rule s.sync.store x.burst.last).2).map
      (⟨some timer.due, ·⟩)
  /-- That is what becomes of the store. -/
  stored : (s.move (.fire timer)).sync.store =
    s.sync.store.applyAll (g.toList.flatMap fun x => (applyRule rule s.sync.store x.burst.last).2)
  /-- This happens when the first of the timers is due that were left over when the first payload
  came, and else when the window is over. -/
  moment : ∀ x ∈ g, timer.due = x.due window
  /-- It is never later than a window after the first payload. -/
  notLate : ∀ x ∈ g, timer.due ≤ x.burst.first.1 + window
  /-- It is exactly then if no timer was left over that is due before. -/
  onTime_iff : ∀ x ∈ g, timer.due = x.burst.first.1 + window ↔
    ∀ t ∈ x.left, t.due = x.burst.first.1 + window
  /-- Timers are left over only by detaching. -/
  leftOver : ∀ x ∈ g, x.left ≠ [] → .detach ∈ before

/-- **What a timer does when it fires.**  Take any rules, and any run of events that are taken in,
timers that fire when they are due, and of attaching and detaching.  Whether or not the bridge was
detached since it was armed, a timer that fires applies the last payload that was taken in for its
slot since the latest detaching and since a timer of the slot last fired, if there is one.  So what
is gathered is applied a window after its first payload exactly if no timer of the slot was left
over then that is due before, and else when the first such timer is due. -/
theorem firing_of_punctual {rules : RuleTable} {store : Store} {before later : List Move}
    {timer : BurstTimer}
    (hrun : Punctual (governed rules store) (before ++ .fire timer :: later)) {rule : Rule}
    {window : Nat} (hrule : rules.rule? timer.slot.event = some rule)
    (hwindow : rule.window? = some window) :
    Firing ((governed rules store).moves before)
      (gathered rules timer.slot (governed rules store) none before) before timer rule window := by
  obtain ⟨hbefore, hrest⟩ := hrun.of_append
  have hm : ((governed rules store).moves before).Allows (.fire timer) :=
    (punctual_cons.1 hrest).1
  have hstart : Stands rules timer.slot window (governed rules store) none { rules := rules } :=
    { bridge := rfl
      rules := rfl
      keeps := { waiting := rfl, armed := nofun, ordered := List.Pairwise.nil, near := nofun }
      prompt := nofun }
  have hfresh : ({ rules := rules } : Bridge).Fresh timer.slot none :=
    { idle := fun _ => rfl, alone := nofun }
  obtain ⟨b, hstands, hclean⟩ := stands_moves hrule hwindow hbefore hstart
  generalize gathered rules timer.slot (governed rules store) none before = g at *
  generalize (governed rules store).moves before = s at *
  have hops := hstands.opsOf_fire hrule
  have hdue : timer.due = s.now := hm.2
  obtain ⟨hchanges, hstore⟩ := s.sync.perform_eq (.fire s.now timer)
  rw [hops] at hchanges hstore
  constructor
  case recorded => rw [hdue]; exact hchanges
  case stored => exact hstore
  case moment =>
    rintro x rfl
    exact hstands.due_eq hm
  case notLate =>
    rintro x rfl
    rw [hstands.due_eq hm, Gathering.due]
    cases hleft : x.left with
    | nil => exact Nat.le_refl _
    | cons first rest => exact hstands.left_le first (hleft ▸ List.mem_cons_self)
  case onTime_iff =>
    rintro x rfl
    rw [hstands.due_eq hm]
    exact hstands.onTime_iff
  case leftOver =>
    rintro x rfl hne
    exact Classical.byContradiction fun hnone => hne ((hclean hnone hfresh).alone x rfl)

/-- The bridge is detached with a timer armed, and a second report comes before that timer fires.
It is applied too soon.  A third one comes then, and the timer of the second is left over. -/
theorem firing_of_punctual_chain :
    let report (done : Nat) : Value :=
      .object [("done", .string (toString done)), ("jobId", .string "J-1")]
    let slot : Slot := ⟨EventName.jobProgress, some (Key.job "J-1")⟩
    let first : BurstTimer := ⟨progressWindow, 0, slot⟩
    let second : BurstTimer := ⟨progressWindow / 2 + progressWindow, 1, slot⟩
    let before : List Move := [.handle EventName.jobProgress (report 1), .detach,
      .wait (progressWindow / 2), .handle EventName.jobProgress (report 2),
      .wait (progressWindow / 2), .fire first, .handle EventName.jobProgress (report 3),
      .wait (progressWindow / 2)]
    let start := governed defaultRules ⟨[(Key.job "J-1", .object [])]⟩
    ∃ rule, RuleTable.rule? defaultRules slot.event = some rule ∧
      rule.window? = some progressWindow ∧ Punctual start (before ++ [.fire second]) ∧
      gathered defaultRules slot start none before =
        some ⟨⟨(progressWindow, report 3), []⟩, [second]⟩ ∧
      Firing (start.moves before) (gathered defaultRules slot start none before) before second rule
        progressWindow := by
  intro report slot first second before start
  have hrun : Punctual start (before ++ [.fire second]) := by decide +kernel
  exact ⟨_, rfl, rfl, hrun, by decide +kernel, firing_of_punctual hrun rfl rfl⟩

/-- **A timer that was left over is no empty step.**  It was armed before the bridge was detached,
and yet it applies the payload that came afterwards, half a window too soon. -/
theorem leftover_timer_applies :
    let report (done : Nat) : Value :=
      .object [("done", .string (toString done)), ("jobId", .string "J-1")]
    let slot : Slot := ⟨EventName.jobProgress, some (Key.job "J-1")⟩
    let timer : BurstTimer := ⟨progressWindow, 0, slot⟩
    let start := governed defaultRules ⟨[(Key.job "J-1", .object [])]⟩
    let armed := start.moves [.handle EventName.jobProgress (report 1)]
    let since : List Move := [.detach, .wait (progressWindow / 2),
      .handle EventName.jobProgress (report 2), .wait (progressWindow / 2)]
    Punctual armed (since ++ [.fire timer]) ∧ timer ∈ armed.sync.timers ∧
      (armed.moves since).sync.changes = [] ∧
      gathered defaultRules slot armed none since =
        some ⟨⟨(progressWindow / 2, report 2), []⟩, [timer]⟩ ∧
      (armed.moves (since ++ [.fire timer])).sync.changes =
        [⟨some progressWindow, .set (Key.job "J-1") (report 2)⟩] := by
  intro report slot timer start armed since
  decide +kernel

end Station

end LiveSync.Cache
