import LiveSync.Proofs.Connection.Strides
import LiveSync.Proofs.Json.Fields

/-!
# The budget of retries

With a limit on the retries, the count of them never exceeds the limit, and the connection fails
only when the limit is reached.  How many sockets can still be asked for is a budget that every
stride respects and only a fresh start restores; a fresh start is a command to connect that is
taken up, or a completed handshake.

* `Pace.Within` — the count fits the limit and the state.
* `Pace.budget` — the sockets that can still be asked for without a fresh start.
* `retryNotices` — the announcements of retries, numbered one after the other.
* `retryNumber_retryNotices` — the numbers that they bear.
* `spends_stride`, `retries_stride` — what one stride does to the budget and announces.
* `spends_run`, `retries_run` — what a run does until the next fresh start.
* `retry_budget` — all of it, for every run of a connection that was just built.
* `quoted_retry_number` — the server may send an event of the same name, and it bears any number.
-/

namespace LiveSync

open LiveSync.Json

/-- Has the attempt asked for its socket? -/
def Attempt.hasDialled : Attempt → Bool
  | .ready _ => false
  | .opening _ | .handshaking _ _ => true

/-! ## The count of retries -/

/-- The effect asks for no socket, and a snapshot shows no more retries than the limit, and in the
failed state no less. -/
def Effect.Modest (limit : Nat) : Effect → Prop
  | .snapshot s => s.attempt ≤ limit ∧ (s.state = .failed → s.attempt = limit)
  | .dial .. => False
  | _ => True

namespace Pace

/-- The count of retries fits the limit and the state. -/
structure Within (limit : Nat) (p : Pace) : Prop where
  /-- The limit is not exceeded. -/
  count : p.count ≤ limit
  /-- A connection starts the count over. -/
  connected : p.state = .connected → p.count = 0
  /-- Only used-up retries fail. -/
  failed : p.state = .failed → p.count = limit

variable {limit : Nat} {options : Options} {p after : Pace} {told : List Effect}

theorem Plain.modest (h : p.Within limit) {e : Effect} (he : p.Plain e) : e.Modest limit := by
  cases he with
  | snapshot hs ha => exact ⟨ha ▸ h.count, fun hf => ha.trans (h.failed (hs.symm.trans hf))⟩
  | notice he => exact trivial

theorem modest_changes (s : ConnectionState) : ∀ e ∈ p.changes s, e.Modest limit := by
  unfold changes
  split
  · exact nofun
  · intro e he
    rw [List.mem_singleton.1 he]
    exact trivial

theorem Enters.modest {s : ConnectionState} (h : p.Enters s told) (hcount : p.count ≤ limit)
    (hfailed : s = .failed → p.count = limit) : ∀ e ∈ told, e.Modest limit := by
  cases h with
  | same => exact nofun
  | other _ hs ha =>
    intro e he
    rcases List.mem_cons.1 he with rfl | he
    · exact ⟨ha ▸ hcount, fun hf => ha.trans (hfailed (hs.symm.trans hf))⟩
    · exact modest_changes s e he

section

variable (hlimit : options.maxReconnectAttempts = some limit)
include hlimit

/-- Giving up keeps the count within the limit. -/
theorem Sequel.within (h : p.Sequel options after told) (hp : p.Within limit) :
    after.Within limit ∧ ∀ e ∈ told, e.Modest limit := by
  cases h with
  | withdrawn h => exact ⟨⟨hp.count, nofun, nofun⟩, h.modest hp.count nofun⟩
  | spent hl hle h =>
    obtain rfl := Option.some.inj (hl.symm.trans hlimit)
    have hspent : p.count = _ := Nat.le_antisymm hp.count hle
    refine ⟨⟨hp.count, nofun, fun _ => hspent⟩, fun e he => ?_⟩
    rcases List.mem_append.1 he with he | he
    · exact h.modest hp.count (fun _ => hspent) e he
    · rw [List.mem_singleton.1 he]
      exact trivial
  | retried hl hs ha =>
    have hlt : p.count < limit := hl limit hlimit
    refine ⟨⟨hlt, nofun, nofun⟩, fun e he => ?_⟩
    rcases List.mem_append.1 he with he | he
    · rcases List.mem_cons.1 he with rfl | he
      · exact ⟨ha ▸ hlt, fun hf => absurd (hs.symm.trans hf) nofun⟩
      · exact modest_changes _ e he
    · rw [List.mem_singleton.1 he]
      exact trivial

theorem Onward.within (h : p.Onward options after told) (hp : p.Within limit) :
    after.Within limit ∧ ∀ e ∈ told, e.Modest limit := by
  cases h with
  | stays hplain => exact ⟨hp, fun e he => (hplain e he).modest hp⟩
  | quits hplain h =>
    obtain ⟨hafter, hmodest⟩ := h.within hlimit hp
    exact ⟨hafter, fun e he => (List.mem_append.1 he).elim (fun he => (hplain e he).modest hp)
      (hmodest e)⟩

end

/-- The start of a connection is within every limit. -/
theorem within_connected : Within limit ⟨.connected, 0, none, none⟩ :=
  ⟨Nat.zero_le _, fun _ => rfl, nofun⟩

/-! ## The sockets that can still be asked for -/

/-- How many sockets can still be asked for without a fresh start: one for each retry that is left,
and one for an attempt that has not asked yet. -/
def budget (limit : Nat) (p : Pace) : Nat :=
  match p.state with
  | .disconnected | .failed => 0
  | .connected => limit - p.count
  | .connecting | .reconnecting =>
    if p.attempt.any Attempt.hasDialled then limit - p.count else limit + 1 - p.count

/-- The budget while an attempt is under way, due or put off. -/
theorem budget_waiting (hs : p.state = .connecting ∨ p.state = .reconnecting) :
    p.budget limit =
      if p.attempt.any Attempt.hasDialled then limit - p.count else limit + 1 - p.count := by
  unfold budget
  rcases hs with hs | hs <;> rw [hs]

/-- While something is wanted, there is one socket at least for each retry that is left. -/
theorem le_budget (h : p.state.isActive = true) : limit - p.count ≤ p.budget limit := by
  have hwaiting : p.state = .connecting ∨ p.state = .reconnecting →
      limit - p.count ≤ p.budget limit := by
    intro hs
    rw [budget_waiting hs]
    split <;> omega
  cases hs : p.state with
  | disconnected => exact absurd (hs ▸ h) nofun
  | failed => exact absurd (hs ▸ h) nofun
  | connecting => exact hwaiting (Or.inl hs)
  | reconnecting => exact hwaiting (Or.inr hs)
  | connected =>
    unfold budget
    rw [hs]

/-- Giving up costs a retry, so it earns no socket. -/
theorem Sequel.budget_le (h : p.Sequel options after told) (hactive : p.state.isActive = true) :
    after.budget limit ≤ p.budget limit := by
  cases h with
  | withdrawn => exact Nat.zero_le _
  | spent => exact Nat.zero_le _
  | retried =>
    refine Nat.le_trans ?_ (le_budget hactive)
    show limit + 1 - (p.count + 1) ≤ limit - p.count
    omega

/-! ## The announcements of retries -/

end Pace

/-- Does the effect announce a retry? -/
def Effect.isRetryNotice : Effect → Bool
  | .publish event _ => event = EventName.reconnectAttempt
  | _ => false

/-- Announcements of retries with these delays, numbered one after the other; `count` retries were
announced before. -/
def retryNotices (count : Nat) : List Nat → List Effect
  | [] => []
  | delay :: rest =>
    .publish EventName.reconnectAttempt (Turn.retryNotice (count + 1) delay) ::
      retryNotices (count + 1) rest

/-- The number that an announcement of a retry bears, read back from its payload. -/
def Effect.retryNumber? : Effect → Option Value
  | .publish event payload =>
    if event = EventName.reconnectAttempt then payload.get? "attempt" else none
  | _ => none

theorem get?_retryNotice (attempt delay : Nat) :
    (Turn.retryNotice attempt delay).get? "attempt" = some (.ofNat attempt) := by
  rw [Turn.retryNotice, Value.get?_ofPairs]
  simp [Fields.last?]

/-- **The announcements bear the numbers that follow**, without a gap and without a repetition. -/
theorem retryNumber_retryNotices (count : Nat) (delays : List Nat) :
    (retryNotices count delays).map Effect.retryNumber? =
      (List.range' (count + 1) delays.length).map fun n => some (.ofNat n) := by
  induction delays generalizing count with
  | nil => rfl
  | cons delay rest ih =>
    rw [retryNotices, List.map_cons, ih, List.length_cons, List.range'_succ, List.map_cons,
      Effect.retryNumber?, if_pos rfl, get?_retryNotice]

theorem retryNotices_append (count : Nat) (a b : List Nat) :
    retryNotices count (a ++ b) = retryNotices count a ++ retryNotices (count + a.length) b := by
  induction a generalizing count with
  | nil => rfl
  | cons delay rest ih =>
    rw [List.cons_append, retryNotices, ih, retryNotices, List.cons_append, List.length_cons]
    congr 3
    omega

/-- Other events announce no retry. -/
theorem filter_publish {event : String} (h : event ≠ EventName.reconnectAttempt) {payload : Value}
    {rest : List Effect} :
    (.publish event payload :: rest : List Effect).filter Effect.isRetryNotice =
      rest.filter Effect.isRetryNotice :=
  List.filter_cons_of_neg fun hn => h (of_decide_eq_true hn)

namespace Pace

variable {options : Options} {p after : Pace} {told : List Effect}

theorem Plain.isRetryNotice {e : Effect} (he : p.Plain e) : e.isRetryNotice = false := by
  cases he with
  | snapshot => rfl
  | @notice event payload he =>
    have hne : event ≠ EventName.reconnectAttempt := fun hn => absurd (hn ▸ he) (by decide)
    exact decide_eq_false hne

theorem filter_plain (h : ∀ e ∈ told, p.Plain e) : told.filter Effect.isRetryNotice = [] :=
  List.filter_eq_nil_iff.2 fun e he => by rw [(h e he).isRetryNotice]; exact Bool.false_ne_true

theorem filter_changes (s : ConnectionState) :
    (p.changes s).filter Effect.isRetryNotice = [] := by
  unfold changes
  split <;> rfl

theorem Enters.filter {s : ConnectionState} (h : p.Enters s told) :
    told.filter Effect.isRetryNotice = [] := by
  cases h with
  | same => rfl
  | other => exact filter_changes s

/-- Giving up announces at most one retry, and counts it. -/
theorem Sequel.retries (h : p.Sequel options after told) :
    ∃ delays, told.filter Effect.isRetryNotice = retryNotices p.count delays ∧
      after.count = p.count + delays.length := by
  cases h with
  | withdrawn h => exact ⟨[], h.filter, rfl⟩
  | spent _ _ h =>
    refine ⟨[], ?_, rfl⟩
    rw [List.filter_append, h.filter]
    rfl
  | @retried due delay =>
    refine ⟨[delay], ?_, rfl⟩
    rw [List.cons_append, List.filter_cons_of_neg Bool.false_ne_true, List.filter_append,
      filter_changes]
    rfl

theorem Onward.retries (h : p.Onward options after told) :
    ∃ delays, told.filter Effect.isRetryNotice = retryNotices p.count delays ∧
      after.count = p.count + delays.length := by
  cases h with
  | stays hplain => exact ⟨[], filter_plain hplain, rfl⟩
  | quits hplain h =>
    obtain ⟨delays, htold, hcount⟩ := h.retries
    exact ⟨delays, by rw [List.filter_append, filter_plain hplain, htold, List.nil_append], hcount⟩

end Pace

namespace Connection

/-! ## Fresh starts -/

/-- The server completes the handshake. -/
def Greeted (c : Connection) (i : Input) : Prop :=
  ∃ socket deadline item socketId, c.attempt = some (.handshaking socket deadline) ∧
    i = .received item ∧ Turn.judge item = .established socketId

/-- The efforts to be connected start over: a command to connect is taken up, or a handshake is
complete. -/
def Restarts (c : Connection) (m : Moment) (i : Input) : Prop :=
  c.Accepts m i ∨ c.Greeted i

/-- Somewhere in a run the efforts start over. -/
def Renews (c : Connection) (inputs : List (Moment × Input)) : Prop :=
  ∃ before m i after, inputs = before ++ (m, i) :: after ∧ (c.run before).1.Restarts m i

theorem not_renews_cons {c : Connection} {m : Moment} {i : Input} {rest : List (Moment × Input)}
    (h : ¬c.Renews ((m, i) :: rest)) : ¬c.Restarts m i ∧ ¬(c.step m i).1.Renews rest := by
  refine ⟨fun hr => h ⟨[], m, i, rest, rfl, hr⟩, ?_⟩
  rintro ⟨before, m', i', after, rfl, hr⟩
  exact h ⟨(m, i) :: before, m', i', after, rfl, hr⟩

/-- A command to connect is taken up at rest only, and a handshake completes only where there is no
connection. -/
theorem Restarts.ne_connected {c : Connection} (h : c.Ready) {m : Moment} {i : Input}
    (hr : c.Restarts m i) : c.state ≠ .connected := by
  intro hc
  rcases hr with ⟨-, hs, -⟩ | ⟨socket, deadline, -, -, ha, -⟩
  · rcases hs with hs | hs <;> exact absurd (hs.symm.trans hc) nofun
  · exact h.ne_connected ha hc

/-! ## The limit along a run -/

section

variable {limit : Nat} {c c' : Connection} {m : Moment} {i : Input} {told : List Effect}

theorem Abandons.within (hlimit : c.config.options.maxReconnectAttempts = some limit)
    (h : c.Abandons c' told) (hc : c.pace.Within limit) :
    c'.pace.Within limit ∧ ∀ e ∈ told, e.Modest limit := by
  obtain ⟨ahead, sequel, rfl, hplain, hsequel⟩ := h.signals
  exact Pace.Onward.within hlimit (.quits hplain hsequel) hc

theorem modest_relay (event : String) (payload : Value) :
    ∀ e ∈ c.relay m event payload, e.Modest limit := by
  unfold relay
  split
  · exact nofun
  · intro e he
    rw [List.mem_singleton.1 he]
    exact trivial

/-- A stride keeps the count within the limit; and but for the wish for a socket, what it tells
does so too. -/
theorem Stride.within (hlimit : c.config.options.maxReconnectAttempts = some limit)
    (h : c.Stride m i c' told) (hc : c.pace.Within limit) :
    c'.pace.Within limit ∧
      ((∀ e ∈ told, e.Modest limit) ∨ ∃ url token, told = [.dial url token]) := by
  cases h with
  | calm _ hpace hplain => exact ⟨hpace ▸ hc, Or.inl fun e he => (hplain e he).modest hc⟩
  | abandoned h => exact ⟨(h.within hlimit hc).1, Or.inl (h.within hlimit hc).2⟩
  | passed _ _ h =>
    obtain ⟨ahead, rfl, hplain⟩ := h.signals
    exact ⟨h.pace ▸ hc, Or.inl fun e he => (List.mem_append.1 he).elim
      (fun he => (hplain e he).modest hc) (modest_relay _ _ e)⟩
  | refused _ _ _ h =>
    obtain ⟨hafter, hmodest⟩ := h.within hlimit hc
    refine ⟨hafter, Or.inl fun e he => ?_⟩
    rcases List.mem_cons.1 he with rfl | he
    · exact trivial
    · exact hmodest e he
  | started _ h =>
    refine ⟨h.pace ▸ ⟨Nat.zero_le _, nofun, nofun⟩, Or.inl ?_⟩
    exact h.enters.modest (Nat.zero_le _) nofun
  | waited _ hpace => exact ⟨hpace ▸ ⟨hc.count, hc.connected, hc.failed⟩, Or.inl nofun⟩
  | begun _ _ hpace => exact ⟨hpace ▸ ⟨hc.count, hc.connected, hc.failed⟩, Or.inl nofun⟩
  | dialled _ _ hpace =>
    exact ⟨hpace ▸ ⟨hc.count, hc.connected, hc.failed⟩, Or.inr ⟨_, _, rfl⟩⟩
  | opened _ _ hpace => exact ⟨hpace ▸ ⟨hc.count, hc.connected, hc.failed⟩, Or.inl nofun⟩
  | greeted _ _ h =>
    obtain ⟨entering, rest, rfl, henters, honward⟩ := h.signals
    obtain ⟨hafter, hmodest⟩ := honward.within hlimit Pace.within_connected
    refine ⟨hafter, Or.inl fun e he => ?_⟩
    rcases List.mem_append.1 he with he | he
    · exact henters.modest (Nat.zero_le _) nofun e he
    · rcases List.mem_cons.1 he with rfl | he
      · exact trivial
      · exact hmodest e he

end

theorem within_run {limit : Nat} {c : Connection} (h : c.Ready)
    (hlimit : c.config.options.maxReconnectAttempts = some limit) (hc : c.pace.Within limit)
    (inputs : List (Moment × Input)) : (c.run inputs).1.pace.Within limit := by
  induction inputs generalizing c with
  | nil => exact hc
  | cons first rest ih =>
    obtain ⟨m, i⟩ := first
    have hlimit' : (c.step m i).1.config.options.maxReconnectAttempts = some limit := by
      rw [config_step h]
      exact hlimit
    exact ih (ready_step h m i) hlimit' ((stride_step h m i).within hlimit hc).1

/-! ## The sockets that are asked for -/

/-- How many sockets are asked for. -/
def dials (effects : List Effect) : Nat :=
  effects.countP Effect.isDial

theorem dials_append (a b : List Effect) : dials (a ++ b) = dials a + dials b :=
  List.countP_append

theorem dials_signals (effects : List Effect) : dials (signals effects) = dials effects := by
  unfold dials signals
  rw [List.countP_filter]
  congr 1
  funext e
  cases e <;> rfl

theorem dials_modest {limit : Nat} {told : List Effect} (h : ∀ e ∈ told, e.Modest limit) :
    dials told = 0 := by
  refine List.countP_eq_zero.2 fun e he hdial => ?_
  have hmodest := h e he
  cases e with
  | dial => exact hmodest
  | _ => exact Bool.false_ne_true hdial

section

variable {limit : Nat} {c c' : Connection} {m : Moment} {i : Input} {told : List Effect}

/-- **A stride pays for the sockets it asks for**, unless the efforts start over. -/
theorem spends_stride (hready : c.Ready)
    (hlimit : c.config.options.maxReconnectAttempts = some limit) (hc : c.pace.Within limit)
    (h : c.Stride m i c' told) (hi : ¬c.Restarts m i) :
    dials told + c'.pace.budget limit ≤ c.pace.budget limit := by
  have hnone : (∀ e ∈ told, e.Modest limit) → c'.pace.budget limit ≤ c.pace.budget limit →
      dials told + c'.pace.budget limit ≤ c.pace.budget limit := by
    intro hmodest hle
    rw [dials_modest hmodest, Nat.zero_add]
    exact hle
  cases h with
  | calm _ hpace hplain =>
    exact hnone (fun e he => (hplain e he).modest hc) (by rw [hpace])
  | abandoned h hrest =>
    refine hnone (h.within hlimit hc).2 ?_
    obtain ⟨-, sequel, -, -, hsequel⟩ := h.signals
    cases hactive : c.state.isActive with
    | true => exact hsequel.budget_le hactive
    | false =>
      have hdown : c'.pace.state = .disconnected := hrest hactive
      unfold Pace.budget
      rw [hdown]
      exact Nat.zero_le _
  | passed _ _ h =>
    obtain ⟨ahead, rfl, hplain⟩ := h.signals
    refine hnone (fun e he => (List.mem_append.1 he).elim (fun he => (hplain e he).modest hc)
      (modest_relay _ _ e)) (by rw [h.pace])
  | refused hconnected _ _ h =>
    obtain ⟨-, sequel, -, -, hsequel⟩ := h.signals
    have hactive : c.pace.state.isActive = true := by
      rw [show c.pace.state = _ from hconnected]
      rfl
    refine hnone (fun e he => ?_) (hsequel.budget_le hactive)
    rcases List.mem_cons.1 he with rfl | he
    · exact trivial
    · exact (h.within hlimit hc).2 e he
  | started haccepts => exact absurd (Or.inl haccepts) hi
  | waited _ hpace => exact hnone nofun (by rw [hpace]; exact Nat.le_refl _)
  | begun hdue _ hpace =>
    obtain ⟨hs, -, hattempt⟩ := hdue
    refine hnone nofun ?_
    rw [hpace, Pace.budget_waiting (by exact hs), Pace.budget_waiting (by exact hs)]
    simp [pace, hattempt, Attempt.hasDialled]
  | dialled hattempt _ hpace =>
    have hs := (hready.attempt (by rw [hattempt]; rfl)).1
    have hle := hc.count
    rw [hpace, Pace.budget_waiting (by exact hs), Pace.budget_waiting (by exact hs)]
    simp only [pace, hattempt, Option.any_some, Attempt.hasDialled] at hle ⊢
    show 1 + (limit - c.snapshot.attempt) ≤ limit + 1 - c.snapshot.attempt
    omega
  | opened hattempt _ hpace =>
    have hs := (hready.attempt (by rw [hattempt]; rfl)).1
    refine hnone nofun ?_
    rw [hpace, Pace.budget_waiting (by exact hs), Pace.budget_waiting (by exact hs)]
    simp [pace, hattempt, Attempt.hasDialled]
  | greeted hshaking hjudge => exact absurd (Or.inr ⟨_, _, _, _, hshaking, rfl, hjudge⟩) hi

/-- Until the efforts start over, a run asks for no more sockets than the budget has. -/
theorem spends_run {c : Connection} (h : c.Ready)
    (hlimit : c.config.options.maxReconnectAttempts = some limit) (hc : c.pace.Within limit)
    {inputs : List (Moment × Input)} (hi : ¬c.Renews inputs) :
    dials (c.run inputs).2 + (c.run inputs).1.pace.budget limit ≤ c.pace.budget limit := by
  induction inputs generalizing c with
  | nil => exact Nat.le_of_eq (Nat.zero_add _)
  | cons first rest ih =>
    obtain ⟨m, i⟩ := first
    obtain ⟨hfirst, hlater⟩ := not_renews_cons hi
    have hstride := stride_step h m i
    have hlimit' : (c.step m i).1.config.options.maxReconnectAttempts = some limit := by
      rw [config_step h]
      exact hlimit
    have hspent := spends_stride h hlimit hc hstride hfirst
    have hrest := ih (ready_step h m i) hlimit' (hstride.within hlimit hc).1 hlater
    rw [dials_signals] at hspent
    show dials ((c.step m i).2 ++ ((c.step m i).1.run rest).2) +
      ((c.step m i).1.run rest).1.pace.budget limit ≤ _
    rw [dials_append]
    omega

end

/-! ## The announcements along a run -/

/-- Does the connection pass on an event of the server that bears the name of a retry notice? -/
def relaysNotice (c : Connection) : Input → Bool
  | .received (.ok (.text frame)) =>
    c.state = .connected &&
      match Frame.decode frame with
      | .ok e => e.event = EventName.reconnectAttempt
      | .error _ => false
  | _ => false

/-- The retries that a step announces.  An event of the server that bears the same name is passed
on like any other, and does not count. -/
def retriesOf (c : Connection) (m : Moment) (i : Input) : List Effect :=
  if c.relaysNotice i then [] else (c.step m i).2.filter Effect.isRetryNotice

/-- The retries that a run announces. -/
def retries (c : Connection) : List (Moment × Input) → List Effect
  | [] => []
  | (m, i) :: rest => c.retriesOf m i ++ (c.step m i).1.retries rest

theorem filter_signals (effects : List Effect) :
    (signals effects).filter Effect.isRetryNotice = effects.filter Effect.isRetryNotice := by
  unfold signals
  rw [List.filter_filter]
  congr 1
  funext e
  cases e <;> simp [Effect.isRetryNotice, Effect.isSignal]

/-- What is announced in the name of a retry without being one. -/
theorem exists_of_relaysNotice {c : Connection} {i : Input} (h : c.relaysNotice i = true) :
    ∃ frame e, i = .received (.ok (.text frame)) ∧ c.state = .connected ∧
      Frame.decode frame = .ok e ∧ e.event = EventName.reconnectAttempt := by
  unfold relaysNotice at h
  split at h
  · rename_i frame
    obtain ⟨hc, hname⟩ := (Bool.and_eq_true ..).mp h
    split at hname
    · rename_i e hdecode
      exact ⟨frame, e, rfl, of_decide_eq_true hc, hdecode, of_decide_eq_true hname⟩
    · exact absurd hname Bool.false_ne_true
  · exact absurd h Bool.false_ne_true

theorem filter_relay {c : Connection} {m : Moment} {event : String} {payload : Value}
    (h : event ≠ EventName.reconnectAttempt) :
    (c.relay m event payload).filter Effect.isRetryNotice = [] := by
  unfold relay
  split
  · rfl
  · exact filter_publish h

section

variable {c c' : Connection} {m : Moment} {i : Input} {told : List Effect}

theorem Abandons.retries (h : c.Abandons c' told) :
    ∃ delays, told.filter Effect.isRetryNotice = retryNotices c.snapshot.attempt delays ∧
      c'.snapshot.attempt = c.snapshot.attempt + delays.length := by
  obtain ⟨ahead, sequel, rfl, hplain, hsequel⟩ := h.signals
  exact (Pace.Onward.quits hplain hsequel).retries

/-- A stride announces the retries that it counts, with the numbers that follow, unless the efforts
start over. -/
theorem retries_stride (h : c.Stride m i c' told) (hi : ¬c.Restarts m i)
    (hrelays : c.relaysNotice i = false) :
    ∃ delays, told.filter Effect.isRetryNotice = retryNotices c.snapshot.attempt delays ∧
      c'.snapshot.attempt = c.snapshot.attempt + delays.length := by
  have hsame : ∀ {p : Pace}, c'.pace = p → p.count = c.snapshot.attempt →
      c'.snapshot.attempt = c.snapshot.attempt := fun hpace hcount =>
    (congrArg Pace.count hpace).trans hcount
  cases h with
  | calm _ hpace hplain => exact ⟨[], Pace.filter_plain hplain, hsame hpace rfl⟩
  | abandoned h => exact h.retries
  | @passed frame e _ _ hc hdecode h =>
    obtain ⟨ahead, rfl, hplain⟩ := h.signals
    have hname : e.event ≠ EventName.reconnectAttempt := by
      intro hname
      simp [relaysNotice, hc, hdecode, hname] at hrelays
    refine ⟨[], ?_, hsame h.pace rfl⟩
    rw [List.filter_append, Pace.filter_plain hplain, filter_relay hname]
    rfl
  | refused _ _ _ h =>
    obtain ⟨delays, htold, hcount⟩ := h.retries
    exact ⟨delays, by rw [filter_publish (by decide), htold], hcount⟩
  | started haccepts => exact absurd (Or.inl haccepts) hi
  | waited _ hpace => exact ⟨[], rfl, hsame hpace rfl⟩
  | begun _ _ hpace => exact ⟨[], rfl, hsame hpace rfl⟩
  | dialled _ _ hpace => exact ⟨[], rfl, hsame hpace rfl⟩
  | opened _ _ hpace => exact ⟨[], rfl, hsame hpace rfl⟩
  | greeted hshaking hjudge => exact absurd (Or.inr ⟨_, _, _, _, hshaking, rfl, hjudge⟩) hi

/-- A step that passes a notice on announces no retry and counts none. -/
theorem count_of_relaysNotice (h : c.Ready) (m : Moment) (hrelays : c.relaysNotice i = true) :
    (c.step m i).1.snapshot.attempt = c.snapshot.attempt := by
  obtain ⟨frame, e, rfl, hc, hdecode, hname⟩ := exists_of_relaysNotice hrelays
  have hpasses := passes_step h hc m hdecode (by rw [hname]; decide) (by rw [hname]; decide)
  exact congrArg Pace.count hpasses.pace

theorem retries_step (h : c.Ready) (hi : ¬c.Restarts m i) :
    ∃ delays, c.retriesOf m i = retryNotices c.snapshot.attempt delays ∧
      (c.step m i).1.snapshot.attempt = c.snapshot.attempt + delays.length := by
  unfold retriesOf
  cases hrelays : c.relaysNotice i with
  | true => exact ⟨[], rfl, count_of_relaysNotice h m hrelays⟩
  | false =>
    obtain ⟨delays, htold, hcount⟩ := retries_stride (stride_step h m i) hi hrelays
    rw [filter_signals] at htold
    exact ⟨delays, htold, hcount⟩

/-- Until the efforts start over, a run announces the retries that it counts, with the numbers that
follow. -/
theorem retries_run (h : c.Ready) {inputs : List (Moment × Input)} (hi : ¬c.Renews inputs) :
    ∃ delays, c.retries inputs = retryNotices c.snapshot.attempt delays ∧
      (c.run inputs).1.snapshot.attempt = c.snapshot.attempt + delays.length := by
  induction inputs generalizing c with
  | nil => exact ⟨[], rfl, rfl⟩
  | cons first rest ih =>
    obtain ⟨m, i⟩ := first
    obtain ⟨hfirst, hlater⟩ := not_renews_cons hi
    obtain ⟨delays, htold, hcount⟩ := retries_step h hfirst
    obtain ⟨later, htold', hcount'⟩ := ih (ready_step h m i) hlater
    refine ⟨delays ++ later, ?_, ?_⟩
    · rw [retries, htold, htold', hcount, retryNotices_append]
    · refine hcount'.trans ?_
      rw [hcount, List.length_append, Nat.add_assoc]

/-- A fresh start announces the retries that it counts itself, from the first one on. -/
theorem retries_restart (h : c.Ready) (hi : c.Restarts m i) :
    ∃ delays, c.retriesOf m i = retryNotices 0 delays ∧
      (c.step m i).1.snapshot.attempt = delays.length := by
  have hrelays : c.relaysNotice i = false := by
    cases hrelays : c.relaysNotice i with
    | false => rfl
    | true =>
      obtain ⟨-, -, -, hc, -⟩ := exists_of_relaysNotice hrelays
      exact absurd hc (hi.ne_connected h)
  unfold retriesOf
  rw [hrelays, if_neg Bool.false_ne_true, ← filter_signals]
  rcases hi with haccepts | ⟨socket, deadline, item, socketId, ha, rfl, hj⟩
  · have hstarts := starts_step h haccepts
    exact ⟨[], hstarts.enters.filter, congrArg Pace.count hstarts.pace⟩
  · obtain ⟨entering, rest, htold, henters, honward⟩ := (greets_step h m ha hj).signals
    obtain ⟨delays, hrest, hcount⟩ := honward.retries
    refine ⟨delays, ?_, hcount.trans (Nat.zero_add _)⟩
    rw [htold, List.filter_append, henters.filter, filter_publish (by decide), hrest]
    rfl

end

/-! ## After a fresh start and after a loss -/

section

variable {limit : Nat} {c : Connection} {m : Moment} {i : Input}

/-- A command to connect that is taken up is good for one socket more than the limit. -/
theorem budget_accepts (h : c.Ready) (ha : c.Accepts m i) :
    dials (c.step m i).2 = 0 ∧ (c.step m i).1.pace.budget limit = limit + 1 := by
  have hstarts := starts_step h ha
  have hmodest : ∀ e ∈ signals (c.step m i).2, e.Modest 0 :=
    hstarts.enters.modest (Nat.le_refl 0) nofun
  constructor
  · rw [← dials_signals]
    exact dials_modest hmodest
  · rw [hstarts.pace]
    rfl

/-- A connection that is established is good for as many sockets as the limit says, also if it is
lost at once. -/
theorem budget_established (h : c.Ready)
    (hlimit : c.config.options.maxReconnectAttempts = some limit) (hc : c.pace.Within limit)
    (hheld : c.state = .connected ∨ c.Greeted i) :
    dials (c.step m i).2 + (c.step m i).1.pace.budget limit ≤ limit := by
  rcases hheld with hstate | ⟨socket, deadline, item, socketId, ha, rfl, hj⟩
  · have hspent := spends_stride h hlimit hc (stride_step h m i)
      fun hr => hr.ne_connected h hstate
    have hbudget : c.pace.budget limit = limit := by
      have hcount : c.snapshot.attempt = 0 := hc.connected hstate
      simp [Pace.budget, pace, hstate, hcount]
    rwa [dials_signals, hbudget] at hspent
  · have hstride := stride_step h m (.received item)
    have hgreets := greets_step h m ha hj
    obtain ⟨entering, rest, htold, henters, honward⟩ := hgreets.signals
    have hmodest : ∀ e ∈ signals (c.step m (.received item)).2, e.Modest limit := by
      rw [htold]
      intro e he
      rcases List.mem_append.1 he with he | he
      · exact henters.modest (Nat.zero_le _) (fun h => absurd h (by decide)) e he
      · rcases List.mem_cons.1 he with rfl | he
        · exact trivial
        · exact (honward.within hlimit Pace.within_connected).2 e he
    have hnone : dials (c.step m (.received item)).2 = 0 := by
      rw [← dials_signals, dials_modest hmodest]
    rw [hnone, Nat.zero_add]
    generalize (c.step m (.received item)).1.pace = after at honward
    cases honward with
    | stays => exact Nat.le_refl limit
    | quits _ hsequel => exact hsequel.budget_le rfl

end

/-! ## Every run -/

theorem within_new (config : Config) (limit : Nat) :
    (Connection.new config).pace.Within limit :=
  ⟨Nat.zero_le _, nofun, nofun⟩

/-- A snapshot that is shown fits the limit. -/
theorem modest_of_mem {limit : Nat} {c : Connection} (h : c.Ready)
    (hlimit : c.config.options.maxReconnectAttempts = some limit) (hc : c.pace.Within limit)
    {m : Moment} {i : Input} {s : Snapshot} (hs : .snapshot s ∈ (c.step m i).2) :
    s.attempt ≤ limit ∧ (s.state = .failed → s.attempt = limit) := by
  have hmem : .snapshot s ∈ signals (c.step m i).2 := List.mem_filter.2 ⟨hs, rfl⟩
  rcases ((stride_step h m i).within hlimit hc).2 with hmodest | ⟨url, token, heq⟩
  · exact hmodest _ hmem
  · rw [heq] at hmem
    exact absurd (List.mem_singleton.1 hmem) nofun

/-- What a step and the run after it ask for, as long as the efforts do not start over again. -/
theorem dials_run_cons {limit : Nat} {c : Connection} (h : c.Ready)
    (hlimit : c.config.options.maxReconnectAttempts = some limit) (hc : c.pace.Within limit)
    {m : Moment} {i : Input} {rest : List (Moment × Input)}
    (hrest : ¬(c.step m i).1.Renews rest) :
    dials (c.run ((m, i) :: rest)).2 ≤
      dials (c.step m i).2 + (c.step m i).1.pace.budget limit := by
  have hlimit' : (c.step m i).1.config.options.maxReconnectAttempts = some limit := by
    rw [config_step h]
    exact hlimit
  have hspent := spends_run (ready_step h m i) hlimit'
    ((stride_step h m i).within hlimit hc).1 hrest
  show dials ((c.step m i).2 ++ ((c.step m i).1.run rest).2) ≤ _
  rw [dials_append]
  omega

/-- After a fresh start the retries are announced from the first one on. -/
theorem retries_renewed {c : Connection} (h : c.Ready) {m : Moment} {i : Input}
    (hi : c.Restarts m i) {rest : List (Moment × Input)} (hrest : ¬(c.step m i).1.Renews rest) :
    (c.retries ((m, i) :: rest)).map Effect.retryNumber? =
      (List.range' 1 (c.run ((m, i) :: rest)).1.snapshot.attempt).map fun n => some (.ofNat n) := by
  obtain ⟨delays, htold, hcount⟩ := retries_restart h hi
  obtain ⟨later, htold', hcount'⟩ := retries_run (ready_step h m i) hrest
  have hall : c.retries ((m, i) :: rest) = retryNotices 0 (delays ++ later) := by
    rw [retries, htold, htold', hcount, retryNotices_append, Nat.zero_add]
  have hlength : (c.run ((m, i) :: rest)).1.snapshot.attempt = (delays ++ later).length := by
    refine hcount'.trans ?_
    rw [hcount, List.length_append]
  rw [hall, hlength, retryNumber_retryNotices]

/-- What bears the name of a retry notice without being one came from the server as it is. -/
theorem notices_of_relaysNotice {c : Connection} (h : c.Ready) (m : Moment) {i : Input}
    (hrelays : c.relaysNotice i = true) :
    ∃ frame e, i = .received (.ok (.text frame)) ∧ Frame.decode frame = .ok e ∧
      (c.step m i).2.filter Effect.isRetryNotice =
        c.relay m e.event (c.normalizer.inbound e.data) := by
  obtain ⟨frame, e, rfl, hc, hdecode, hname⟩ := exists_of_relaysNotice hrelays
  have hpasses := passes_step h hc m hdecode (by rw [hname]; decide) (by rw [hname]; decide)
  obtain ⟨ahead, htold, hplain⟩ := hpasses.signals
  refine ⟨frame, e, rfl, hdecode, ?_⟩
  rw [← filter_signals, htold, List.filter_append, Pace.filter_plain hplain, List.nil_append]
  unfold relay
  split
  · rfl
  · exact List.filter_cons_of_pos (decide_eq_true hname)

/-- **The budget of retries.**  Take any run of a connection that was just built with a limit on
its retries.  The count of retries never exceeds the limit, neither between two steps nor in any
snapshot that callers can read, and in the failed state it is the limit.  Until the efforts start
over, a command to connect that is taken up is followed by one wish for a socket more than the
limit at most, and the loss of an established connection by as many as the limit at most.  The
retries announced since the efforts started over bear the numbers 1, 2, 3 and so on up to the count;
an event of the server that bears the name of such an announcement is passed on as it came, and is
none. -/
theorem retry_budget (config : Config) {limit : Nat}
    (hlimit : config.options.maxReconnectAttempts = some limit) :
    (∀ inputs, let c := ((Connection.new config).run inputs).1
      c.snapshot.attempt ≤ limit ∧ (c.state = .failed → c.snapshot.attempt = limit)) ∧
    (∀ inputs s, .snapshot s ∈ ((Connection.new config).run inputs).2 →
      s.attempt ≤ limit ∧ (s.state = .failed → s.attempt = limit)) ∧
    (∀ before m i after, let c := ((Connection.new config).run before).1
      c.Accepts m i → ¬(c.step m i).1.Renews after →
      dials (c.run ((m, i) :: after)).2 ≤ limit + 1) ∧
    (∀ before m i after, let c := ((Connection.new config).run before).1
      c.state = .connected ∨ c.Greeted i → ¬(c.step m i).1.Renews after →
      dials (c.run ((m, i) :: after)).2 ≤ limit) ∧
    (∀ before m i after, let c := ((Connection.new config).run before).1
      c.Restarts m i → ¬(c.step m i).1.Renews after →
      (c.retries ((m, i) :: after)).map Effect.retryNumber? =
        (List.range' 1 (c.run ((m, i) :: after)).1.snapshot.attempt).map fun n =>
          some (.ofNat n)) ∧
    (∀ inputs, ¬(Connection.new config).Renews inputs →
      ((Connection.new config).retries inputs).map Effect.retryNumber? =
        (List.range' 1 ((Connection.new config).run inputs).1.snapshot.attempt).map fun n =>
          some (.ofNat n)) ∧
    (∀ before m i, let c := ((Connection.new config).run before).1
      c.relaysNotice i = true → ∃ frame e, i = .received (.ok (.text frame)) ∧
        Frame.decode frame = .ok e ∧
        (c.step m i).2.filter Effect.isRetryNotice =
          c.relay m e.event (c.normalizer.inbound e.data)) := by
  have hready := fun inputs => ready_run (ready_new config) inputs
  have hwithin := fun inputs =>
    within_run (ready_new config) hlimit (within_new config limit) inputs
  have hlimits : ∀ inputs,
      ((Connection.new config).run inputs).1.config.options.maxReconnectAttempts = some limit := by
    intro inputs
    have hconfig : ((Connection.new config).run inputs).1.config = config :=
      congrArg Prod.fst (setup_run (ready_new config) inputs)
    rw [hconfig]
    exact hlimit
  refine ⟨?_, ?_, ?_, ?_, ?_, ?_, ?_⟩
  · exact fun inputs => ⟨(hwithin inputs).count, (hwithin inputs).failed⟩
  · intro inputs s hs
    obtain ⟨before, m, i, after, -, hmem⟩ := mem_run hs
    exact modest_of_mem (hready before) (hlimits before) (hwithin before) hmem
  · intro before m i after c ha hno
    have hspent : dials (c.step m i).2 = 0 ∧ (c.step m i).1.pace.budget limit = limit + 1 :=
      budget_accepts (hready before) ha
    obtain ⟨hnone, hbudget⟩ := hspent
    have hdials := dials_run_cons (hready before) (hlimits before) (hwithin before) hno
    rwa [hnone, hbudget, Nat.zero_add] at hdials
  · intro before m i after c hheld hno
    exact Nat.le_trans (dials_run_cons (hready before) (hlimits before) (hwithin before) hno)
      (budget_established (hready before) (hlimits before) (hwithin before) hheld)
  · intro before m i after c hr hno
    exact retries_renewed (hready before) hr hno
  · intro inputs hno
    obtain ⟨delays, htold, hcount⟩ := retries_run (ready_new config) hno
    rw [htold, retryNumber_retryNotices, hcount]
    exact congrArg (fun n => (List.range' 1 n).map _) (Nat.zero_add _).symm
  · intro before m i c hrelays
    exact notices_of_relaysNotice (hready before) m hrelays

/-- Where nobody connects and no socket says anything, the efforts do not start over. -/
theorem not_renews {c : Connection} {inputs : List (Moment × Input)}
    (h : ∀ x ∈ inputs, x.2 ≠ .command .connect ∧ ∀ item, x.2 ≠ .received item) :
    ¬c.Renews inputs := by
  rintro ⟨before, m, i, after, rfl, hr⟩
  obtain ⟨hconnect, hreceived⟩ := h (m, i) (by simp)
  rcases hr with ⟨rfl, -⟩ | ⟨-, -, item, -, -, rfl, -⟩
  · exact hconnect rfl
  · exact hreceived item rfl

/-- One retry is allowed.  The first attempt after connecting fails, and so does the retry: two
sockets were asked for, one retry was announced, and the connection fails with the count at its
limit.  An established connection that is closed gets its one retry. -/
theorem retry_budget_spent :
    let config : Config := ⟨"ws://localhost/ws", { maxReconnectAttempts := some 1 }, {}⟩
    let m : Moment :=
      { now := 0, seconds := 0, token := some "token", sendFault := fun _ => none, draw := 0.0 }
    let refused : Input := .opened (.error (.transport "refused"))
    let gone : Input := .received (.ok (.closed { message := "gone" }))
    let tried := [Input.attempt, .dial, refused, .retryDue, .attempt, .dial, refused].map (m, ·)
    let held := [Input.command .connect, .attempt, .dial, .opened (.ok 0),
      .received (.ok (.text "[\"connect\"]"))].map (m, ·)
    let retried := [Input.retryDue, .attempt, .dial, refused].map (m, ·)
    ((Connection.new config).run ((m, .command .connect) :: tried)).1.state = .failed ∧
    ((Connection.new config).run ((m, .command .connect) :: tried)).1.snapshot.attempt = 1 ∧
    ((Connection.new config).retries ((m, .command .connect) :: tried)).map Effect.retryNumber? =
      [some (.ofNat 1)] ∧
    dials ((Connection.new config).run ((m, .command .connect) :: tried)).2 = 2 ∧
    dials ((Connection.new config).run ((m, .command .connect) :: tried)).2 ≤ 1 + 1 ∧
    ((Connection.new config).run held).1.state = .connected ∧
    dials (((Connection.new config).run held).1.run ((m, gone) :: retried)).2 = 1 ∧
    dials (((Connection.new config).run held).1.run ((m, gone) :: retried)).2 ≤ 1 := by
  intro config m refused gone tried held retried
  have hlimit : config.options.maxReconnectAttempts = some 1 := rfl
  have husable : Credential.usable m.token m.seconds = .ok "token" := by decide +kernel
  have haccepts : (Connection.new config).Accepts m (.command .connect) :=
    ⟨rfl, Or.inl rfl, rfl, "token", husable⟩
  have hfailed :
      ((Connection.new config).run ((m, .command .connect) :: tried)).1.state = .failed := by
    decide +kernel
  have hconnected : ((Connection.new config).run held).1.state = .connected := by
    decide +kernel
  have htried : ∀ c : Connection, ¬c.Renews tried :=
    fun _ => not_renews (by simp [tried, refused])
  have hretried : ∀ c : Connection, ¬c.Renews retried :=
    fun _ => not_renews (by simp [retried, refused])
  have hnil : ((Connection.new config).run []).1 = Connection.new config := rfl
  obtain ⟨hcount, -, hconnect, hlost, hnumbered, -, -⟩ := retry_budget config hlimit
  have hone := (hcount ((m, .command .connect) :: tried)).2 hfailed
  have hdials := hconnect [] m (.command .connect) tried haccepts (htried _)
  have hnumbers := hnumbered [] m (.command .connect) tried (Or.inl haccepts) (htried _)
  rw [hnil] at hdials hnumbers
  rw [hone] at hnumbers
  exact ⟨hfailed, hone, hnumbers, by decide +kernel, hdials, hconnected, by decide +kernel,
    hlost held m gone retried (Or.inl hconnected) (hretried _)⟩

/-- The server sends an event under the name of the announcements, right after the handshake that
started the efforts over.  Listeners are told of a retry number 7, and no retry was announced. -/
theorem quoted_retry_number :
    let config : Config := ⟨"ws://localhost/ws", { maxReconnectAttempts := some 1 }, {}⟩
    let m : Moment :=
      { now := 0, seconds := 0, token := some "token", sendFault := fun _ => none, draw := 0.0 }
    let text (frame : String) : Input := .received (.ok (.text frame))
    let before := [Input.command .connect, .attempt, .dial, .opened (.ok 0)].map (m, ·)
    let quoted := [(m, text "[\"connect\"]"),
      (m, text "[\"reconnect_attempt\",\x7b\"attempt\":7\x7d]")]
    let c := ((Connection.new config).run before).1
    (c.step m (text "[\"connect\"]")).1.state = .connected ∧
    ((c.run quoted).2.filter Effect.isRetryNotice).map Effect.retryNumber? = [some (.ofNat 7)] ∧
    (c.run quoted).1.snapshot.attempt = 0 := by
  decide +kernel

end Connection
end LiveSync
