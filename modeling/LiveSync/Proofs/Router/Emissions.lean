import LiveSync.Proofs.Router.Histories

/-!
# What an emit comes to

While a listener is called it may do anything to the router it is called by, other emits included.
Here it is said without any bound on the depth what such calls come to: each listener is given the
stage as those before it left it, and what happens on the way is noted down in order.  An emit that
returns at some depth comes to just that, and what can come of it at all it returns at some depth.

* `Note`, `note`, `Call` — what happens, what it makes of a stage, and the calls it belongs to.
* `Acts`, `Delivers` — what a listener does, and what it comes to that listeners are called.
* `foldl_note` — of all that was noted, the router keeps what was done to it.
* `delivers_of_act`, `act_of_delivers` — an emit that returns, and one that can return.
* `emit_calls_registered` — whom an emit calls, what it returns and what it leaves.
-/

namespace LiveSync

open LiveSync.Json

variable {L : Type}

namespace Stage

/-! ## What is noted -/

/-- Something that happens while listeners are called. -/
inductive Note (L : Type) where
  /-- A listener is called. -/
  | called (listener : L) (payload : Value)
  /-- Something is done to the router. -/
  | did (op : RouterOp L)
  /-- The router is dropped. -/
  | dropped

/-- What was done to the router, if anything was. -/
def Note.op? : Note L → Option (RouterOp L)
  | did op => some op
  | _ => none

/-- Who was called, if anybody was. -/
def Note.call? : Note L → Option (L × Value)
  | called listener payload => some (listener, payload)
  | _ => none

/-- A call of a listener. -/
structure Call (L : Type) where
  /-- Who is called. -/
  listener : L
  /-- Did it come to its end, without failing? -/
  returned : Bool
  /-- What happened meanwhile, calls that it caused included. -/
  notes : List (Note L)

/-- What happened while listeners were called one after the other. -/
def notesOf (payload : Value) (calls : List (Call L)) : List (Note L) :=
  calls.flatMap fun c => .called c.listener payload :: c.notes

theorem notesOf_cons (payload : Value) (c : Call L) (calls : List (Call L)) :
    notesOf payload (c :: calls) =
      .called c.listener payload :: (c.notes ++ notesOf payload calls) :=
  List.flatMap_cons

section

variable [DecidableEq L]

/-- What a stage is after something happened. -/
def note (s : Stage L) : Note L → Stage L
  | .called listener payload => { s with calls := s.calls ++ [(listener, payload)] }
  | .did op => s.operate op
  | .dropped => { s with router := none }

/-! ## What becomes of a stage -/

omit [DecidableEq L] in
theorem releaseHandle_calls (s : Stage L) (calls : List (L × Value)) (name : String) :
    { s with calls := calls }.releaseHandle name =
      { s.releaseHandle name with calls := calls } := by
  have hhandle : { s with calls := calls }.handle? name = s.handle? name := rfl
  unfold releaseHandle
  rw [hhandle]
  cases s.handle? name <;> rfl

/-- What is done to the router does not depend on the calls so far. -/
theorem operate_calls (s : Stage L) (calls : List (L × Value)) (op : RouterOp L) :
    { s with calls := calls }.operate op = { s.operate op with calls := calls } := by
  cases op with
  | on event listener name =>
    obtain ⟨router, handles, before⟩ := s
    cases router with
    | none => rfl
    | some r =>
      have hreleased :=
        releaseHandle_calls ⟨some (r.on event listener).2, handles, before⟩ calls name
      simp only [operate, register, hreleased]
  | drop name => exact releaseHandle_calls s calls name
  | _ => rfl

/-- What is done to a router changes nothing about the calls so far. -/
theorem calls_operate (s : Stage L) (op : RouterOp L) : (s.operate op).calls = s.calls := by
  have hsame : s.operate op = { s.operate op with calls := s.calls } := operate_calls s s.calls op
  rw [hsame]

/-- To a router that was dropped nothing is done. -/
theorem router_operate_none {s : Stage L} (h : s.router = none) (op : RouterOp L) :
    (s.operate op).router = none := by
  have hrelease : ∀ name, (s.releaseHandle name).router = none := by
    intro name
    unfold releaseHandle
    split
    · exact h
    · simp [h]
  cases op with
  | on event listener name => simp [operate, register, h]
  | off event listener => simp [operate, h]
  | clear => simp [operate, h]
  | drop name => exact hrelease name
  | detach name => exact h

theorem foldl_operate_calls (ops : List (RouterOp L)) (s : Stage L) (calls : List (L × Value)) :
    ops.foldl operate { s with calls := calls } =
      { ops.foldl operate s with calls := calls } := by
  induction ops generalizing s with
  | nil => rfl
  | cons op rest ih => rw [List.foldl_cons, operate_calls, ih, List.foldl_cons]

/-- **Of all that happened, the router and the handles keep what was done**, and the log has the
calls. -/
theorem foldl_note {notes : List (Note L)} (h : .dropped ∉ notes) (s : Stage L) :
    notes.foldl note s =
      { (notes.filterMap Note.op?).foldl operate s with
        calls := s.calls ++ notes.filterMap Note.call? } := by
  induction notes generalizing s with
  | nil => simp
  | cons first rest ih =>
    obtain ⟨hfirst, hrest⟩ := not_or.1 (List.mem_cons.not.1 h)
    rw [List.foldl_cons, ih hrest]
    cases first with
    | called listener payload =>
      have hlogged :=
        foldl_operate_calls (rest.filterMap Note.op?) s (s.calls ++ [(listener, payload)])
      simp only [note, hlogged, List.filterMap_cons, Note.op?, Note.call?, List.append_assoc,
        List.singleton_append]
    | did op =>
      simp only [note, List.filterMap_cons, Note.op?, Note.call?, List.foldl_cons, calls_operate]
    | dropped => exact absurd rfl hfirst

/-- A router that was dropped stays so. -/
theorem router_foldl_note {notes : List (Note L)} {s : Stage L}
    (h : s.router = none ∨ .dropped ∈ notes) : (notes.foldl note s).router = none := by
  induction notes generalizing s with
  | nil => exact h.resolve_right List.not_mem_nil
  | cons first rest ih =>
    refine ih ?_
    rcases h with h | h
    · cases first with
      | called listener payload => exact .inl h
      | did op => exact .inl (router_operate_none h op)
      | dropped => exact .inl rfl
    · rcases List.mem_cons.1 h with rfl | h
      · exact .inl rfl
      · exact .inr h

/-! ## What listeners do -/

section

variable (behave : L → Stage L → List (Action L))

mutual

/-- From a stage on, actions come to these notes; the last argument tells whether none failed. -/
inductive Acts : Stage L → List (Action L) → List (Note L) → Bool → Prop where
  /-- There is nothing left to do. -/
  | done (s : Stage L) : Acts s [] [] true
  /-- An action fails, and those behind it are not done. -/
  | fail (s : Stage L) (rest : List (Action L)) : Acts s (.fail :: rest) [] false
  /-- Something is done to the router. -/
  | change {s : Stage L} {rest : List (Action L)} {notes : List (Note L)} {ok : Bool}
      (op : RouterOp L) (h : Acts (s.operate op) rest notes ok) :
      Acts s (op.action :: rest) (.did op :: notes) ok
  /-- Listeners are counted. -/
  | count {s : Stage L} {rest : List (Action L)} {notes : List (Note L)} {ok : Bool}
      (event : String) (h : Acts s rest notes ok) : Acts s (.count event :: rest) notes ok
  /-- The router is dropped. -/
  | drop {s : Stage L} {rest : List (Action L)} {notes : List (Note L)} {ok : Bool}
      (h : Acts { s with router := none } rest notes ok) :
      Acts s (.dropRouter :: rest) (.dropped :: notes) ok
  /-- The listeners of an event are called. -/
  | emit {s : Stage L} {event : String} {payload : Value} {calls : List (Call L)}
      {rest : List (Action L)} {notes : List (Note L)} {ok : Bool}
      (hcalls : Delivers s payload (s.recipients event) calls)
      (h : Acts ((notesOf payload calls).foldl note s) rest notes ok) :
      Acts s (.emit event payload :: rest) (notesOf payload calls ++ notes) ok

/-- From a stage on, it comes to these calls that listeners are called one after the other. -/
inductive Delivers : Stage L → Value → List L → List (Call L) → Prop where
  /-- Everybody was called. -/
  | done (s : Stage L) (payload : Value) : Delivers s payload [] []
  /-- A listener is called, and then those behind it. -/
  | call {s : Stage L} {payload : Value} {l : L} {rest : List L} {notes : List (Note L)}
      {ok : Bool} {calls : List (Call L)}
      (hacts : Acts (s.note (.called l payload)) (behave l (s.note (.called l payload))) notes ok)
      (h : Delivers (notes.foldl note (s.note (.called l payload))) payload rest calls) :
      Delivers s payload (l :: rest) (⟨l, ok, notes⟩ :: calls)

end

variable {behave}

/-- Each of the listeners is called, in their order, and nobody else. -/
theorem Delivers.listeners : ∀ {s : Stage L} {payload : Value} {ls : List L}
    {calls : List (Call L)}, Delivers behave s payload ls calls → calls.map (·.listener) = ls
  | _, _, _, _, .done _ _ => rfl
  | _, _, _, _, .call _ h => by rw [List.map_cons, h.listeners]

/-! ## An emit that returns -/

/-- Call one listener, whose emits may reach a depth. -/
def callAt (behave : L → Stage L → List (Action L)) (depth : Nat) (payload : Value) (l : L)
    (s : Stage L) : Option (Bool × Stage L) :=
  runActions (act behave depth) (behave l (s.note (.called l payload))) (s.note (.called l payload))

theorem act_emit {s : Stage L} {r : Router L} (h : s.router = some r) (depth : Nat)
    (event : String) (payload : Value) :
    act behave (depth + 1) (.emit event payload) s =
      (deliver (callAt behave depth payload) (s.recipients event) s).map fun (n, s) =>
        (.number n, s) := by
  simp only [act, recipients, h]
  rfl

theorem act_emit_unheard {s : Stage L} (h : s.router = none) (depth : Nat) (event : String)
    (payload : Value) :
    act behave (depth + 1) (.emit event payload) s = some (.nothing, s) := by
  simp only [act, h]

omit [DecidableEq L] in
theorem runActions_action (f : Action L → Stage L → Option (ActionResult × Stage L))
    (op : RouterOp L) (rest : List (Action L)) (s : Stage L) :
    runActions f (op.action :: rest) s =
      match f op.action s with
      | some (_, s) => runActions f rest s
      | none => none := by
  cases op <;> rfl

/-- What an emit gives back. -/
def emitted (s : Stage L) (calls : List (Call L)) : ActionResult :=
  if s.router.isSome then .number (calls.countP (·.returned)) else .nothing

variable (behave) in
/-- Emits that may reach a depth come to what is noted. -/
def Faithful (depth : Nat) : Prop :=
  ∀ event payload s result s', act behave depth (.emit event payload) s = some (result, s') →
    ∃ calls, Delivers behave s payload (s.recipients event) calls ∧
      result = s.emitted calls ∧ s' = (notesOf payload calls).foldl note s

theorem acts_of_runActions {depth : Nat} (hemit : Faithful behave depth)
    {actions : List (Action L)} {s s' : Stage L} {ok : Bool}
    (h : runActions (act behave depth) actions s = some (ok, s')) :
    ∃ notes, Acts behave s actions notes ok ∧ s' = notes.foldl note s := by
  induction actions generalizing s with
  | nil =>
    obtain ⟨rfl, rfl⟩ := Prod.mk.inj (Option.some.inj h)
    exact ⟨[], .done s, rfl⟩
  | cons a rest ih =>
    have hchange : ∀ op : RouterOp L,
        runActions (act behave depth) (op.action :: rest) s = some (ok, s') →
        ∃ notes, Acts behave s (op.action :: rest) notes ok ∧ s' = notes.foldl note s := by
      intro op h
      obtain ⟨result, hact⟩ := act_action behave depth op s
      rw [runActions_action, hact] at h
      obtain ⟨notes, hacts, rfl⟩ := ih h
      exact ⟨.did op :: notes, .change op hacts, rfl⟩
    cases a with
    | on event listener name => exact hchange (.on event listener name) h
    | off event listener => exact hchange (.off event listener) h
    | clear => exact hchange .clear h
    | dropHandle name => exact hchange (.drop name) h
    | detach name => exact hchange (.detach name) h
    | count event =>
      simp only [runActions, act] at h
      obtain ⟨notes, hacts, rfl⟩ := ih h
      exact ⟨notes, .count event hacts, rfl⟩
    | dropRouter =>
      simp only [runActions, act] at h
      obtain ⟨notes, hacts, rfl⟩ := ih h
      exact ⟨.dropped :: notes, .drop hacts, rfl⟩
    | fail =>
      obtain ⟨rfl, rfl⟩ := Prod.mk.inj (Option.some.inj h)
      exact ⟨[], .fail s rest, rfl⟩
    | emit event payload =>
      simp only [runActions] at h
      cases hact : act behave depth (.emit event payload) s with
      | none =>
        rw [hact] at h
        exact absurd h (Option.some_ne_none _).symm
      | some out =>
        rw [hact] at h
        obtain ⟨calls, hcalls, -, heq⟩ := hemit event payload s out.1 out.2 hact
        obtain ⟨notes, hacts, rfl⟩ := ih h
        rw [heq] at hacts ⊢
        exact ⟨notesOf payload calls ++ notes, .emit hcalls hacts, List.foldl_append.symm⟩

theorem delivers_of_deliver {depth : Nat} (hemit : Faithful behave depth) {payload : Value}
    {ls : List L} {s s' : Stage L} {n : Nat}
    (h : deliver (callAt behave depth payload) ls s = some (n, s')) :
    ∃ calls, Delivers behave s payload ls calls ∧ n = calls.countP (·.returned) ∧
      s' = (notesOf payload calls).foldl note s := by
  induction ls generalizing s n with
  | nil =>
    obtain ⟨rfl, rfl⟩ := Prod.mk.inj (Option.some.inj h)
    exact ⟨[], .done s payload, rfl, rfl⟩
  | cons l rest ih =>
    simp only [deliver] at h
    cases hcall : callAt behave depth payload l s with
    | none =>
      rw [hcall] at h
      exact absurd h (Option.some_ne_none _).symm
    | some out =>
      obtain ⟨ok, s₁⟩ := out
      rw [hcall] at h
      obtain ⟨⟨m, s₂⟩, hrest, heq⟩ := Option.map_eq_some_iff.1 h
      obtain ⟨rfl, rfl⟩ := Prod.mk.inj heq
      obtain ⟨notes, hacts, rfl⟩ := acts_of_runActions hemit hcall
      obtain ⟨calls, hdelivers, rfl, rfl⟩ := ih hrest
      refine ⟨⟨l, ok, notes⟩ :: calls, .call hacts hdelivers, ?_, ?_⟩
      · rw [List.countP_cons]
        cases ok <;> rfl
      · rw [notesOf_cons, List.foldl_cons, List.foldl_append]

/-- **An emit that returns comes to what is noted.** -/
theorem delivers_of_act (depth : Nat) : Faithful behave depth := by
  -- what a listener emits while it is called reaches one level less
  induction depth with
  | zero => exact fun event payload s result s' h => absurd h nofun
  | succ depth ih =>
    intro event payload s result s' h
    cases hr : s.router with
    | none =>
      rw [act_emit_unheard hr] at h
      obtain ⟨rfl, rfl⟩ := Prod.mk.inj (Option.some.inj h)
      have hnobody : s.recipients event = [] := by simp [recipients, hr]
      exact ⟨[], hnobody ▸ .done s payload, by simp [emitted, hr], rfl⟩
    | some r =>
      rw [act_emit hr] at h
      obtain ⟨⟨n, s₁⟩, hdeliver, heq⟩ := Option.map_eq_some_iff.1 h
      obtain ⟨rfl, rfl⟩ := Prod.mk.inj heq
      obtain ⟨calls, hdelivers, rfl, rfl⟩ := delivers_of_deliver ih hdeliver
      exact ⟨calls, hdelivers, by simp [emitted, hr], rfl⟩

/-! ## An emit that can return -/

omit [DecidableEq L] in
theorem runActions_mono {f g : Action L → Stage L → Option (ActionResult × Stage L)}
    (hfg : ∀ a s out, f a s = some out → g a s = some out) {actions : List (Action L)}
    {s : Stage L} {out : Bool × Stage L} (h : runActions f actions s = some out) :
    runActions g actions s = some out := by
  fun_induction runActions f actions s with
  | case1 s => exact h
  | case2 rest s => exact h
  | case3 s a rest hfail result s₁ hact ih =>
    rw [runActions, hfg _ _ _ hact]
    · exact ih h
    · exact hfail
  | case4 s a rest hfail hact => exact absurd h (Option.some_ne_none _).symm

omit [DecidableEq L] in
theorem deliver_mono {f g : L → Stage L → Option (Bool × Stage L)}
    (hfg : ∀ l s out, f l s = some out → g l s = some out) {ls : List L} {s : Stage L}
    {out : Nat × Stage L} (h : deliver f ls s = some out) : deliver g ls s = some out := by
  induction ls generalizing s out with
  | nil => exact h
  | cons l rest ih =>
    simp only [deliver] at h ⊢
    cases hcall : f l s with
    | none =>
      rw [hcall] at h
      exact absurd h (Option.some_ne_none _).symm
    | some called =>
      rw [hcall] at h
      rw [hfg l s called hcall]
      obtain ⟨later, hrest, heq⟩ := Option.map_eq_some_iff.1 h
      exact Option.map_eq_some_iff.2 ⟨later, ih hrest, heq⟩

/-- What returns at a depth returns the same where emits may go deeper. -/
theorem act_succ {depth : Nat} {a : Action L} {s : Stage L} {out : ActionResult × Stage L}
    (h : act behave depth a s = some out) : act behave (depth + 1) a s = some out := by
  induction depth generalizing a s out with
  | zero =>
    cases a with
    | emit event payload => exact absurd h nofun
    | _ => exact h
  | succ depth ih =>
    cases a with
    | emit event payload =>
      cases hr : s.router with
      | none => rwa [act_emit_unheard hr] at h ⊢
      | some r =>
        rw [act_emit hr] at h ⊢
        obtain ⟨later, hdeliver, heq⟩ := Option.map_eq_some_iff.1 h
        have hcall : ∀ l s out, callAt behave depth payload l s = some out →
            callAt behave (depth + 1) payload l s = some out :=
          fun _ _ _ => runActions_mono fun _ _ _ => ih
        exact Option.map_eq_some_iff.2 ⟨later, deliver_mono hcall hdeliver, heq⟩
    | _ => exact h

theorem act_le {depth depth' : Nat} (hle : depth ≤ depth') {a : Action L} {s : Stage L}
    {out : ActionResult × Stage L} (h : act behave depth a s = some out) :
    act behave depth' a s = some out := by
  induction hle with
  | refl => exact h
  | step _ ih => exact act_succ ih

theorem runActions_le {depth depth' : Nat} (hle : depth ≤ depth') {actions : List (Action L)}
    {s : Stage L} {out : Bool × Stage L}
    (h : runActions (act behave depth) actions s = some out) :
    runActions (act behave depth') actions s = some out :=
  runActions_mono (fun _ _ _ => act_le hle) h

theorem deliver_le {depth depth' : Nat} (hle : depth ≤ depth') {payload : Value} {ls : List L}
    {s : Stage L} {out : Nat × Stage L}
    (h : deliver (callAt behave depth payload) ls s = some out) :
    deliver (callAt behave depth' payload) ls s = some out :=
  deliver_mono (fun _ _ _ => runActions_le hle) h

theorem act_of_deliver {depth : Nat} {event : String} {payload : Value} {s : Stage L}
    {calls : List (Call L)}
    (h : deliver (callAt behave depth payload) (s.recipients event) s =
      some (calls.countP (·.returned), (notesOf payload calls).foldl note s)) :
    act behave (depth + 1) (.emit event payload) s =
      some (s.emitted calls, (notesOf payload calls).foldl note s) := by
  cases hr : s.router with
  | none =>
    have hnobody : s.recipients event = [] := by simp [recipients, hr]
    rw [hnobody] at h
    obtain ⟨-, hsame⟩ := Prod.mk.inj (Option.some.inj h)
    rw [act_emit_unheard hr, ← hsame]
    simp [emitted, hr]
  | some r =>
    rw [act_emit hr, h]
    simp [emitted, hr]

mutual

theorem runActions_of_acts : ∀ {s : Stage L} {actions : List (Action L)} {notes : List (Note L)}
    {ok : Bool}, Acts behave s actions notes ok →
    ∃ depth, runActions (act behave depth) actions s = some (ok, notes.foldl note s)
  | _, _, _, _, .done s => ⟨0, rfl⟩
  | _, _, _, _, .fail s rest => ⟨0, rfl⟩
  | s, _, _, _, .change op h => by
    obtain ⟨depth, hrest⟩ := runActions_of_acts h
    obtain ⟨result, hact⟩ := act_action behave depth op s
    exact ⟨depth, by rw [runActions_action, hact]; exact hrest⟩
  | _, _, _, _, .count event h => by
    obtain ⟨depth, hrest⟩ := runActions_of_acts h
    exact ⟨depth, by simp only [runActions, act]; exact hrest⟩
  | _, _, _, _, .drop h => by
    obtain ⟨depth, hrest⟩ := runActions_of_acts h
    exact ⟨depth, by simp only [runActions, act]; exact hrest⟩
  | s, .emit event payload :: rest, _, _, .emit hcalls h => by
    obtain ⟨inner, hdeliver⟩ := deliver_of_delivers hcalls
    obtain ⟨outer, hrest⟩ := runActions_of_acts h
    -- the emit and what comes after it return where both may nest deep enough
    have hact := act_le (Nat.le_max_left (inner + 1) outer) (act_of_deliver hdeliver)
    refine ⟨max (inner + 1) outer, ?_⟩
    simp only [runActions, hact, List.foldl_append]
    exact runActions_le (Nat.le_max_right (inner + 1) outer) hrest

theorem deliver_of_delivers : ∀ {s : Stage L} {payload : Value} {ls : List L}
    {calls : List (Call L)}, Delivers behave s payload ls calls →
    ∃ depth, deliver (callAt behave depth payload) ls s =
      some (calls.countP (·.returned), (notesOf payload calls).foldl note s)
  | _, _, _, _, .done s payload => ⟨0, rfl⟩
  | s, payload, l :: rest, _, .call hacts h => by
    obtain ⟨inner, hcall⟩ := runActions_of_acts hacts
    obtain ⟨outer, hrest⟩ := deliver_of_delivers h
    have hfirst : callAt behave (max inner outer) payload l s = some _ :=
      runActions_le (Nat.le_max_left inner outer) hcall
    have hlater := deliver_le (Nat.le_max_right inner outer) hrest
    refine ⟨max inner outer, ?_⟩
    rw [notesOf_cons, List.foldl_cons, List.foldl_append, List.countP_cons]
    simp only [deliver, hfirst, hlater, Option.map_some]
    split <;> rfl

end

/-- **What an emit can come to, it returns**, if its emits may nest deep enough. -/
theorem act_of_delivers {s : Stage L} {event : String} {payload : Value} {calls : List (Call L)}
    (h : Delivers behave s payload (s.recipients event) calls) :
    ∃ depth, act behave depth (.emit event payload) s =
      some (s.emitted calls, (notesOf payload calls).foldl note s) := by
  obtain ⟨depth, hdeliver⟩ := deliver_of_delivers h
  exact ⟨depth + 1, act_of_deliver hdeliver⟩

/-! ## The result -/

variable (behave) in
/-- A program of the owner leads to the stage, whatever the listeners do. -/
def Reached (s : Stage L) : Prop :=
  ∃ depth program ok, runActions (act behave depth) program {} = some (ok, s)

/-- Nobody is registered twice for an event. -/
theorem Reached.nodup_recipients {s : Stage L} (h : Reached behave s) (event : String) :
    (s.recipients event).Nodup := by
  obtain ⟨depth, program, ok, hrun⟩ := h
  obtain ⟨notes, -, rfl⟩ := acts_of_runActions (delivers_of_act depth) hrun
  by_cases hdropped : .dropped ∈ notes
  · rw [recipients, router_foldl_note (.inr hdropped)]
    exact List.nodup_nil
  · obtain ⟨r, hkeeps⟩ := keeps_history (notes.filterMap Note.op?)
    rw [foldl_note hdropped]
    show ((history (notes.filterMap Note.op?)).recipients event).Nodup
    rw [hkeeps.recipients_eq]
    exact (hkeeps.tracks.sound event).listeners

end

/-- **An emit calls those who were registered when it began.**  Whatever the listeners do while they
are called, an emit that returns has called each listener that was registered for its event when it
began, in their order, and nobody else; on a router that was reached from an empty one these are
different from each other.  It returns how many of these calls did not fail.  The router and the
handles are then what the actions of the listeners made of them, one after the other, those in
nested emits included. -/
theorem emit_calls_registered (behave : L → Stage L → List (Action L)) (depth : Nat)
    (event : String) (payload : Value) (s s' : Stage L) (n : Nat)
    (h : act behave depth (.emit event payload) s = some (.number n, s')) :
    ∃ calls : List (Call L),
      Delivers behave s payload (s.recipients event) calls ∧
      calls.map (·.listener) = s.recipients event ∧
      (Reached behave s → (calls.map (·.listener)).Nodup) ∧
      n = calls.countP (·.returned) ∧
      (.dropped ∉ notesOf payload calls →
        s' = { ((notesOf payload calls).filterMap Note.op?).foldl operate s with
          calls := s.calls ++ (notesOf payload calls).filterMap Note.call? }) ∧
      (.dropped ∈ notesOf payload calls → s'.router = none) := by
  obtain ⟨calls, hdelivers, hresult, rfl⟩ := delivers_of_act depth event payload s _ s' h
  refine ⟨calls, hdelivers, hdelivers.listeners, fun hreached => ?_, ?_, fun hkept => ?_,
    fun hdropped => ?_⟩
  · rw [hdelivers.listeners]
    exact hreached.nodup_recipients event
  · unfold emitted at hresult
    split at hresult
    · exact ActionResult.number.inj hresult
    · exact absurd hresult nofun
  · exact foldl_note hkept s
  · exact router_foldl_note (.inr hdropped)

/-- On its first call a listener registers another one, removes a third one that is still to be
called, emits the same event and fails. -/
theorem emit_calls_registered_nested :
    let behave (l : Nat) (s : Stage Nat) : List (Action Nat) :=
      if l = 1 ∧ s.calls.length = 1 then
        [.on "e" 3 "c", .off "e" 2, .emit "e" .null, .fail]
      else []
    let s : Stage Nat := history [.on "e" 1 "a", .on "e" 2 "b"]
    Reached behave s ∧
    ∃ s' calls, act behave 2 (.emit "e" .null) s = some (.number 1, s') ∧
      Delivers behave s .null [1, 2] calls ∧ (calls.map (·.listener)).Nodup ∧
      1 = calls.countP (·.returned) ∧ .dropped ∉ notesOf .null calls ∧
      (notesOf .null calls).filterMap Note.call? =
        [(1, .null), (1, .null), (3, .null), (2, .null)] ∧
      s'.recipients "e" = [1, 3] := by
  intro behave s
  have hreached : Reached behave s := ⟨0, [.on "e" 1 "a", .on "e" 2 "b"], true, rfl⟩
  have hreturns : (act behave 2 (.emit "e" .null) s).map (fun out =>
      (out.1, out.2.recipients "e", out.2.calls)) =
        some (.number 1, [1, 3], [(1, .null), (1, .null), (3, .null), (2, .null)]) := rfl
  obtain ⟨⟨result, s'⟩, hact, heq⟩ := Option.map_eq_some_iff.1 hreturns
  obtain ⟨hresult, heq⟩ := Prod.mk.inj heq
  obtain ⟨hafter, hlog⟩ := Prod.mk.inj heq
  obtain rfl : result = .number 1 := hresult
  obtain ⟨calls, hdelivers, -, hdistinct, hcount, hkept, hgone⟩ :=
    emit_calls_registered behave 2 "e" .null s s' 1 hact
  have hdropped : .dropped ∉ notesOf .null calls := by
    intro hdropped
    have hnobody : s'.recipients "e" = [] := by simp [recipients, hgone hdropped]
    exact absurd (hafter.symm.trans hnobody) (List.cons_ne_nil _ _)
  have hcalls : s'.calls = s.calls ++ (notesOf .null calls).filterMap Note.call? :=
    congrArg Stage.calls (hkept hdropped)
  exact ⟨hreached, s', calls, hact, hdelivers, hdistinct hreached, hcount, hdropped,
    hcalls.symm.trans hlog, hafter⟩

end

end Stage
end LiveSync
