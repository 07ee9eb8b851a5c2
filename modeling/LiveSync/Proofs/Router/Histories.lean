import LiveSync.Proofs.Router.Shares
import LiveSync.Router.Script
import Mathlib.Data.List.Induction

/-!
# Who listens after what has happened

A history is any row of registrations, of endings, and of handles that are dropped or detached.
Who listens to an event after it can be read off the history: the listeners that were registered
since their registration was last ended, by a call whose handle is still held or was detached.

* `RouterOp`, `Stage.history` — histories; `runActions_history` says that they are scripts.
* `Share.later`, `mem_sharesOf` — the shares that a history leaves.
* `Stage.keeps_operate`, `Stage.keeps_history` — the router keeps to them.
* `Stage.Since`, `Stage.since_history` — from when on a listener has been registered.
* `Stage.Listens`, `Stage.listeners_history` — who listens, and in which order.
-/

namespace LiveSync

open LiveSync.Json

variable {L : Type}

/-! ## Histories -/

/-- What is done to a router by its owner and by the holders of handles. -/
inductive RouterOp (L : Type) where
  /-- Register a listener and keep its handle under a name; a handle that was held under the name
  is dropped afterwards. -/
  | on (event : String) (listener : L) (name : String)
  /-- End the registration of a listener. -/
  | off (event : String) (listener : L)
  /-- End all registrations. -/
  | clear
  /-- Drop a handle. -/
  | drop (name : String)
  /-- Detach a handle. -/
  | detach (name : String)

namespace RouterOp

/-- As an action of a script. -/
def action : RouterOp L → Action L
  | on event listener name => .on event listener name
  | off event listener => .off event listener
  | clear => .clear
  | drop name => .dropHandle name
  | detach name => .detach name

/-- Does it end the registration of a listener for an event? -/
def ends [DecidableEq L] (event : String) (listener : L) : RouterOp L → Bool
  | off e l => e = event ∧ l = listener
  | clear => true
  | _ => false

/-- Does it take the handle from a name? -/
def frees (name : String) : RouterOp L → Bool
  | on _ _ n => n = name
  | drop n => n = name
  | detach n => n = name
  | _ => false

end RouterOp

namespace Stage

variable [DecidableEq L]

/-- Do something to the router. -/
def operate (s : Stage L) : RouterOp L → Stage L
  | .on event listener name => (s.register event listener name).2
  | .off event listener => { s with router := s.router.map fun r => (r.off event listener).2 }
  | .clear => { s with router := s.router.map Router.clear }
  | .drop name => s.releaseHandle name
  | .detach name => s.forget name

/-- What a history leaves. -/
def history (ops : List (RouterOp L)) : Stage L :=
  ops.foldl operate {}

theorem history_append (a b : List (RouterOp L)) : history (a ++ b) = b.foldl operate (history a) :=
  List.foldl_append

omit [DecidableEq L] in
/-- The registrations of an event; a router that was dropped has none. -/
def registrations (s : Stage L) (event : String) : List (Registration L) :=
  (s.router.map fun r => r.registrations event).getD []

omit [DecidableEq L] in
/-- The listeners of an event, in the order in which they are called. -/
def recipients (s : Stage L) (event : String) : List L :=
  (s.router.map fun r => r.recipients event).getD []

theorem act_action (behave : L → Stage L → List (Action L)) (depth : Nat) (op : RouterOp L)
    (s : Stage L) :
    ∃ result, act behave depth op.action s = some (result, s.operate op) := by
  obtain ⟨router, handles, calls⟩ := s
  cases op with
  | off event listener =>
    simp only [RouterOp.action, act]
    cases router <;> exact ⟨_, rfl⟩
  | _ =>
    simp only [RouterOp.action, act]
    exact ⟨_, rfl⟩

/-- A history is a script that runs to its end. -/
theorem runActions_history (script : L → List (Action L)) (depth : Nat) (ops : List (RouterOp L))
    (s : Stage L) :
    runActions (perform script depth) (ops.map RouterOp.action) s =
      some (true, ops.foldl operate s) := by
  induction ops generalizing s with
  | nil => rfl
  | cons op rest ih =>
    obtain ⟨result, hstep⟩ : ∃ result,
        perform script depth op.action s = some (result, s.operate op) :=
      act_action (fun l _ => script l) depth op s
    cases op <;> simp only [List.map_cons, RouterOp.action, runActions] at hstep ⊢ <;>
      rw [hstep] <;> exact ih _

end Stage

/-! ## The shares that a history leaves -/

section

variable [DecidableEq L]

/-- What becomes of a share when something is done. -/
def Share.touch (s : Share L) : RouterOp L → Option (Share L)
  | .on _ _ name => if s.keeper = some name then none else some s
  | .off event listener => if s.isOf event listener then none else some s
  | .clear => none
  | .drop name => if s.keeper = some name then none else some s
  | .detach name => some (s.detached name)

/-- What becomes of a share. -/
def Share.later (s : Share L) : List (RouterOp L) → Option (Share L)
  | [] => some s
  | op :: rest => (s.touch op).bind fun s => s.later rest

/-- The share that is given out. -/
def RouterOp.issue : RouterOp L → List (Share L)
  | on event listener name => [⟨event, listener, some name⟩]
  | _ => []

/-- The shares there are after something was done. -/
def nextShares (shares : List (Share L)) (op : RouterOp L) : List (Share L) :=
  shares.filterMap (·.touch op) ++ op.issue

omit [DecidableEq L] in
theorem filterMap_unless (p : Share L → Prop) [DecidablePred p] (shares : List (Share L)) :
    shares.filterMap (fun s => if p s then none else some s) = shares.filter fun s => ¬ p s := by
  rw [← List.filterMap_eq_filter]
  refine List.filterMap_congr fun s _ => ?_
  by_cases hs : p s <;> simp [Option.guard, hs]

theorem nextShares_on (shares : List (Share L)) (event : String) (listener : L) (name : String) :
    nextShares shares (.on event listener name) =
      shares.filter (·.keeper ≠ some name) ++ [⟨event, listener, some name⟩] := by
  simp only [nextShares, RouterOp.issue, Share.touch, filterMap_unless]

theorem nextShares_off (shares : List (Share L)) (event : String) (listener : L) :
    nextShares shares (.off event listener) = shares.filter fun s => !s.isOf event listener := by
  have hvoid := filterMap_unless (fun s : Share L => s.isOf event listener = true) shares
  simp only [nextShares, RouterOp.issue, List.append_nil, Share.touch, hvoid]
  simp

theorem nextShares_clear (shares : List (Share L)) : nextShares shares .clear = [] := by
  simp [nextShares, Share.touch, RouterOp.issue]

theorem nextShares_drop (shares : List (Share L)) (name : String) :
    nextShares shares (.drop name) = shares.filter (·.keeper ≠ some name) := by
  simp only [nextShares, RouterOp.issue, List.append_nil, Share.touch, filterMap_unless]

theorem nextShares_detach (shares : List (Share L)) (name : String) :
    nextShares shares (.detach name) = shares.map (Share.detached name) := by
  simp [nextShares, Share.touch, RouterOp.issue, List.filterMap_eq_map']

/-- The shares that a history leaves. -/
def sharesOf (ops : List (RouterOp L)) : List (Share L) :=
  ops.foldl nextShares []

/-- A share is left over from before, or it was given out on the way. -/
theorem mem_foldl_nextShares {shares : List (Share L)} {ops : List (RouterOp L)} {s : Share L} :
    s ∈ ops.foldl nextShares shares ↔
      (∃ s₀ ∈ shares, s₀.later ops = some s) ∨
        ∃ before event listener name later, ops = before ++ .on event listener name :: later ∧
          Share.later ⟨event, listener, some name⟩ later = some s := by
  induction ops generalizing shares with
  | nil => simp [Share.later]
  | cons op rest ih =>
    rw [List.foldl_cons, ih]
    constructor
    · rintro (⟨s₀, hs₀, hlater⟩ | ⟨before, event, listener, name, later, rfl, hlater⟩)
      · rcases List.mem_append.1 hs₀ with hs₀ | hs₀
        · obtain ⟨s₁, hs₁, htouch⟩ := List.mem_filterMap.1 hs₀
          exact .inl ⟨s₁, hs₁, by rw [Share.later, htouch]; exact hlater⟩
        · cases op with
          | on event listener name =>
            obtain rfl := List.mem_singleton.1 hs₀
            exact .inr ⟨[], event, listener, name, rest, rfl, hlater⟩
          | _ => exact absurd hs₀ List.not_mem_nil
      · exact .inr ⟨op :: before, event, listener, name, later, rfl, hlater⟩
    · rintro (⟨s₀, hs₀, hlater⟩ | ⟨before, event, listener, name, later, heq, hlater⟩)
      · obtain ⟨s₁, htouch, hlater⟩ := Option.bind_eq_some_iff.1 hlater
        exact .inl ⟨s₁, List.mem_append_left _ (List.mem_filterMap.2 ⟨s₀, hs₀, htouch⟩), hlater⟩
      · cases before with
        | nil =>
          obtain ⟨rfl, rfl⟩ := List.cons.inj heq
          exact .inl ⟨_, List.mem_append_right _ (List.mem_singleton.2 rfl), hlater⟩
        | cons first before =>
          obtain ⟨rfl, rfl⟩ := List.cons.inj heq
          exact .inr ⟨before, event, listener, name, later, rfl, hlater⟩

/-- **The shares that a history leaves** were given out and not taken back since. -/
theorem mem_sharesOf {ops : List (RouterOp L)} {s : Share L} :
    s ∈ sharesOf ops ↔
      ∃ before event listener name later, ops = before ++ .on event listener name :: later ∧
        Share.later ⟨event, listener, some name⟩ later = some s := by
  simp [sharesOf, mem_foldl_nextShares]

/-! ### What becomes of one share -/

/-- Nothing takes a handle from its name. -/
def Held (name : String) (ops : List (RouterOp L)) : Prop :=
  ∀ op ∈ ops, op.frees name = false

/-- A handle is detached, before anything else takes it from its name. -/
def Detached (name : String) (ops : List (RouterOp L)) : Prop :=
  ∃ before later, ops = before ++ .detach name :: later ∧ Held name before

omit [DecidableEq L] in
theorem held_cons {name : String} {op : RouterOp L} {rest : List (RouterOp L)} :
    Held name (op :: rest) ↔ op.frees name = false ∧ Held name rest :=
  List.forall_mem_cons

omit [DecidableEq L] in
theorem detached_cons {name : String} {op : RouterOp L} {rest : List (RouterOp L)} :
    Detached name (op :: rest) ↔
      op = .detach name ∨ op.frees name = false ∧ Detached name rest := by
  constructor
  · rintro ⟨before, later, heq, hheld⟩
    cases before with
    | nil => exact .inl (List.cons.inj heq).1
    | cons first before =>
      obtain ⟨rfl, rfl⟩ := List.cons.inj heq
      obtain ⟨hfirst, hheld⟩ := held_cons.1 hheld
      exact .inr ⟨hfirst, before, later, rfl, hheld⟩
  · rintro (rfl | ⟨hop, before, later, rfl, hheld⟩)
    · exact ⟨[], rest, rfl, by simp [Held]⟩
    · exact ⟨op :: before, later, rfl, held_cons.2 ⟨hop, hheld⟩⟩

/-- A share that is not taken back is as it was, or its handle was detached. -/
theorem Share.touch_eq_some {s t : Share L} {op : RouterOp L} (h : s.touch op = some t) :
    t = s ∨ ∃ name, t = s.detached name := by
  cases op with
  | detach name => exact .inr ⟨name, (Option.some.inj h).symm⟩
  | clear => contradiction
  | _ =>
    simp only [touch] at h
    split at h
    · contradiction
    · exact .inl (Option.some.inj h).symm

/-- A share keeps its event and its listener. -/
theorem Share.isOf_later {s t : Share L} {ops : List (RouterOp L)} (h : s.later ops = some t)
    (event : String) (listener : L) : t.isOf event listener = s.isOf event listener := by
  induction ops generalizing s with
  | nil => rw [Option.some.inj h]
  | cons op rest ih =>
    obtain ⟨s', htouch, hlater⟩ := Option.bind_eq_some_iff.1 h
    rw [ih hlater]
    rcases touch_eq_some htouch with rfl | ⟨name, rfl⟩
    · rfl
    · rw [isOf_detached]

/-- A name that keeps a share has kept it all the time. -/
theorem Share.keeper_of_later {s t : Share L} {ops : List (RouterOp L)} {name : String}
    (h : s.later ops = some t) (hkeeper : t.keeper = some name) : s.keeper = some name := by
  induction ops generalizing s with
  | nil => rw [Option.some.inj h, hkeeper]
  | cons op rest ih =>
    obtain ⟨s', htouch, hlater⟩ := Option.bind_eq_some_iff.1 h
    have hs' := ih hlater
    rcases touch_eq_some htouch with rfl | ⟨n, rfl⟩
    · exact hs'
    · exact ((keeper_detached n name s).1 hs').2

/-- A share that nothing keeps is void only when the registration ends. -/
theorem Share.isSome_later_none {event : String} {listener : L} {ops : List (RouterOp L)} :
    (Share.later ⟨event, listener, none⟩ ops).isSome ↔
      ∀ op ∈ ops, op.ends event listener = false := by
  induction ops with
  | nil => simp [later]
  | cons op rest ih =>
    rw [List.forall_mem_cons, ← ih, later]
    cases op with
    | off e l =>
      by_cases hsame : e = event ∧ l = listener
      · simp [touch, RouterOp.ends, isOf, hsame]
      · have hother : ¬ (event = e ∧ listener = l) := fun h => hsame ⟨h.1.symm, h.2.symm⟩
        simp [touch, RouterOp.ends, isOf, hsame, hother]
    | _ => simp [touch, RouterOp.ends, detached]

/-- **What becomes of a share**: it is there as long as the registration was not ended and the
handle is held or was detached. -/
theorem Share.isSome_later {event : String} {listener : L} {name : String}
    {ops : List (RouterOp L)} :
    (Share.later ⟨event, listener, some name⟩ ops).isSome ↔
      (∀ op ∈ ops, op.ends event listener = false) ∧ (Held name ops ∨ Detached name ops) := by
  induction ops with
  | nil => simp [later, Held]
  | cons op rest ih =>
    rw [List.forall_mem_cons, held_cons, detached_cons, later]
    cases op with
    | off e l =>
      by_cases hsame : e = event ∧ l = listener
      · simp [touch, RouterOp.ends, isOf, hsame]
      · have hother : ¬ (event = e ∧ listener = l) := fun h => hsame ⟨h.1.symm, h.2.symm⟩
        simpa [touch, RouterOp.ends, RouterOp.frees, isOf, hsame, hother] using ih
    | clear => simp [touch, RouterOp.ends]
    | detach n =>
      by_cases hn : n = name
      · subst hn
        simpa [touch, RouterOp.ends, detached] using
          @isSome_later_none L _ event listener rest
      · have hn' : ¬ name = n := fun hc => hn hc.symm
        simpa [touch, RouterOp.ends, RouterOp.frees, detached, hn, hn'] using ih
    | on e l n =>
      by_cases hn : n = name
      · simp [touch, RouterOp.frees, hn]
      · have hn' : ¬ name = n := fun hc => hn hc.symm
        simpa [touch, RouterOp.ends, RouterOp.frees, hn, hn'] using ih
    | drop n =>
      by_cases hn : n = name
      · simp [touch, RouterOp.frees, hn]
      · have hn' : ¬ name = n := fun hc => hn hc.symm
        simpa [touch, RouterOp.ends, RouterOp.frees, hn, hn'] using ih

end

/-! ## The router keeps to the shares -/

namespace Stage

theorem handle?_forget (s : Stage L) (name : String) :
    (s.forget name).handle? = Router.voiding name s.handle? := by
  funext n
  simp only [handle?, forget, Router.voiding, List.find?_filter]
  by_cases hn : n = name
  · subst hn
    simp
  · rw [if_neg hn]
    congr 2
    funext e
    by_cases he : e.1 = n
    · simp [he, hn]
    · simp [he]

theorem handle?_hold (s : Stage L) (name : String) (h : Handle) :
    { s with handles := (name, h) :: s.handles }.handle? = Router.keeping name h s.handle? := by
  funext n
  simp only [handle?, Router.keeping, List.find?_cons]
  by_cases hn : n = name
  · simp [hn]
  · have hn' : ¬ name = n := fun hc => hn hc.symm
    simp [hn, hn']

section

variable [DecidableEq L] {s : Stage L} {shares : List (Share L)}

/-- A router that keeps to the shares. -/
structure Keeps (s : Stage L) (r : Router L) (shares : List (Share L)) : Prop where
  /-- It was not dropped. -/
  router : s.router = some r
  /-- It keeps to the shares of the handles. -/
  tracks : r.Tracks s.handle? shares

/-- Of the registrations of one router some are left in another, in the same order. -/
def Remains (r' r : Router L) : Prop :=
  ∀ event, ((r'.registrations event).map fun reg => (reg.id, reg.listener)).Sublist
    ((r.registrations event).map fun reg => (reg.id, reg.listener))

omit [DecidableEq L] in
theorem Remains.recipients {r' r : Router L} (h : Remains r' r) (event : String) :
    (r'.recipients event).Sublist (r.recipients event) := by
  simpa [Router.recipients, Function.comp_def] using (h event).map Prod.snd

omit [DecidableEq L] in
theorem Remains.exists_of_mem {r' r : Router L} (h : Remains r' r) {event : String}
    {reg' : Registration L} (hreg : reg' ∈ r'.registrations event) :
    ∃ reg ∈ r.registrations event, reg.id = reg'.id ∧ reg.listener = reg'.listener := by
  obtain ⟨reg, hmem, heq⟩ := List.mem_map.1 ((h event).subset (List.mem_map_of_mem hreg))
  exact ⟨reg, hmem, Prod.mk.inj heq⟩

omit [DecidableEq L] in
theorem remains_release (r : Router L) (x : Handle) : Remains (r.release x) r := by
  intro event
  rw [Router.registrations_release]
  by_cases he : x.event = event
  · rw [if_pos he]
    refine Router.sublist_letGo _ _ (fun reg reg' hgo => ?_) _
    obtain ⟨hid, hl, -⟩ := Router.letGo_eq_some hgo
    rw [hid, hl]
  · rw [if_neg he]

omit [DecidableEq L] in
/-- A handle whose registration has a share is left its registration. -/
theorem Remains.owner?_eq {r' r : Router L} (h : Remains r' r) {x : Handle} {l : L}
    {count count' : L → Nat} {bound bound' : Nat} (howner : r.owner? x = some l)
    (hsound : Router.Sound (r.registrations x.event) count bound)
    (hsound' : Router.Sound (r'.registrations x.event) count' bound') (hpos : 0 < count' l) :
    r'.owner? x = some l := by
  obtain ⟨reg, hreg, hid, hl⟩ := Router.exists_of_ownerIn howner
  obtain ⟨reg', hreg', hl'⟩ := hsound'.complete l hpos
  obtain ⟨reg₁, hreg₁, hid₁, hl₁⟩ := h.exists_of_mem hreg'
  have hsame : reg₁ = reg := hsound.eq_of_listener hreg₁ hreg (by rw [hl₁, hl', hl])
  rw [Router.owner?, ← hid, ← hsame, hid₁, ← hl']
  exact Router.ownerIn_of_mem hsound'.ids hreg'

/-- **A handle is dropped**, if one is held under the name. -/
theorem keeps_releaseHandle {r : Router L} (h : Keeps s r shares) (name : String) :
    ∃ r', Keeps (s.releaseHandle name) r' (shares.filter (·.keeper ≠ some name)) ∧
      (s.releaseHandle name).handle? name = none ∧ r'.nextId = r.nextId ∧ Remains r' r := by
  cases hx : s.handle? name with
  | none =>
    have hstay : s.releaseHandle name = s := by simp only [releaseHandle, hx]
    have hall : shares.filter (·.keeper ≠ some name) = shares := by
      have hnone := h.tracks.named name
      rw [hx, Option.bind_none, Option.toList_none, List.filter_eq_nil_iff] at hnone
      exact List.filter_eq_self.2 fun t ht => by simpa using hnone t ht
    rw [hstay, hall]
    exact ⟨r, h, hx, rfl, fun event => List.Sublist.refl _⟩
  | some x =>
    have hrelease : s.releaseHandle name =
        { s.forget name with router := s.router.map fun r => r.release x } := by
      simp only [releaseHandle, hx]
    have hhandle : (s.releaseHandle name).handle? = Router.voiding name s.handle? := by
      rw [hrelease, ← handle?_forget]
      rfl
    refine ⟨r.release x, ⟨by rw [hrelease, h.router]; rfl, ?_⟩, ?_, rfl, remains_release r x⟩
    · rw [hhandle]
      exact Router.tracks_release h.tracks hx
    · rw [hhandle, Router.voiding, if_pos rfl]

theorem register_of_router {r : Router L} (h : s.router = some r) (event : String)
    (l : L) (name : String) :
    (s.register event l name).2 =
      let s₁ := { s with router := some (r.on event l).2 }.releaseHandle name
      { s₁ with handles := (name, (r.on event l).1) :: s₁.handles } := by
  simp only [register, h]

/-- **A listener is registered**, and then the handle that was held under the name is dropped. -/
theorem keeps_register {r : Router L} (h : Keeps s r shares) (event : String) (l : L)
    (name : String) :
    ∃ r', Keeps (s.register event l name).2 r'
        (shares.filter (·.keeper ≠ some name) ++ [⟨event, l, some name⟩]) ∧
      Remains r' (r.on event l).2 := by
  obtain ⟨htracks, howner, hevent, hissued⟩ := Router.tracks_on h.tracks event l
  generalize hon : r.on event l = on at htracks howner hevent hissued
  obtain ⟨x, r₁⟩ := on
  have h₁ : Keeps { s with router := some r₁ } r₁ (shares ++ [⟨event, l, none⟩]) := ⟨rfl, htracks⟩
  obtain ⟨r₂, h₂, hfree, hnext, hremains⟩ := keeps_releaseHandle h₁ name
  have hfilter : (shares ++ [(⟨event, l, none⟩ : Share L)]).filter (·.keeper ≠ some name) =
      shares.filter (·.keeper ≠ some name) ++ [⟨event, l, none⟩] := by simp
  rw [hfilter] at h₂
  -- the new share keeps the registration of the new handle
  have hpos : 0 < Router.shareCount (shares.filter (·.keeper ≠ some name) ++
      [⟨event, l, none⟩]) event l := by simp [Router.shareCount_append]
  have howner₂ : r₂.owner? x = some l := hremains.owner?_eq howner (htracks.sound x.event)
    (h₂.tracks.sound x.event) (by rw [hevent]; exact hpos)
  have hregister := register_of_router h.router event l name
  simp only [hon] at hregister
  refine ⟨r₂, ⟨by rw [hregister]; exact h₂.router, ?_⟩, hremains⟩
  rw [hregister, handle?_hold]
  exact Router.tracks_keep h₂.tracks hfree hevent howner₂ (by rw [hnext]; exact hissued)

/-- **Whatever is done**, the router keeps to the shares. -/
theorem keeps_operate {r : Router L} (h : Keeps s r shares) (op : RouterOp L) :
    ∃ r', Keeps (s.operate op) r' (nextShares shares op) := by
  cases op with
  | on event l name =>
    rw [nextShares_on]
    obtain ⟨r', h', -⟩ := keeps_register h event l name
    exact ⟨r', h'⟩
  | off event l =>
    rw [nextShares_off]
    refine ⟨(r.off event l).2, ?_, Router.tracks_off h.tracks event l⟩
    simp only [operate, h.router, Option.map_some]
  | clear =>
    rw [nextShares_clear]
    refine ⟨r.clear, ?_, Router.tracks_clear h.tracks⟩
    simp only [operate, h.router, Option.map_some]
  | drop name =>
    rw [nextShares_drop]
    obtain ⟨r', h', -⟩ := keeps_releaseHandle h name
    exact ⟨r', h'⟩
  | detach name =>
    rw [nextShares_detach]
    refine ⟨r, h.router, ?_⟩
    rw [operate, handle?_forget]
    exact Router.tracks_detach h.tracks name

/-- **After any history** the router keeps to the shares that it leaves. -/
theorem keeps_history (ops : List (RouterOp L)) : ∃ r, Keeps (history ops) r (sharesOf ops) := by
  have hrun : ∀ (ops : List (RouterOp L)) (s : Stage L) (r : Router L) (shares : List (Share L)),
      Keeps s r shares → ∃ r', Keeps (ops.foldl operate s) r' (ops.foldl nextShares shares) := by
    intro ops
    induction ops with
    | nil => exact fun s r shares h => ⟨r, h⟩
    | cons op rest ih =>
      intro s r shares h
      obtain ⟨r', h'⟩ := keeps_operate h op
      exact ih _ r' _ h'
  refine hrun ops {} {} [] ⟨rfl, ?_⟩
  exact { sound := fun _ => Router.sound_nil _, named := fun _ => rfl, issued := nofun }

/-! ## Who listens, and in which order -/

theorem Keeps.recipients_eq {r : Router L} (h : Keeps s r shares) (event : String) :
    s.recipients event = r.recipients event := by
  simp only [recipients, h.router, Option.map_some, Option.getD_some]

theorem Keeps.registrations_eq {r : Router L} (h : Keeps s r shares) (event : String) :
    s.registrations event = r.registrations event := by
  simp only [registrations, h.router, Option.map_some, Option.getD_some]

/-- **Who listens** is who has a share. -/
theorem Keeps.mem_recipients {r : Router L} (h : Keeps s r shares) {event : String} {l : L} :
    l ∈ s.recipients event ↔ ∃ t ∈ shares, t.isOf event l = true := by
  have hsound := h.tracks.sound event
  rw [h.recipients_eq]
  constructor
  · intro hl
    obtain ⟨reg, hreg, rfl⟩ := List.mem_map.1 hl
    have hpos := hsound.kept reg hreg
    rw [hsound.counted reg hreg] at hpos
    exact List.countP_pos_iff.1 hpos
  · intro ht
    obtain ⟨reg, hreg, rfl⟩ := hsound.complete l (List.countP_pos_iff.2 ht)
    exact List.mem_map_of_mem hreg

/-- A listener that is registered already stays where it is, and a new one comes last. -/
theorem recipients_on (r : Router L) (event : String) (l : L) (other : String) :
    (r.on event l).2.recipients other =
      if event = other ∧ l ∉ r.recipients event then r.recipients other ++ [l]
      else r.recipients other := by
  cases hfind : (r.registrations event).find? (fun x => x.listener = l) with
  | some reg =>
    have hmem : l ∈ r.recipients event := by
      have hl : reg.listener = l := by simpa using List.find?_some hfind
      rw [← hl]
      exact List.mem_map_of_mem (List.mem_of_find?_eq_some hfind)
    rw [Router.on_known hfind, if_neg fun hc => hc.2 hmem]
    simp only [Router.recipients, Router.registrations_setRegistrations]
    by_cases he : event = other
    · rw [if_pos he, he, Router.map_listener_hold]
    · rw [if_neg he]
  | none =>
    have hnew : l ∉ r.recipients event := by
      simpa [Router.recipients] using List.find?_eq_none.1 hfind
    rw [Router.on_new hfind]
    show ((r.setRegistrations event _).registrations other).map (·.listener) = _
    rw [Router.registrations_setRegistrations]
    by_cases he : event = other
    · rw [if_pos he, if_pos ⟨he, hnew⟩, he, List.map_append]
      rfl
    · rw [if_neg he, if_neg fun hc => he hc.1]
      rfl

/-- Whatever is done, the listeners of an event keep their order, and at most one comes behind. -/
theorem recipients_operate {r : Router L} (h : Keeps s r shares) (op : RouterOp L)
    (event : String) :
    ((s.operate op).recipients event).Sublist (s.recipients event) ∨
      ∃ l name kept, op = .on event l name ∧ l ∉ s.recipients event ∧
        kept.Sublist (s.recipients event) ∧ (s.operate op).recipients event = kept ++ [l] := by
  rw [h.recipients_eq]
  cases op with
  | on e l name =>
    obtain ⟨r', h', hremains⟩ := keeps_register h e l name
    have hsub := hremains.recipients event
    rw [recipients_on] at hsub
    show ((s.register e l name).2.recipients event).Sublist _ ∨ _
    rw [operate, h'.recipients_eq]
    by_cases hnew : e = event ∧ l ∉ r.recipients e
    · obtain ⟨rfl, hnew⟩ := hnew
      rw [if_pos ⟨rfl, hnew⟩] at hsub
      -- the new share keeps the new registration, which comes last
      have hmem : l ∈ r'.recipients e := by
        rw [← h'.recipients_eq, h'.mem_recipients]
        exact ⟨⟨e, l, some name⟩, by simp, by simp [Share.isOf]⟩
      obtain ⟨kept, last, heq, hkept, hlast⟩ := List.sublist_append_iff.1 hsub
      rcases List.sublist_singleton.1 hlast with rfl | rfl
      · rw [List.append_nil] at heq
        exact absurd (hkept.subset (heq ▸ hmem)) hnew
      · exact .inr ⟨l, name, kept, rfl, hnew, hkept, heq⟩
    · rw [if_neg hnew] at hsub
      exact .inl hsub
  | off e l =>
    refine .inl ?_
    have h' : Keeps (s.operate (.off e l)) (r.off e l).2 _ :=
      ⟨by simp only [operate, h.router, Option.map_some], Router.tracks_off h.tracks e l⟩
    rw [h'.recipients_eq]
    simp only [Router.off, Router.recipients, Router.registrations_setRegistrations]
    by_cases he : e = event
    · rw [if_pos he, he]
      exact List.filter_sublist.map _
    · rw [if_neg he]
  | clear =>
    refine .inl ?_
    have hnone : (s.operate .clear).recipients event = [] := by
      simp only [operate, recipients, h.router, Option.map_some, Option.getD_some]
      rfl
    rw [hnone]
    exact List.nil_sublist _
  | drop name =>
    obtain ⟨r', h', -, -, hremains⟩ := keeps_releaseHandle h name
    refine .inl ?_
    rw [operate, h'.recipients_eq]
    exact hremains.recipients event
  | detach name =>
    refine .inl ?_
    have hsame : (s.operate (.detach name)).recipients event = s.recipients event := rfl
    rw [hsame, h.recipients_eq]

/-- A listener has been registered for an event since a moment of a history: it was not before, and
it was ever after. -/
def Since (ops : List (RouterOp L)) (event : String) (l : L) (k : Nat) : Prop :=
  (∃ name, ops[k]? = some (.on event l name)) ∧
    l ∉ (history (ops.take k)).recipients event ∧
    ∀ j, k < j → j ≤ ops.length → l ∈ (history (ops.take j)).recipients event

theorem Since.lt {ops : List (RouterOp L)} {event : String} {l : L} {k : Nat}
    (h : Since ops event l k) : k < ops.length := by
  obtain ⟨⟨name, hop⟩, -⟩ := h
  exact (List.getElem?_eq_some_iff.1 hop).1

/-- One more thing is done, after which the listener is still registered. -/
theorem Since.append {ops : List (RouterOp L)} {event : String} {l : L} {k : Nat}
    (h : Since ops event l k) {op : RouterOp L}
    (hl : l ∈ (history (ops ++ [op])).recipients event) : Since (ops ++ [op]) event l k := by
  have hk := h.lt
  obtain ⟨⟨name, hop⟩, hbefore, hafter⟩ := h
  refine ⟨⟨name, by rw [List.getElem?_append_left hk, hop]⟩, ?_, fun j hkj hj => ?_⟩
  · rwa [List.take_append_of_le_length (Nat.le_of_lt hk)]
  · by_cases hlast : j ≤ ops.length
    · rw [List.take_append_of_le_length hlast]
      exact hafter j hkj hlast
    · have hall : ops.length + 1 ≤ j := by omega
      rw [List.take_of_length_le (by simpa using hall)]
      exact hl

/-- A listener that is registered now. -/
theorem since_last {ops : List (RouterOp L)} {event : String} {l : L} {name : String}
    (hnew : l ∉ (history ops).recipients event)
    (hl : l ∈ (history (ops ++ [.on event l name])).recipients event) :
    Since (ops ++ [.on event l name]) event l ops.length := by
  refine ⟨⟨name, by simp⟩, by simpa using hnew, fun j hj hle => ?_⟩
  have hall : j = ops.length + 1 := by
    rw [List.length_append, List.length_singleton] at hle
    omega
  rw [hall, List.take_of_length_le (by simp)]
  exact hl

/-- **The listeners of an event stand in the order in which they were registered.** -/
theorem since_history (ops : List (RouterOp L)) (event : String) :
    (∀ l ∈ (history ops).recipients event, ∃ k, Since ops event l k) ∧
      ((history ops).recipients event).Pairwise fun l l' =>
        ∃ k k', k < k' ∧ Since ops event l k ∧ Since ops event l' k' := by
  induction ops using List.reverseRecOn with
  | nil => exact ⟨by simp [history, recipients, Router.recipients, Router.registrations],
      List.Pairwise.nil⟩
  | append_singleton ops op ih =>
    obtain ⟨hsince, hordered⟩ := ih
    obtain ⟨r, h⟩ := keeps_history ops
    have hstep : history (ops ++ [op]) = (history ops).operate op := by
      rw [history_append]
      rfl
    have hstill : ∀ {l k}, l ∈ (history (ops ++ [op])).recipients event →
        Since ops event l k → Since (ops ++ [op]) event l k := fun hl hk => hk.append hl
    rcases recipients_operate h op event with hsub | ⟨l, name, kept, rfl, hnew, hkept, heq⟩
    · rw [← hstep] at hsub
      refine ⟨fun l hl => ?_, ?_⟩
      · obtain ⟨k, hk⟩ := hsince l (hsub.subset hl)
        exact ⟨k, hstill hl hk⟩
      · refine (hordered.sublist hsub).imp_of_mem fun hl hl' hboth => ?_
        obtain ⟨k, k', hlt, hk, hk'⟩ := hboth
        exact ⟨k, k', hlt, hstill hl hk, hstill hl' hk'⟩
    · rw [← hstep] at heq
      have hlast := since_last hnew (by rw [heq]; simp)
      have hold : ∀ x ∈ kept, ∃ k, k < ops.length ∧
          Since (ops ++ [.on event l name]) event x k := by
        intro x hx
        obtain ⟨k, hk⟩ := hsince x (hkept.subset hx)
        exact ⟨k, hk.lt, hstill (by rw [heq]; exact List.mem_append_left _ hx) hk⟩
      refine ⟨fun x hx => ?_, ?_⟩
      · rw [heq] at hx
        rcases List.mem_append.1 hx with hx | hx
        · obtain ⟨k, -, hk⟩ := hold x hx
          exact ⟨k, hk⟩
        · obtain rfl := List.mem_singleton.1 hx
          exact ⟨_, hlast⟩
      · rw [heq]
        refine List.pairwise_append.2 ⟨?_, List.pairwise_singleton _ _, fun x hx y hy => ?_⟩
        · refine (hordered.sublist hkept).imp_of_mem fun hx hy hboth => ?_
          obtain ⟨k, k', hlt, hk, hk'⟩ := hboth
          exact ⟨k, k', hlt, hstill (by rw [heq]; exact List.mem_append_left _ hx) hk,
            hstill (by rw [heq]; exact List.mem_append_left _ hy) hk'⟩
        · obtain rfl := List.mem_singleton.1 hy
          obtain ⟨k, hlt, hk⟩ := hold x hx
          exact ⟨k, _, hlt, hk, hlast⟩

/-! ## The result -/

/-- A listener was registered for an event by a call since which the registration was not ended, and
the handle that the call gave is still held or was detached. -/
def Listens (ops : List (RouterOp L)) (event : String) (l : L) : Prop :=
  ∃ before name later, ops = before ++ .on event l name :: later ∧
    (∀ op ∈ later, op.ends event l = false) ∧ (Held name later ∨ Detached name later)

theorem mem_recipients_history {ops : List (RouterOp L)} {event : String} {l : L} :
    l ∈ (history ops).recipients event ↔ Listens ops event l := by
  obtain ⟨r, h⟩ := keeps_history ops
  rw [h.mem_recipients]
  constructor
  · rintro ⟨t, ht, hof⟩
    obtain ⟨before, e, l', name, later, rfl, hlater⟩ := mem_sharesOf.1 ht
    rw [Share.isOf_later hlater] at hof
    obtain ⟨rfl, rfl⟩ := Share.isOf_iff.1 hof
    exact ⟨before, name, later, rfl, Share.isSome_later.1 (by rw [hlater]; rfl)⟩
  · rintro ⟨before, name, later, rfl, hstays⟩
    obtain ⟨t, ht⟩ := Option.isSome_iff_exists.1 (Share.isSome_later.2 hstays)
    refine ⟨t, mem_sharesOf.2 ⟨before, event, l, name, later, rfl, ht⟩, ?_⟩
    rw [Share.isOf_later ht]
    exact Share.isOf_iff.2 ⟨rfl, rfl⟩

/-- Once the registration of a listener was ended, the name of a handle from before keeps no
share. -/
theorem keeper_ne_of_ends {before middle later : List (RouterOp L)} {event name : String} {l : L}
    {ender : RouterOp L} (hender : ender.ends event l = true)
    (hheld : Held name (middle ++ ender :: later)) {t : Share L}
    (ht : t ∈ sharesOf (before ++ .on event l name :: (middle ++ ender :: later))) :
    t.keeper ≠ some name := by
  intro hkeeper
  rw [sharesOf, List.foldl_append, List.foldl_cons, mem_foldl_nextShares] at ht
  rcases ht with ⟨t₀, ht₀, hlater⟩ | ⟨before', e, l', n, later', heq, hlater⟩
  · -- the share is older than the history that follows the call
    have hkeeper₀ := Share.keeper_of_later hlater hkeeper
    rw [nextShares_on] at ht₀
    rcases List.mem_append.1 ht₀ with ht₀ | ht₀
    · exact absurd hkeeper₀ (by simpa using (List.mem_filter.1 ht₀).2)
    · obtain rfl := List.mem_singleton.1 ht₀
      have hnot := (Share.isSome_later.1 (by rw [hlater]; rfl)).1 ender (by simp)
      rw [hender] at hnot
      contradiction
  · -- it was given out since, for which the name would have had to be free
    have hn : n = name := Option.some.inj (Share.keeper_of_later hlater hkeeper)
    have hfree := hheld (.on e l' n) (by rw [heq]; simp)
    simp [RouterOp.frees, hn] at hfree

/-- **A handle from before its registration was ended does nothing when it is dropped.** -/
theorem registrations_drop_of_ends {before middle later : List (RouterOp L)}
    {event name : String} {l : L} {ender : RouterOp L} {ops : List (RouterOp L)}
    (hops : ops = before ++ .on event l name :: (middle ++ ender :: later))
    (hender : ender.ends event l = true) (hheld : Held name (middle ++ ender :: later))
    (other : String) :
    (history (ops ++ [.drop name])).registrations other =
      (history ops).registrations other := by
  obtain ⟨r, h⟩ := keeps_history ops
  rw [history_append]
  generalize history ops = s at h
  show (s.releaseHandle name).registrations other = s.registrations other
  cases hx : s.handle? name with
  | none => simp only [releaseHandle, hx]
  | some x =>
    have hnone : r.owner? x = none := by
      have hshare := h.tracks.named_eq hx
      have hunkept : ∀ t ∈ sharesOf ops, t.keeper ≠ some name := fun t ht =>
        keeper_ne_of_ends hender hheld (hops ▸ ht)
      rw [List.filter_eq_nil_iff.2 fun t ht => by simpa using hunkept t ht] at hshare
      simpa [Router.shareOf] using hshare.symm
    have hrelease : (s.releaseHandle name).registrations other =
        (r.release x).registrations other := by
      simp only [releaseHandle, hx, registrations, h.router, Option.map_some, Option.getD_some]
    rw [hrelease, h.registrations_eq, Router.registrations_release_of_ended hnone]

/-- **Who listens after what has happened.**  Take any row of listeners that are registered or
removed, of handles that are dropped or detached, and of clearings.  For every event the listeners
are different from each other and stand in the order of their current registrations.  A listener is
registered exactly if it was registered by a call since the last removal of it or clearing, and the
handle of this call is still held or was detached.  Dropping a handle from before that removal or
clearing changes no registration. -/
theorem listeners_history (script : L → List (Action L)) (depth : Nat)
    (ops : List (RouterOp L)) :
    runActions (perform script depth) (ops.map RouterOp.action) {} = some (true, history ops) ∧
    (∀ event,
      ((history ops).recipients event).Nodup ∧
      (∀ l ∈ (history ops).recipients event, ∃ k, Since ops event l k) ∧
      (((history ops).recipients event).Pairwise fun l l' =>
        ∃ k k', k < k' ∧ Since ops event l k ∧ Since ops event l' k') ∧
      ∀ l, l ∈ (history ops).recipients event ↔ Listens ops event l) ∧
    (∀ before event l name middle ender later,
      ops = before ++ .on event l name :: (middle ++ ender :: later) →
      ender.ends event l = true → Held name (middle ++ ender :: later) →
      ∀ other, (history (ops ++ [.drop name])).registrations other =
        (history ops).registrations other) := by
  refine ⟨runActions_history script depth ops {}, fun event => ?_, ?_⟩
  · obtain ⟨r, h⟩ := keeps_history ops
    obtain ⟨hsince, hordered⟩ := since_history ops event
    refine ⟨?_, hsince, hordered, fun l => mem_recipients_history⟩
    rw [h.recipients_eq]
    exact (h.tracks.sound event).listeners
  · intro before event l name middle ender later hops hender hheld other
    exact registrations_drop_of_ends hops hender hheld other

/-- A listener that is registered again after its handle was dropped comes last. -/
example : (history [.on "e" 1 "a", .on "e" 2 "b", .drop "a", .on "e" 1 "c"]).recipients "e" =
    [2, 1] := by
  decide

end

end Stage

end LiveSync
