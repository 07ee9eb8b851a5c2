import LiveSync.Router
import Mathlib.Data.List.Nodup

/-!
# Who keeps a registration

Each call that registers a listener gives out a share in its registration.  A share is kept by the
name under which its handle is held, or for good once the handle was detached.  The router itself
only counts: it knows how many shares a registration has, and a handle knows an id.  Here the two
are tied together, step by step.

* `Share` — a share in the registration of a listener.
* `Sound` — the registrations of one event count their shares.
* `Tracks` — a router, the handles that are held, and the shares there are.
* `tracks_on`, `tracks_off`, `tracks_clear`, `tracks_release`, `tracks_detach`, `tracks_keep` — what
  each step makes of the shares.
-/

namespace LiveSync

/-- A share in the registration of a listener. -/
structure Share (L : Type) where
  /-- The event. -/
  event : String
  /-- The listener. -/
  listener : L
  /-- The name under which its handle is held; without one the share is never given back. -/
  keeper : Option String
  deriving DecidableEq

/-- Is it a share in the registration of a listener for an event? -/
def Share.isOf {L : Type} [DecidableEq L] (s : Share L) (event : String) (listener : L) : Bool :=
  s.event = event ∧ s.listener = listener

theorem Share.isOf_iff {L : Type} [DecidableEq L] {s : Share L} {event : String} {listener : L} :
    s.isOf event listener = true ↔ s.event = event ∧ s.listener = listener := by
  simp [isOf]

/-- The share as it is when its handle was detached, if it is the one that a name keeps. -/
def Share.detached {L : Type} (name : String) (s : Share L) : Share L :=
  if s.keeper = some name then { s with keeper := none } else s

theorem Share.isOf_detached {L : Type} [DecidableEq L] (name : String) (s : Share L)
    (event : String) (l : L) : (s.detached name).isOf event l = s.isOf event l := by
  simp only [detached]
  split <;> rfl

theorem Share.keeper_detached {L : Type} (name n : String) (s : Share L) :
    (s.detached name).keeper = some n ↔ n ≠ name ∧ s.keeper = some n := by
  by_cases hs : s.keeper = some name
  · rw [detached, if_pos hs, hs]
    simp only [reduceCtorEq, Option.some.injEq, false_iff, not_and]
    exact fun hn hc => hn hc.symm
  · rw [detached, if_neg hs]
    constructor
    · intro hkeeper
      exact ⟨fun hn => hs (hn ▸ hkeeper), hkeeper⟩
    · exact And.right

namespace Router

variable {L : Type}

/-! ## The registrations of an event -/

@[simp] theorem registrations_setRegistrations (r : Router L) (event : String)
    (regs : List (Registration L)) (other : String) :
    (r.setRegistrations event regs).registrations other =
      if event = other then regs else r.registrations other := by
  simp only [registrations, setRegistrations, List.find?_cons]
  by_cases h : event = other
  · simp [h]
  · simp only [h, decide_false, if_false, List.find?_filter]
    congr 3
    funext e
    by_cases he : e.1 = other
    · simp [he, Ne.symm h]
    · simp [he]

@[simp] theorem nextId_setRegistrations (r : Router L) (event : String)
    (regs : List (Registration L)) : (r.setRegistrations event regs).nextId = r.nextId := rfl

/-- The registrations of an event, with the number of shares that each listener has in them. -/
structure Sound (regs : List (Registration L)) (count : L → Nat) (bound : Nat) : Prop where
  /-- The ids are different. -/
  ids : (regs.map (·.id)).Nodup
  /-- The listeners are different. -/
  listeners : (regs.map (·.listener)).Nodup
  /-- The ids were given out. -/
  given : ∀ reg ∈ regs, reg.id < bound
  /-- The holders of a registration are its shares. -/
  counted : ∀ reg ∈ regs, reg.holders = count reg.listener
  /-- Without a share there is no registration. -/
  kept : ∀ reg ∈ regs, 0 < reg.holders
  /-- Who has a share is registered. -/
  complete : ∀ l, 0 < count l → ∃ reg ∈ regs, reg.listener = l

section

variable {regs : List (Registration L)} {count count' : L → Nat} {bound : Nat}

theorem sound_nil (bound : Nat) : Sound ([] : List (Registration L)) (fun _ => 0) bound := by
  constructor <;> simp

theorem Sound.eq_of_id (h : Sound regs count bound) {a b : Registration L} (ha : a ∈ regs)
    (hb : b ∈ regs) (hid : a.id = b.id) : a = b :=
  List.inj_on_of_nodup_map h.ids ha hb hid

theorem Sound.eq_of_listener (h : Sound regs count bound) {a b : Registration L} (ha : a ∈ regs)
    (hb : b ∈ regs) (hl : a.listener = b.listener) : a = b :=
  List.inj_on_of_nodup_map h.listeners ha hb hl

/-! ### One more share -/

@[simp] theorem id_hold (id : Nat) (reg : Registration L) : (hold id reg).id = reg.id := by
  simp only [hold]
  split <;> rfl

@[simp] theorem listener_hold (id : Nat) (reg : Registration L) :
    (hold id reg).listener = reg.listener := by
  simp only [hold]
  split <;> rfl

theorem map_id_hold (id : Nat) (regs : List (Registration L)) :
    (regs.map (hold id)).map (·.id) = regs.map (·.id) := by
  simp [Function.comp_def]

theorem map_listener_hold (id : Nat) (regs : List (Registration L)) :
    (regs.map (hold id)).map (·.listener) = regs.map (·.listener) := by
  simp [Function.comp_def]

/-- A share in a registration that is there. -/
theorem Sound.hold (h : Sound regs count bound) {reg : Registration L} (hreg : reg ∈ regs)
    (hself : count' reg.listener = count reg.listener + 1)
    (hother : ∀ l, l ≠ reg.listener → count' l = count l) :
    Sound (regs.map (hold reg.id)) count' bound := by
  -- the one registration with the id has one more holder
  have hcounted : ∀ x ∈ regs, (Router.hold reg.id x).holders = count' x.listener ∧
      0 < (Router.hold reg.id x).holders := by
    intro x hx
    by_cases hid : x.id = reg.id
    · obtain rfl := h.eq_of_id hx hreg hid
      have hx' := h.counted x hx
      simp only [Router.hold, if_pos, hself]
      omega
    · have hne : x.listener ≠ reg.listener := fun hl => hid (by rw [h.eq_of_listener hx hreg hl])
      simp only [Router.hold, if_neg hid, hother _ hne]
      exact ⟨h.counted x hx, h.kept x hx⟩
  constructor
  case ids => rw [map_id_hold]; exact h.ids
  case listeners => rw [map_listener_hold]; exact h.listeners
  case given =>
    intro x hx
    obtain ⟨y, hy, rfl⟩ := List.mem_map.1 hx
    rw [id_hold]
    exact h.given y hy
  case counted =>
    intro x hx
    obtain ⟨y, hy, rfl⟩ := List.mem_map.1 hx
    rw [listener_hold]
    exact (hcounted y hy).1
  case kept =>
    intro x hx
    obtain ⟨y, hy, rfl⟩ := List.mem_map.1 hx
    exact (hcounted y hy).2
  case complete =>
    intro l hl
    have hthere : ∃ y ∈ regs, y.listener = l := by
      by_cases hlisten : l = reg.listener
      · exact ⟨reg, hreg, hlisten.symm⟩
      · rw [hother l hlisten] at hl
        exact h.complete l hl
    obtain ⟨y, hy, rfl⟩ := hthere
    exact ⟨_, List.mem_map_of_mem hy, listener_hold _ y⟩

/-- A share in a new registration. -/
theorem Sound.append (h : Sound regs count bound) {l : L}
    (hnew : ∀ reg ∈ regs, reg.listener ≠ l) (hself : count' l = count l + 1)
    (hother : ∀ l', l' ≠ l → count' l' = count l') :
    Sound (regs ++ [⟨bound, l, 1⟩]) count' (bound + 1) := by
  have hzero : count l = 0 := by
    by_contra hne
    obtain ⟨reg, hreg, hl⟩ := h.complete l (Nat.pos_of_ne_zero hne)
    exact hnew reg hreg hl
  constructor
  case ids =>
    rw [List.map_append]
    refine List.nodup_append.2 ⟨h.ids, by simp, fun id hid id' hid' hc => ?_⟩
    obtain ⟨reg, hreg, rfl⟩ := List.mem_map.1 hid
    have hbound : id' = bound := by simpa using hid'
    have hgiven := h.given reg hreg
    omega
  case listeners =>
    rw [List.map_append]
    refine List.nodup_append.2 ⟨h.listeners, by simp, fun x hx x' hx' hc => ?_⟩
    obtain ⟨reg, hreg, rfl⟩ := List.mem_map.1 hx
    have hl : x' = l := by simpa using hx'
    exact hnew reg hreg (hc.trans hl)
  case given =>
    intro reg hreg
    rcases List.mem_append.1 hreg with hreg | hreg
    · exact Nat.lt_succ_of_lt (h.given reg hreg)
    · obtain rfl := List.mem_singleton.1 hreg
      exact Nat.lt_succ_self bound
  case counted =>
    intro reg hreg
    rcases List.mem_append.1 hreg with hreg | hreg
    · rw [hother _ (hnew reg hreg)]
      exact h.counted reg hreg
    · obtain rfl := List.mem_singleton.1 hreg
      rw [hself, hzero]
  case kept =>
    intro reg hreg
    rcases List.mem_append.1 hreg with hreg | hreg
    · exact h.kept reg hreg
    · obtain rfl := List.mem_singleton.1 hreg
      exact Nat.one_pos
  case complete =>
    intro l' hl'
    by_cases hl : l' = l
    · exact ⟨⟨bound, l, 1⟩, by simp, hl.symm⟩
    · rw [hother l' hl] at hl'
      obtain ⟨reg, hreg, hlisten⟩ := h.complete l' hl'
      exact ⟨reg, List.mem_append_left _ hreg, hlisten⟩

/-! ### One share less -/

theorem letGo_eq_some {id : Nat} {reg reg' : Registration L} (h : letGo id reg = some reg') :
    reg'.id = reg.id ∧ reg'.listener = reg.listener ∧
      (reg.id ≠ id ∧ reg' = reg ∨
        reg.id = id ∧ 1 < reg.holders ∧ reg'.holders = reg.holders - 1) := by
  simp only [letGo] at h
  by_cases hid : reg.id = id
  · rw [if_pos hid] at h
    by_cases hlast : reg.holders ≤ 1
    · rw [if_pos hlast] at h
      contradiction
    · rw [if_neg hlast] at h
      obtain rfl := Option.some.inj h
      exact ⟨rfl, rfl, .inr ⟨hid, by omega, rfl⟩⟩
  · rw [if_neg hid] at h
    obtain rfl := Option.some.inj h
    exact ⟨rfl, rfl, .inl ⟨hid, rfl⟩⟩

/-- Of the registrations at most one goes, and the others keep their order. -/
theorem sublist_letGo {α : Type} (f : Registration L → α) (id : Nat)
    (hf : ∀ reg reg', letGo id reg = some reg' → f reg' = f reg) (regs : List (Registration L)) :
    ((regs.filterMap (letGo id)).map f).Sublist (regs.map f) := by
  induction regs with
  | nil => exact List.Sublist.refl _
  | cons reg rest ih =>
    cases hgo : letGo id reg with
    | none =>
      rw [List.filterMap_cons_none hgo]
      exact ih.cons _
    | some reg' =>
      rw [List.filterMap_cons_some hgo, List.map_cons, List.map_cons, hf reg reg' hgo]
      exact ih.cons_cons _

/-- Where no registration has the id, nothing happens. -/
theorem filterMap_letGo_eq_self {id : Nat} {regs : List (Registration L)}
    (h : ∀ reg ∈ regs, reg.id ≠ id) : regs.filterMap (letGo id) = regs := by
  have hsome : ∀ reg ∈ regs, letGo id reg = some reg := fun reg hreg => if_neg (h reg hreg)
  rw [List.filterMap_congr hsome, List.filterMap_some]

/-- A share in a registration is given back. -/
theorem Sound.letGo (h : Sound regs count bound) {reg : Registration L} (hreg : reg ∈ regs)
    (hself : count reg.listener = count' reg.listener + 1)
    (hother : ∀ l, l ≠ reg.listener → count' l = count l) :
    Sound (regs.filterMap (letGo reg.id)) count' bound := by
  have hfrom : ∀ x ∈ regs.filterMap (Router.letGo reg.id), ∃ y ∈ regs,
      Router.letGo reg.id y = some x := fun x hx => List.mem_filterMap.1 hx
  have hcounted : ∀ x y, y ∈ regs → Router.letGo reg.id y = some x →
      x.holders = count' x.listener ∧ 0 < x.holders := by
    intro x y hy hgo
    obtain ⟨-, hlisten, ⟨hid, rfl⟩ | ⟨hid, hmany, hless⟩⟩ := letGo_eq_some hgo
    · have hne : x.listener ≠ reg.listener := fun hl => hid (by rw [h.eq_of_listener hy hreg hl])
      rw [hother _ hne]
      exact ⟨h.counted x hy, h.kept x hy⟩
    · obtain rfl := h.eq_of_id hy hreg hid
      have hy' := h.counted y hy
      rw [hlisten]
      omega
  constructor
  case ids =>
    exact (sublist_letGo _ _ (fun _ _ hgo => (letGo_eq_some hgo).1) regs).nodup h.ids
  case listeners =>
    exact (sublist_letGo _ _ (fun _ _ hgo => (letGo_eq_some hgo).2.1) regs).nodup h.listeners
  case given =>
    intro x hx
    obtain ⟨y, hy, hgo⟩ := hfrom x hx
    rw [(letGo_eq_some hgo).1]
    exact h.given y hy
  case counted =>
    intro x hx
    obtain ⟨y, hy, hgo⟩ := hfrom x hx
    exact (hcounted x y hy hgo).1
  case kept =>
    intro x hx
    obtain ⟨y, hy, hgo⟩ := hfrom x hx
    exact (hcounted x y hy hgo).2
  case complete =>
    intro l hl
    by_cases hlisten : l = reg.listener
    · -- there is a share left, so that the registration stays
      subst hlisten
      have hmany : ¬ reg.holders ≤ 1 := by
        have := h.counted reg hreg
        omega
      refine ⟨{ reg with holders := reg.holders - 1 }, List.mem_filterMap.2 ⟨reg, hreg, ?_⟩, rfl⟩
      simp only [Router.letGo, if_pos, if_neg hmany]
    · rw [hother l hlisten] at hl
      obtain ⟨x, hx, hxl⟩ := h.complete l hl
      have hid : x.id ≠ reg.id := fun hid => hlisten (by rw [← hxl, h.eq_of_id hx hreg hid])
      exact ⟨x, List.mem_filterMap.2 ⟨x, hx, if_neg hid⟩, hxl⟩

/-- All shares of a listener are void. -/
theorem Sound.erase [DecidableEq L] (h : Sound regs count bound) {l : L} (hself : count' l = 0)
    (hother : ∀ l', l' ≠ l → count' l' = count l') :
    Sound (regs.filter fun reg => reg.listener ≠ l) count' bound := by
  have hmem : ∀ reg ∈ regs.filter fun reg => reg.listener ≠ l, reg ∈ regs ∧ reg.listener ≠ l :=
    fun reg hreg => by simpa using hreg
  constructor
  case ids => exact (List.filter_sublist.map _).nodup h.ids
  case listeners => exact (List.filter_sublist.map _).nodup h.listeners
  case given => exact fun reg hreg => h.given reg (hmem reg hreg).1
  case counted =>
    intro reg hreg
    rw [hother _ (hmem reg hreg).2]
    exact h.counted reg (hmem reg hreg).1
  case kept => exact fun reg hreg => h.kept reg (hmem reg hreg).1
  case complete =>
    intro l' hl'
    have hne : l' ≠ l := by
      rintro rfl
      omega
    rw [hother l' hne] at hl'
    obtain ⟨reg, hreg, rfl⟩ := h.complete l' hl'
    exact ⟨reg, by simpa using ⟨hreg, hne⟩, rfl⟩

/-! ### Whose registration it is -/

/-- The listener of the registration with an id. -/
def ownerIn (regs : List (Registration L)) (id : Nat) : Option L :=
  (regs.find? fun reg => reg.id = id).map (·.listener)

theorem ownerIn_eq_none {id : Nat} : ownerIn regs id = none ↔ ∀ reg ∈ regs, reg.id ≠ id := by
  simp [ownerIn]

theorem ownerIn_of_mem (hids : (regs.map (·.id)).Nodup) {reg : Registration L}
    (hreg : reg ∈ regs) : ownerIn regs reg.id = some reg.listener := by
  cases hfind : regs.find? fun x => x.id = reg.id with
  | none => simpa using List.find?_eq_none.1 hfind reg hreg
  | some x =>
    have hid : x.id = reg.id := by simpa using List.find?_some hfind
    have hx : x = reg :=
      List.inj_on_of_nodup_map hids (List.mem_of_find?_eq_some hfind) hreg hid
    simp only [ownerIn, hfind, hx, Option.map_some]

theorem exists_of_ownerIn {id : Nat} {l : L} (h : ownerIn regs id = some l) :
    ∃ reg ∈ regs, reg.id = id ∧ reg.listener = l := by
  obtain ⟨reg, hfind, hl⟩ := Option.map_eq_some_iff.1 h
  exact ⟨reg, List.mem_of_find?_eq_some hfind, by simpa using List.find?_some hfind, hl⟩

theorem ownerIn_hold (other id : Nat) : ownerIn (regs.map (hold other)) id = ownerIn regs id := by
  simp [ownerIn, List.find?_map, Function.comp_def]

theorem ownerIn_append (reg : Registration L) (id : Nat) :
    ownerIn (regs ++ [reg]) id =
      (ownerIn regs id).or (if reg.id = id then some reg.listener else none) := by
  simp only [ownerIn, List.find?_append]
  cases regs.find? fun x => x.id = id <;> by_cases hid : reg.id = id <;> simp [hid]

/-- An id whose registration stays. -/
theorem ownerIn_letGo {other id : Nat}
    (hstays : ∀ reg ∈ regs, reg.id = id → (letGo other reg).isSome) :
    ownerIn (regs.filterMap (letGo other)) id = ownerIn regs id := by
  induction regs with
  | nil => rfl
  | cons reg rest ih =>
    have hrest := ih fun x hx => hstays x (List.mem_cons_of_mem reg hx)
    simp only [ownerIn] at hrest ⊢
    cases hgo : letGo other reg with
    | none =>
      have hne : reg.id ≠ id := fun hid => by
        have := hstays reg List.mem_cons_self hid
        rw [hgo] at this
        contradiction
      rw [List.filterMap_cons_none hgo, hrest, List.find?_cons_of_neg (by simpa using hne)]
    | some reg' =>
      obtain ⟨hid', hl', -⟩ := letGo_eq_some hgo
      rw [List.filterMap_cons_some hgo]
      by_cases hid : reg.id = id
      · rw [List.find?_cons_of_pos (by simpa [hid'] using hid),
          List.find?_cons_of_pos (by simpa using hid)]
        simp [hl']
      · rw [List.find?_cons_of_neg (by simpa [hid'] using hid),
          List.find?_cons_of_neg (by simpa using hid)]
        exact hrest

theorem ownerIn_erase [DecidableEq L] (hids : (regs.map (·.id)).Nodup) (l : L) (id : Nat) :
    ownerIn (regs.filter fun reg => reg.listener ≠ l) id =
      (ownerIn regs id).filter fun x => x ≠ l := by
  cases howner : ownerIn regs id with
  | none =>
    rw [Option.filter_none, ownerIn_eq_none]
    exact fun reg hreg => ownerIn_eq_none.1 howner reg (List.mem_of_mem_filter hreg)
  | some x =>
    obtain ⟨reg, hreg, rfl, rfl⟩ := exists_of_ownerIn howner
    by_cases hl : reg.listener = l
    · rw [Option.filter_some_neg (by simpa using hl), ownerIn_eq_none]
      intro y hy hid
      obtain ⟨hy, hyl⟩ := List.mem_filter.1 hy
      rw [List.inj_on_of_nodup_map hids hy hreg hid] at hyl
      simp [hl] at hyl
    · rw [Option.filter_some_pos (by simpa using hl)]
      exact ownerIn_of_mem ((List.filter_sublist.map _).nodup hids)
        (List.mem_filter.2 ⟨hreg, by simpa using hl⟩)

end

/-! ## Shares and handles -/

section

variable [DecidableEq L]

/-- The number of shares of a listener. -/
def shareCount (shares : List (Share L)) (event : String) (listener : L) : Nat :=
  shares.countP (·.isOf event listener)

/-- The listener whose registration a handle belongs to, unless that has ended. -/
def owner? (r : Router L) (h : Handle) : Option L :=
  ownerIn (r.registrations h.event) h.id

/-- The share of a handle that is held under a name, if its registration has not ended. -/
def shareOf (r : Router L) (name : String) (h : Handle) : Option (Share L) :=
  (r.owner? h).map fun l => ⟨h.event, l, some name⟩

/-- A router with the handles that are held, and the shares there are in its registrations. -/
structure Tracks (r : Router L) (held : String → Option Handle) (shares : List (Share L)) :
    Prop where
  /-- The registrations count the shares. -/
  sound : ∀ event, Sound (r.registrations event) (shareCount shares event) r.nextId
  /-- The shares that a name keeps are the one of its handle. -/
  named : ∀ name, shares.filter (·.keeper = some name) = ((held name).bind (r.shareOf name)).toList
  /-- A handle has an id that was given out. -/
  issued : ∀ name h, held name = some h → h.id < r.nextId

/-- Hold nothing under a name. -/
def voiding (name : String) (held : String → Option Handle) : String → Option Handle :=
  fun n => if n = name then none else held n

/-- Hold a handle under a name. -/
def keeping (name : String) (h : Handle) (held : String → Option Handle) :
    String → Option Handle :=
  fun n => if n = name then some h else held n

theorem shareCount_append (shares : List (Share L)) (s : Share L) (event : String) (l : L) :
    shareCount (shares ++ [s]) event l =
      shareCount shares event l + if s.event = event ∧ s.listener = l then 1 else 0 := by
  simp only [shareCount, List.countP_append, List.countP_singleton, Share.isOf_iff]

theorem shareCount_pos {shares : List (Share L)} {s : Share L} (hs : s ∈ shares) :
    0 < shareCount shares s.event s.listener :=
  List.countP_pos_iff.2 ⟨s, hs, Share.isOf_iff.2 ⟨rfl, rfl⟩⟩

omit [DecidableEq L] in
theorem Sound.mono {regs : List (Registration L)} {count : L → Nat} {bound bound' : Nat}
    (h : Sound regs count bound) (hle : bound ≤ bound') : Sound regs count bound' :=
  { h with given := fun reg hreg => Nat.lt_of_lt_of_le (h.given reg hreg) hle }

variable {r r' : Router L} {held : String → Option Handle} {shares shares' : List (Share L)}

/-- A step that leaves every handle its registration, and every name its shares. -/
theorem Tracks.of_owner (h : Tracks r held shares)
    (hsound : ∀ event, Sound (r'.registrations event) (shareCount shares' event) r'.nextId)
    (hshares : ∀ name, shares'.filter (·.keeper = some name) =
      shares.filter (·.keeper = some name))
    (howner : ∀ name x, held name = some x → r'.owner? x = r.owner? x)
    (hle : r.nextId ≤ r'.nextId) : Tracks r' held shares' where
  sound := hsound
  named := by
    intro name
    rw [hshares, h.named]
    cases hname : held name with
    | none => rfl
    | some x => simp only [Option.bind_some, shareOf, howner name x hname]
  issued := fun name x hx => Nat.lt_of_lt_of_le (h.issued name x hx) hle

/-! ### Registering -/

theorem on_known {event : String} {l : L} {reg : Registration L}
    (hfind : (r.registrations event).find? (fun x => x.listener = l) = some reg) :
    r.on event l = (⟨event, reg.id⟩,
      r.setRegistrations event ((r.registrations event).map (hold reg.id))) := by
  simp only [on, hfind]

theorem on_new {event : String} {l : L}
    (hfind : (r.registrations event).find? (fun x => x.listener = l) = none) :
    r.on event l = (⟨event, r.nextId⟩,
      { r.setRegistrations event (r.registrations event ++ [⟨r.nextId, l, 1⟩]) with
        nextId := r.nextId + 1 }) := by
  simp only [on, hfind]

/-- **Registering a listener** adds a share, which nothing keeps yet. -/
theorem tracks_on (h : Tracks r held shares) (event : String) (l : L) :
    Tracks (r.on event l).2 held (shares ++ [⟨event, l, none⟩]) ∧
      (r.on event l).2.owner? (r.on event l).1 = some l ∧ (r.on event l).1.event = event ∧
      (r.on event l).1.id < (r.on event l).2.nextId := by
  have hself : shareCount (shares ++ [⟨event, l, none⟩]) event l =
      shareCount shares event l + 1 := by simp [shareCount_append]
  have hother : ∀ l', l' ≠ l → shareCount (shares ++ [⟨event, l, none⟩]) event l' =
      shareCount shares event l' := fun l' hl' => by simp [shareCount_append, Ne.symm hl']
  have helse : ∀ e, event ≠ e → shareCount (shares ++ [⟨event, l, none⟩]) e =
      shareCount shares e := fun e he => funext fun l' => by simp [shareCount_append, he]
  have hshares : ∀ name, (shares ++ [(⟨event, l, none⟩ : Share L)]).filter
      (·.keeper = some name) = shares.filter (·.keeper = some name) := by simp
  cases hfind : (r.registrations event).find? (fun x => x.listener = l) with
  | some reg =>
    rw [on_known hfind]
    have hreg := List.mem_of_find?_eq_some hfind
    obtain rfl : reg.listener = l := by simpa using List.find?_some hfind
    refine ⟨h.of_owner (fun e => ?_) hshares (fun name x hx => ?_) (Nat.le_refl _), ?_, rfl, ?_⟩
    · rw [registrations_setRegistrations]
      by_cases he : event = e
      · subst he
        rw [if_pos rfl]
        exact (h.sound event).hold hreg hself hother
      · rw [if_neg he, helse e he]
        exact h.sound e
    · simp only [owner?, registrations_setRegistrations]
      by_cases he : event = x.event
      · rw [if_pos he, he, ownerIn_hold]
      · rw [if_neg he]
    · simp only [owner?, registrations_setRegistrations, if_pos, ownerIn_hold]
      exact ownerIn_of_mem (h.sound event).ids hreg
    · exact (h.sound event).given reg hreg
  | none =>
    rw [on_new hfind]
    have hnew : ∀ reg ∈ r.registrations event, reg.listener ≠ l := by
      simpa using List.find?_eq_none.1 hfind
    refine ⟨h.of_owner (fun e => ?_) hshares (fun name x hx => ?_) (Nat.le_succ _), ?_, rfl,
      Nat.lt_succ_self _⟩
    · show Sound ((r.setRegistrations event _).registrations e) _ (r.nextId + 1)
      rw [registrations_setRegistrations]
      by_cases he : event = e
      · subst he
        rw [if_pos rfl]
        exact (h.sound event).append hnew hself hother
      · rw [if_neg he, helse e he]
        exact (h.sound e).mono (Nat.le_succ _)
    · show ownerIn ((r.setRegistrations event _).registrations x.event) x.id = _
      rw [registrations_setRegistrations]
      by_cases he : event = x.event
      · have hne : r.nextId ≠ x.id := Nat.ne_of_gt (h.issued name x hx)
        rw [if_pos he, he, ownerIn_append, if_neg hne, Option.or_none, owner?]
      · rw [if_neg he, owner?]
    · show ownerIn ((r.setRegistrations event _).registrations event) r.nextId = _
      have hfresh : ownerIn (r.registrations event) r.nextId = none :=
        ownerIn_eq_none.2 fun reg hreg => Nat.ne_of_lt ((h.sound event).given reg hreg)
      rw [registrations_setRegistrations, if_pos rfl, ownerIn_append, hfresh]
      simp

/-! ### Ending registrations -/

/-- The shares that are left when those of one listener are void. -/
theorem shareCount_void (shares : List (Share L)) (event other : String) (l l' : L) :
    shareCount (shares.filter fun s => !s.isOf event l) other l' =
      if event = other ∧ l = l' then 0 else shareCount shares other l' := by
  simp only [shareCount, List.countP_filter]
  split
  · rename_i hsame
    obtain ⟨rfl, rfl⟩ := hsame
    exact List.countP_eq_zero.2 fun s _ => by simp
  · rename_i hne
    refine List.countP_congr fun s _ => ?_
    simp only [Bool.and_eq_true, Bool.not_eq_true', and_iff_left_iff_imp]
    intro hs
    refine Bool.eq_false_iff.2 fun hs' => hne ?_
    obtain ⟨he, hl⟩ := Share.isOf_iff.1 hs
    obtain ⟨he', hl'⟩ := Share.isOf_iff.1 hs'
    exact ⟨he'.symm.trans he, hl'.symm.trans hl⟩

theorem owner?_off (h : Tracks r held shares) (event : String) (l : L) (x : Handle) :
    (r.off event l).2.owner? x =
      (r.owner? x).filter fun y => ¬ (x.event = event ∧ y = l) := by
  simp only [off, owner?, registrations_setRegistrations]
  by_cases he : event = x.event
  · rw [if_pos he, he, ownerIn_erase (h.sound x.event).ids]
    simp
  · rw [if_neg he]
    cases ownerIn (r.registrations x.event) x.id <;> simp [Ne.symm he, Option.filter]

/-- **Ending the registration of a listener** makes its shares void. -/
theorem tracks_off (h : Tracks r held shares) (event : String) (l : L) :
    Tracks (r.off event l).2 held (shares.filter fun s => !s.isOf event l) where
  sound := by
    intro e
    simp only [off, registrations_setRegistrations, nextId_setRegistrations]
    by_cases he : event = e
    · subst he
      rw [if_pos rfl]
      exact (h.sound event).erase (by simp [shareCount_void])
        fun l' hl' => by simp [shareCount_void, Ne.symm hl']
    · have hsame : shareCount (shares.filter fun s => !s.isOf event l) e = shareCount shares e :=
        funext fun l' => by simp [shareCount_void, he]
      rw [if_neg he, hsame]
      exact h.sound e
  named := by
    intro name
    have hnamed : (shares.filter fun s => !s.isOf event l).filter (·.keeper = some name) =
        (shares.filter (·.keeper = some name)).filter fun s => !s.isOf event l := by
      rw [List.filter_filter, List.filter_filter]
      exact List.filter_congr fun s _ => Bool.and_comm _ _
    rw [hnamed, h.named]
    cases held name with
    | none => rfl
    | some x =>
      simp only [Option.bind_some, shareOf, owner?_off h]
      cases r.owner? x with
      | none => rfl
      | some y =>
        by_cases hvoid : x.event = event ∧ y = l
        · simp [hvoid, Share.isOf]
        · have hnot : (⟨x.event, y, some name⟩ : Share L).isOf event l = false := by
            simpa [Share.isOf] using hvoid
          simp [hnot, Option.filter, hvoid]
  issued := h.issued

/-- **Ending all registrations** makes all shares void. -/
theorem tracks_clear (h : Tracks r held shares) : Tracks r.clear held [] where
  sound := fun _ => sound_nil _
  named := by
    intro name
    cases held name <;> rfl
  issued := h.issued

/-! ### Giving a share back, or up -/

omit [DecidableEq L] in
theorem registrations_release (r : Router L) (x : Handle) (event : String) :
    (r.release x).registrations event =
      if x.event = event then (r.registrations event).filterMap (letGo x.id)
      else r.registrations event := by
  simp only [release, registrations_setRegistrations]
  by_cases he : x.event = event
  · rw [if_pos he, if_pos he, he]
  · rw [if_neg he, if_neg he]

omit [DecidableEq L] in
/-- A handle whose registration has ended does nothing any more. -/
theorem registrations_release_of_ended {x : Handle} (h : r.owner? x = none) (event : String) :
    (r.release x).registrations event = r.registrations event := by
  rw [registrations_release]
  by_cases he : x.event = event
  · rw [if_pos he, ← he, filterMap_letGo_eq_self (ownerIn_eq_none.1 h)]
  · rw [if_neg he]

/-- The share that a name keeps, if any. -/
theorem Tracks.named_eq (h : Tracks r held shares) {name : String} {x : Handle}
    (hx : held name = some x) :
    shares.filter (·.keeper = some name) = (r.shareOf name x).toList := by
  rw [h.named, hx, Option.bind_some]

/-- The shares of a listener are that of a name and those of others. -/
theorem shareCount_split (shares : List (Share L)) (name : String) (event : String) (l : L) :
    shareCount shares event l =
      shareCount (shares.filter (·.keeper = some name)) event l +
        shareCount (shares.filter (·.keeper ≠ some name)) event l := by
  have hsplit := List.countP_eq_countP_filter_add shares (·.isOf event l)
    (fun s => decide (s.keeper = some name))
  simpa [shareCount] using hsplit

omit [DecidableEq L] in
/-- What the other names keep when a name keeps nothing any more. -/
theorem filter_keeper_of_ne {name other : String} (hne : other ≠ name) (shares : List (Share L)) :
    (shares.filter (·.keeper ≠ some name)).filter (·.keeper = some other) =
      shares.filter (·.keeper = some other) := by
  rw [List.filter_filter]
  refine List.filter_congr fun s _ => ?_
  by_cases hs : s.keeper = some other
  · simp [hs, hne]
  · simp [hs]

omit [DecidableEq L] in
theorem filter_keeper_self (name : String) (shares : List (Share L)) :
    (shares.filter (·.keeper ≠ some name)).filter (·.keeper = some name) = [] := by
  rw [List.filter_filter]
  exact List.filter_eq_nil_iff.2 fun s _ => by simp

theorem voiding_eq_some {name n : String} {y : Handle} (h : voiding name held n = some y) :
    n ≠ name ∧ held n = some y := by
  by_cases hn : n = name
  · simp [voiding, hn] at h
  · exact ⟨hn, by simpa [voiding, hn] using h⟩

/-- The names keep what they kept before, but for one that keeps nothing any more. -/
theorem Tracks.named_voiding (h : Tracks r held shares) {name : String}
    (howner : ∀ n y, n ≠ name → held n = some y → r'.owner? y = r.owner? y) (n : String) :
    (shares.filter (·.keeper ≠ some name)).filter (·.keeper = some n) =
      ((voiding name held n).bind (r'.shareOf n)).toList := by
  by_cases hn : n = name
  · rw [hn, filter_keeper_self]
    simp [voiding]
  · rw [filter_keeper_of_ne hn, h.named]
    simp only [voiding, if_neg hn]
    cases hy : held n with
    | none => rfl
    | some y => simp only [Option.bind_some, shareOf, howner n y hn hy]

/-- A handle has one share in its registration, until that has ended. -/
theorem Tracks.shareCount_eq (h : Tracks r held shares) {name : String} {x : Handle}
    (hx : held name = some x) (event : String) (l : L) :
    shareCount shares event l = (if x.event = event ∧ r.owner? x = some l then 1 else 0) +
      shareCount (shares.filter (·.keeper ≠ some name)) event l := by
  rw [shareCount_split shares name, h.named_eq hx, shareOf]
  cases r.owner? x <;> simp [shareCount, List.countP_singleton, Share.isOf]

/-- A registration in which another handle has a share stays when one share is given back. -/
theorem Tracks.isSome_letGo (h : Tracks r held shares) {name n : String} {x y : Handle}
    (hx : held name = some x) (hn : n ≠ name) (hy : held n = some y) {reg : Registration L}
    (hreg : reg ∈ r.registrations y.event) (hid : reg.id = y.id) (hevent : x.event = y.event) :
    (letGo x.id reg).isSome := by
  by_cases hsame : reg.id = x.id
  · have howner : r.owner? y = some reg.listener := by
      rw [owner?, ← hid]
      exact ownerIn_of_mem (h.sound y.event).ids hreg
    have hownerx : r.owner? x = some reg.listener := by
      rw [← howner, owner?, owner?, hevent, ← hsame, hid]
    have hshare : (⟨y.event, reg.listener, some n⟩ : Share L) ∈
        (shares.filter (·.keeper ≠ some name)).filter (·.keeper = some n) := by
      rw [filter_keeper_of_ne hn, h.named_eq hy, shareOf, howner]
      simp
    have hother := shareCount_pos (List.mem_of_mem_filter hshare)
    have hholders := (h.sound y.event).counted reg hreg
    rw [h.shareCount_eq hx, if_pos ⟨hevent, hownerx⟩] at hholders
    have hmany : ¬ reg.holders ≤ 1 := by
      simp only at hother
      omega
    simp [letGo, hsame, hmany]
  · simp [letGo, hsame]

/-- **Dropping a handle** gives its share back. -/
theorem tracks_release (h : Tracks r held shares) {name : String} {x : Handle}
    (hx : held name = some x) :
    Tracks (r.release x) (voiding name held) (shares.filter (·.keeper ≠ some name)) := by
  constructor
  case sound =>
    intro event
    have hcount := h.shareCount_eq hx event
    cases howner : r.owner? x with
    | none =>
      have hsame : shareCount shares event =
          shareCount (shares.filter (·.keeper ≠ some name)) event :=
        funext fun l => by rw [hcount l, howner]; simp
      rw [registrations_release_of_ended howner, ← hsame]
      exact h.sound event
    | some l =>
      obtain ⟨reg, hreg, hid, rfl⟩ := exists_of_ownerIn howner
      rw [registrations_release]
      by_cases he : x.event = event
      · subst he
        rw [if_pos rfl, ← hid]
        exact (h.sound x.event).letGo hreg (by rw [hcount, howner]; simp [Nat.add_comm])
          fun l' hl' => by rw [hcount, howner]; simp [Ne.symm hl']
      · have hsame : shareCount shares event =
            shareCount (shares.filter (·.keeper ≠ some name)) event :=
          funext fun l' => by rw [hcount]; simp [he]
        rw [if_neg he, ← hsame]
        exact h.sound event
  case named =>
    refine h.named_voiding fun n y hn hy => ?_
    rw [owner?, registrations_release]
    by_cases he : x.event = y.event
    · rw [if_pos he, ownerIn_letGo fun reg hreg hid => h.isSome_letGo hx hn hy hreg hid he, owner?]
    · rw [if_neg he, owner?]
  case issued => exact fun n y hy => h.issued n y (voiding_eq_some hy).2

/-- **Detaching a handle** leaves its share behind. -/
theorem tracks_detach (h : Tracks r held shares) (name : String) :
    Tracks r (voiding name held) (shares.map (Share.detached name)) where
  sound := by
    intro event
    have hsame : shareCount (shares.map (Share.detached name)) event = shareCount shares event := by
      funext l
      simp only [shareCount, List.countP_map, Function.comp_def, Share.isOf_detached]
    rw [hsame]
    exact h.sound event
  named := by
    intro n
    have hfilter : (shares.map (Share.detached name)).filter (·.keeper = some n) =
        (shares.filter (·.keeper ≠ some name)).filter (·.keeper = some n) := by
      rw [List.filter_map, List.filter_filter]
      have hpred : ((fun s : Share L => decide (s.keeper = some n)) ∘ Share.detached name) =
          fun s => decide (s.keeper = some n) && decide (s.keeper ≠ some name) := by
        funext s
        simp only [Function.comp, Share.keeper_detached, ← Bool.decide_and]
        refine decide_eq_decide.2 ⟨fun ⟨hn, hs⟩ => ⟨hs, fun hc => hn ?_⟩, fun ⟨hs, hc⟩ => ⟨?_, hs⟩⟩
        · exact Option.some.inj (hs.symm.trans hc)
        · exact fun hn => hc (hn ▸ hs)
      rw [hpred]
      refine (List.map_congr_left fun s hs => ?_).trans (List.map_id _)
      have hs' := (List.mem_filter.1 hs).2
      simp only [Bool.and_eq_true, decide_eq_true_eq] at hs'
      exact if_neg hs'.2
    rw [hfilter]
    exact h.named_voiding (fun _ _ _ _ => rfl) n
  issued := fun n y hy => h.issued n y (voiding_eq_some hy).2

/-- **Holding a handle** under a name that is free. -/
theorem tracks_keep {event : String} {l : L} (h : Tracks r held (shares ++ [⟨event, l, none⟩]))
    {name : String} (hfree : held name = none) {x : Handle} (hevent : x.event = event)
    (howner : r.owner? x = some l) (hissued : x.id < r.nextId) :
    Tracks r (keeping name x held) (shares ++ [⟨event, l, some name⟩]) := by
  have hcount : ∀ e, shareCount (shares ++ [⟨event, l, some name⟩]) e =
      shareCount (shares ++ [⟨event, l, none⟩]) e :=
    fun e => funext fun l' => by rw [shareCount_append, shareCount_append]
  constructor
  case sound => exact fun e => by rw [hcount]; exact h.sound e
  case named =>
    intro n
    have hbefore := h.named n
    rw [List.filter_append] at hbefore ⊢
    by_cases hn : n = name
    · subst hn
      rw [hfree] at hbefore
      have hnone : shares.filter (·.keeper = some n) = [] := by simpa using hbefore
      simp [hnone, keeping, shareOf, howner, hevent]
    · have hne : ¬ name = n := fun hc => hn hc.symm
      simpa [keeping, hn, hne] using hbefore
  case issued =>
    intro n y hy
    by_cases hn : n = name
    · simp only [keeping, if_pos hn] at hy
      rw [← Option.some.inj hy]
      exact hissued
    · simp only [keeping, if_neg hn] at hy
      exact h.issued n y hy

end

end Router

end LiveSync
