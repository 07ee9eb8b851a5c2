import LiveSync.Proofs.Registry.Replies
import Mathlib.Data.List.Sort

/-!
# Entities do not interfere

One registry holds the entries of all entities, and some changes go through all of them.  Still,
what happens to one entity is the same whatever happens to the others: take all changes that name
other entities out of a history, and the entity has the same entry, its callers get the same
answers, and the registry says the same of it.

Two registries that agree on an entity agree on it after any change, and a change that names
another entity keeps the agreement with a registry that does not make it.

* `Agree` — the same entry for an entity, and the same times.
* `alike_of_entity?` — a change that names the entity.
* `agree_apply`, `filter_replies_apply`, `about_apply` — a change that concerns the entity.
* `agree_applyAll` — a history, against the same one without all that names others.
* `Sight`, `sight_filter` — what a history shows of an entity.
* `apply_comm` — changes that name different entities can be made in either order.
* `entities_apart` — two histories that differ in what names others, and changes in either order.
-/

namespace LiveSync
namespace Registry

/-- The change concerns the entity: it names it, or it names none. -/
def Change.concerns (id : String) (x : Change) : Bool :=
  x.entity?.all fun key => key = id

/-- What a change returns, beside its answers. -/
inductive Result where
  /-- Nothing. -/
  | nothing
  /-- Whether a request must be sent, or whether somebody waited for it. -/
  | told (b : Bool)
  /-- The entities given up, with the requests that were awaited. -/
  | overdue (named : List (String × Operation))
  /-- The entities to subscribe. -/
  | requests (named : List String)
  deriving DecidableEq

/-- What a change returns. -/
def result (r : Registry) : Change → Result
  | .subscribe entity ticket now connected => .told (r.subscribe entity ticket now connected).1
  | .unsubscribe entity ticket now connected => .told (r.unsubscribe entity ticket now connected).1
  | .acknowledge entity watchers => .told (r.acknowledge entity watchers).1
  | .reject entity why => .told (r.reject entity why).1
  | .release entity => .told (r.release entity).1
  | .setWatchers entity watchers => .told (r.setWatchers entity watchers).1
  | .expire now => .overdue (r.expire now).1
  | .reissue now => .requests (r.reissue now).1
  | .demoteAll | .failSubscribers _ | .clear _ => .nothing

/-- What a result says of an entity. -/
def Result.about (id : String) : Result → Result
  | .overdue named => .overdue (named.filter fun p => p.1 = id)
  | .requests named => .requests (named.filter fun key => key = id)
  | .told b => .told b
  | .nothing => .nothing

/-- What the changes of a history that concern an entity say of it, in order, and each time whether
the entity is among the active ones afterwards. -/
def mentions (r : Registry) (id : String) : List Change → List (Result × Bool)
  | [] => []
  | x :: rest =>
    let after := (r.apply x).2
    let later := after.mentions id rest
    if x.concerns id then ((r.result x).about id, after.activeEntities.contains id) :: later
    else later

/-- The tickets of the callers for an entity. -/
def ticketsFor (id : String) (xs : List Change) : List Ticket :=
  (xs.filter (·.concerns id)).filterMap fun x => x.caller?.map (·.1)

/-- What a history shows of one entity. -/
structure Sight where
  /-- Its entry in the end: status, watchers, deadline, whether its request went out, who waits. -/
  entry : Option Entry
  /-- Is it in the end among those that the server holds? -/
  active : Bool
  /-- The answers to the callers for it, in order. -/
  replies : List Reply
  /-- What the changes that concern it said of it, in order, and whether it was active then. -/
  mentions : List (Result × Bool)

/-- What a history shows of an entity. -/
def sight (r : Registry) (id : String) (xs : List Change) : Sight where
  entry := (r.applyAll xs).2.get? id
  active := (r.applyAll xs).2.activeEntities.contains id
  replies := (r.applyAll xs).1.filter fun reply => (ticketsFor id xs).contains reply.1
  mentions := r.mentions id xs

/-! ## What a registry holds of one entity -/

/-- The entries of one entity: the one that is read, if there is one. -/
theorem filter_entries {r : Registry} (h : r.Ascending) (id : String) :
    r.entries.filter (fun p => p.1 = id) = ((r.get? id).map (id, ·)).toList := by
  cases hg : r.get? id with
  | none =>
    rw [Option.map_none, Option.toList_none, List.filter_eq_nil_iff]
    intro p hp
    simpa using get?_eq_none_iff.1 hg p hp
  | some e => exact filter_key h.nodup (mem_of_get? hg)

/-- Two registries with the same times and the same entry for every entity are the same. -/
theorem ext_get? {r r' : Registry} (h : r.Ascending) (h' : r'.Ascending)
    (htimeouts : r.timeouts = r'.timeouts) (hget : ∀ id, r.get? id = r'.get? id) : r = r' := by
  have hsymm : Std.Antisymm fun a b : String × Entry => a.1 < b.1 :=
    ⟨fun a b hab hba => absurd hba (String.lt_asymm hab)⟩
  have hirrefl : Std.Irrefl fun a b : String × Entry => a.1 < b.1 :=
    ⟨fun a => String.lt_irrefl a.1⟩
  have hmem : ∀ p, p ∈ r.entries ↔ p ∈ r'.entries := by
    rintro ⟨id, e⟩
    constructor
    · intro hp
      exact mem_of_get? ((hget id).symm.trans (get?_of_mem h hp))
    · intro hp
      exact mem_of_get? ((hget id).trans (get?_of_mem h' hp))
  have hentries : r.entries = r'.entries := List.Pairwise.eq_of_mem_iff h h' hmem
  obtain ⟨s, u, l⟩ := r
  obtain ⟨s', u', l'⟩ := r'
  obtain ⟨rfl, rfl⟩ := Prod.mk.inj htimeouts
  obtain rfl : l = l' := hentries
  rfl

/-! ## A change that concerns the entity -/

/-- Two registries agree on an entity. -/
structure Agree (id : String) (r r' : Registry) : Prop where
  /-- They have the same times. -/
  timeouts : r.timeouts = r'.timeouts
  /-- They have the same entry for it. -/
  entry : r.get? id = r'.get? id

theorem Agree.fresh {id : String} {r r' : Registry} (ha : Agree id r r') (ticket : Ticket)
    (now : Nat) (connected : Bool) :
    r.fresh ticket now connected = r'.fresh ticket now connected := by
  have hs : r.subscribeTimeout = r'.subscribeTimeout := congrArg Prod.fst ha.timeouts
  simp [Registry.fresh, hs]

/-- Two registries do alike by a change: they return the same, give the same answers and have the
same entry for the entity. -/
structure Alike (id : String) (x : Change) (r r' : Registry) : Prop where
  /-- They return the same. -/
  result : r.result x = r'.result x
  /-- They give the same answers. -/
  replies : (r.apply x).1 = (r'.apply x).1
  /-- They have the same entry for the entity. -/
  entry : (r.apply x).2.get? id = (r'.apply x).2.get? id

/-- Two operations come to the same for an entity: they tell the same, give the same answers and
leave the same entry. -/
def SameFor (id : String) (a b : Bool × List Reply × Registry) : Prop :=
  a.1 = b.1 ∧ a.2.1 = b.2.1 ∧ a.2.2.get? id = b.2.2.get? id

section

variable {r r' : Registry} {id : String}

/-- The same entry is stored. -/
theorem sameFor_put (told : Bool) (replies : List Reply) (e : Entry) :
    SameFor id (told, replies, r.put id e) (told, replies, r'.put id e) :=
  ⟨rfl, rfl, (get?_put_self r id e).trans (get?_put_self r' id e).symm⟩

/-- The entry is dropped. -/
theorem sameFor_drop (h : r.Ascending) (h' : r'.Ascending) (told : Bool) (replies : List Reply) :
    SameFor id (told, replies, r.drop id) (told, replies, r'.drop id) :=
  ⟨rfl, rfl, (get?_drop_self h id).trans (get?_drop_self h' id).symm⟩

variable (ha : Agree id r r')
include ha

/-- Nothing is changed. -/
theorem Agree.sameFor (told : Bool) (replies : List Reply) :
    SameFor id (told, replies, r) (told, replies, r') :=
  ⟨rfl, rfl, ha.entry⟩

theorem sameFor_subscribe (ticket : Ticket) (now : Nat) (connected : Bool) :
    SameFor id (r.subscribe id ticket now connected) (r'.subscribe id ticket now connected) := by
  unfold subscribe
  rw [ha.entry, ha.fresh]
  split
  · exact sameFor_put ..
  · split
    · exact ha.sameFor ..
    · exact sameFor_put ..
    · exact sameFor_put ..

theorem sameFor_unsubscribe (h : r.Ascending) (h' : r'.Ascending) (ticket : Ticket) (now : Nat)
    (connected : Bool) :
    SameFor id (r.unsubscribe id ticket now connected)
      (r'.unsubscribe id ticket now connected) := by
  have hu : r.unsubscribeTimeout = r'.unsubscribeTimeout := congrArg Prod.snd ha.timeouts
  unfold unsubscribe
  rw [ha.entry, hu]
  split
  · exact ha.sameFor ..
  · split
    · exact sameFor_put ..
    · split
      · exact sameFor_put ..
      · exact sameFor_drop h h' ..

theorem sameFor_acknowledge (watchers : List Json.Value) :
    SameFor id (r.acknowledge id watchers) (r'.acknowledge id watchers) := by
  unfold acknowledge
  rw [ha.entry]
  split
  · exact ha.sameFor ..
  · split
    · exact sameFor_put ..
    · exact ha.sameFor ..

theorem sameFor_reject (h : r.Ascending) (h' : r'.Ascending) (why : String) :
    SameFor id (r.reject id why) (r'.reject id why) := by
  unfold reject
  rw [ha.entry]
  split
  · exact ha.sameFor ..
  · split
    · exact sameFor_drop h h' ..
    · exact ha.sameFor ..

theorem sameFor_release (h : r.Ascending) (h' : r'.Ascending) :
    SameFor id (r.release id) (r'.release id) := by
  unfold release
  rw [ha.entry]
  split
  · exact ha.sameFor ..
  · split
    · exact sameFor_drop h h' ..
    · exact ha.sameFor ..

theorem alike_setWatchers (watchers : List Json.Value) :
    Alike id (.setWatchers id watchers) r r' := by
  have hsame : (r.setWatchers id watchers).1 = (r'.setWatchers id watchers).1 ∧
      (r.setWatchers id watchers).2.get? id = (r'.setWatchers id watchers).2.get? id := by
    unfold setWatchers
    rw [ha.entry]
    split
    · exact ⟨rfl, ha.entry⟩
    · exact ⟨rfl, (get?_put_self ..).trans (get?_put_self ..).symm⟩
  exact ⟨congrArg Result.told hsame.1, rfl, hsame.2⟩

/-- **A change that names the entity** goes by its entry alone. -/
theorem alike_of_entity? (h : r.Ascending) (h' : r'.Ascending) {x : Change}
    (hid : x.entity? = some id) : Alike id x r r' := by
  cases x with
  | subscribe _ ticket now connected =>
    obtain rfl := Option.some.inj hid
    obtain ⟨htold, hreplies, hentry⟩ := sameFor_subscribe ha ticket now connected
    exact ⟨congrArg Result.told htold, hreplies, hentry⟩
  | unsubscribe _ ticket now connected =>
    obtain rfl := Option.some.inj hid
    obtain ⟨htold, hreplies, hentry⟩ := sameFor_unsubscribe ha h h' ticket now connected
    exact ⟨congrArg Result.told htold, hreplies, hentry⟩
  | acknowledge _ watchers =>
    obtain rfl := Option.some.inj hid
    obtain ⟨htold, hreplies, hentry⟩ := sameFor_acknowledge ha watchers
    exact ⟨congrArg Result.told htold, hreplies, hentry⟩
  | reject _ why =>
    obtain rfl := Option.some.inj hid
    obtain ⟨htold, hreplies, hentry⟩ := sameFor_reject ha h h' why
    exact ⟨congrArg Result.told htold, hreplies, hentry⟩
  | release _ =>
    obtain rfl := Option.some.inj hid
    obtain ⟨htold, hreplies, hentry⟩ := sameFor_release ha h h'
    exact ⟨congrArg Result.told htold, hreplies, hentry⟩
  | setWatchers _ watchers =>
    obtain rfl := Option.some.inj hid
    exact alike_setWatchers ha watchers
  | _ => exact absurd hid nofun

end

section

variable {r r' : Registry} (h : r.Ascending) (h' : r'.Ascending) {id : String}
  (ha : Agree id r r')
include h h' ha

/-- The registries hold the same of the entity. -/
theorem Agree.entries :
    r.entries.filter (fun p => p.1 = id) = r'.entries.filter (fun p => p.1 = id) := by
  rw [filter_entries h, filter_entries h', ha.entry]

/-- They hold the same of it also among those entries that are picked by what they are. -/
theorem Agree.entries_filter (pick : Entry → Bool) :
    (r.entries.filter fun p => pick p.2).filter (fun p => p.1 = id) =
      (r'.entries.filter fun p => pick p.2).filter (fun p => p.1 = id) := by
  rw [List.filter_comm, ha.entries h h', List.filter_comm]

/-- The entity is active in both of them or in none. -/
theorem Agree.active : r.activeEntities.contains id = r'.activeEntities.contains id := by
  rw [Bool.eq_iff_iff, List.contains_iff_mem, List.contains_iff_mem, mem_activeEntities h,
    mem_activeEntities h', ha.entry]

/-- **A change that concerns the entity** keeps the agreement. -/
theorem agree_apply {x : Change} (hx : x.concerns id = true) :
    Agree id (r.apply x).2 (r'.apply x).2 := by
  have hs : r.subscribeTimeout = r'.subscribeTimeout := congrArg Prod.fst ha.timeouts
  refine ⟨by simp [ha.timeouts], ?_⟩
  cases hid : x.entity? with
  | some key =>
    obtain rfl : key = id := by simpa [Change.concerns, hid] using hx
    exact (alike_of_entity? ha h h' hid).entry
  | none =>
    obtain ⟨now, rfl⟩ | rfl | ⟨now, rfl⟩ | ⟨fault, rfl⟩ | ⟨fault, rfl⟩ :=
      Change.cases_of_nameless hid
    all_goals dsimp only [apply]
    · rw [get?_expire h, get?_expire h', ha.entry]
    · rw [get?_demoteAll h, get?_demoteAll h', ha.entry]
    · rw [get?_reissue, get?_reissue, ha.entry, hs]
    · rw [get?_failSubscribers, get?_failSubscribers, ha.entry]
    · rfl

/-- It says the same of the entity. -/
theorem about_apply {x : Change} (hx : x.concerns id = true) :
    (r.result x).about id = (r'.result x).about id := by
  cases hid : x.entity? with
  | some key =>
    obtain rfl : key = id := by simpa [Change.concerns, hid] using hx
    rw [(alike_of_entity? ha h h' hid).result]
  | none =>
    obtain ⟨now, rfl⟩ | rfl | ⟨now, rfl⟩ | ⟨fault, rfl⟩ | ⟨fault, rfl⟩ :=
      Change.cases_of_nameless hid
    · have hsame := ha.entries_filter h h' fun e => e.isOverdue now
      have hfilter (s : Registry) : (s.overdue now).filter (fun p => p.1 = id) =
          ((s.entries.filter fun p => p.2.isOverdue now).filter fun p => p.1 = id).map
            fun p => (p.1, p.2.operation) := by
        rw [overdue, List.filter_map]
        rfl
      simp only [result, expire, Result.about, hfilter, hsame]
    · rfl
    · have hsame := ha.entries_filter h h' Entry.isUnsent
      have hfilter (s : Registry) : (s.reissue now).1.filter (fun key => key = id) =
          ((s.entries.filter fun p => p.2.isUnsent).filter fun p => p.1 = id).map (·.1) := by
        rw [reissue, List.filter_map]
        rfl
      simp only [result, Result.about, hfilter, hsame]
    · rfl
    · rfl

end

/-! ## The answers to the callers for one entity -/

/-- The tickets tell the callers for the entity from the callers for others. -/
def Tells (mine : Ticket → Bool) (id : String) (r : Registry) : Prop :=
  ∀ key, ∀ c ∈ r.callersOf key, mine c.1 = decide (key = id)

/-- So they do with the caller that a change hands in. -/
def Change.Tells (mine : Ticket → Bool) (id : String) (x : Change) : Prop :=
  ∀ c key, x.caller? = some c → x.entity? = some key → mine c.1 = decide (key = id)

section

variable {mine : Ticket → Bool} {id : String}

theorem mine_of_party {r : Registry} {x : Change} (hw : r.Tells mine id) (hx : x.Tells mine id)
    {c : Caller} {key : String} (hc : r.Party x c key) : mine c.1 = decide (key = id) := by
  rcases hc with hwaits | ⟨hcaller, hkey⟩
  · exact hw key c hwaits
  · exact hx c key hcaller hkey

theorem tells_apply {r : Registry} (h : r.Ascending) (hw : r.Tells mine id) {x : Change}
    (hx : x.Tells mine id) : Tells mine id (r.apply x).2 := by
  intro key c hc
  exact mine_of_party hw hx (party_apply h hc)

/-- Of the answers to the callers of several entries, those to the callers for the entity come from
its own entry. -/
theorem filter_flatMap_callers {r : Registry} (h : r.Ascending) (hw : r.Tells mine id)
    {l : List (String × Entry)} (hl : l ⊆ r.entries) {f : String × Entry → List Reply}
    (hf : ∀ p ∈ l, answered (f p) ⊆ p.2.callers) :
    (l.flatMap f).filter (fun a => mine a.1) = (l.filter fun p => p.1 = id).flatMap f := by
  have hmine : ∀ p ∈ l, ∀ a ∈ f p, mine a.1 = decide (p.1 = id) := by
    rintro ⟨key, e⟩ hp a ha
    have hcaller : (a.1, a.2.kind) ∈ e.callers := hf _ hp (List.mem_map_of_mem ha)
    exact hw key _ (mem_callersOf.2 ⟨e, get?_of_mem h (hl hp), hcaller⟩)
  clear hl hf
  induction l with
  | nil => rfl
  | cons p rest ih =>
    have hrest := ih fun q hq => hmine q (List.mem_cons_of_mem _ hq)
    have hfirst := hmine p List.mem_cons_self
    rw [List.flatMap_cons, List.filter_append, hrest]
    by_cases hp : p.1 = id
    · rw [List.filter_cons_of_pos (by simpa using hp), List.flatMap_cons,
        List.filter_eq_self.2 fun a ha => by simp [hfirst a ha, hp]]
    · rw [List.filter_cons_of_neg (by simpa using hp),
        List.filter_eq_nil_iff.2 fun a ha => by simp [hfirst a ha, hp], List.nil_append]

theorem answered_tellReleasers_subset (e : Entry) (outcome : Except Fault Unit) :
    answered (e.tellReleasers outcome) ⊆ e.callers := by
  rw [Entry.answered_tellReleasers]
  exact List.subset_append_right ..

theorem answered_tellSubscribers_subset (e : Entry) (outcome : Except Fault Ack) :
    answered (e.tellSubscribers outcome) ⊆ e.callers := by
  rw [Entry.answered_tellSubscribers]
  exact List.subset_append_left ..

/-- A change that concerns the entity gives its callers the same answers. -/
theorem filter_replies_apply {r r' : Registry} (h : r.Ascending) (h' : r'.Ascending)
    (ha : Agree id r r') (hw : r.Tells mine id) (hw' : r'.Tells mine id) {x : Change}
    (hx : x.concerns id = true) :
    (r.apply x).1.filter (fun a => mine a.1) = (r'.apply x).1.filter (fun a => mine a.1) := by
  -- those whom a change of all entities answers are the callers of some picked entries
  have hpicked (pick : Entry → Bool) (f : String × Entry → List Reply)
      (hf : ∀ p : String × Entry, answered (f p) ⊆ p.2.callers) :
      ((r.entries.filter fun p => pick p.2).flatMap f).filter (fun a => mine a.1) =
        ((r'.entries.filter fun p => pick p.2).flatMap f).filter (fun a => mine a.1) := by
    rw [filter_flatMap_callers h hw (List.filter_subset_self _) fun p _ => hf p,
      filter_flatMap_callers h' hw' (List.filter_subset_self _) fun p _ => hf p,
      ha.entries_filter h h']
  have hall (f : String × Entry → List Reply)
      (hf : ∀ p : String × Entry, answered (f p) ⊆ p.2.callers) :
      (r.entries.flatMap f).filter (fun a => mine a.1) =
        (r'.entries.flatMap f).filter (fun a => mine a.1) := by
    rw [filter_flatMap_callers h hw (List.Subset.refl _) fun p _ => hf p,
      filter_flatMap_callers h' hw' (List.Subset.refl _) fun p _ => hf p, ha.entries h h']
  cases hid : x.entity? with
  | some key =>
    obtain rfl : key = id := by simpa [Change.concerns, hid] using hx
    rw [(alike_of_entity? ha h h' hid).replies]
  | none =>
    obtain ⟨now, rfl⟩ | rfl | ⟨now, rfl⟩ | ⟨fault, rfl⟩ | ⟨fault, rfl⟩ :=
      Change.cases_of_nameless hid
    · refine hpicked (fun e => e.isOverdue now) _ ?_
      intro p
      rw [answered_tellOverdue]
      exact List.Subset.refl _
    · exact hpicked (fun e => e.status = .releasing) _ fun p => answered_tellReleasers_subset ..
    · rfl
    · exact hall _ fun p => answered_tellSubscribers_subset ..
    · refine hall _ ?_
      intro p
      rw [answered_append]
      exact List.append_subset.2
        ⟨answered_tellSubscribers_subset .., answered_tellReleasers_subset ..⟩

/-- A change that names another entity answers none of its callers. -/
theorem filter_replies_of_ne {r : Registry} (h : r.Ascending) (hw : r.Tells mine id) {x : Change}
    (hx : x.Tells mine id) {key : String} (hkey : x.entity? = some key) (hne : key ≠ id) :
    (r.apply x).1.filter (fun a => mine a.1) = [] := by
  rw [List.filter_eq_nil_iff]
  intro a hreply
  have hparty := (sincere_of_entity? h hkey a hreply).party
  simpa [hne] using mine_of_party hw hx hparty

end

/-! ## Histories -/

/-- Without the changes that name other entities, a history leaves the same of the entity, gives its
callers the same answers and says the same of it. -/
theorem agree_applyAll {mine : Ticket → Bool} {id : String} {r r' : Registry} (h : r.Ascending)
    (h' : r'.Ascending) (ha : Agree id r r') (hw : r.Tells mine id) (hw' : r'.Tells mine id)
    {xs : List Change} (hxs : ∀ x ∈ xs, x.Tells mine id) :
    let ys := xs.filter (·.concerns id)
    Agree id (r.applyAll xs).2 (r'.applyAll ys).2 ∧
      (r.applyAll xs).1.filter (fun a => mine a.1) =
        (r'.applyAll ys).1.filter (fun a => mine a.1) ∧
      r.mentions id xs = r'.mentions id ys := by
  induction xs generalizing r r' with
  | nil => exact ⟨ha, rfl, rfl⟩
  | cons x rest ih =>
    have hx : x.Tells mine id := hxs x List.mem_cons_self
    have hrest : ∀ y ∈ rest, y.Tells mine id := fun y hy => hxs y (List.mem_cons_of_mem _ hy)
    have hasc := ascending_apply h x
    have htells := tells_apply h hw hx
    by_cases hc : x.concerns id = true
    · have hasc' := ascending_apply h' x
      have hnext := agree_apply h h' ha hc
      obtain ⟨hagree, hreplies, hmentions⟩ :=
        ih hasc hasc' hnext htells (tells_apply h' hw' hx) hrest
      rw [List.filter_cons_of_pos hc]
      refine ⟨hagree, ?_, ?_⟩
      · simp only [applyAll, List.filter_append, hreplies, filter_replies_apply h h' ha hw hw' hc]
      · simp only [mentions, hc, if_true, about_apply h h' ha hc, hnext.active hasc hasc',
          hmentions]
    · obtain ⟨key, hkey, hne⟩ : ∃ key, x.entity? = some key ∧ key ≠ id := by
        cases hid : x.entity? with
        | none => exact absurd (by simp [Change.concerns, hid]) hc
        | some key => exact ⟨key, rfl, fun heq => hc (by simp [Change.concerns, hid, heq])⟩
      have hlocal : Agree id (r.apply x).2 r' :=
        ⟨by simp [ha.timeouts], (get?_apply_of_ne h hkey hne).trans ha.entry⟩
      obtain ⟨hagree, hreplies, hmentions⟩ := ih hasc h' hlocal htells hw' hrest
      rw [List.filter_cons_of_neg hc]
      refine ⟨hagree, ?_, ?_⟩
      · simp only [applyAll, List.filter_append, filter_replies_of_ne h hw hx hkey hne, hreplies,
          List.nil_append]
      · simp only [mentions, hc, if_false, hmentions, Bool.false_eq_true]

theorem Change.exists_entity? {x : Change} {c : Caller} (hc : x.caller? = some c) :
    ∃ key, x.entity? = some key := by
  cases x with
  | subscribe key ticket now connected => exact ⟨key, rfl⟩
  | unsubscribe key ticket now connected => exact ⟨key, rfl⟩
  | _ => exact absurd hc nofun

/-- Where no two callers have the same ticket, the tickets of the callers for an entity tell them
from all others. -/
theorem tells_ticketsFor {xs : List Change}
    (hdistinct : ((xs.filterMap Change.caller?).map (·.1)).Nodup) (id : String) :
    ∀ x ∈ xs, x.Tells (ticketsFor id xs).contains id := by
  intro x hx c key hcaller hkey
  rw [Bool.eq_iff_iff, List.contains_iff_mem, decide_eq_true_eq, ticketsFor, List.mem_filterMap]
  constructor
  · rintro ⟨y, hpicked, hticket⟩
    obtain ⟨hy, hconcerns⟩ := List.mem_filter.1 hpicked
    obtain ⟨d, hd, hdc⟩ := Option.map_eq_some_iff.1 hticket
    obtain ⟨other, hother⟩ := Change.exists_entity? hd
    obtain rfl : other = id := by simpa [Change.concerns, hother] using hconcerns
    exact (Asked.unique hdistinct ⟨x, hx, hcaller, hkey⟩ ⟨y, hy, hd, hother⟩ hdc.symm).2
  · rintro rfl
    refine ⟨x, List.mem_filter.2 ⟨hx, ?_⟩, by rw [hcaller]; rfl⟩
    simp [Change.concerns, hkey]

/-- **What a history shows of an entity** is what it shows without the changes that name others. -/
theorem sight_filter (subscribeTimeout unsubscribeTimeout : Nat) (id : String) {xs : List Change}
    (hdistinct : ((xs.filterMap Change.caller?).map (·.1)).Nodup) :
    (Registry.new subscribeTimeout unsubscribeTimeout).sight id xs =
      (Registry.new subscribeTimeout unsubscribeTimeout).sight id (xs.filter (·.concerns id)) := by
  have hnew := ascending_new subscribeTimeout unsubscribeTimeout
  have hnobody : Tells (ticketsFor id xs).contains id
      (Registry.new subscribeTimeout unsubscribeTimeout) := by
    intro key c hc
    exact absurd hc List.not_mem_nil
  obtain ⟨hagree, hreplies, hmentions⟩ := agree_applyAll hnew hnew ⟨rfl, rfl⟩ hnobody hnobody
    (tells_ticketsFor hdistinct id)
  have htickets : ticketsFor id (xs.filter (·.concerns id)) = ticketsFor id xs := by
    simp [ticketsFor, List.filter_filter]
  have hactive := hagree.active (ascending_applyAll hnew _) (ascending_applyAll hnew _)
  unfold sight
  rw [htickets, hagree.entry, hactive, hreplies, hmentions]

/-- **Changes that name different entities** can be made in either order: the registry is the same
afterwards, and each of them returns the same and gives the same answers. -/
theorem apply_comm {r : Registry} (h : r.Ascending) {x y : Change} {a b : String}
    (hx : x.entity? = some a) (hy : y.entity? = some b) (hne : a ≠ b) :
    ((r.apply x).2.apply y).2 = ((r.apply y).2.apply x).2 ∧
      ((r.apply y).2.apply x).1 = (r.apply x).1 ∧ (r.apply y).2.result x = r.result x := by
  have hax := ascending_apply h x
  have hay := ascending_apply h y
  -- whoever comes second finds the entry of its entity as it was
  have hfirst : Agree a (r.apply y).2 r :=
    ⟨timeouts_apply r y, get?_apply_of_ne h hy (Ne.symm hne)⟩
  have hsecond : Agree b (r.apply x).2 r := ⟨timeouts_apply r x, get?_apply_of_ne h hx hne⟩
  have halike := alike_of_entity? hfirst hay h hx
  refine ⟨?_, halike.replies, halike.result⟩
  apply ext_get? (ascending_apply hax y) (ascending_apply hay x) (by simp)
  intro key
  by_cases ha : a = key
  · subst ha
    rw [get?_apply_of_ne hax hy (Ne.symm hne), halike.entry]
  · rw [get?_apply_of_ne hay hx ha]
    by_cases hb : b = key
    · subst hb
      exact (alike_of_entity? hsecond hax h hy).entry
    · rw [get?_apply_of_ne hax hy hb, get?_apply_of_ne h hx ha, get?_apply_of_ne h hy hb]

/-- **Entities do not interfere.**  Take two histories of a registry that was just built, in each of
which no two callers have the same ticket, and that are the same but for changes that name other
entities.  Then they show the same of the entity: its entry, the answers to its callers, what each
change that names it or none said of it, and whether it was active after that and is in the end.
And after any history, two changes that name different entities can be made in either order. -/
theorem entities_apart (subscribeTimeout unsubscribeTimeout : Nat) (id : String)
    (xs ys : List Change) (hxs : ((xs.filterMap Change.caller?).map (·.1)).Nodup)
    (hys : ((ys.filterMap Change.caller?).map (·.1)).Nodup)
    (hsame : xs.filter (·.concerns id) = ys.filter (·.concerns id)) :
    (Registry.new subscribeTimeout unsubscribeTimeout).sight id xs =
      (Registry.new subscribeTimeout unsubscribeTimeout).sight id ys ∧
    ∀ (zs : List Change) (x y : Change) (a b : String), x.entity? = some a → y.entity? = some b →
      a ≠ b → let r := ((Registry.new subscribeTimeout unsubscribeTimeout).applyAll zs).2
        ((r.apply x).2.apply y).2 = ((r.apply y).2.apply x).2 ∧
        ((r.apply y).2.apply x).1 = (r.apply x).1 ∧ (r.apply y).2.result x = r.result x ∧
        ((r.apply x).2.apply y).1 = (r.apply y).1 ∧ (r.apply x).2.result y = r.result y := by
  constructor
  · rw [sight_filter _ _ id hxs, sight_filter _ _ id hys, hsame]
  · intro zs x y a b hx hy hne r
    have hasc : r.Ascending := ascending_applyAll (ascending_new ..) zs
    obtain ⟨hafter, hrepliesx, hresultx⟩ := apply_comm hasc hx hy hne
    obtain ⟨-, hrepliesy, hresulty⟩ := apply_comm hasc hy hx (Ne.symm hne)
    exact ⟨hafter, hrepliesx, hresultx, hrepliesy, hresulty⟩

/-- A caller subscribes to an entity and is acknowledged, while in one history another entity is
subscribed to and overdue, and in the other a third one is refused. -/
theorem entities_apart_busy :
    let xs : List Change := [.subscribe "A" 0 0 true, .subscribe "B" 1 0 true, .acknowledge "A" [],
      .expire 10, .reissue 11]
    let ys : List Change := [.subscribe "C" 4 0 true, .subscribe "A" 0 0 true, .reject "C" "no",
      .acknowledge "A" [], .expire 10, .reissue 11]
    ((xs.filterMap Change.caller?).map (·.1)).Nodup ∧
    ((ys.filterMap Change.caller?).map (·.1)).Nodup ∧
    xs.filter (·.concerns "A") = ys.filter (·.concerns "A") ∧
    ((Registry.new 10 10).sight "A" xs).replies = [(0, .subscribed (.ok ⟨"A", []⟩))] ∧
    (Registry.new 10 10).sight "A" xs = (Registry.new 10 10).sight "A" ys := by
  intro xs ys
  have hxs : ((xs.filterMap Change.caller?).map (·.1)).Nodup := by decide
  have hys : ((ys.filterMap Change.caller?).map (·.1)).Nodup := by decide
  have hsame : xs.filter (·.concerns "A") = ys.filter (·.concerns "A") := rfl
  exact ⟨hxs, hys, hsame, rfl, (entities_apart 10 10 "A" xs ys hxs hys hsame).1⟩

end Registry
end LiveSync
