import LiveSync.Proofs.Registry.Phases

/-!
# Histories of the registry

Every operation on the registry, with its arguments, is a `Change`; a history is a list of them.
`Registry.applyAll` carries a history out and collects the answers that callers got on the way.
What every change keeps, every history keeps.

* `applyAll_induction` — from every change to every history.
* `ascending_apply`, `ascending_applyAll` — the order of the entries.
* `get?_apply_of_ne` — a change that names another entity leaves the entry of this one.
-/

namespace LiveSync
namespace Registry

/-- One operation on the registry. -/
inductive Change where
  /-- A caller wants to be subscribed. -/
  | subscribe (entity : String) (ticket : Ticket) (now : Nat) (connected : Bool)
  /-- A caller wants the subscription released. -/
  | unsubscribe (entity : String) (ticket : Ticket) (now : Nat) (connected : Bool)
  /-- The server acknowledged a subscription. -/
  | acknowledge (entity : String) (watchers : List Json.Value)
  /-- The server refused a subscription. -/
  | reject (entity why : String)
  /-- The server released a subscription. -/
  | release (entity : String)
  /-- The server reported the watchers of an entity. -/
  | setWatchers (entity : String) (watchers : List Json.Value)
  /-- What is overdue is given up. -/
  | expire (now : Nat)
  /-- The connection is gone. -/
  | demoteAll
  /-- There is a connection. -/
  | reissue (now : Nat)
  /-- Every caller that waits to be subscribed is failed. -/
  | failSubscribers (fault : Fault)
  /-- Every entry is dropped. -/
  | clear (fault : Fault)

/-- The entity that a change names; the others concern all entities. -/
def Change.entity? : Change → Option String
  | .subscribe entity .. | .unsubscribe entity .. | .acknowledge entity _ | .reject entity _
  | .release entity | .setWatchers entity _ => some entity
  | .expire _ | .demoteAll | .reissue _ | .failSubscribers _ | .clear _ => none

/-- The changes that concern all entities. -/
theorem Change.cases_of_nameless {x : Change} (h : x.entity? = none) :
    (∃ now, x = .expire now) ∨ x = .demoteAll ∨ (∃ now, x = .reissue now) ∨
      (∃ fault, x = .failSubscribers fault) ∨ ∃ fault, x = .clear fault := by
  cases x <;> simp [entity?] at h ⊢

/-- Carry a change out.  The result has the answers that it gives. -/
def apply (r : Registry) : Change → List Reply × Registry
  | .subscribe entity ticket now connected => (r.subscribe entity ticket now connected).2
  | .unsubscribe entity ticket now connected => (r.unsubscribe entity ticket now connected).2
  | .acknowledge entity watchers => (r.acknowledge entity watchers).2
  | .reject entity why => (r.reject entity why).2
  | .release entity => (r.release entity).2
  | .setWatchers entity watchers => ([], (r.setWatchers entity watchers).2)
  | .expire now => (r.expire now).2
  | .demoteAll => r.demoteAll
  | .reissue now => ([], (r.reissue now).2)
  | .failSubscribers fault => r.failSubscribers fault
  | .clear fault => r.clear fault

/-- Carry several changes out, one after the other. -/
def applyAll (r : Registry) : List Change → List Reply × Registry
  | [] => ([], r)
  | x :: rest =>
    let (now, r) := r.apply x
    let (later, r) := r.applyAll rest
    (now ++ later, r)

/-- What every change keeps, every history keeps. -/
theorem applyAll_induction {P : Registry → Prop} (hP : ∀ r x, P r → P (r.apply x).2) {r : Registry}
    (h : P r) (xs : List Change) : P (r.applyAll xs).2 := by
  induction xs generalizing r with
  | nil => exact h
  | cons x rest ih => exact ih (hP r x h)

/-! ## The order of the entries -/

theorem ascending_apply {r : Registry} (h : r.Ascending) (x : Change) :
    (r.apply x).2.Ascending := by
  cases x with
  | subscribe entity ticket now connected => exact ascending_subscribe h entity ticket now connected
  | unsubscribe entity ticket now connected =>
    exact ascending_unsubscribe h entity ticket now connected
  | acknowledge entity watchers => exact ascending_acknowledge h entity watchers
  | reject entity why => exact ascending_reject h entity why
  | release entity => exact ascending_release h entity
  | setWatchers entity watchers => exact ascending_setWatchers h entity watchers
  | expire now => exact ascending_expire h now
  | demoteAll => exact ascending_demoteAll h
  | reissue now => exact ascending_reissue h now
  | failSubscribers fault => exact ascending_failSubscribers h fault
  | clear fault => exact List.Pairwise.nil

theorem ascending_applyAll {r : Registry} (h : r.Ascending) (xs : List Change) :
    (r.applyAll xs).2.Ascending :=
  applyAll_induction (P := Ascending) (fun _ x h => ascending_apply h x) h xs

/-! ## What a change leaves alone -/

@[simp] theorem timeouts_apply (r : Registry) (x : Change) :
    (r.apply x).2.timeouts = r.timeouts := by
  cases x with
  | subscribe id ticket now connected => exact timeouts_subscribe r id ticket now connected
  | unsubscribe id ticket now connected => exact timeouts_unsubscribe r id ticket now connected
  | acknowledge id watchers => exact timeouts_acknowledge r id watchers
  | reject id why => exact timeouts_reject r id why
  | release id => exact timeouts_release r id
  | setWatchers id watchers => exact timeouts_setWatchers r id watchers
  | _ => rfl

section

variable {r : Registry} {key id : String}

/-- **A change that names another entity** leaves the entry of this one as it is. -/
theorem get?_apply_of_ne (h : r.Ascending) {x : Change} (hkey : x.entity? = some key)
    (hne : key ≠ id) : (r.apply x).2.get? id = r.get? id := by
  cases x with
  | subscribe _ ticket now connected =>
    obtain rfl := Option.some.inj hkey
    dsimp only [apply, subscribe]
    split
    · exact get?_put_of_ne hne _
    · split
      · rfl
      · exact get?_put_of_ne hne _
      · exact get?_put_of_ne hne _
  | unsubscribe _ ticket now connected =>
    obtain rfl := Option.some.inj hkey
    dsimp only [apply, unsubscribe]
    split
    · rfl
    · split
      · exact get?_put_of_ne hne _
      · split
        · exact get?_put_of_ne hne _
        · exact get?_drop_of_ne h hne
  | acknowledge _ watchers =>
    obtain rfl := Option.some.inj hkey
    dsimp only [apply, acknowledge]
    split
    · rfl
    · split
      · exact get?_put_of_ne hne _
      · rfl
  | reject _ why =>
    obtain rfl := Option.some.inj hkey
    dsimp only [apply, reject]
    split
    · rfl
    · split
      · exact get?_drop_of_ne h hne
      · rfl
  | release _ =>
    obtain rfl := Option.some.inj hkey
    dsimp only [apply, release]
    split
    · rfl
    · split
      · exact get?_drop_of_ne h hne
      · rfl
  | setWatchers _ watchers =>
    obtain rfl := Option.some.inj hkey
    dsimp only [apply, setWatchers]
    split
    · rfl
    · exact get?_put_of_ne hne _
  | _ => exact absurd hkey nofun

end

end Registry
end LiveSync
