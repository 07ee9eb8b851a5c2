import LiveSync.Subscription

/-!
# The history of one entity on one socket

A history is a list of marks: a request was written, or the entry was dropped because the server
refused it or did not acknowledge it in time.  It is orderly if the first request asks for the
subscription, a release is asked for only after that, and the subscription is asked for again only
after a release or a drop.

* `Orderly` — every request fits what came before it.
* `Tells` — what a history says about the entry.
* `Course` — both; `Course.subscribed`, `Course.unsubscribed`, `Course.lapsed`, … say how a history
  goes on.
-/

namespace LiveSync

/-! ## Marks -/

/-- What happens to one entity on one socket. -/
inductive Mark where
  /-- A request was written. -/
  | wrote (operation : Operation)
  /-- The entry was dropped, because the server refused it or did not acknowledge it in time. -/
  | dropped
  deriving DecidableEq

/-- The request of a mark, if it is one. -/
def Mark.operation? : Mark → Option Operation
  | .wrote operation => some operation
  | .dropped => none

/-- The requests among marks. -/
def requestsIn (marks : List Mark) : List Operation :=
  marks.filterMap Mark.operation?

/-- A request fits what came before it: nobody asks for what was asked for just now, and a release
belongs to a subscription. -/
def Fits (before : List Mark) : Operation → Prop
  | .subscribe => before.getLast? ≠ some (.wrote .subscribe)
  | .unsubscribe => (requestsIn before).getLast? = some .subscribe

/-- Every request fits what came before it. -/
def Orderly (marks : List Mark) : Prop :=
  ∀ before operation after, marks = before ++ .wrote operation :: after → Fits before operation

/-- What the marks of an entity say about its entry. -/
def Tells (marks : List Mark) : Option Status → Prop
  | none => marks.getLast? ≠ some (.wrote .subscribe)
  | some .releasing => (requestsIn marks).getLast? = some .unsubscribe
  | some .pending | some .active => (requestsIn marks).getLast? = some .subscribe

@[simp] theorem requestsIn_append (a b : List Mark) :
    requestsIn (a ++ b) = requestsIn a ++ requestsIn b :=
  List.filterMap_append

@[simp] theorem requestsIn_wrote (operation : Operation) :
    requestsIn [.wrote operation] = [operation] := rfl

@[simp] theorem requestsIn_dropped : requestsIn [.dropped] = [] := rfl

theorem orderly_nil : Orderly [] :=
  fun _ _ _ h => absurd h.symm (List.append_ne_nil_of_right_ne_nil _ (List.cons_ne_nil _ _))

section

variable {marks : List Mark}

/-- One more mark. -/
theorem Orderly.concat (h : Orderly marks) {x : Mark}
    (hx : ∀ operation, x = .wrote operation → Fits marks operation) : Orderly (marks ++ [x]) := by
  intro before operation after heq
  rcases List.eq_nil_or_concat after with rfl | ⟨rest, last, rfl⟩
  · obtain ⟨rfl, hlast⟩ := List.append_inj' heq rfl
    exact hx operation (List.cons.inj hlast).1
  · rw [List.concat_eq_append, ← List.cons_append, ← List.append_assoc] at heq
    exact h before operation rest (List.append_inj' heq rfl).1

theorem Orderly.dropped (h : Orderly marks) : Orderly (marks ++ [.dropped]) :=
  h.concat fun _ hx => absurd hx nofun

/-- The first request asks for the subscription. -/
theorem Orderly.first (h : Orderly marks) {operation : Operation}
    (hfirst : (requestsIn marks).head? = some operation) : operation = .subscribe := by
  obtain ⟨rest, hrest⟩ := List.head?_eq_some_iff.1 hfirst
  obtain ⟨before, x, after, rfl, hbefore, hx, -⟩ := List.filterMap_eq_cons_iff.1 hrest
  cases x with
  | dropped => exact absurd hx nofun
  | wrote other =>
    obtain rfl : other = operation := Option.some.inj hx
    have hfits := h before other after rfl
    cases other with
    | subscribe => rfl
    | unsubscribe =>
      have hnone : requestsIn before = [] := List.filterMap_eq_nil_iff.2 hbefore
      rw [Fits, hnone] at hfits
      exact absurd hfits nofun

/-- Between two requests for the subscription, with no other in between, the entry was dropped. -/
theorem Orderly.again {before between after : List Mark}
    (h : Orderly (before ++ .wrote .subscribe :: (between ++ .wrote .subscribe :: after)))
    (hbetween : requestsIn between = []) : .dropped ∈ between := by
  have hfits : Fits (before ++ .wrote .subscribe :: between) .subscribe :=
    h _ _ after (by simp)
  rcases List.eq_nil_or_concat between with rfl | ⟨rest, last, rfl⟩
  · exact absurd (by simp) hfits
  · cases last with
    | dropped => simp
    | wrote operation => simp at hbetween

/-! ## What the marks say -/

/-- The marks of an entity, and how its entry stands. -/
structure Course (marks : List Mark) (status : Option Status) : Prop where
  /-- The marks are orderly. -/
  orderly : Orderly marks
  /-- They say how the entry stands. -/
  tells : Tells marks status

theorem course_nil : Course [] none :=
  ⟨orderly_nil, nofun⟩

/-- A mark that tells of a drop says nothing about an entry that is still there. -/
theorem Course.dropped {status : Option Status} (h : Course marks status) :
    Course (marks ++ [.dropped]) status := by
  refine ⟨h.orderly.dropped, ?_⟩
  have htells := h.tells
  cases status with
  | none => simp [Tells]
  | some s => cases s <;> simpa [Tells] using htells

/-- An entry was dropped. -/
theorem Course.lapsed {status : Option Status} (h : Course marks status) :
    Course (marks ++ [.dropped]) none :=
  ⟨h.orderly.dropped, by simp [Tells]⟩

theorem Course.last_ne {status : Option Status} (h : Course marks status)
    (hs : status = none ∨ status = some .releasing) :
    marks.getLast? ≠ some (.wrote .subscribe) := by
  rcases hs with rfl | rfl
  · exact h.tells
  · intro hlast
    obtain ⟨before, rfl⟩ := List.getLast?_eq_some_iff.1 hlast
    have htells := h.tells
    simp [Tells] at htells

/-- An entry that is released is gone. -/
theorem Course.freed {status : Option Status} (h : Course marks status)
    (hs : status = none ∨ status = some .releasing) : Course marks none :=
  ⟨h.orderly, h.last_ne hs⟩

/-- An entry that is acknowledged was asked for all the same. -/
theorem Course.acknowledged (h : Course marks (some .pending)) : Course marks (some .active) :=
  ⟨h.orderly, h.tells⟩

/-- The subscription was asked for. -/
theorem Course.subscribed {status : Option Status} (h : Course marks status)
    (hs : status = none ∨ status = some .releasing) :
    Course (marks ++ [.wrote .subscribe]) (some .pending) := by
  refine ⟨h.orderly.concat fun operation hx => ?_, by simp [Tells]⟩
  obtain rfl := Mark.wrote.inj hx
  exact h.last_ne hs

/-- The release was asked for. -/
theorem Course.unsubscribed {status after : Option Status} (h : Course marks status)
    (hs : status = some .pending ∨ status = some .active)
    (ha : after = none ∨ after = some .releasing) :
    Course (marks ++ [.wrote .unsubscribe]) after := by
  refine ⟨h.orderly.concat fun operation hx => ?_, ?_⟩
  · obtain rfl := Mark.wrote.inj hx
    rcases hs with rfl | rfl <;> exact h.tells
  · rcases ha with rfl | rfl <;> simp [Tells]

end

end LiveSync
