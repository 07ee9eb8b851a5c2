import LiveSync.Proofs.TokenMonitor.Turns

/-!
# When a connection is asked for again

A monitor asks for a connection again, without asking for its end before, only after a poll found
another token than the adopted one.  The token that is adopted then is not the one that the poll
found but the one that is there when it has settled, and nothing compares it with the one before:
if the store is back at that one, the same token is presented again.

* `Post.Content` — nothing new was found since a token was adopted.
* `Post.content_of_connect`, `Post.Content.take` — how that begins, and how it ends.
* `resent_iff` — when the same token is presented again.
* `unchanged_token_resent` — it happens.
-/

namespace LiveSync
namespace TokenMonitor

/-- A monitor that has just adopted a token is not waiting for one to settle. -/
theorem Acts.settledAt_of_connect {m m' : TokenMonitor} {now : Nat} {seen checked : Reading}
    (h : Acts m now seen checked (some .connect) m') : m'.settledAt = none := by
  cases h with
  | adopted => rfl
  | adoptedAtOnce hidle => exact hidle

namespace Post

/-- The monitor, unless it came to its end, has adopted that token and found no other since. -/
def Content (p : Post) (a : String) : Prop :=
  ∀ m, p.monitor? = some m → m.settledAt = none ∧ m.current = some a

variable {p : Post} {o : Occasion} {a b : String}

/-- What is adopted is what a second look found. -/
theorem checks_of_connect (h : (p.take o).1 = some .connect) :
    p.Checks o (p.take o).2.adopted := by
  have ht := takes_take p o
  generalize (p.take o).1 = r at ht h
  generalize (p.take o).2 = q at ht
  cases ht with
  | sends hmonitor ha hclient =>
    obtain rfl := Option.some.inj h
    rw [checks_turn hmonitor]
    exact ⟨(ha.eq_connect_iff.1 rfl).1, ha.current_eq.symm⟩
  | _ => exact absurd h nofun

/-- A second look finds one thing. -/
theorem Checks.unique {x y : Option String} (hx : p.Checks o x) (hy : p.Checks o y) : x = y := by
  cases o with
  | turn now seen checked => exact hx.2.symm.trans hy.2
  | _ => exact hx.elim

/-- Once a token is adopted the monitor is content. -/
theorem content_of_connect (h : (p.take o).1 = some .connect)
    (ha : (p.take o).2.adopted = some a) : (p.take o).2.Content a := by
  have ht := takes_take p o
  generalize (p.take o).1 = r at ht h
  generalize (p.take o).2 = q at ht ha ⊢
  cases ht with
  | sends hmonitor hacts hclient =>
    obtain rfl := Option.some.inj h
    intro m hm
    obtain rfl := Option.some.inj hm
    exact ⟨hacts.settledAt_of_connect, ha⟩
  | _ => exact absurd h nofun

/-- A monitor that is content stays so unless a poll finds no usable token, and then the end of the
connection is asked for, or another token. -/
theorem Content.take (h : p.Content a) (hnone : (p.take o).1 ≠ some .disconnect) :
    (∃ c, p.Polls o (some c) ∧ c ≠ a) ∨
      (p.take o).1 ≠ some .connect ∧ (p.take o).2.Content a := by
  have ht := takes_take p o
  generalize (p.take o).1 = r at ht hnone ⊢
  generalize (p.take o).2 = q at ht ⊢
  have hother : ∀ {m m' : TokenMonitor} {now : Nat} {seen checked : Reading}
      {r : Option MonitorRequest}, p.monitor? = some m → Acts m now seen checked r m' →
      r ≠ some .disconnect → (∃ c, p.Polls (.turn now seen checked) (some c) ∧ c ≠ a) ∨
        r ≠ some .connect ∧ m'.settledAt = none ∧ m'.current = some a := by
    intro m m' now seen checked r hmonitor ha hr
    obtain ⟨hidle, hcurrent⟩ := h m hmonitor
    have hpolls : ∀ {t}, m.nextPoll ≤ now → seen.usable? = some t → m.current ≠ some t →
        ∃ c, p.Polls (.turn now seen checked) (some c) ∧ c ≠ a := by
      intro t hdue hseen hnew
      exact ⟨t, (polls_turn hmonitor).2 ⟨⟨hidle, hdue⟩, hseen⟩, fun h => hnew (h ▸ hcurrent)⟩
    cases ha with
    | early => exact .inr ⟨nofun, hidle, hcurrent⟩
    | vanished hsettling => exact absurd (hidle.symm.trans hsettling) nofun
    | adopted hsettling => exact absurd (hidle.symm.trans hsettling) nofun
    | unchanged => exact .inr ⟨nofun, hidle, hcurrent⟩
    | lost => exact absurd rfl hr
    | settles _ hdue hseen hnew => exact .inl (hpolls hdue hseen hnew)
    | vanishedAtOnce _ hdue hseen hnew => exact .inl (hpolls hdue hseen hnew)
    | adoptedAtOnce _ hdue hseen hnew => exact .inl (hpolls hdue hseen hnew)
  cases ht with
  | absent => exact .inr ⟨nofun, h⟩
  | silent hmonitor ha =>
    refine (hother hmonitor ha hnone).imp_right fun ⟨hr, hcontent⟩ => ⟨hr, ?_⟩
    rintro _ ⟨⟩
    exact hcontent
  | sends hmonitor ha hclient =>
    refine (hother hmonitor ha hnone).imp_right fun ⟨hr, hcontent⟩ => ⟨hr, ?_⟩
    rintro _ ⟨⟩
    exact hcontent
  | ends => exact .inr ⟨nofun, nofun⟩
  | clientGone => exact .inr ⟨nofun, h⟩
  | stop => exact .inr ⟨nofun, nofun⟩

/-- **Before a connection is asked for again**, a poll finds another token. -/
theorem Content.finds_other (h : p.Content a) {middle : List Occasion}
    (hnone : .disconnect ∉ p.sent middle) (ho : ((p.after middle).take o).1 = some .connect) :
    ∃ past poll rest c, middle ++ [o] = past ++ poll :: rest ∧
      (p.after past).Polls poll (some c) ∧ c ≠ a := by
  induction middle generalizing p with
  | nil =>
    rcases h.take (o := o) (by simp [show (p.take o).1 = _ from ho]) with ⟨c, hpolls, hc⟩ | ⟨hr, -⟩
    · exact ⟨[], o, [], c, rfl, hpolls, hc⟩
    · exact absurd ho hr
  | cons first rest ih =>
    simp only [sent, List.mem_append, not_or, Option.mem_toList] at hnone
    rcases h.take hnone.1 with ⟨c, hpolls, hc⟩ | ⟨-, hcontent⟩
    · exact ⟨[], first, rest ++ [o], c, rfl, hpolls, hc⟩
    · obtain ⟨past, poll, later, c, heq, hpolls, hc⟩ := ih hcontent hnone.2 ho
      exact ⟨first :: past, poll, later, c, by rw [List.cons_append, heq]; rfl, hpolls, hc⟩

end Post

open Post

/-- **When the same token is presented again.**  Let a monitor ask for a connection and adopt `a`,
and later ask for one again and adopt `b`, without having asked for its end in between.  Then a poll
has found a usable token other than `a` in between.  The two tokens are the same exactly if `a` is
what the store holds again when a new token has settled. -/
theorem resent_iff {period settleDelay begun : Nat} {earlier middle : List Occasion}
    {first second : Occasion} {a b : String} :
    let p := (atWork period settleDelay begun).after earlier
    let q := (p.take first).2
    (p.take first).1 = some .connect → q.adopted = some a → .disconnect ∉ q.sent middle →
    ((q.after middle).take second).1 = some .connect →
    ((q.after middle).take second).2.adopted = some b →
    (∃ past poll rest c, middle ++ [second] = past ++ poll :: rest ∧
      (q.after past).Polls poll (some c) ∧ c ≠ a) ∧
    (b = a ↔ (q.after middle).Checks second (some a)) := by
  intro p q hfirst ha hnone hsecond hb
  refine ⟨(content_of_connect hfirst ha).finds_other hnone hsecond, ?_⟩
  have hchecks := checks_of_connect hsecond
  rw [hb] at hchecks
  exact ⟨fun h => h ▸ hchecks, fun h => Option.some.inj (hchecks.unique h)⟩

/-- A monitor that has adopted `first` and is about to look again. -/
def signedIn : Post :=
  (atWork (Span.ofMillis 1000) (Span.ofMillis 200) 0).after
    [.turn 0 ⟨some "first", 0⟩ ⟨some "first", 0⟩]

/-- The turn in which it adopts it. -/
def signIn : Occasion :=
  .turn (Span.ofMillis 200) ⟨some "first", 0⟩ ⟨some "first", 0⟩

/-- The poll that finds another token. -/
def glimpse : Occasion :=
  .turn (Span.ofMillis 1000) ⟨some "other", 0⟩ ⟨some "other", 0⟩

/-- The other token has settled, and it is adopted. -/
theorem resent_iff_rotated :
    let q := (signedIn.take signIn).2
    let rotation := Occasion.turn (Span.ofMillis 1200) ⟨some "other", 0⟩ ⟨some "other", 0⟩
    (signedIn.take signIn).1 = some .connect ∧ q.adopted = some "first" ∧
    .disconnect ∉ q.sent [glimpse] ∧
    ((q.after [glimpse]).take rotation).1 = some .connect ∧
    ((q.after [glimpse]).take rotation).2.adopted = some "other" ∧
    ("other" = "first" ↔ (q.after [glimpse]).Checks rotation (some "first")) := by
  intro q rotation
  have hfirst : (signedIn.take signIn).1 = some .connect := by decide +kernel
  have ha : q.adopted = some "first" := by decide +kernel
  have hnone : MonitorRequest.disconnect ∉ q.sent [glimpse] := by decide +kernel
  have hsecond : ((q.after [glimpse]).take rotation).1 = some .connect := by decide +kernel
  have hb : ((q.after [glimpse]).take rotation).2.adopted = some "other" := by decide +kernel
  exact ⟨hfirst, ha, hnone, hsecond, hb, (resent_iff hfirst ha hnone hsecond hb).2⟩

/-- The first token is back when the other one has settled: it is presented again. -/
theorem unchanged_token_resent :
    let q := (signedIn.take signIn).2
    let relapse := Occasion.turn (Span.ofMillis 1200) ⟨some "first", 0⟩ ⟨some "first", 0⟩
    (signedIn.take signIn).1 = some .connect ∧ q.adopted = some "first" ∧
    q.sent [glimpse] = [] ∧
    ((q.after [glimpse]).take relapse).1 = some .connect ∧
    ((q.after [glimpse]).take relapse).2.adopted = some "first" := by
  decide +kernel

end TokenMonitor
end LiveSync
