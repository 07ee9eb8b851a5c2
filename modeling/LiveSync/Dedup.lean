import LiveSync.Clock
import LiveSync.Json.Printer
import LiveSync.SipHash
import LiveSync.Text.Utf8

/-!
# Suppressing repeated events

A memo remembers what passed within a window of time, at most `capacity` things.  An event whose
name is on the list is suppressed when the memo holds the same fingerprint, a hash of its name and
payload; an event that is not on the list always passes and is never remembered.
-/

namespace LiveSync

open LiveSync.Json

/-! ## The memo -/

/-- What passed, and when.  The queue may still hold things that were noted again later or
dropped. -/
structure Memo (α : Type) where
  /-- How long a thing is remembered. -/
  window : Nat
  /-- How many things are remembered at most; one at least. -/
  capacity : Nat
  /-- In order of arrival, oldest first. -/
  queue : List (α × Nat)
  /-- When each remembered thing was noted last. -/
  seen : List (α × Nat)

namespace Memo

variable {α : Type} [DecidableEq α]

/-- A memo that remembers nothing yet. -/
def empty (window : Nat) (maxEntries : Nat) : Memo α :=
  ⟨window, max maxEntries 1, [], []⟩

/-- When a thing was noted last. -/
def lookup (m : Memo α) (a : α) : Option Nat :=
  (m.seen.find? fun e => e.1 = a).map (·.2)

/-- Is something noted at that time still within the window?  A clock that went back counts as
standing still. -/
def isFresh (m : Memo α) (noted now : Nat) : Bool :=
  now - noted < m.window

/-- Forget a thing if it was noted last at that time. -/
def forget (m : Memo α) (e : α × Nat) : Memo α :=
  if m.lookup e.1 = some e.2 then { m with seen := m.seen.filter fun s => s.1 ≠ e.1 } else m

/-- Take the stale things off the front of the queue. -/
def dropStale (m : Memo α) (now : Nat) : Memo α :=
  let stale := m.queue.takeWhile fun e => !m.isFresh e.2 now
  let fresh := m.queue.dropWhile fun e => !m.isFresh e.2 now
  stale.foldl forget { m with queue := fresh }

/-- Take things off the front of a queue until the memo fits its capacity. -/
def shrink (m : Memo α) : (queue : List (α × Nat)) → Memo α
  | [] => { m with queue := [] }
  | e :: rest =>
    if m.seen.length ≤ m.capacity then { m with queue := e :: rest }
    else (m.forget e).shrink rest

/-- Note that a thing passes now. -/
def note (m : Memo α) (a : α) (now : Nat) : Memo α :=
  let seen := m.seen.filter (fun s => s.1 ≠ a) ++ [(a, now)]
  { m with seen := seen }.shrink (m.queue ++ [(a, now)])

/-- Let a thing pass unless it is remembered.  The answer is `true` when it is held back. -/
def offer (m : Memo α) (a : α) (now : Nat) : Bool × Memo α :=
  let m := m.dropStale now
  match m.lookup a with
  | some noted => if m.isFresh noted now then (true, m) else (false, m.note a now)
  | none => (false, m.note a now)

/-- How many things are remembered. -/
def size (m : Memo α) : Nat :=
  m.seen.length

/-- Forget everything. -/
def clear (m : Memo α) : Memo α :=
  { m with queue := [], seen := [] }

end Memo

/-! ## The filter -/

/-- An event as far as repetition goes: a hash.  Different events may have the same one. -/
abbrev Fingerprint := UInt64

/-- Holds back repetitions of the listed events. -/
structure DedupFilter where
  /-- The events that may be held back. -/
  events : List String
  /-- What passed lately. -/
  memo : Memo Fingerprint

namespace DedupFilter

/-- A filter that has seen nothing yet. -/
def new (window : Nat) (maxEntries : Nat) (events : List String) : DedupFilter :=
  ⟨events, Memo.empty window maxEntries⟩

/-- The bytes of a name and the text of a payload.  A byte that no text has ends each of them. -/
def hashed (event text : String) : List Nat :=
  Text.Utf8.encode event.toList ++ 0xff :: 0 :: Text.Utf8.encode text.toList ++ [0xff]

/-- What an event is recognised by. -/
def fingerprint (event : String) (payload : Value) : Fingerprint :=
  SipHash.hash (hashed event payload.render)

/-- Offer an event to the filter.  The answer is `true` when it is a repetition. -/
def offer (f : DedupFilter) (event : String) (payload : Value) (now : Nat) :
    Bool × DedupFilter :=
  if f.events.contains event then
    let (held, memo) := f.memo.offer (fingerprint event payload) now
    (held, { f with memo := memo })
  else (false, f)

/-- How many events are remembered. -/
def size (f : DedupFilter) : Nat :=
  f.memo.size

/-- Forget everything. -/
def clear (f : DedupFilter) : DedupFilter :=
  { f with memo := f.memo.clear }

end DedupFilter

end LiveSync
