import LiveSync.Clock
import LiveSync.EventName
import LiveSync.Json.Record
import LiveSync.Payload.KeyCase

/-!
# Connection options

Whether and how to reconnect, which events are de-duplicated, and how the names of fields are
written.  Missing fields of an options file have their defaults.
-/

namespace LiveSync

open LiveSync.Json LiveSync.Payload

/-- The settings of a connection. -/
structure Options where
  /-- Reconnect when a connection is lost? -/
  autoReconnect : Bool := true
  /-- The delay before the first retry, in milliseconds. -/
  reconnectDelayMs : Nat := 1000
  /-- What the delay is multiplied by after each retry. -/
  growthFactor : Float := 2.0
  /-- The longest delay, in milliseconds. -/
  maxReconnectDelayMs : Nat := 30000
  /-- The share of the delay that is drawn at random, to either side. -/
  jitterRatio : Float := 0.2
  /-- The retries before giving up; none retries for ever. -/
  maxReconnectAttempts : Option Nat := some 10
  /-- The path of the websocket below the base address. -/
  wsPath : String := "/ws"
  /-- For how long a repeated event is suppressed, in milliseconds. -/
  dedupWindowMs : Nat := 500
  /-- How many events are remembered for that. -/
  dedupMaxEntries : Nat := 256
  /-- The events that may be suppressed. -/
  dedupEvents : List String := [EventName.ping, EventName.pong, EventName.jobProgress]
  /-- The case of field names on the wire. -/
  wireCase : KeyCase := .snake
  /-- The case of field names that listeners see. -/
  internalCase : KeyCase := .camel
  /-- The fields whose name and value are never re-cased. -/
  caseExclusions : List String :=
    ["metadata", "custom_fields", "raw", "cvss_vector", "headers"]

namespace Options

instance : Inhabited Options := ⟨{}⟩

/-! ## Delays -/

/-- `result * base ^ n`, by repeated squaring. -/
def power (result base : Float) (n : Nat) : Float :=
  if n = 0 then result
  else power (if n % 2 = 1 then result * base else result) (base * base) (n / 2)
termination_by n
decreasing_by omega

/-- The delay after some failed retries: the first delay grown once for each of them, but at most
the longest one.  A factor below one counts as one, and a delay that is not finite as the
longest. -/
def backoffMs (o : Options) (failures : Nat) : Nat :=
  let longest := o.maxReconnectDelayMs.toUInt64.toFloat
  let factor := if 1.0 < o.growthFactor then o.growthFactor else 1.0
  let raw := o.reconnectDelayMs.toUInt64.toFloat * power 1.0 factor (min failures 64)
  let capped := if raw.isFinite then (if raw < longest then raw else longest) else longest
  capped.toUInt64.toNat

/-- The share of a delay that is really drawn at random: at most all of it. -/
def effectiveJitter (o : Options) : Float :=
  if 0.0 < o.jitterRatio then (if o.jitterRatio < 1.0 then o.jitterRatio else 1.0) else 0.0

/-- The delay before the next retry.  `draw` is the number drawn for it, from −1 to 1, and moves
the delay by that part of the jitter; the result is rounded and never above the longest delay. -/
def retryDelayMs (o : Options) (failures : Nat) (draw : Float) : Nat :=
  let base := o.backoffMs failures
  if 0.0 < o.jitterRatio && base ≠ 0 then
    let moved := (base.toUInt64.toFloat * (1.0 + draw * o.effectiveJitter)).round
    min moved.toUInt64.toNat o.maxReconnectDelayMs
  else base

/-! ## Options files -/

/-- The names of the fields, in the order of their declaration. -/
def fieldNames : List String :=
  ["auto_reconnect", "reconnect_delay_ms", "reconnect_growth_factor", "max_reconnect_delay_ms",
    "reconnect_jitter_ratio", "max_reconnect_attempts", "ws_path", "dedup_window_ms",
    "dedup_max_entries", "dedup_events", "wire_case", "internal_case", "case_exclusions"]

/-- A key case by its name. -/
def readCase? (v : Value) : Option KeyCase :=
  v.asName?.bind KeyCase.ofName?

/-- Read an options file. -/
def ofValue? (v : Value) : Option Options := do
  let fields ← v.record? fieldNames 0
  let d : Options := {}
  let word := Value.asNatBelow? 0x10000000000000000
  return {
    autoReconnect := ← fields.optional? "auto_reconnect" Value.asBool? d.autoReconnect
    reconnectDelayMs := ← fields.optional? "reconnect_delay_ms" word d.reconnectDelayMs
    growthFactor := ← fields.optional? "reconnect_growth_factor" Value.asFloat? d.growthFactor
    maxReconnectDelayMs :=
      ← fields.optional? "max_reconnect_delay_ms" word d.maxReconnectDelayMs
    jitterRatio := ← fields.optional? "reconnect_jitter_ratio" Value.asFloat? d.jitterRatio
    maxReconnectAttempts := ← fields.optional? "max_reconnect_attempts"
      (Value.nullable (Value.asNatBelow? 0x100000000)) d.maxReconnectAttempts
    wsPath := ← fields.optional? "ws_path" Value.asString? d.wsPath
    dedupWindowMs := ← fields.optional? "dedup_window_ms" word d.dedupWindowMs
    dedupMaxEntries := ← fields.optional? "dedup_max_entries" word d.dedupMaxEntries
    dedupEvents := ← fields.optional? "dedup_events" Value.asStrings? d.dedupEvents
    wireCase := ← fields.optional? "wire_case" readCase? d.wireCase
    internalCase := ← fields.optional? "internal_case" readCase? d.internalCase
    caseExclusions := ← fields.optional? "case_exclusions" Value.asStrings? d.caseExclusions }

/-- A list of texts as a value. -/
def stringsValue (ss : List String) : Value :=
  .array (ss.map .string)

/-- Write an options file, with every field. -/
def toValue (o : Options) : Value :=
  .ofPairs [
    ("auto_reconnect", .bool o.autoReconnect),
    ("reconnect_delay_ms", .ofNat o.reconnectDelayMs),
    ("reconnect_growth_factor", .ofFloat o.growthFactor),
    ("max_reconnect_delay_ms", .ofNat o.maxReconnectDelayMs),
    ("reconnect_jitter_ratio", .ofFloat o.jitterRatio),
    ("max_reconnect_attempts", .ofOption .ofNat o.maxReconnectAttempts),
    ("ws_path", .string o.wsPath),
    ("dedup_window_ms", .ofNat o.dedupWindowMs),
    ("dedup_max_entries", .ofNat o.dedupMaxEntries),
    ("dedup_events", stringsValue o.dedupEvents),
    ("wire_case", .string o.wireCase.name),
    ("internal_case", .string o.internalCase.name),
    ("case_exclusions", stringsValue o.caseExclusions)]

/-- Are two settings the same?  Floats are compared as numbers. -/
def same (a b : Options) : Bool :=
  a.autoReconnect == b.autoReconnect && a.reconnectDelayMs == b.reconnectDelayMs
    && a.growthFactor == b.growthFactor && a.maxReconnectDelayMs == b.maxReconnectDelayMs
    && a.jitterRatio == b.jitterRatio && a.maxReconnectAttempts == b.maxReconnectAttempts
    && a.wsPath == b.wsPath && a.dedupWindowMs == b.dedupWindowMs
    && a.dedupMaxEntries == b.dedupMaxEntries && a.dedupEvents == b.dedupEvents
    && a.wireCase == b.wireCase && a.internalCase == b.internalCase
    && a.caseExclusions == b.caseExclusions

end Options

end LiveSync
