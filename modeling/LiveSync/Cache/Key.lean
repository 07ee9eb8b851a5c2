import LiveSync.Json.Value

/-!
# Cache keys and the cache store

An entry of the cache is addressed by a list of texts.  The store belongs to the embedding
application; a client reads an entry, replaces it or marks it stale.
-/

namespace LiveSync.Cache

open LiveSync.Json

/-- The address of a cache entry, such as `entity:VULN-1`. -/
structure Key where
  /-- The texts it consists of. -/
  parts : List String
  deriving DecidableEq, Repr

namespace Key

/-- The parts with colons between them. -/
def text (k : Key) : String :=
  String.intercalate ":" k.parts

/-- Does one list of parts stand before another? -/
def partsBefore : List String → List String → Bool
  | [], [] => false
  | [], _ :: _ => true
  | _ :: _, [] => false
  | a :: as, b :: bs => if a = b then partsBefore as bs else a < b

/-- The order of keys: by their first part, then by their second, and so on. -/
def before (a b : Key) : Bool :=
  partsBefore a.parts b.parts

/-- The parts as a JSON array. -/
def toValue (k : Key) : Value :=
  .array (k.parts.map .string)

/-- The key of the list of entities. -/
def entities : Key := ⟨["entities"]⟩

/-- The key of the details of an entity. -/
def entity (id : String) : Key := ⟨["entity", id]⟩

/-- The key of the comments on an entity. -/
def comments (id : String) : Key := ⟨["comments", id]⟩

/-- The key of the progress of a job. -/
def job (id : String) : Key := ⟨["job", id]⟩

end Key

/-- What is done to a store. -/
inductive StoreOp where
  /-- Replace the value of an entry. -/
  | set (key : Key) (value : Value)
  /-- Mark an entry stale. -/
  | markStale (key : Key)
  deriving DecidableEq

/-- The entries of a cache, in the order of their keys. -/
structure Store where
  /-- Keys and values. -/
  entries : List (Key × Value) := []
  deriving DecidableEq

namespace Store

/-- The value of an entry. -/
def get? (s : Store) (key : Key) : Option Value :=
  (s.entries.find? fun e => e.1 = key).map (·.2)

/-- Put an entry into a list, in order; one that was there is replaced. -/
def putEntry (key : Key) (value : Value) : List (Key × Value) → List (Key × Value)
  | [] => [(key, value)]
  | (k, v) :: rest =>
    if k = key then (key, value) :: rest
    else if k.before key then (k, v) :: putEntry key value rest
    else (key, value) :: (k, v) :: rest

/-- Store the value of an entry. -/
def set (s : Store) (key : Key) (value : Value) : Store :=
  ⟨putEntry key value s.entries⟩

/-- Remove an entry.  The result tells whether it was there. -/
def evict (s : Store) (key : Key) : Bool × Store :=
  ((s.get? key).isSome, ⟨s.entries.filter fun e => e.1 ≠ key⟩)

/-- Carry one operation out.  A stale entry keeps its value. -/
def apply (s : Store) : StoreOp → Store
  | .set key value => s.set key value
  | .markStale _ => s

/-- Carry operations out in order. -/
def applyAll (s : Store) (ops : List StoreOp) : Store :=
  ops.foldl apply s

end Store

end LiveSync.Cache
