import LiveSync.Url.Host

/-!
# Paths

The path of a web address is a list of segments.  A segment of one dot is dropped and one of two
dots drops the segment before it; characters that a path may not hold are percent-encoded, and what
is percent-encoded already is kept.
-/

namespace LiveSync.Url

/-- Is the byte percent-encoded in a path? -/
def isEncodedInPath (n : Nat) : Bool :=
  n < 32 || 126 < n || [32, 34, 35, 60, 62, 63, 96, 123, 125].contains n

/-- The upper-case hexadecimal digit of a number below sixteen. -/
def upperHexDigit (n : Nat) : Char :=
  if n < 10 then Char.ofNat (48 + n) else Char.ofNat (55 + n)

/-- A byte in a path. -/
def pathByte (n : Nat) : List Char :=
  if isEncodedInPath n then ['%', upperHexDigit (n / 16), upperHexDigit (n % 16)]
  else [Char.ofNat n]

/-- A segment as it is written. -/
def encodeSegment (cs : List Char) : List Char :=
  (Text.Utf8.encode cs).flatMap pathByte

/-- The segment with each encoded dot as a dot. -/
def plainDots : List Char → List Char
  | '%' :: '2' :: 'e' :: rest | '%' :: '2' :: 'E' :: rest => '.' :: plainDots rest
  | c :: rest => c :: plainDots rest
  | [] => []

/-- Does the segment name a drive, a letter and a colon or bar? -/
def isDrive : List Char → Bool
  | [c, ':'] | [c, '|'] => c.isAlpha
  | _ => false

/-- Drop the last segment, unless it names a drive. -/
def dropSegment (path : List (List Char)) : List (List Char) :=
  match path.getLast? with
  | some last => if isDrive last then path else path.dropLast
  | none => path

/-- Append a segment that is followed by a slash. -/
def addInner (path : List (List Char)) (segment : List Char) : List (List Char) :=
  match plainDots segment with
  | ['.', '.'] => dropSegment path
  | ['.'] => path
  | _ => path ++ [encodeSegment segment]

/-- Append the last segment; dots leave an empty one. -/
def addLast (path : List (List Char)) (segment : List Char) : List (List Char) :=
  match plainDots segment with
  | ['.', '.'] => dropSegment path ++ [[]]
  | ['.'] => path ++ [[]]
  | _ => path ++ [encodeSegment segment]

/-- Resolve segments, the last of which ends the path. -/
def resolveSegments (path : List (List Char)) : List (List Char) → List (List Char)
  | [] => path
  | [last] => addLast path last
  | segment :: rest => resolveSegments (addInner path segment) rest

/-- The segments of a path: slashes, and backslashes too, stand between them, and the first slash
may be missing. -/
def segments (cs : List Char) : List (List Char) :=
  match cs.map fun c => if c = '\\' then '/' else c with
  | '/' :: rest => Text.splitOn '/' rest
  | cs => Text.splitOn '/' cs

/-- The characters of a path from those that are given for it. -/
def pathChars (cs : List Char) : List Char :=
  (resolveSegments [] (segments cs)).flatMap ('/' :: ·)

/-- Does a drive stand at the root of a path once dots are resolved?  `path` has the segments so
far. -/
def beginsWithDrive (path : List (List Char)) : List (List Char) → Bool
  | [] => false
  | segment :: rest =>
    match plainDots segment with
    | ['.', '.'] => beginsWithDrive path.dropLast rest
    | ['.'] => beginsWithDrive path rest
    | _ => (path.isEmpty && isDrive segment) || beginsWithDrive (path ++ [segment]) rest

end LiveSync.Url
