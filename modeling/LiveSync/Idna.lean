import LiveSync.Idna.Label
import LiveSync.Idna.Punycode

/-!
# Domain names in any script

A domain name is mapped and composed, each label is checked, and the labels that are not in ASCII
are written in it, with `xn--` in front.  A label that comes so written is read first, and must have
been written for a reason.
-/

namespace LiveSync.Idna

open LiveSync.Unicode

/-- What stands in front of a label that is written in ASCII. -/
def marker : List Char := ['x', 'n', '-', '-']

/-- Is the text in ASCII? -/
def isAscii (cs : List Char) : Bool :=
  cs.all (·.toNat < 128)

/-- The label that a label means. -/
def meaning? (label : List Char) : Option (List Char) :=
  if marker.isPrefixOf label then
    (Punycode.decode? (label.drop marker.length)).filter fun cs => !isAscii cs
  else some label

/-- A label in ASCII. -/
def asciiLabel (label : List Char) : List Char :=
  if isAscii label then label else marker ++ Punycode.encode label

/-- A domain name in ASCII and in lower case, unless it is not valid. -/
def toAscii? (cs : List Char) : Option (List Char) := do
  let mapped ← mapChars? cs
  let labels := Text.splitOn '.' (compose mapped)
  let meanings ← labels.mapM meaning?
  let directed := meanings.any fun label => label.any isRightward
  if meanings.all (isValidLabel directed) then
    return Text.joinWith '.' (labels.map asciiLabel)
  else none

end LiveSync.Idna
