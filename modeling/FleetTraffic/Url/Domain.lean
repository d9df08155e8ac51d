import FleetTraffic.Text.Composition
import FleetTraffic.Url.Address
import FleetTraffic.Url.Domain.Direction
import FleetTraffic.Url.Domain.Joining
import FleetTraffic.Url.Domain.Mark
import FleetTraffic.Url.Domain.Punycode

/-!
# Domain names in ASCII

Domain names are written in ASCII. Characters that only look different become the same, the name is
composed, and each label with characters outside ASCII is written as `xn--` and its code. A label that
is already written so must stand for one that could have been.
-/

namespace FleetTraffic.Domain

open Text

/-- Whether an ASCII character may not be in a domain name. -/
def isForbidden (c : Char) : Bool :=
  c.toNat ≤ 0x20 || c.toNat = 0x7F || "#%/:<>?@[\\]^|".toList.contains c

/-- The characters of a name, all of which may stand in it, in composed form. -/
def folded? (name : List Char) : Option (List Char) := do
  let characters ← name.mapM mapped?
  let folded := composed characters.flatten
  if folded.any isForbidden then none else some folded

/-- The mark of a label that is written in ASCII. -/
def codeMark : List Char := "xn--".toList

/-- The label that is meant by a label of a name. What is written as a code must be longer than its
mark, at most 2000 characters long and not be ASCII alone, and the label must be in its usual form. -/
def meant? (label : List Char) : Option (List Char) :=
  if codeMark.isPrefixOf label then
    let written := label.drop codeMark.length
    if written.getLast? = none ∨ written.getLast? = some '-' ∨ 2000 < written.length then none
    else
      match decodeLabel? written with
      | none => none
      | some meant => if meant.all isKept ∧ composed meant = meant then some meant else none
  else some label

/-- Whether a label may stand in a name. One outside ASCII has at most 1000 characters. -/
def isLabel (label : List Char) : Bool :=
  label.all isBasic ||
    (!(label.take 1).any isMark && joinersStand [] label && label.length ≤ 1000)

/-- A label in ASCII. -/
def labelText (label : List Char) : List Char :=
  if label.all isBasic then label else codeMark ++ encodeLabel label

/-- A domain name in ASCII. If letters in it are written from the right to the left, each of its labels
must have one direction. -/
def toAscii (name : List Char) : Except UrlError (List Char) :=
  let labels? := do
    let folded ← folded? name
    let labels := piecesBetween '.' folded
    let meant ← labels.mapM meant?
    let turned := meant.any fun label => label.any turns
    if meant.all isLabel && (!turned || meant.all hasOneDirection) then some labels else none
  match labels? with
  | some labels => .ok (joinedBy '.' (labels.map labelText))
  | none => .error .invalidDomain

end FleetTraffic.Domain
