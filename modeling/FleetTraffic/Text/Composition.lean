import Std.Data.HashMap
import FleetTraffic.Text.CombiningClass
import FleetTraffic.Text.Decomposition

/-!
# Composed texts

Texts that look the same may be written in several ways. The composed form is one of them: characters
are taken apart, marks are put in the order of their classes, and letters are joined with the marks
after them into single characters again, as far as there are such characters.
-/

namespace FleetTraffic.Text

/-- Put a character in front of an ordered text. It goes behind marks of lower classes, unless it is
no mark. -/
def place (c : Char) : List Char → List Char
  | [] => [c]
  | d :: rest =>
    if 0 < combiningClass d ∧ combiningClass d < combiningClass c then d :: place c rest
    else c :: d :: rest

/-- A text with its marks in the order of their classes. Marks of one class keep their order. -/
def ordered (text : List Char) : List Char := text.foldr place []

/-- The characters that pairs make up. -/
def compositions : Std.HashMap (Nat × Nat) Nat :=
  decompositions.runs.foldl
    (fun pairs run =>
      match run.note with
      | '=' :: codes =>
        match hexNumbers codes with
        | [first, second] => pairs.insert (first, second) run.first
        | _ => pairs
      | _ => pairs)
    ∅

/-- The character that two characters make up. -/
def composition? (first second : Char) : Option Char :=
  let left := first.toNat
  let right := second.toNat
  if left < 0x80 ∧ right < 0x80 then none
  else if 0x1100 ≤ left ∧ left < 0x1113 ∧ 0x1161 ≤ right ∧ right < 0x1176 then
    some (Char.ofNat (hangulFirst + ((left - 0x1100) * 21 + (right - 0x1161)) * 28))
  else if hangulFirst ≤ left ∧ left < hangulFirst + hangulCount ∧ (left - hangulFirst) % 28 = 0 ∧
      0x11A7 < right ∧ right < 0x11C3 then
    some (Char.ofNat (left + (right - 0x11A7)))
  else compositions[(left, right)]?.map Char.ofNat

/-- Join a character with what follows it. The marks that have been passed, in reverse, keep marks of
their own classes and of lower ones from being joined. -/
def joinAfter (c : Char) (passed : List Char) : List Char → List Char
  | [] => c :: passed.reverse
  | d :: rest =>
    let isFree := match passed with
      | [] => true
      | last :: _ => combiningClass last < combiningClass d
    match if isFree then composition? c d else none with
    | some whole => joinAfter whole passed rest
    | none =>
      if combiningClass d = 0 then c :: (passed.reverse ++ joinAfter d [] rest)
      else joinAfter c (d :: passed) rest

/-- Join the characters of an ordered text. Marks in front of all other characters stay. -/
def joined : List Char → List Char
  | [] => []
  | c :: rest => if combiningClass c = 0 then joinAfter c [] rest else c :: joined rest

/-- The composed form of a text. -/
def composed (text : List Char) : List Char :=
  if text.all fun c => c.toNat < 0x80 then text else joined (ordered (text.flatMap decomposed))

/-- Putting a character into a text changes only the order. -/
theorem place_perm (c : Char) (text : List Char) : (place c text).Perm (c :: text) := by
  induction text with
  | nil => exact List.Perm.refl _
  | cons d rest inductionHypothesis =>
    unfold place
    split
    · exact (inductionHypothesis.cons d).trans (.swap c d rest)
    · exact List.Perm.refl _

/-- The order of marks is all that ordering changes. -/
theorem ordered_perm (text : List Char) : (ordered text).Perm text := by
  induction text with
  | nil => exact List.Perm.refl _
  | cons c rest inductionHypothesis =>
    exact (place_perm c (ordered rest)).trans (inductionHypothesis.cons c)

end FleetTraffic.Text
