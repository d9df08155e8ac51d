/-!
# Text that may be damaged

A received text is a list of characters in which `none` marks a byte that belongs to no well-formed
UTF-8 character. Damage is kept in its place, because a format may tolerate it in one part of a text
and refuse it in another.
-/

namespace FleetTraffic.Text

/-- Characters with gaps where the bytes were not well formed. -/
abbrev Source : Type := List (Option Char)

namespace Source

/-- An undamaged text. -/
def ofChars (text : List Char) : Source := text.map some

/-- The characters of bytes from a position on. A byte that starts no well-formed character is a
gap by itself. -/
def ofBytesFrom (bytes : ByteArray) (position : Nat) : Source :=
  if position < bytes.size then
    match bytes.utf8DecodeChar? position with
    | some c => some c :: ofBytesFrom bytes (position + c.utf8Size)
    | none => none :: ofBytesFrom bytes (position + 1)
  else []
  termination_by bytes.size - position
  decreasing_by
    · have positive := Char.utf8Size_pos c
      omega
    · omega

/-- The characters of received bytes. -/
def ofBytes (bytes : ByteArray) : Source := ofBytesFrom bytes 0

/-- The text, if it has no gap. -/
def chars? : Source → Option (List Char)
  | [] => some []
  | none :: _ => none
  | some c :: rest => (chars? rest).map (c :: ·)

/-- An undamaged text is read back whole. -/
theorem chars?_ofChars (text : List Char) : chars? (ofChars text) = some text := by
  induction text with
  | nil => rfl
  | cons c rest inductionHypothesis =>
    show (chars? (ofChars rest)).map (c :: ·) = _
    rw [inductionHypothesis]
    rfl

end Source

end FleetTraffic.Text
