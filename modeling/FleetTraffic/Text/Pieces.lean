/-!
# Texts in pieces

Cutting a text at every occurrence of a character, and joining pieces with a character between them.
-/

namespace FleetTraffic.Text

/-- The pieces of a text between the occurrences of a character. -/
def piecesBetween (separator : Char) (text : List Char) : List (List Char) :=
  match text with
  | [] => [[]]
  | c :: rest =>
    if c = separator then [] :: piecesBetween separator rest
    else
      match piecesBetween separator rest with
      | piece :: pieces => (c :: piece) :: pieces
      | [] => [[c]]

/-- Pieces with a separator between them. -/
def joinedBy (separator : Char) (pieces : List (List Char)) : List Char :=
  [separator].intercalate pieces

/-- There is always a piece. -/
theorem piecesBetween_ne_nil (separator : Char) (text : List Char) :
    piecesBetween separator text ≠ [] := by
  cases text with
  | nil => simp [piecesBetween]
  | cons c rest =>
    unfold piecesBetween
    split
    · simp
    · split <;> simp

/-- A text is its pieces with the separator between them. -/
theorem joinedBy_piecesBetween (separator : Char) (text : List Char) :
    joinedBy separator (piecesBetween separator text) = text := by
  induction text with
  | nil => rfl
  | cons c rest inductionHypothesis =>
    have present := piecesBetween_ne_nil separator rest
    unfold piecesBetween
    cases pieces : piecesBetween separator rest with
    | nil => exact absurd pieces present
    | cons piece others =>
      rw [pieces] at inductionHypothesis
      split
      next same =>
        simp only [joinedBy] at inductionHypothesis ⊢
        rw [List.intercalate_cons_cons, inductionHypothesis, same]
        rfl
      next =>
        cases others with
        | nil =>
          simp only [joinedBy, List.intercalate_singleton] at inductionHypothesis ⊢
          rw [inductionHypothesis]
        | cons other others =>
          simp only [joinedBy] at inductionHypothesis ⊢
          rw [List.intercalate_cons_cons] at inductionHypothesis ⊢
          simp [← inductionHypothesis]

end FleetTraffic.Text
