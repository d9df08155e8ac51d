import FleetTraffic.Json.Basic
import FleetTraffic.Text.Source

/-!
# JSON tokens

The marks, words, numbers and strings of a JSON text in order. Lexing stops at the first character
that begins no token, and leaves a `fault` there.
-/

namespace FleetTraffic

open Text

/-- A lexical unit of JSON. -/
inductive Token where
  | openArray
  | closeArray
  | openObject
  | closeObject
  | comma
  | colon
  /-- A word or a number. -/
  | scalar (value : Json)
  | text (glyphs : List Glyph)
  /-- No token begins here. -/
  | fault

namespace Token

/-- The value of four hexadecimal digits. -/
def hexUnit? (a b c d : Option Char) : Option Nat := do
  let a ← hexDigit? (← a)
  let b ← hexDigit? (← b)
  let c ← hexDigit? (← c)
  let d ← hexDigit? (← d)
  return ((a * 16 + b) * 16 + c) * 16 + d

/-- The character that a backslash and a letter stand for. -/
def escape? : Char → Option Char
  | '"' => some '"'
  | '\\' => some '\\'
  | '/' => some '/'
  | 'b' => some '\x08'
  | 'f' => some '\x0C'
  | 'n' => some '\n'
  | 'r' => some '\r'
  | 't' => some '\t'
  | _ => none

/-- The glyphs of a string after its opening quote, and the text after its closing quote. There are
none if the string does not close, holds a bare control character or a wrong escape. -/
def readGlyphs : Source → Option (List Glyph × Source)
  | [] => none
  | none :: rest => (readGlyphs rest).map fun read => (.damaged :: read.1, read.2)
  | some '"' :: rest => some ([], rest)
  | some '\\' :: some 'u' :: a :: b :: c :: d :: rest =>
    match hexUnit? a b c d with
    | none => none
    | some value => (readGlyphs rest).map fun read => (.unit value :: read.1, read.2)
  | some '\\' :: some c :: rest =>
    match escape? c with
    | none => none
    | some meant => (readGlyphs rest).map fun read => (.escaped meant :: read.1, read.2)
  | some '\\' :: _ => none
  | some c :: rest =>
    if c.toNat < 0x20 then none
    else (readGlyphs rest).map fun read => (.plain c :: read.1, read.2)

/-- The run of digits in front of a text. -/
def spanDigits : Source → List Char × Source
  | some c :: rest =>
    if isDigit c then
      let read := spanDigits rest
      (c :: read.1, read.2)
    else ([], some c :: rest)
  | source => ([], source)

/-- An integer part: one zero, or digits that do not start with a zero. -/
def readWhole (source : Source) : Option (List Char × Source) :=
  match spanDigits source with
  | ([], _) => none
  | (['0'], rest) => some (['0'], rest)
  | ('0' :: _, _) => none
  | read => some read

/-- A fraction of at least one digit after a point, if there is a point. -/
def readFraction (source : Source) : Option (List Char × Source) :=
  match source with
  | some '.' :: rest =>
    match spanDigits rest with
    | ([], _) => none
    | read => some read
  | _ => some ([], source)

/-- An exponent, if there is an `e`. -/
def readExponent (source : Source) : Option (Option Int × Source) :=
  match source with
  | some c :: rest =>
    if c = 'e' ∨ c = 'E' then
      let (sign, rest) : Int × Source := match rest with
        | some '+' :: rest => (1, rest)
        | some '-' :: rest => (-1, rest)
        | _ => (1, rest)
      match spanDigits rest with
      | ([], _) => none
      | (digits, rest) => some (some (sign * number digits), rest)
    else some (none, source)
  | _ => some (none, source)

/-- A number without its sign. -/
def readUnsigned (negative : Bool) (source : Source) : Option (Json × Source) := do
  let (whole, rest) ← readWhole source
  let (fraction, rest) ← readFraction rest
  let (exponent, rest) ← readExponent rest
  match negative, fraction, exponent with
  | false, [], none => return (.natural (number whole), rest)
  | _, _, _ =>
    return (.decimal negative (number (whole ++ fraction)) fraction.length (exponent.getD 0), rest)

/-- A number. -/
def readNumber (source : Source) : Option (Json × Source) :=
  match source with
  | some '-' :: rest => readUnsigned true rest
  | _ => readUnsigned false source

/-- The first token of a text that does not start with a blank, and what follows it. -/
def first? (source : Source) : Option (Token × Source) :=
  match source with
  | some '[' :: rest => some (.openArray, rest)
  | some ']' :: rest => some (.closeArray, rest)
  | some '\x7b' :: rest => some (.openObject, rest)
  | some '\x7d' :: rest => some (.closeObject, rest)
  | some ',' :: rest => some (.comma, rest)
  | some ':' :: rest => some (.colon, rest)
  | some '"' :: rest => (readGlyphs rest).map fun read => (.text read.1, read.2)
  | some 'n' :: some 'u' :: some 'l' :: some 'l' :: rest => some (.scalar .null, rest)
  | some 't' :: some 'r' :: some 'u' :: some 'e' :: rest => some (.scalar (.bool true), rest)
  | some 'f' :: some 'a' :: some 'l' :: some 's' :: some 'e' :: rest =>
    some (.scalar (.bool false), rest)
  | _ => (readNumber source).map fun read => (.scalar read.1, read.2)

/-- Whether a position is a blank of JSON. -/
def isBlank (position : Option Char) : Bool :=
  position == some ' ' || position == some '\n' || position == some '\t' || position == some '\r'

/-- A string is longer than what follows it. -/
theorem length_readGlyphs {source : Source} {read : List Glyph × Source}
    (found : readGlyphs source = some read) : read.2.length < source.length := by
  fun_induction readGlyphs source generalizing read with
  | case1 => cases found
  | case3 => cases found; simp
  | case4 => cases found
  | case6 => cases found
  | case8 => cases found
  | case9 => cases found
  | case2 rest inductionHypothesis =>
    obtain ⟨inner, equal, rfl⟩ := Option.map_eq_some_iff.1 found
    have shorter := inductionHypothesis equal
    simp only [List.length_cons]; omega
  | case5 a b c d rest value _ inductionHypothesis =>
    obtain ⟨inner, equal, rfl⟩ := Option.map_eq_some_iff.1 found
    have shorter := inductionHypothesis equal
    simp only [List.length_cons]; omega
  | case7 c rest _ meant _ inductionHypothesis =>
    obtain ⟨inner, equal, rfl⟩ := Option.map_eq_some_iff.1 found
    have shorter := inductionHypothesis equal
    simp only [List.length_cons]; omega
  | case10 c rest _ _ _ _ _ inductionHypothesis =>
    obtain ⟨inner, equal, rfl⟩ := Option.map_eq_some_iff.1 found
    have shorter := inductionHypothesis equal
    simp only [List.length_cons]; omega

/-- A run of digits and what follows it make up the text. -/
theorem length_spanDigits (source : Source) :
    (spanDigits source).1.length + (spanDigits source).2.length = source.length := by
  induction source with
  | nil => rfl
  | cons position rest inductionHypothesis =>
    cases position with
    | none => simp [spanDigits]
    | some c =>
      unfold spanDigits
      split
      · simp only [List.length_cons]; omega
      · simp

/-- An integer part is at least one digit. -/
theorem length_readWhole {source : Source} {read : List Char × Source}
    (found : readWhole source = some read) : read.2.length < source.length := by
  have whole := length_spanDigits source
  unfold readWhole at found
  generalize spanDigits source = spanned at whole found
  obtain ⟨digits, rest⟩ := spanned
  cases digits with
  | nil => cases found
  | cons digit digits =>
    simp only [List.length_cons] at whole
    split at found <;> cases found <;> simp_all <;> omega

/-- A fraction is not longer than the text. -/
theorem length_readFraction {source : Source} {read : List Char × Source}
    (found : readFraction source = some read) : read.2.length ≤ source.length := by
  unfold readFraction at found
  split at found
  next rest =>
    have whole := length_spanDigits rest
    generalize spanDigits rest = spanned at whole found
    split at found <;> cases found
    simp only [List.length_cons]; omega
  next => cases found; simp

/-- An exponent is not longer than the text. -/
theorem length_readExponent {source : Source} {read : Option Int × Source}
    (found : readExponent source = some read) : read.2.length ≤ source.length := by
  unfold readExponent at found
  split at found
  next c rest =>
    split at found
    · simp only at found
      split at found
      · cases found
      next digits rest' _ equal =>
        cases found
        have whole := length_spanDigits
          (match rest with
            | some '+' :: rest => ((1 : Int), rest)
            | some '-' :: rest => (-1, rest)
            | _ => (1, rest)).2
        rw [equal] at whole
        simp only [List.length_cons]
        split at whole <;> simp only [List.length_cons] at * <;> omega
    · cases found; simp
  next => cases found; simp

/-- A number is longer than what follows it. -/
theorem length_readUnsigned {negative : Bool} {source : Source} {read : Json × Source}
    (found : readUnsigned negative source = some read) : read.2.length < source.length := by
  simp only [readUnsigned, bind, Option.bind_eq_some_iff] at found
  obtain ⟨⟨whole, afterWhole⟩, readWhole, ⟨fraction, afterFraction⟩, readFraction,
    ⟨exponent, afterExponent⟩, readExponent, made⟩ := found
  have first := length_readWhole readWhole
  have second := length_readFraction readFraction
  have third := length_readExponent readExponent
  simp only at first second third made
  split at made <;> cases made <;> simp only <;> omega

/-- A number is longer than what follows it. -/
theorem length_readNumber {source : Source} {read : Json × Source}
    (found : readNumber source = some read) : read.2.length < source.length := by
  unfold readNumber at found
  split at found
  · have shorter := length_readUnsigned found
    simp only [List.length_cons]; omega
  · exact length_readUnsigned found

/-- A token is longer than what follows it. -/
theorem length_first? {source : Source} {token : Token} {rest : Source}
    (found : first? source = some (token, rest)) : rest.length < source.length := by
  unfold first? at found
  split at found <;>
    first
    | (cases found; simp only [List.length_cons]; omega)
    | skip
  · obtain ⟨inner, equal, made⟩ := Option.map_eq_some_iff.1 found
    cases made
    have shorter := length_readGlyphs equal
    simp only [List.length_cons]; omega
  · obtain ⟨inner, equal, made⟩ := Option.map_eq_some_iff.1 found
    cases made
    exact length_readNumber equal

/-- The tokens of a text, up to the first fault. -/
def all (source : Source) : List Token :=
  match source with
  | [] => []
  | position :: rest =>
    if isBlank position then all rest
    else
      match _found : first? (position :: rest) with
      | none => [.fault]
      | some (token, rest) => token :: all rest
  termination_by source.length
  decreasing_by
    · simp
    · exact length_first? _found

end Token

end FleetTraffic
