import FleetTraffic.Json.Document
import FleetTraffic.Json.Printer
import FleetTraffic.Proofs.Text.Written

/-!
# The tokens of written JSON

A tree that a codec writes is whole: its containers are closed, its strings are written in one way, and its
numbers are natural. The text of such a tree has the tokens of the tree, whatever follows, as long as what
follows does not go on with a number.
-/

namespace FleetTraffic

open Text

/-! ## Strings -/

namespace Glyph

/-- A code unit that is no surrogate stands for its character. -/
theorem decode?_unit {value : Nat} (small : value < 0xD800) (rest : List Glyph) :
    decode? (.unit value :: rest) = (decode? rest).map (Char.ofNat value :: ·) := by
  have leading : isLeadingSurrogate value = false := by simp [isLeadingSurrogate]; omega
  have trailing : isTrailingSurrogate value = false := by simp [isTrailingSurrogate]; omega
  rcases rest with _ | ⟨_ | _ | _ | _, _⟩ <;> simp [decode?, leading, trailing]

/-- A written character stands for itself. -/
theorem decode?_encodeChar (c : Char) (rest : List Glyph) :
    decode? (encodeChar c :: rest) = (decode? rest).map (c :: ·) := by
  rw [encodeChar]
  split
  next => rfl
  next =>
    split
    next control => rw [decode?_unit (by omega), Char.ofNat_toNat]
    next => rfl

/-- A written text is read back. -/
theorem decode?_encode (text : List Char) : decode? (encode text) = some text := by
  induction text with
  | nil => rfl
  | cons c rest induction =>
    rw [encode, List.map_cons, decode?_encodeChar, ← encode, induction, Option.map_some]

end Glyph

namespace Token

/-- The digits of a small code unit are read back. -/
theorem hexUnit?_hexDigits : ∀ value < 0x20,
    hexUnit? (some (Glyph.hexDigit (value / 4096))) (some (Glyph.hexDigit (value / 256)))
      (some (Glyph.hexDigit (value / 16))) (some (Glyph.hexDigit value)) = some value := by
  decide

/-- The sign of a character that is written with a backslash is read back. -/
theorem escape?_escapeSign {c : Char}
    (signed : c = '"' ∨ c = '\\' ∨ c = '\n' ∨ c = '\r' ∨ c = '\t' ∨ c = '\x08' ∨ c = '\x0C') :
    escape? (Glyph.escapeSign c) = some c ∧ Glyph.escapeSign c ≠ 'u' := by
  rcases signed with rfl | rfl | rfl | rfl | rfl | rfl | rfl <;> decide

/-- A written character is one glyph of a string. -/
theorem readGlyphs_encodeChar (c : Char) (rest : List Char) :
    readGlyphs (Source.ofChars ((Glyph.encodeChar c).print rest)) =
      (readGlyphs (Source.ofChars rest)).map fun read => (Glyph.encodeChar c :: read.1, read.2) := by
  rw [Glyph.encodeChar]
  split
  next signed =>
    obtain ⟨meant, other⟩ := escape?_escapeSign signed
    simp [Glyph.print, Source.ofChars, readGlyphs, meant, other]
  next unsigned =>
    split
    next control =>
      have read := hexUnit?_hexDigits c.toNat control
      simp [Glyph.print, Source.ofChars, readGlyphs, read]
    next bare =>
      simp only [not_or] at unsigned
      simp [Glyph.print, Source.ofChars, readGlyphs, unsigned, bare]

/-- A written string is read back, whatever follows it. -/
theorem readGlyphs_encode (text rest : List Char) :
    readGlyphs (Source.ofChars
        ((Glyph.encode text).foldr (fun glyph rest => glyph.print rest) ('"' :: rest))) =
      some (Glyph.encode text, Source.ofChars rest) := by
  induction text with
  | nil => rfl
  | cons c text induction =>
    rw [Glyph.encode, List.map_cons, List.foldr_cons, readGlyphs_encodeChar, ← Glyph.encode, induction,
      Option.map_some]

/-! ## Numbers -/

/-- What follows does not go on with a number. -/
def Ends (text : List Char) : Prop :=
  ∀ c ∈ text.head?, isDigit c = false ∧ c ≠ '.' ∧ c ≠ 'e' ∧ c ≠ 'E'

/-- A run of digits is read to its end. -/
theorem spanDigits_append {run rest : List Char} (all : ∀ c ∈ run, isDigit c = true)
    (ends : NoDigitFirst rest) :
    spanDigits (Source.ofChars (run ++ rest)) = (run, Source.ofChars rest) := by
  induction run with
  | nil =>
    cases rest with
    | nil => rfl
    | cons c rest => simp [Source.ofChars, spanDigits, ends c rfl]
  | cons digit run induction =>
    have read := induction fun c member => all c (List.mem_cons_of_mem digit member)
    simp only [Source.ofChars, List.cons_append, List.map_cons] at read ⊢
    simp only [spanDigits, all digit List.mem_cons_self, if_true, read]

/-- The digits of a number are a whole number. -/
theorem readWhole_digits (value : Nat) {rest : List Char} (ends : NoDigitFirst rest) :
    readWhole (Source.ofChars (digits value ++ rest)) = some (digits value, Source.ofChars rest) := by
  rw [readWhole, spanDigits_append (fun c member => isDigit_of_mem_digits member) ends]
  by_cases zero : value = 0
  · rw [zero]
    rfl
  · obtain ⟨first, others, shown, _⟩ := exists_cons_digits value
    have positive : first ≠ '0' := by
      rintro rfl
      exact zero ((digits_zero_iff value).mp (by rw [shown]; rfl))
    simp [shown, positive]

/-- A written number is read back. -/
theorem readNumber_digits (value : Nat) {rest : List Char} (ends : Ends rest) :
    readNumber (Source.ofChars (digits value ++ rest)) = some (.natural value, Source.ofChars rest) := by
  have whole := readWhole_digits value fun c head => (ends c head).1
  have fraction : readFraction (Source.ofChars rest) = some ([], Source.ofChars rest) := by
    cases rest with
    | nil => rfl
    | cons c rest => simp [Source.ofChars, readFraction, (ends c rfl).2.1]
  have exponent : readExponent (Source.ofChars rest) = some (none, Source.ofChars rest) := by
    cases rest with
    | nil => rfl
    | cons c rest => simp [Source.ofChars, readExponent, (ends c rfl).2.2]
  have unsigned : readUnsigned false (Source.ofChars (digits value ++ rest)) =
      some (.natural value, Source.ofChars rest) := by
    simp [readUnsigned, whole, fraction, exponent, number_digits]
  obtain ⟨first, others, shown, digit⟩ := exists_cons_digits value
  have unsignedFirst : first ≠ '-' := by
    rintro rfl
    cases digit
  rw [← unsigned, shown]
  simp [Source.ofChars, readNumber, unsignedFirst]

/-! ## First tokens -/

/-- A written number is a token. -/
theorem first?_digits (value : Nat) {rest : List Char} (ends : Ends rest) :
    first? (Source.ofChars (digits value ++ rest)) =
      some (.scalar (.natural value), Source.ofChars rest) := by
  have read := readNumber_digits value ends
  obtain ⟨first, others, shown, digit⟩ := exists_cons_digits value
  rw [shown] at read ⊢
  simp only [Source.ofChars, List.cons_append, List.map_cons] at read ⊢
  -- None of the marks and letters that begin another token is a digit.
  unfold first?
  split
  case h_11 => rw [read, Option.map_some]
  all_goals
    next shape =>
      injection shape with same
      injection same with same
      rw [same] at digit
      cases digit

/-- A token that does not begin with a blank is the first of all tokens. -/
theorem all_of_first? {position : Option Char} {source after : Source} {token : Token}
    (visible : isBlank position = false) (found : first? (position :: source) = some (token, after)) :
    all (position :: source) = token :: all after := by
  rw [all, if_neg (by simp [visible])]
  split
  next absent =>
    rw [found] at absent
    cases absent
  next _ _ present =>
    rw [found] at present
    cases present
    rfl

/-- A comma is a token. -/
theorem all_comma (rest : List Char) :
    all (Source.ofChars (',' :: rest)) = .comma :: all (Source.ofChars rest) := all_of_first? rfl rfl

/-- A colon is a token. -/
theorem all_colon (rest : List Char) :
    all (Source.ofChars (':' :: rest)) = .colon :: all (Source.ofChars rest) := all_of_first? rfl rfl

/-- The end of an array is a token. -/
theorem all_closeArray (rest : List Char) :
    all (Source.ofChars (']' :: rest)) = .closeArray :: all (Source.ofChars rest) :=
  all_of_first? rfl rfl

/-- The end of an object is a token. -/
theorem all_closeObject (rest : List Char) :
    all (Source.ofChars ('\x7d' :: rest)) = .closeObject :: all (Source.ofChars rest) :=
  all_of_first? rfl rfl

/-- A written string is a token, and what follows it has its own tokens. -/
theorem all_printAll (text rest : List Char) :
    all (Source.ofChars (Glyph.printAll (Glyph.encode text) rest)) =
      .text (Glyph.encode text) :: all (Source.ofChars rest) := by
  refine all_of_first? rfl ?_
  change (readGlyphs _).map _ = _
  rw [← Source.ofChars, readGlyphs_encode, Option.map_some]

/-- A written number is a token, and what follows it has its own tokens. -/
theorem all_digits (value : Nat) {rest : List Char} (ends : Ends rest) :
    all (Source.ofChars (digits value ++ rest)) =
      .scalar (.natural value) :: all (Source.ofChars rest) := by
  have found := first?_digits value ends
  obtain ⟨first, others, shown, digit⟩ := exists_cons_digits value
  have visible : isBlank (some first) = false := by
    rw [← Bool.not_eq_true]
    simp only [isBlank, Bool.or_eq_true, beq_iff_eq, Option.some.injEq]
    rintro (((rfl | rfl) | rfl) | rfl) <;> cases digit
  rw [shown] at found ⊢
  exact all_of_first? visible found

end Token

/-! ## Trees -/

/-- A tree that is written: its containers are closed, its strings are those of texts, and its numbers are
natural. -/
inductive Json.Written : Json → Prop where
  | null : Json.Written .null
  | bool (value : Bool) : Json.Written (.bool value)
  | natural (value : Nat) : Json.Written (.natural value)
  | text (value : String) : Json.Written (.ofText value)
  | items (items : List Json) (written : ∀ item ∈ items, Json.Written item) : Json.Written (.ofItems items)
  | fields (fields : List (String × Json)) (written : ∀ field ∈ fields, Json.Written field.2) :
    Json.Written (.ofFields fields)

namespace Json

mutual

/-- The tokens of a tree. -/
def tokens : Json → List Token
  | .text glyphs => [.text glyphs]
  | .array items _ => .openArray :: (itemTokens items ++ [.closeArray])
  | .object fields _ => .openObject :: (fieldTokens fields ++ [.closeObject])
  | scalar => [.scalar scalar]

/-- The tokens of the items of an array, with commas between them. -/
def itemTokens : List Json → List Token
  | [] => []
  | [item] => tokens item
  | item :: other :: items => tokens item ++ .comma :: itemTokens (other :: items)

/-- The tokens of the fields of an object, with commas between them. -/
def fieldTokens : List (List Glyph × Json) → List Token
  | [] => []
  | [(key, value)] => .text key :: .colon :: tokens value
  | (key, value) :: other :: fields =>
    .text key :: .colon :: (tokens value ++ .comma :: fieldTokens (other :: fields))

end

/-- The tokens of an array's items follow from those of each item. -/
theorem all_printItems {items : List Json}
    (each : ∀ item ∈ items, ∀ rest, Token.Ends rest →
      Token.all (Source.ofChars (item.print rest)) = item.tokens ++ Token.all (Source.ofChars rest))
    {rest : List Char} (ends : Token.Ends rest) :
    Token.all (Source.ofChars (printItems items rest)) =
      itemTokens items ++ Token.all (Source.ofChars rest) := by
  induction items with
  | nil => rfl
  | cons item others induction =>
    have first := each item List.mem_cons_self
    have onward := induction fun other member => each other (List.mem_cons_of_mem item member)
    cases others with
    | nil => exact first rest ends
    | cons other items =>
      have comma : Token.Ends (',' :: printItems (other :: items) rest) := by
        rintro c ⟨⟩
        decide
      rw [printItems, first _ comma, Token.all_comma, onward, itemTokens, List.append_assoc,
        List.cons_append]

/-- A field as it stands in a tree. -/
def writeField (field : String × Json) : List Glyph × Json := (Glyph.encode field.1.toList, field.2)

/-- The tokens of an object's fields follow from those of each value. -/
theorem all_printFields {fields : List (String × Json)}
    (each : ∀ field ∈ fields, ∀ rest, Token.Ends rest →
      Token.all (Source.ofChars (field.2.print rest)) =
        field.2.tokens ++ Token.all (Source.ofChars rest))
    {rest : List Char} (ends : Token.Ends rest) :
    Token.all (Source.ofChars (printFields (fields.map writeField) rest)) =
      fieldTokens (fields.map writeField) ++ Token.all (Source.ofChars rest) := by
  induction fields with
  | nil => rfl
  | cons field others induction =>
    have first := each field List.mem_cons_self
    have onward := induction fun other member => each other (List.mem_cons_of_mem field member)
    cases others with
    | nil =>
      simp only [List.map_cons, List.map_nil, writeField, printFields, fieldTokens, List.cons_append]
      rw [Token.all_printAll, Token.all_colon, first rest ends]
    | cons other fields =>
      have comma : Token.Ends (',' :: printFields ((other :: fields).map writeField) rest) := by
        rintro c ⟨⟩
        decide
      simp only [List.map_cons] at comma onward ⊢
      rw [writeField, printFields, Token.all_printAll, Token.all_colon, first _ comma, Token.all_comma,
        onward, fieldTokens, List.cons_append, List.cons_append, List.append_assoc, List.cons_append]

/-- The text of a written tree has the tokens of the tree, by induction on how it is written. -/
theorem all_print {json : Json} (written : json.Written) {rest : List Char} (ends : Token.Ends rest) :
    Token.all (Source.ofChars (json.print rest)) = json.tokens ++ Token.all (Source.ofChars rest) := by
  induction written generalizing rest with
  | null => exact Token.all_of_first? rfl rfl
  | bool value => cases value <;> exact Token.all_of_first? rfl rfl
  | natural value => exact Token.all_digits value ends
  | text value => exact Token.all_printAll value.toList rest
  | items items _ induction =>
    have closing : Token.Ends (']' :: rest) := by
      rintro c ⟨⟩
      decide
    have inner := all_printItems (fun item member rest => induction item member) closing
    calc Token.all (Source.ofChars ((ofItems items).print rest))
        = .openArray :: Token.all (Source.ofChars (printItems items (']' :: rest))) :=
          Token.all_of_first? rfl rfl
      _ = .openArray :: (itemTokens items ++ .closeArray :: Token.all (Source.ofChars rest)) := by
          rw [inner, Token.all_closeArray]
      _ = (ofItems items).tokens ++ Token.all (Source.ofChars rest) := by
          rw [ofItems, tokens, List.cons_append, List.append_assoc, List.singleton_append]
  | fields fields _ induction =>
    have closing : Token.Ends ('\x7d' :: rest) := by
      rintro c ⟨⟩
      decide
    have inner := all_printFields (fun field member rest => induction field member) closing
    calc Token.all (Source.ofChars ((ofFields fields).print rest))
        = .openObject :: Token.all (Source.ofChars (printFields (fields.map writeField)
            ('\x7d' :: rest))) := Token.all_of_first? rfl rfl
      _ = .openObject :: (fieldTokens (fields.map writeField) ++
            .closeObject :: Token.all (Source.ofChars rest)) := by
          rw [inner, Token.all_closeObject]
      _ = (ofFields fields).tokens ++ Token.all (Source.ofChars rest) := by
          rw [ofFields, tokens, List.cons_append, List.append_assoc, List.singleton_append]
          rfl

end Json

end FleetTraffic
