import FleetTraffic.Proofs.Json.Lexing

/-!
# Written JSON is read back

A reader that goes through the tokens of a written tree comes to expect what it would expect after the
value, with the value itself in its place. So the text of a written tree is a document of just this tree.
-/

namespace FleetTraffic

open Text

namespace Expectation

/-- A token that fits is taken. -/
theorem read_cons {expectation next : Expectation} {token : Token}
    (fits : expectation.next? token = some next) (rest : List Token) :
    expectation.read (token :: rest) = next.read rest := by
  cases expectation with
  | nothing root => cases fits
  | _ => simp only [read, fits]

/-- A written tree begins with a token that begins a value, and so no array ends there. -/
theorem tokens_begin {json : Json} (written : json.Written) :
    ∃ token rest, json.tokens = token :: rest ∧
      ∀ frames, ∃ next, (anyValue frames).next? token = some next ∧
        ∀ outer, frames = .array [] :: outer → (firstItem outer).next? token = some next := by
  cases written with
  | null => exact ⟨_, _, rfl, fun _ => ⟨_, rfl, by rintro _ rfl; rfl⟩⟩
  | bool value => exact ⟨_, _, rfl, fun _ => ⟨_, rfl, by rintro _ rfl; rfl⟩⟩
  | natural value => exact ⟨_, _, rfl, fun _ => ⟨_, rfl, by rintro _ rfl; rfl⟩⟩
  | text value => exact ⟨_, _, rfl, fun _ => ⟨_, rfl, by rintro _ rfl; rfl⟩⟩
  | items items _ => exact ⟨_, _, rfl, fun _ => ⟨_, rfl, by rintro _ rfl; rfl⟩⟩
  | fields fields _ => exact ⟨_, _, rfl, fun _ => ⟨_, rfl, by rintro _ rfl; rfl⟩⟩

/-- The first item of an array is read like any value. -/
theorem read_firstItem {json : Json} (written : json.Written) (frames : List Frame) (rest : List Token) :
    (firstItem frames).read (json.tokens ++ rest) =
      (anyValue (.array [] :: frames)).read (json.tokens ++ rest) := by
  obtain ⟨token, others, shown, begins⟩ := tokens_begin written
  obtain ⟨next, asValue, asItem⟩ := begins (.array [] :: frames)
  rw [shown, List.cons_append, read_cons asValue, read_cons (asItem frames rfl)]

/-- The rest of an array is read item by item. -/
theorem read_itemTokens {first : Json} {items : List Json}
    (each : ∀ item ∈ first :: items, ∀ frames rest,
      (anyValue frames).read (item.tokens ++ rest) = (afterValue item frames).read rest)
    (done : List Json) (frames : List Frame) (rest : List Token) :
    (anyValue (.array done :: frames)).read (Json.itemTokens (first :: items) ++ .closeArray :: rest) =
      (afterValue (.array (done.reverse ++ first :: items) true) frames).read rest := by
  induction items generalizing first done with
  | nil =>
    have value := each first List.mem_cons_self (.array done :: frames) (.closeArray :: rest)
    rw [Json.itemTokens, value, afterValue, read_cons rfl, List.reverse_cons]
  | cons second items induction =>
    have value := each first List.mem_cons_self (.array done :: frames)
    have onward := induction (fun item member => each item (List.mem_cons_of_mem first member))
      (first :: done)
    rw [Json.itemTokens, List.append_assoc, value, afterValue, List.cons_append, read_cons rfl, onward,
      List.reverse_cons, List.append_assoc, List.singleton_append]

/-- The rest of an object is read field by field. -/
theorem read_fieldTokens {first : String × Json} {fields : List (String × Json)}
    (each : ∀ field ∈ first :: fields, ∀ frames rest,
      (anyValue frames).read (field.2.tokens ++ rest) = (afterValue field.2 frames).read rest)
    (done : List (List Glyph × Json)) (frames : List Frame) (rest : List Token) :
    (anyName done frames).read
        (Json.fieldTokens ((first :: fields).map Json.writeField) ++ .closeObject :: rest) =
      (afterValue (.object (done.reverse ++ (first :: fields).map Json.writeField) true) frames).read
        rest := by
  induction fields generalizing first done with
  | nil =>
    have value := each first List.mem_cons_self (.object done (Json.writeField first).1 :: frames)
    simp only [List.map_cons, List.map_nil, Json.writeField, Json.fieldTokens, List.cons_append] at value ⊢
    rw [read_cons rfl, read_cons rfl, value, afterValue, read_cons rfl, List.reverse_cons]
  | cons second fields induction =>
    have value := each first List.mem_cons_self (.object done (Glyph.encode first.1.toList) :: frames)
    have onward := induction (fun field member => each field (List.mem_cons_of_mem first member))
      ((Glyph.encode first.1.toList, first.2) :: done)
    simp only [List.map_cons] at onward ⊢
    rw [Json.writeField, Json.fieldTokens, List.cons_append, List.cons_append, List.append_assoc,
      read_cons rfl, read_cons rfl, value, afterValue, List.cons_append, read_cons rfl, onward,
      List.reverse_cons, List.append_assoc, List.singleton_append]

/-- After the tokens of a written tree a reader expects what follows a value, by induction on how the tree is
written. -/
theorem read_tokens {json : Json} (written : json.Written) (frames : List Frame) (rest : List Token) :
    (anyValue frames).read (json.tokens ++ rest) = (afterValue json frames).read rest := by
  induction written generalizing frames rest with
  | null => exact read_cons rfl rest
  | bool value => exact read_cons rfl rest
  | natural value => exact read_cons rfl rest
  | text value => exact read_cons rfl rest
  | items items written induction =>
    cases items with
    | nil => exact (read_cons rfl _).trans (read_cons rfl rest)
    | cons first items =>
      have inner := read_itemTokens induction [] frames rest
      have begins : (firstItem frames).read (Json.itemTokens (first :: items) ++ .closeArray :: rest) =
          (anyValue (.array [] :: frames)).read
            (Json.itemTokens (first :: items) ++ .closeArray :: rest) := by
        have here := read_firstItem (written first List.mem_cons_self) frames
        cases items with
        | nil => exact here _
        | cons second items =>
          rw [Json.itemTokens, List.append_assoc]
          exact here _
      rw [Json.ofItems, Json.tokens, List.cons_append, List.append_assoc, List.singleton_append,
        read_cons rfl, begins, inner]
      rfl
  | fields fields written induction =>
    cases fields with
    | nil => exact (read_cons rfl _).trans (read_cons rfl rest)
    | cons first fields =>
      have inner := read_fieldTokens induction [] frames rest
      have begins : (firstName frames).read
            (Json.fieldTokens ((first :: fields).map Json.writeField) ++ .closeObject :: rest) =
          (anyName [] frames).read
            (Json.fieldTokens ((first :: fields).map Json.writeField) ++ .closeObject :: rest) := by
        cases fields <;> exact (read_cons rfl _).trans (read_cons rfl _).symm
      rw [Json.ofFields, Json.tokens, List.cons_append, List.append_assoc, List.singleton_append,
        read_cons rfl]
      exact begins.trans inner

end Expectation

namespace Document

/-- The text of a written tree is a document of just this tree. -/
theorem ofSource_print {json : Json} (written : json.Written) :
    ofSource (Source.ofChars (json.print [])) = ⟨json, true⟩ := by
  have ends : Token.Ends [] := fun _ => nofun
  have tokens := Json.all_print written ends
  have nothing : Token.all (Source.ofChars []) = [] := Token.all.eq_1
  rw [ofSource, tokens, Expectation.read_tokens written, nothing]
  rfl

/-- The bytes of the text of a written tree are a document of just this tree. -/
theorem ofBytes_toText {json : Json} (written : json.Written) :
    ofBytes json.toText.toUTF8 = ⟨json, true⟩ := by
  rw [ofBytes, Source.ofBytes_toUTF8, Json.toText, String.toList_ofList, ofSource_print written]

end Document

end FleetTraffic
