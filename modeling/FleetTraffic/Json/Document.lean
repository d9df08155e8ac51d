import FleetTraffic.Json.Token

/-!
# From tokens to trees

The reader goes through the tokens once and keeps the containers that are still open on a stack. At
a token that does not fit, or at the end of the tokens, it gives up: the value that was expected is
`broken` and every container on the stack stays open.
-/

namespace FleetTraffic

open Text

/-- A container that is still open while one of its values is read. Its parts are listed from the
latest to the first. -/
inductive Frame where
  | array (done : List Json)
  | object (done : List (List Glyph × Json)) (key : List Glyph)

/-- What the reader expects next, and the containers around that place. -/
inductive Expectation where
  /-- A value. -/
  | anyValue (frames : List Frame)
  /-- The first item of an array, or its end. -/
  | firstItem (frames : List Frame)
  /-- A comma, or the end of an array. -/
  | afterItem (done : List Json) (frames : List Frame)
  /-- The first name of an object, or its end. -/
  | firstName (frames : List Frame)
  /-- A name. -/
  | anyName (done : List (List Glyph × Json)) (frames : List Frame)
  /-- The colon after a name. -/
  | colonAfter (done : List (List Glyph × Json)) (key : List Glyph) (frames : List Frame)
  /-- A comma, or the end of an object. -/
  | afterField (done : List (List Glyph × Json)) (frames : List Frame)
  /-- Nothing: the outermost value is complete. -/
  | nothing (root : Json)

/-- A text that was read as JSON: its first value, and whether only blanks follow it. -/
structure Document where
  root : Json
  alone : Bool

namespace Expectation

/-- What is expected once a value is complete. -/
def afterValue (value : Json) : List Frame → Expectation
  | [] => .nothing value
  | .array done :: frames => .afterItem (value :: done) frames
  | .object done key :: frames => .afterField ((key, value) :: done) frames

/-- What is expected after the first token of a value. -/
def startValue (frames : List Frame) : Token → Option Expectation
  | .openArray => some (.firstItem frames)
  | .openObject => some (.firstName frames)
  | .scalar value => some (afterValue value frames)
  | .text glyphs => some (afterValue (.text glyphs) frames)
  | _ => none

/-- What is expected after a token, if the token fits. -/
def next? : Expectation → Token → Option Expectation
  | .anyValue frames, token => startValue frames token
  | .firstItem frames, .closeArray => some (afterValue (.array [] true) frames)
  | .firstItem frames, token => startValue (.array [] :: frames) token
  | .afterItem done frames, .comma => some (.anyValue (.array done :: frames))
  | .afterItem done frames, .closeArray => some (afterValue (.array done.reverse true) frames)
  | .firstName frames, .closeObject => some (afterValue (.object [] true) frames)
  | .firstName frames, .text key => some (.colonAfter [] key frames)
  | .anyName done frames, .text key => some (.colonAfter done key frames)
  | .colonAfter done key frames, .colon => some (.anyValue (.object done key :: frames))
  | .afterField done frames, .comma => some (.anyName done frames)
  | .afterField done frames, .closeObject => some (afterValue (.object done.reverse true) frames)
  | _, _ => none

/-- The value around an unfinished one, with every container left open. -/
def enclose (inner : Json) : List Frame → Json
  | [] => inner
  | .array done :: frames => enclose (.array (inner :: done).reverse false) frames
  | .object done key :: frames => enclose (.object ((key, inner) :: done).reverse false) frames

/-- The value as far as it was read. -/
def giveUp : Expectation → Json
  | .anyValue frames => enclose .broken frames
  | .firstItem frames => enclose (.array [] false) frames
  | .afterItem done frames => enclose (.array done.reverse false) frames
  | .firstName frames => enclose (.object [] false) frames
  | .anyName done frames => enclose (.object done.reverse false) frames
  | .colonAfter done key frames => enclose (.object ((key, .broken) :: done).reverse false) frames
  | .afterField done frames => enclose (.object done.reverse false) frames
  | .nothing root => root

/-- The document that tokens make up from an expectation on. -/
def read : Expectation → List Token → Document
  | .nothing root, rest => ⟨root, rest.isEmpty⟩
  | expectation, [] => ⟨expectation.giveUp, true⟩
  | expectation, token :: rest =>
    match expectation.next? token with
    | some expectation => read expectation rest
    | none => ⟨expectation.giveUp, false⟩

end Expectation

namespace Document

/-- A received text as a JSON document. -/
def ofSource (source : Source) : Document := (Expectation.anyValue []).read (Token.all source)

/-- Received bytes as a JSON document. -/
def ofBytes (bytes : ByteArray) : Document := ofSource (Source.ofBytes bytes)

/-- A text as a JSON document. -/
def ofText (text : String) : Document := ofSource (Source.ofChars text.toList)

end Document

end FleetTraffic
