/-!
# Faults of decoding

Why a document does not stand for a value of the wanted type. Three kinds of fault name what is
wrong; all others, among them every fault of the document's own syntax, are `malformed`.
-/

namespace FleetTraffic

/-- The reason why a document does not decode. -/
inductive Fault where
  /-- A record ends without a field that it must have. -/
  | missingField (name : String)
  /-- A field of a record occurs a second time. -/
  | duplicateField (name : String)
  /-- A name is none of the names of an enumeration. -/
  | unknownVariant (found : String) (expected : List String)
  /-- The document is not well formed, or holds a value of another type. -/
  | malformed
  deriving DecidableEq

namespace Fault

/-- A name in backquotes. -/
def quoted (name : String) : String := "`" ++ name ++ "`"

/-- The names that an enumeration allows, as a choice in words. -/
def alternatives : List String → String
  | [first, second] => quoted first ++ " or " ++ quoted second
  | names => "one of " ++ ", ".intercalate (names.map quoted)

/-- The text of a fault that names what is wrong. -/
def message? : Fault → Option String
  | .missingField name => some ("missing field " ++ quoted name)
  | .duplicateField name => some ("duplicate field " ++ quoted name)
  | .unknownVariant found expected =>
    some ("unknown variant " ++ quoted found ++ ", expected " ++ alternatives expected)
  | .malformed => none

/-- A fault in words. One that names nothing is told as a decode error only. -/
def text (fault : Fault) : String := fault.message?.getD "<decode error>"

/-- The value that a name stands for. -/
def ofName {α : Type} (names : List (String × α)) (name : String) : Except Fault α :=
  match names.lookup name with
  | some value => .ok value
  | none => .error (.unknownVariant name (names.map Prod.fst))

end Fault

end FleetTraffic
