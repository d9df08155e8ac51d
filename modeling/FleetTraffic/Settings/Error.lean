import FleetTraffic.Codec.Fault

/-!
# Errors of settings

Why a settings file cannot be used: it does not exist, it does not decode, or a setting has a value
that makes no sense.
-/

namespace FleetTraffic

/-- A setting whose value makes no sense. -/
inductive Violation where
  /-- A port must not be zero. -/
  | portOutOfRange (name : String) (value : Nat)
  /-- A text must not be empty. -/
  | empty (name : String)
  /-- A text that may be left out must not be empty. -/
  | emptyWhenSet (name : String)
  /-- A number must be greater than zero. -/
  | notPositive (name : String) (value : Nat)
  deriving DecidableEq

/-- The violation in words. -/
def Violation.message : Violation → String
  | .portOutOfRange name value =>
    name ++ " must be between 1 and 65535, got " ++ toString value
  | .empty name => name ++ " must be non-empty"
  | .emptyWhenSet name => name ++ " must be non-empty when set"
  | .notPositive name value => name ++ " must be > 0, got " ++ toString value

/-- Why a settings file cannot be used. -/
inductive SettingsError where
  /-- There is no such file. -/
  | noFile
  /-- The text does not decode. -/
  | undecodable (fault : Fault)
  /-- A setting has a value that makes no sense. -/
  | invalid (violation : Violation)
  deriving DecidableEq

/-- The error in words, where it has a text of its own. -/
def SettingsError.message? : SettingsError → Option String
  | .noFile => some "No such file or directory (os error 2)"
  | .undecodable fault => fault.message?
  | .invalid violation => some violation.message

namespace Violation

/-- Demand that a number is greater than zero. -/
def positive (name : String) (value : UInt64) : Except Violation Unit :=
  if 0 < value then .ok () else .error (.notPositive name value.toNat)

/-- Demand that a text is not empty. -/
def nonEmpty (name : String) (value : String) : Except Violation Unit :=
  if value = "" then .error (.empty name) else .ok ()

end Violation

namespace SettingsError

/-- Settings that decode and then pass their check. -/
def checked {α : Type} (check : α → Except Violation Unit) : Except Fault α → Except SettingsError α
  | .error fault => .error (.undecodable fault)
  | .ok settings =>
    match check settings with
    | .error violation => .error (.invalid violation)
    | .ok () => .ok settings

end SettingsError

end FleetTraffic
