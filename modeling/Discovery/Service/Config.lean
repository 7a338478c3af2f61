import Discovery.Registry.Settings
import Discovery.Service.SocketAddress
import Discovery.Text.WhiteSpace

/-!
# Configuration of the service

The service is configured by three variables, each of which has a value to fall back on: where it
listens, how many seconds a time slot has, and how many slots are granted by default. They are read
in this order, and the first that cannot be read is reported. White space around a value is dropped
before it is read; a report shows the value as it was set.
-/

namespace Discovery

/-- The variables that configure the service. -/
inductive ConfigVariable where
  | listenAddress
  | slotSeconds
  | defaultSlots
deriving Repr, DecidableEq

namespace ConfigVariable

def name : ConfigVariable → String
  | listenAddress => "CTX_LISTEN_ADDR"
  | slotSeconds => "CTX_TIME_SLOT_SECS"
  | defaultSlots => "CTX_DEFAULT_LEASE_SLOTS"

/-- The value of a variable that is not set. -/
def fallback : ConfigVariable → String
  | listenAddress => "127.0.0.1:5555"
  | slotSeconds => toString LeaseSettings.standardSlotSeconds
  | defaultSlots => toString LeaseSettings.standardSlots.toNat

end ConfigVariable

/-- What is wrong with a value. -/
inductive ConfigFault where
  | notAnAddress
  | notANumber (error : Text.NumeralError)
  | zero
deriving Repr, DecidableEq

def ConfigFault.message : ConfigFault → String
  | .notAnAddress => "invalid socket address syntax"
  | .notANumber error => error.message
  | .zero => "must be greater than zero"

/-- Which variable cannot be read, its value, and why. -/
structure ConfigError where
  setting : ConfigVariable
  value : String
  fault : ConfigFault
deriving Repr, DecidableEq

def ConfigError.message (error : ConfigError) : String :=
  s!"{error.setting.name}={Text.quoted error.value} is invalid: {error.fault.message}"

/-- The configuration of the service. -/
structure ServiceConfig where
  listenAddress : SocketAddress
  lease : LeaseSettings
deriving Repr, DecidableEq

namespace ServiceConfig

def readAddress (s : String) : Except ConfigFault SocketAddress :=
  match SocketAddress.read? s with
  | some address => .ok address
  | none => .error .notAnAddress

/-- Reads a number below the bound that is not zero. -/
def readPositive (bound : Nat) (s : String) : Except ConfigFault Nat :=
  match Text.readDecimal bound s with
  | .error error => .error (.notANumber error)
  | .ok 0 => .error .zero
  | .ok n => .ok n

/-- Reads the value of a variable, or the one it falls back on. -/
def readVariable {α : Type} (lookup : String → Option String) (v : ConfigVariable)
    (read : String → Except ConfigFault α) : Except ConfigError α :=
  let value := (lookup v.name).getD v.fallback
  (read (Text.trim value)).mapError fun fault => ⟨v, value, fault⟩

/-- The configuration that the variables make. -/
def ofLookup (lookup : String → Option String) : Except ConfigError ServiceConfig := do
  let address ← readVariable lookup .listenAddress readAddress
  let seconds ← readVariable lookup .slotSeconds (readPositive UInt64.size)
  let slots ← readVariable lookup .defaultSlots (readPositive UInt32.size)
  return ⟨address, ⟨.ofSeconds seconds, UInt32.ofNat slots⟩⟩

end ServiceConfig

end Discovery
