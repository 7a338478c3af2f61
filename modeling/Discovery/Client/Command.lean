import Discovery.Client.Signature
import Discovery.Message.Registration
import Discovery.Message.Renewal

/-!
# Commands of the client

What the client can be told to do, and how it is told. Before the name of the command stands, if
anything, where the service is; after it stand what the command takes.
-/

namespace Discovery.Client

/-- What the client can be told to do. -/
inductive Command where
  | register (registration : Registration)
  | heartbeat (request : Heartbeat)
  | deregister (request : Deregistration)
  /-- Finds the components that match all predicates or any, or those that do not. -/
  | query (predicates : List String) (any negated : Bool)
  | leases
  /-- Registers a component and renews its lease in a loop. -/
  | loop (registration : Registration) (slotSeconds : UInt64)
deriving Repr, DecidableEq

/-- A command and where the service is. -/
structure Invocation where
  url : String
  command : Command
deriving Repr, DecidableEq

/-! ## Numbers -/

/-- Reads a number below the bound, with a sign perhaps: zero is the only one below which a minus
can stand. -/
def readSigned? (bound : Nat) (s : String) : Option Nat :=
  match s.toList with
  -- minus zero is zero, and any other number with a minus is below the least
  | '-' :: digits => if digits ≠ [] ∧ digits.all (· = '0') then some 0 else none
  | _ => (Text.readDecimal bound s).toOption

def readPort? (s : String) : Option UInt16 :=
  (readSigned? UInt16.size s).map UInt16.ofNat

def readCount? (s : String) : Option UInt32 :=
  (readSigned? UInt32.size s).map UInt32.ofNat

/-! ## Components -/

/-- What has been said of a component that is to register. -/
structure ComponentDraft where
  id : Option String := none
  hostname : String := "localhost"
  port : Option UInt16 := none
  type : String := ""
  attributes : List String := []
  callbacks : List String := []
  services : List String := []
  slots : Option UInt32 := none
  slotSeconds : UInt64 := 60

namespace ComponentDraft

/-- The options that say what a component is. -/
def options : List (Parameter ComponentDraft) :=
  [⟨"hostname", .single, fun s d => some { d with hostname := s }⟩,
    ⟨"port", .single, fun s d => (readPort? s).map fun n => { d with port := some n }⟩,
    ⟨"type", .single, fun s d => some { d with type := s }⟩,
    ⟨"attribute", .many, fun s d => some { d with attributes := d.attributes ++ [s] }⟩,
    ⟨"callback", .many, fun s d => some { d with callbacks := d.callbacks ++ [s] }⟩,
    ⟨"service", .many, fun s d => some { d with services := d.services ++ [s] }⟩,
    ⟨"slots", .single, fun s d => (readCount? s).map fun n => { d with slots := some n }⟩]

/-- The option that says how many seconds a time slot of the service has. -/
def slotOption : Parameter ComponentDraft :=
  ⟨"time-slot", .single, fun s d =>
    (Text.readUInt64 s).toOption.map fun n => { d with slotSeconds := n }⟩

/-- What a command takes that registers a component, with further options. -/
def signature (further : List (Parameter ComponentDraft)) : Signature ComponentDraft where
  options := options ++ further
  operand := some ⟨"id", .single, fun s d => some { d with id := some s }⟩
  commands := []
  tellsVersion := false

def registration (d : ComponentDraft) : Except Refusal Registration :=
  match d.id, d.port with
  | some id, some port =>
    .ok ⟨id, d.hostname, port, d.type, d.attributes, d.callbacks, d.services, d.slots⟩
  | _, _ => .error .missing

end ComponentDraft

def readRegister (words : List String) : Except Refusal Command := do
  let draft ← (ComponentDraft.signature []).read {} words
  let registration ← draft.registration
  return .register registration

/-- Reads the command that keeps a component registered. -/
def readLoop (words : List String) : Except Refusal Command := do
  let draft ← (ComponentDraft.signature [ComponentDraft.slotOption]).read {} words
  let registration ← draft.registration
  return .loop registration draft.slotSeconds

/-! ## Indexes -/

/-- What has been said of a component that is registered. -/
structure IndexDraft where
  index : Option ComponentIndex := none
  slots : Option UInt32 := none

namespace IndexDraft

/-- What a command takes that is about a registered component, with the given options. -/
def signature (options : List (Parameter IndexDraft)) : Signature IndexDraft where
  options := options
  operand := some ⟨"index", .single, fun s d =>
    (readCount? s).map fun n => { d with index := some n }⟩
  commands := []
  tellsVersion := false

/-- The option that says for how many slots a lease is renewed. -/
def slotsOption : Parameter IndexDraft :=
  ⟨"slots", .single, fun s d => (readCount? s).map fun n => { d with slots := some n }⟩

def required (d : IndexDraft) : Except Refusal ComponentIndex :=
  match d.index with
  | some index => .ok index
  | none => .error .missing

end IndexDraft

def readHeartbeat (words : List String) : Except Refusal Command := do
  let draft ← (IndexDraft.signature [IndexDraft.slotsOption]).read {} words
  let index ← draft.required
  return .heartbeat ⟨index, draft.slots⟩

def readDeregister (words : List String) : Except Refusal Command := do
  let draft ← (IndexDraft.signature []).read {} words
  let index ← draft.required
  return .deregister ⟨index⟩

/-! ## Searches and listings -/

/-- What has been said of the components that are looked for. -/
structure SearchDraft where
  predicates : List String := []
  any : Bool := false
  negated : Bool := false

/-- What the command takes that looks for components. -/
def SearchDraft.signature : Signature SearchDraft where
  options :=
    [⟨"any", .flag, fun _ d => some { d with any := true }⟩,
      ⟨"not", .flag, fun _ d => some { d with negated := true }⟩]
  operand := some ⟨"predicates", .many, fun s d =>
    some { d with predicates := d.predicates ++ [s] }⟩
  commands := []
  tellsVersion := false

def readQuery (words : List String) : Except Refusal Command := do
  let draft ← SearchDraft.signature.read {} words
  if draft.predicates = [] then .error .missing
  else return .query draft.predicates draft.any draft.negated

/-- Reads the command that lists the leases: it takes nothing. -/
def readLeases (words : List String) : Except Refusal Command := do
  let sig : Signature Unit := ⟨[], none, [], false⟩
  sig.read () words
  return .leases

/-! ## The whole line -/

/-- The commands by their names. -/
def readers : List (String × (List String → Except Refusal Command)) :=
  [("register", readRegister), ("heartbeat", readHeartbeat), ("deregister", readDeregister),
    ("query", readQuery), ("leases", readLeases), ("loop", readLoop)]

/-- The names that stand for a command; one of them asks for help. -/
def commandNames : List String := readers.map (·.1) ++ ["help"]

/-- What is answered when help is asked for by name: help on one command at the most. -/
def helpOn : List String → Refusal
  | [] => .help
  | [name] => if name ∈ commandNames then .help else .unknownCommand
  | _ => .unknownCommand

namespace Invocation

/-- Where the service is unless it is said. -/
def standardUrl : String := "http://localhost:5555"

/-- What stands before the command: where the service is. -/
def signature : Signature String where
  options := [⟨"url", .single, fun s _ => some s⟩]
  operand := none
  commands := commandNames
  tellsVersion := true

/-- Reads a command line. What is wrong with the command is reported before what is wrong with the
last option that stands before it. -/
def read (words : List String) : Except Refusal Invocation := do
  let (r, named) ← signature.readWords false (.start standardUrl) words
  match named with
  | none =>
    -- without a command it matters only whether anything was said at all
    let settled ← r.settle
    .error (if settled.given = [] then .nothing else .noCommand)
  | some (name, rest) =>
    match readers.lookup name with
    | none => .error (helpOn rest)
    | some reader =>
      let command ← reader rest
      let settled ← r.settle
      return ⟨settled.draft, command⟩

end Invocation

end Discovery.Client
