import Discovery.Client.Word

/-!
# Reading a command line

A command takes parameters: options, which are named, and operands, which are not. What they say is
entered into a draft, from the left to the right.

A value is entered when the next parameter begins or the words end, so a fault of the words between
is reported before a fault of the value. Once a command of its own name is met, a signature that has
commands leaves the words after it to that command.
-/

namespace Discovery.Client

/-- Why no command is run. -/
inductive Refusal where
  /-- A parameter that is required is not there. -/
  | missing
  /-- A value is none that its parameter can have. -/
  | badValue
  /-- A word has no meaning in its place. -/
  | unknown
  /-- There is no command of the name. -/
  | unknownCommand
  /-- An option that takes a value has none. -/
  | noValue
  /-- What can be given once is given again. -/
  | repeated
  /-- What takes no value has one. -/
  | needlessValue
  /-- There are options and no command. -/
  | noCommand
  /-- There is nothing at all. -/
  | nothing
  /-- Help is asked for. -/
  | help
  /-- The version is asked for. -/
  | version
deriving Repr, DecidableEq

def Refusal.message : Refusal → String
  | missing => "a required argument is missing"
  | badValue => "a value cannot be read"
  | unknown => "an argument is not known"
  | unknownCommand => "there is no such command"
  | noValue => "an option has no value"
  | repeated => "an option is given twice"
  | needlessValue => "an option takes no value"
  | noCommand => "a command is missing"
  | nothing => "a command is required"
  | help => "commands: register, heartbeat, deregister, query, leases, loop, help"
  | version => "discovery 0.1.0"

/-- How a parameter is given. -/
inductive Arity where
  /-- Without a value, once. -/
  | flag
  /-- With a value, once. -/
  | single
  /-- With a value, as often as one likes. -/
  | many
deriving Repr, DecidableEq

/-- Something that a command takes. -/
structure Parameter (σ : Type) where
  name : String
  arity : Arity
  /-- Enters a value into a draft, unless the parameter cannot have it. -/
  enter : String → σ → Option σ

/-- What a command takes, and the commands that it has itself. -/
structure Signature (σ : Type) where
  options : List (Parameter σ)
  operand : Option (Parameter σ)
  commands : List String
  /-- Does it tell its version? -/
  tellsVersion : Bool

/-- How far the words have been read. -/
structure Reading (σ : Type) where
  draft : σ
  /-- The parameters that have been entered. -/
  given : List String
  /-- The parameter that began last, with its value once that has been met. -/
  pending : Option (Parameter σ × Option String)

namespace Reading

variable {σ : Type}

def start (draft : σ) : Reading σ := ⟨draft, [], none⟩

def enter (r : Reading σ) (p : Parameter σ) (value : String) : Except Refusal (Reading σ) :=
  if p.arity ≠ .many ∧ p.name ∈ r.given then .error .repeated
  else
    match p.enter value r.draft with
    | none => .error .badValue
    | some draft => .ok { r with draft := draft, given := p.name :: r.given }

def settle (r : Reading σ) : Except Refusal (Reading σ) :=
  match r.pending with
  | none => .ok r
  | some (_, none) => .error .noValue
  | some (p, some value) => { r with pending := none }.enter p value

/-- Does the parameter that began last lack its value? -/
def awaits (r : Reading σ) : Bool :=
  match r.pending with
  | some (_, none) => true
  | _ => false

/-- Has the parameter been given or begun? -/
def has (r : Reading σ) (p : Parameter σ) : Bool :=
  r.given.contains p.name ||
    match r.pending with
    | some (q, _) => q.name = p.name
    | none => false

/-- Begins a parameter, with its value if that is there. -/
def begin (r : Reading σ) (p : Parameter σ) (value : Option String) :
    Except Refusal (Reading σ) := do
  let settled ← r.settle
  return { settled with pending := some (p, value) }

/-- Enters a parameter whose value is there. -/
def take (r : Reading σ) (p : Parameter σ) (value : String) : Except Refusal (Reading σ) := do
  let settled ← r.settle
  settled.enter p value

/-- Answers with a refusal, unless there is a fault before it. -/
def refuse (r : Reading σ) (refusal : Refusal) : Except Refusal (Reading σ) :=
  match r.settle with
  | .error fault => .error fault
  | .ok _ => .error refusal

end Reading

namespace Signature

variable {σ : Type}

/-- What a name with two hyphens asks for besides options. -/
def question? (sig : Signature σ) (name : String) : Option Refusal :=
  if name = "help" then some .help
  else if name = "version" ∧ sig.tellsVersion then some .version
  else none

/-- What a letter with a hyphen asks for. -/
def letter? (sig : Signature σ) (letter : Char) : Option Refusal :=
  if letter = 'h' then some .help
  else if letter = 'V' ∧ sig.tellsVersion then some .version
  else none

/-- Reads an option by its name. -/
def readLong (sig : Signature σ) (r : Reading σ) (name : String) (value : Option String) :
    Except Refusal (Reading σ) :=
  match sig.question? name with
  -- what is asked for takes no value, and a value is what is wrong first
  | some refusal => if value.isSome then .error .needlessValue else r.refuse refusal
  | none =>
    match sig.options.find? (·.name = name) with
    | none => .error .unknown
    | some p =>
      match p.arity, value with
      | .flag, some _ => .error .needlessValue
      | .flag, none => r.take p ""
      | _, some value => r.take p value
      | _, none => r.begin p none

def readShort (sig : Signature σ) (r : Reading σ) (letter : Char) : Except Refusal (Reading σ) :=
  match sig.letter? letter with
  | some refusal => r.refuse refusal
  | none => .error .unknown

def readOperand (sig : Signature σ) (separated : Bool) (r : Reading σ) (text : String) :
    Except Refusal (Reading σ) :=
  match sig.operand with
  | some p => if p.arity = .many ∨ r.has p = false then r.begin p (some text) else .error .unknown
  | none =>
    -- behind the separator the name of a command is an operand too many
    if sig.commands = [] ∨ (separated = true ∧ text ∈ sig.commands) then .error .unknown
    else .error .unknownCommand

/-- Reads words up to the name of a command, if there is one; the words after it are left. -/
def readWords (sig : Signature σ) (separated : Bool) (r : Reading σ) :
    List String → Except Refusal (Reading σ × Option (String × List String))
  | [] => .ok (r, none)
  | word :: words =>
    if separated then do
      let r ← sig.readOperand true r word
      readWords sig true r words
    -- a value that is awaited may be spelled like a command
    else if r.awaits = false ∧ word ∈ sig.commands then .ok (r, some (word, words))
    else
      match Word.ofString word with
      | .separator => readWords sig true r words
      | .long name value => do
        let r ← sig.readLong r name value
        readWords sig false r words
      | .short letter => do
        let r ← sig.readShort r letter
        readWords sig false r words
      | .plain text =>
        match r.pending with
        | some (p, none) => readWords sig false { r with pending := some (p, some text) } words
        | _ => do
          let r ← sig.readOperand false r text
          readWords sig false r words

/-- Reads all words of a command that has no commands itself. -/
def read (sig : Signature σ) (draft : σ) (words : List String) : Except Refusal σ := do
  let (r, _) ← sig.readWords false (.start draft) words
  let settled ← r.settle
  return settled.draft

end Signature

end Discovery.Client
