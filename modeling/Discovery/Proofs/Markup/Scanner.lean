import Discovery.Markup.Decode

/-!
# Scanning by offsets

A document can be scanned in place: a position, which is an offset in bytes, moves forward in it, and what is
read next is the slice of the document from the position on. A slice that does not begin and end where
characters do is refused, and so is a loop that has not ended after as many rounds as the document has bytes,
and one more; a scanner that runs into either has no outcome. The scanner keeps all the positions that it has
been at.

* `cutBytes?`: a text cut at an offset in bytes;
* `Scan`: what scanners are, and the scanners of names, values, tags and segments;
* `Scan.untilDone`, `Scan.loop`: loops;
* `Scan.step`, `Scan.event`: a step over a segment, and the scan for the next event.
-/

namespace Discovery.Markup

/-! ## Offsets -/

section Bytes

variable {c : Char} {cs before after : List Char} {n : Nat}

@[simp] theorem byteLength_nil : byteLength [] = 0 := rfl

theorem foldl_utf8Size (cs : List Char) (n : Nat) : cs.foldl (fun n c => n + c.utf8Size) n = n + byteLength cs := by
  induction cs generalizing n with
  | nil => rfl
  | cons c cs ih =>
    rw [byteLength, List.foldl_cons, List.foldl_cons, ih, ih (0 + c.utf8Size)]
    omega

@[simp] theorem byteLength_cons (c : Char) (cs : List Char) : byteLength (c :: cs) = c.utf8Size + byteLength cs := by
  rw [byteLength, List.foldl_cons, foldl_utf8Size, Nat.zero_add]

@[simp] theorem byteLength_append (before after : List Char) :
    byteLength (before ++ after) = byteLength before + byteLength after := by
  induction before with
  | nil => simp
  | cons c before ih => simp [ih, Nat.add_assoc]

@[simp] theorem byteLength_eq_zero_iff : byteLength cs = 0 ↔ cs = [] := by
  cases cs with
  | nil => simp
  | cons c cs =>
    have := c.utf8Size_pos
    simp only [byteLength_cons, reduceCtorEq, iff_false]
    omega

theorem length_le_byteLength (cs : List Char) : cs.length ≤ byteLength cs := by
  induction cs with
  | nil => exact Nat.le_refl 0
  | cons c cs ih =>
    have := c.utf8Size_pos
    rw [List.length_cons, byteLength_cons]
    omega

/-- What stands before an end of a text gives its offset. -/
theorem offset_eq (split : cs = before ++ after) : byteLength cs - byteLength after = byteLength before := by
  rw [split, byteLength_append, Nat.add_sub_cancel]

/-- A text cut at an offset in bytes; none unless a character begins there or the text ends there. -/
def cutBytes? : Nat → List Char → Option (List Char × List Char)
  | 0, cs => some ([], cs)
  | _ + 1, [] => none
  | n + 1, c :: cs =>
    if c.utf8Size ≤ n + 1 then
      (cutBytes? (n + 1 - c.utf8Size) cs).map fun (before, after) => (c :: before, after)
    else none

/-- A text is cut where so many bytes of it end. -/
theorem cutBytes?_byteLength (before after : List Char) :
    cutBytes? (byteLength before) (before ++ after) = some (before, after) := by
  induction before with
  | nil => cases after <;> rfl
  | cons c before ih =>
    obtain ⟨n, size⟩ : ∃ n, c.utf8Size + byteLength before = n + 1 :=
      Nat.exists_eq_succ_of_ne_zero (by have := c.utf8Size_pos; omega)
    rw [byteLength_cons, List.cons_append, size, cutBytes?, if_pos (by omega),
      show n + 1 - c.utf8Size = byteLength before by omega, ih]
    rfl

/-- Does a character begin at the offset, or the text end there? -/
def IsCharBoundary (cs : List Char) (n : Nat) : Prop :=
  ∃ before after, cs = before ++ after ∧ n = byteLength before

theorem IsCharBoundary.le (isBoundary : IsCharBoundary cs n) : n ≤ byteLength cs := by
  obtain ⟨before, after, rfl, rfl⟩ := isBoundary
  rw [byteLength_append]
  exact Nat.le_add_right _ _

end Bytes

/-! ## Scanners -/

/-- The position of a scanner, and where it has been before. -/
structure Trail where
  position : Nat
  earlier : List Nat
deriving Repr, DecidableEq

/-- What scans a document. It may fail on it; none if a slice or a loop was refused. -/
abbrev Scan := ReaderT (List Char) (ExceptT DecodeError (StateT Trail Option))

namespace Scan

def run {α : Type} (m : Scan α) (document : List Char) (trail : Trail) : Option (Except DecodeError α × Trail) :=
  m document trail

def refused {α : Type} : Scan α :=
  fun _ _ => none

def position : Scan Nat := do
  return (← get).position

def advance (n : Nat) : Scan Unit :=
  modify fun trail => ⟨trail.position + n, trail.position :: trail.earlier⟩

def slice : Option (List Char) → Scan (List Char)
  | some cs => return cs
  | none => refused

/-- The slice of the document from the position on. -/
def remaining : Scan (List Char) := do
  slice ((cutBytes? (← position) (← read)).map (·.2))

def upTo (n : Nat) (cs : List Char) : Scan (List Char) :=
  slice ((cutBytes? n cs).map (·.1))

/-- Fails at the position. -/
def fail {α : Type} (what : Malformation) : Scan α := do
  throw (.malformed (← position) what)

/-- The offset at which a mark first stands in a text. -/
def find? (mark cs : List Char) : Option Nat :=
  (Text.cutAt mark cs).map fun (before, _) => byteLength before

/-- Moves past a mark, and gives the text before it. -/
def takeUntil (mark : List Char) (part : Enclosed) : Scan (List Char) := do
  let cs ← remaining
  match find? mark cs with
  | some n =>
    advance (n + byteLength mark)
    upTo n cs
  | none => fail (.unterminated part)

/-- Accepts characters of a document only; the text begins at the offset. -/
def checkChars (start : Nat) (cs : List Char) : Scan Unit :=
  match cs.dropWhile isMarkupChar with
  | [] => return
  | bad :: _ => throw (.malformed (start + byteLength (cs.takeWhile isMarkupChar)) (.invalidCharacter bad))

def references (cs : List Char) : Scan String :=
  match resolve cs with
  | .ok meant => return String.ofList meant
  | .error name => throw (.unknownReference name)

def skipSpace : Scan Unit := do
  let cs ← remaining
  advance (byteLength cs - byteLength (Text.skipSpace cs))

/-- How many bytes the name takes with which a text begins. -/
def nameLength : List Char → Nat
  | [] => 0
  | c :: cs => if isNameStart c then c.utf8Size + byteLength (cs.takeWhile isNameChar) else 0

def name : Scan String := do
  let cs ← remaining
  if nameLength cs = 0 then fail .expectedName
  else
    advance (nameLength cs)
    return String.ofList (← upTo (nameLength cs) cs)

/-- Moves past the value of an attribute, its opening quote being behind. -/
def value (key : String) (quote : Char) : Scan String := do
  let start ← position
  let raw ← takeUntil [quote] .attributeValue
  if raw.contains '<' then fail (.lessThanInValue key)
  else
    checkChars start raw
    references raw

/-- Moves past a value between quotes of either kind. -/
def quoted (key : String) : Scan String := do
  match ← remaining with
  | '\x22' :: _ =>
    advance 1
    value key '\x22'
  | '\x27' :: _ =>
    advance 1
    value key '\x27'
  | _ => fail (.unquotedValue key)

/-- Moves past an attribute. -/
def keyedValue : Scan (String × String) := do
  let key ← name
  skipSpace
  match ← remaining with
  | '=' :: _ =>
    advance 1
    skipSpace
    return (key, ← quoted key)
  | _ => fail (.missingValue key)

/-- Goes round until there is something to give back; none if so many rounds are not enough. -/
def untilDone {α σ : Type} (round : σ → Scan (σ ⊕ α)) : Nat → σ → Scan α
  | 0, _ => refused
  | n + 1, state => do
    match ← round state with
    | .inl state => untilDone round n state
    | .inr a => return a

/-- Goes round until there is something to give back. A round that comes forward takes a byte of the document, so
that a loop which has gone round more often would stand still. -/
def loop {α σ : Type} (round : σ → Scan (σ ⊕ α)) (state : σ) : Scan α := do
  untilDone round (byteLength (← read) + 1) state

/-- Adds an attribute to those that are known, if it is set apart from what follows. -/
def accept (known : Attributes) (entry : String × String) : Scan (Attributes ⊕ StartTag) := do
  if known.contains entry.1 then fail (.duplicateAttribute entry.1)
  else if separates (← remaining) then return .inl (known.insert entry.1 entry.2)
  else fail (.missingSpaceAfter entry.1)

/-- Moves past another attribute of a start tag, or past its end. -/
def further (name : String) (known : Attributes) : Scan (Attributes ⊕ StartTag) := do
  skipSpace
  match ← remaining with
  | [] => fail (.unterminatedTag name)
  | '>' :: _ =>
    advance 1
    return .inr ⟨name, known, false⟩
  | '/' :: '>' :: _ =>
    advance 2
    return .inr ⟨name, known, true⟩
  | _ => accept known (← keyedValue)

/-- Moves past a start tag, going round once for each attribute. -/
def startTag : Scan StartTag := do
  advance 1
  loop (further (← name)) .empty

def endTag : Scan String := do
  advance 2
  let name ← name
  skipSpace
  match ← remaining with
  | '>' :: _ =>
    advance 1
    return name
  | _ => fail (.unterminatedClosingTag name)

def cdata : Scan (Option Event) := do
  let start ← position
  let words ← takeUntil [']', ']', '>'] .cdata
  checkChars start words
  return if words.isEmpty then none else some (.text (String.ofList words))

def characters : Scan (Option Event) := do
  let cs ← remaining
  let stop := (find? ['<'] cs).getD (byteLength cs)
  let run ← upTo stop cs
  checkChars (← position) run
  advance stop
  if (Text.trimChars run).isEmpty then return none
  else return some (.text (← references (Text.trimChars run)))

/-- Moves past a segment, and gives the event that it is; there has to be one. -/
def segment : List Char → Scan (Option Event)
  | '<' :: '?' :: _ => do
    let _ ← takeUntil ['?', '>'] .instruction
    return none
  | '<' :: '!' :: '-' :: '-' :: _ => do
    advance 4
    let _ ← takeUntil ['-', '-', '>'] .comment
    return none
  | '<' :: '!' :: '[' :: 'C' :: 'D' :: 'A' :: 'T' :: 'A' :: '[' :: _ => do
    advance 9
    cdata
  | '<' :: '!' :: _ => do
    let _ ← takeUntil ['>'] .declaration
    return none
  | '<' :: '/' :: _ => return some (.endTag (← endTag))
  | '<' :: _ => return some (.startTag (← startTag))
  | _ => characters

/-- What comes after a segment: the event that it is, or the next segment. -/
def afterSegment : Option Event → Unit ⊕ Option Event
  | some event => .inr (some event)
  | none => .inl ()

/-- Moves past a segment; there is no event if the document has ended. -/
def step : Scan (Unit ⊕ Option Event) := do
  let cs ← remaining
  if cs.isEmpty then return .inr none
  else return afterSegment (← segment cs)

/-- Moves to behind the next event, going round once for each segment; none if the document ends before one. -/
def event : Scan (Option Event) :=
  loop (fun _ => step) ()

end Scan

end Discovery.Markup
