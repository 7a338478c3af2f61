/-!
# Reading bytes as UTF-8

`readUtf8` turns bytes into characters, or says where the first sequence stands that is not UTF-8.
The shortest forms alone are accepted, no surrogates, and nothing above `10FFFF`.

A fault names the index of the first byte of the bad sequence and, unless the bytes merely end too
early, how many bytes were well-formed before the one that could not continue (at least one).
-/

namespace Discovery.Text

/-- Where and how bytes fail to be UTF-8. -/
structure Utf8Fault where
  /-- The index of the first byte of the bad sequence. -/
  index : Nat
  /-- The length of the bad sequence, or none if the bytes end inside it. -/
  length : Option Nat
deriving Repr, DecidableEq

def Utf8Fault.message (fault : Utf8Fault) : String :=
  match fault.length with
  | some n => s!"invalid utf-8 sequence of {n} bytes from index {fault.index}"
  | none => s!"incomplete utf-8 byte sequence from index {fault.index}"

/-- What the first byte of a sequence announces: how many bytes follow, between which bounds the
next one lies, and the bits that the first byte gives to the code point. -/
structure LeadByte where
  following : Nat
  low : Nat
  high : Nat
  bits : Nat
deriving Repr, DecidableEq

/-- Reads the first byte of a sequence. The bounds of the second byte shut out overlong forms,
surrogates and what lies above `10FFFF`. -/
def leadByte? (b : Nat) : Option LeadByte :=
  if b < 0x80 then some ⟨0, 0x80, 0xBF, b⟩
  -- a continuation out of place, or the lead of an overlong form
  else if b < 0xC2 then none
  else if b < 0xE0 then some ⟨1, 0x80, 0xBF, b - 0xC0⟩
  -- the second byte begins higher, lest the form be overlong
  else if b = 0xE0 then some ⟨2, 0xA0, 0xBF, 0⟩
  -- the second byte ends lower, lest it lead to a surrogate
  else if b = 0xED then some ⟨2, 0x80, 0x9F, 0xD⟩
  else if b < 0xF0 then some ⟨2, 0x80, 0xBF, b - 0xE0⟩
  else if b = 0xF0 then some ⟨3, 0x90, 0xBF, 0⟩
  else if b < 0xF4 then some ⟨3, 0x80, 0xBF, b - 0xF0⟩
  -- the second byte ends lower, lest it lead beyond the last code point
  else if b = 0xF4 then some ⟨3, 0x80, 0x8F, 4⟩
  else none

/-- How reading the bytes that follow a first byte ends. -/
inductive Continuation where
  /-- The code point is complete. -/
  | complete (code : Nat) (rest : List UInt8)
  /-- A byte does not continue the sequence; so many bytes did, the first one counted. -/
  | broken (length : Nat)
  /-- The bytes end inside the sequence. -/
  | cut
deriving Repr, DecidableEq

/-- Reads the given number of continuation bytes, the next one between the given bounds. -/
def readContinuation : (following low high seen code : Nat) → List UInt8 → Continuation
  | 0, _, _, _, code, bytes => .complete code bytes
  | _ + 1, _, _, _, _, [] => .cut
  | following + 1, low, high, seen, code, b :: rest =>
    if low ≤ b.toNat ∧ b.toNat ≤ high then
      readContinuation following 0x80 0xBF (seen + 1) (code * 64 + (b.toNat - 0x80)) rest
    else .broken seen

/-- A finished sequence leaves no more bytes than there were. -/
theorem length_readContinuation_le {following low high seen code code' : Nat}
    {bytes rest : List UInt8}
    (h : readContinuation following low high seen code bytes = .complete code' rest) :
    rest.length ≤ bytes.length := by
  induction bytes generalizing following low high seen code with
  | nil => cases following <;> simp_all [readContinuation]
  | cons b more ih =>
    cases following with
    | zero => simp_all [readContinuation]
    | succ k =>
      rw [readContinuation] at h
      split at h
      · exact Nat.le_trans (ih h) (Nat.le_succ _)
      · cases h

/-- Reads bytes from the given index on. -/
def readUtf8From (index : Nat) (bytes : List UInt8) : Except Utf8Fault (List Char) :=
  match bytes with
  | [] => .ok []
  | b :: more =>
    match leadByte? b.toNat with
    | none => .error ⟨index, some 1⟩
    | some lead =>
      match h : readContinuation lead.following lead.low lead.high 1 lead.bits more with
      | .cut => .error ⟨index, none⟩
      | .broken n => .error ⟨index, some n⟩
      | .complete code rest =>
        (readUtf8From (index + 1 + lead.following) rest).map (Char.ofNat code :: ·)
termination_by bytes.length
decreasing_by
  exact Nat.lt_succ_of_le (length_readContinuation_le h)

/-- Reads bytes as a text in UTF-8. -/
def readUtf8 (bytes : List UInt8) : Except Utf8Fault String :=
  (readUtf8From 0 bytes).map String.ofList

end Discovery.Text
