import Discovery.Markup.Tag

/-!
# The segments of a document

A document is a sequence of segments: processing instructions, comments, declarations, CDATA
sections, tags, and the runs of characters between them. `readSegment` reads the one that a text
begins with, or says what is wrong with it; its first characters alone decide which kind it is.

* `readSegment_shorter`: reading a segment leaves a shorter text.
-/

namespace Discovery.Markup

/-- A piece of a document. Instructions, comments and declarations say nothing. -/
inductive Segment where
  | instruction
  | comment
  | declaration
  /-- The characters of a CDATA section, as they stand. -/
  | cdata (words : List Char)
  /-- A run of characters, trimmed and with its references resolved. -/
  | characters (words : String)
  | startTag (tag : StartTag)
  | endTag (name : String)
deriving DecidableEq

/-- Reads the rest of a CDATA section. -/
def readCdata (cs : List Char) : Except Fault (Segment × List Char) :=
  match readUntil [']', ']', '>'] .cdata cs with
  | .error fault => .error fault
  | .ok (words, rest) =>
    (checkChars words ([']', ']', '>'] ++ rest)).map fun () => (.cdata words, rest)

/-- Reads a run of characters, up to the next tag or the end. White space around it is dropped
before references are resolved, so that a reference can stand for white space. -/
def readCharacters (cs : List Char) : Except Fault (Segment × List Char) :=
  -- the characters are checked before their references are resolved
  let run := cs.takeWhile (· ≠ '<')
  let rest := cs.dropWhile (· ≠ '<')
  match checkChars run rest with
  | .error fault => .error fault
  | .ok () => (readReferences (Text.trimChars run)).map fun words => (.characters words, rest)

/-- Reads the segment that a text begins with. An instruction is searched for its end from its first
character on, so that its question mark may be the one that ends it. -/
def readSegment : List Char → Except Fault (Segment × List Char)
  | '<' :: '?' :: rest =>
    (readUntil ['?', '>'] .instruction ('<' :: '?' :: rest)).map fun (_, rest) =>
      (.instruction, rest)
  | '<' :: '!' :: '-' :: '-' :: rest =>
    (readUntil ['-', '-', '>'] .comment rest).map fun (_, rest) => (.comment, rest)
  | '<' :: '!' :: '[' :: 'C' :: 'D' :: 'A' :: 'T' :: 'A' :: '[' :: rest => readCdata rest
  -- any other beginning with an exclamation mark, a broken comment or section among them
  | '<' :: '!' :: rest =>
    (readUntil ['>'] .declaration ('<' :: '!' :: rest)).map fun (_, rest) => (.declaration, rest)
  | '<' :: '/' :: rest => (readEndTag rest).map fun (name, rest) => (.endTag name, rest)
  | '<' :: rest => (readStartTag rest).map fun (tag, rest) => (.startTag tag, rest)
  | cs => readCharacters cs

/-! ## Reading comes forward -/

theorem map_eq_ok {α β ε : Type} {f : α → β} {x : Except ε α} {b : β} (h : x.map f = .ok b) :
    ∃ a, x = .ok a ∧ f a = b := by
  cases x with
  | error e => cases h
  | ok a => exact ⟨a, rfl, Except.ok.inj h⟩

theorem map_readUntil_shorter {segment segment' : Segment} {mark : List Char} {part : Enclosed}
    {cs rest : List Char}
    (h : (readUntil mark part cs).map (fun (_, rest) => (segment', rest)) = .ok (segment, rest)) :
    rest.length + mark.length ≤ cs.length := by
  obtain ⟨⟨_, _⟩, found, eq⟩ := map_eq_ok h
  cases eq
  exact readUntil_shorter found

theorem readCdata_shorter {segment : Segment} {cs rest : List Char}
    (h : readCdata cs = .ok (segment, rest)) : rest.length < cs.length := by
  rw [readCdata] at h
  split at h
  · cases h
  · next found =>
    obtain ⟨_, _, eq⟩ := map_eq_ok h
    cases eq
    have := readUntil_shorter found
    simp only [List.length_cons, List.length_nil] at this
    omega

theorem readCharacters_shorter {segment : Segment} {c : Char} {cs rest : List Char}
    (start : c ≠ '<') (h : readCharacters (c :: cs) = .ok (segment, rest)) :
    rest.length < (c :: cs).length := by
  simp only [readCharacters] at h
  split at h
  · cases h
  · obtain ⟨_, _, eq⟩ := map_eq_ok h
    cases eq
    rw [List.dropWhile_cons_of_pos (by simpa using start)]
    exact Nat.lt_succ_of_le (List.dropWhile_sublist _).length_le

/-- Reading a segment leaves a shorter text. -/
theorem readSegment_shorter {segment : Segment} {cs rest : List Char} (some : cs ≠ [])
    (h : readSegment cs = .ok (segment, rest)) : rest.length < cs.length := by
  rw [readSegment.eq_def] at h
  split at h
  · -- an instruction
    have := map_readUntil_shorter h
    simp only [List.length_cons, List.length_nil] at this ⊢
    omega
  · -- a comment
    have := map_readUntil_shorter h
    simp only [List.length_cons, List.length_nil] at this ⊢
    omega
  · -- a section
    have := readCdata_shorter h
    simp only [List.length_cons]
    omega
  · -- a declaration
    have := map_readUntil_shorter h
    simp only [List.length_cons, List.length_nil] at this ⊢
    omega
  · -- a closing tag
    obtain ⟨⟨_, _⟩, found, eq⟩ := map_eq_ok h
    cases eq
    have := readEndTag_shorter found
    simp only [List.length_cons]
    omega
  · -- a start tag
    obtain ⟨⟨_, _⟩, found, eq⟩ := map_eq_ok h
    cases eq
    have := readStartTag_shorter found
    simp only [List.length_cons]
    omega
  · next noTag =>
    -- a run, whose first character begins no tag
    cases cs with
    | nil => exact absurd rfl some
    | cons c more =>
      exact readCharacters_shorter (fun same => noTag more (by rw [same])) h

end Discovery.Markup
