import Discovery.Markup.Segment

/-!
# Events of a document

A document says what it says in events: start tags, closing tags and texts. The other segments, and
those without characters, are passed over.

A `Cursor` is a place in a document from which the next event is read. It comes to rest at the end
of the text and at the first fault: from then on it has nothing more to say. `Cursor.drain` is all
that it says until then, so a fault can only be the last entry.
-/

namespace Discovery.Markup

/-- What a document says. -/
inductive Event where
  | startTag (tag : StartTag)
  | endTag (name : String)
  /-- Characters of the document, never none. -/
  | text (words : String)
deriving DecidableEq

/-- The event that a segment is, if it is one. -/
def Segment.event? : Segment → Option Event
  | .instruction => none
  | .comment => none
  | .declaration => none
  | .cdata words => if words.isEmpty then none else some (.text (String.ofList words))
  | .characters words => if words.isEmpty then none else some (.text words)
  | .startTag tag => some (.startTag tag)
  | .endTag name => some (.endTag name)

/-- Reads on to the next event; none if the text ends before one. -/
def nextEvent (cs : List Char) : Except Fault (Option (Event × List Char)) :=
  match cs with
  | [] => .ok none
  | c :: more =>
    match _read : readSegment (c :: more) with
    | .error fault => .error fault
    | .ok (segment, rest) =>
      match segment.event? with
      | some event => .ok (some (event, rest))
      | none => nextEvent rest
termination_by cs.length
decreasing_by exact readSegment_shorter (List.cons_ne_nil _ _) _read

/-- An event leaves a shorter text. -/
theorem nextEvent_shorter {event : Event} {cs rest : List Char}
    (h : nextEvent cs = .ok (some (event, rest))) : rest.length < cs.length := by
  fun_induction nextEvent cs with
  | case1 => cases h
  | case2 => cases h
  | case3 _ _ _ _ read =>
    cases h
    exact readSegment_shorter (List.cons_ne_nil _ _) read
  | case4 _ _ _ _ read _ ih =>
    exact Nat.lt_trans (ih h) (readSegment_shorter (List.cons_ne_nil _ _) read)

/-- A place in a document. -/
structure Cursor where
  /-- What has not been read. -/
  rest : List Char
  /-- Has a fault been met? -/
  failed : Bool
deriving Repr, DecidableEq

namespace Cursor

def start (cs : List Char) : Cursor := ⟨cs, false⟩

/-- The next event or the fault in its place, and the cursor after it. -/
def next? (cursor : Cursor) : Option (Except Fault Event × Cursor) :=
  if cursor.failed then none
  else
    match nextEvent cursor.rest with
    | .error fault => some (.error fault, { cursor with failed := true })
    | .ok none => none
    | .ok (some (event, rest)) => some (.ok event, ⟨rest, false⟩)

/-- How much a cursor can still say, at the most. -/
def bound (cursor : Cursor) : Nat :=
  if cursor.failed then 0 else cursor.rest.length + 1

/-- Every step of a cursor uses up some of its bound. -/
theorem bound_next?_lt {cursor later : Cursor} {said : Except Fault Event}
    (h : cursor.next? = some (said, later)) : later.bound < cursor.bound := by
  rw [next?] at h
  split at h
  · cases h
  · next fresh =>
    split at h
    · cases h
      simp [bound, fresh]
    · cases h
    · next found =>
      cases h
      simpa [bound, fresh] using nextEvent_shorter found

/-- All that a cursor has to say. -/
def drain (cursor : Cursor) : List (Except Fault Event) :=
  match _next : cursor.next? with
  | none => []
  | some (said, later) => said :: drain later
termination_by cursor.bound
decreasing_by exact bound_next?_lt _next

end Cursor

end Discovery.Markup
