import Discovery.Proofs.Markup.Layout
import Discovery.Proofs.Markup.Scanned

/-!
# What a tokenizer covers

A tokenizer says the events of a document one after another, scanning it from the position where the last one
ended. On every document it comes to an end and stays inside it: it says no more than there are bytes, all its
positions are offsets of characters, and if it meets no error the segments that it has passed are the document.

* `Tokenizer.next`, `Tokenizer.drain`: the next answer of a tokenizer, and all its answers up to the first none;
* `IsSegmented`: a document cut into segments;
* `Tokenizer.drain_follows`: a tokenizer says what a cursor says;
* `Tokenizer.drain_exact`: draining ends, covers the document and stays inside it.
-/

namespace Discovery.Markup

/-! ## Tokenizers -/

/-- A place in a document between two events. -/
structure Tokenizer where
  trail : Trail
  /-- Has an error been met? -/
  failed : Bool
deriving Repr, DecidableEq

namespace Tokenizer

def start : Tokenizer := ⟨⟨0, []⟩, false⟩

/-- What is said after a scan, and the tokenizer that says it. -/
def answered (trail : Trail) : Except DecodeError (Option Event) → Option (Except DecodeError Event) × Tokenizer
  | .ok event => (event.map .ok, ⟨trail, false⟩)
  | .error error => (some (.error error), ⟨trail, true⟩)

/-- The next answer, an event or an error, and the tokenizer after it. There is none at the end of the document and
after an error. -/
def next (document : List Char) (tokenizer : Tokenizer) :
    Option (Option (Except DecodeError Event) × Tokenizer) :=
  if tokenizer.failed then some (none, tokenizer)
  else (Scan.event.run document tokenizer.trail).map fun (answer, trail) => answered trail answer

/-- All answers up to the first none, and the tokenizer after it; none if so many answers, that one included, are
not enough. -/
def drain (document : List Char) : Nat → Tokenizer → Option (List (Except DecodeError Event) × Tokenizer)
  | 0, _ => none
  | n + 1, tokenizer =>
    match tokenizer.next document with
    | none => none
    | some (none, later) => some ([], later)
    | some (some item, later) => (drain document n later).map fun rest => (item :: rest.1, rest.2)

end Tokenizer

variable {document cs rest : List Char} {trail later : Trail} {segments : List (Segment × List Char)}

/-! ## Positions -/

theorem Trail.IsSound.exists_isAt (sound : trail.IsSound document) : ∃ cs, trail.IsAt document cs := by
  obtain ⟨before, after, split, position⟩ := sound _ (List.mem_cons_self ..)
  exact ⟨after, before, split, position⟩

theorem isSound_start (document : List Char) : Tokenizer.start.trail.IsSound document :=
  List.forall_mem_singleton.mpr ⟨[], document, rfl, rfl⟩

theorem isAt_start (document : List Char) : Tokenizer.start.trail.IsAt document document :=
  ⟨[], rfl, rfl⟩

/-- A position behind a piece of the text is further on by the bytes of the piece. -/
theorem Trail.IsAt.position_eq {piece : List Char} (here : trail.IsAt document (piece ++ rest))
    (there : later.IsAt document rest) : later.position = trail.position + byteLength piece := by
  obtain ⟨before, split, position⟩ := here
  obtain ⟨before', split', position'⟩ := there
  rw [← List.append_assoc] at split
  rw [position, position', ← byteLength_append, ← offset_eq split, ← offset_eq split']

/-- A step that does not fail comes forward, unless the document has ended. One that fails stays in the document
as well. -/
theorem run_step (sound : trail.IsSound document) :
    ∃ answer later, Scan.step.run document trail = some (answer, later) ∧ later.IsSound document ∧
      ∀ said, answer = .ok said →
        trail.position < later.position ∨ trail.position = byteLength document ∧ said = .inr none := by
  obtain ⟨cs, here⟩ := sound.exists_isAt
  cases cs with
  | nil =>
    obtain ⟨answer, later, ran, soundLater, rfl, -⟩ := Scan.follows_step_nil trail sound here
    refine ⟨_, later, ran, soundLater, ?_⟩
    rintro said ⟨⟩
    obtain ⟨before, split, position⟩ := here
    exact .inr ⟨by rw [position, split, List.append_nil], rfl⟩
  | cons c more =>
    obtain ⟨answer, later, ran, soundLater, outcome⟩ := Scan.follows_step (List.cons_ne_nil c more) trail sound here
    refine ⟨answer, later, ran, soundLater, ?_⟩
    rintro said rfl
    cases read : readSegment (c :: more) with
    | error fault =>
      rw [read] at outcome
      cases outcome.1
    | ok found =>
      obtain ⟨segment, rest⟩ := found
      rw [read] at outcome
      -- a segment that is read has a text, and that text is not empty
      obtain ⟨piece, split, text, -⟩ := segmentText_of_read (List.cons_ne_nil c more) read
      rw [split] at here
      have forward : byteLength piece ≠ 0 := fun none => text.ne_nil (byteLength_eq_zero_iff.mp none)
      rw [here.position_eq outcome.2]
      exact .inl (by omega)

/-! ## Answers -/

/-- Every event and every error takes a byte at least. -/
theorem length_drain_le (cs : List Char) : (Cursor.start cs).drain.length ≤ byteLength cs := by
  cases cs with
  | nil =>
    rw [Cursor.drain_start, nextEvent]
    exact Nat.le_refl 0
  | cons c more =>
    cases read : readSegment (c :: more) with
    | error fault =>
      have := c.utf8Size_pos
      rw [drain_of_fault read, List.length_singleton, byteLength_cons]
      omega
    | ok found =>
      obtain ⟨segment, rest⟩ := found
      have shorter := readSegment_shorter (List.cons_ne_nil _ _) read
      obtain ⟨piece, split, text, -⟩ := segmentText_of_read (List.cons_ne_nil _ _) read
      -- each segment says one event at the most and takes a byte at the least
      have forward : byteLength piece ≠ 0 := fun none => text.ne_nil (byteLength_eq_zero_iff.mp none)
      have whole := congrArg byteLength split
      rw [byteLength_append] at whole
      have later := length_drain_le rest
      cases said : segment.event? with
      | none =>
        rw [drain_of_silent read said]
        omega
      | some event =>
        rw [drain_of_event read said, List.length_cons]
        omega
termination_by cs.length
decreasing_by exact shorter

namespace Tokenizer

theorem next_of_run {answer : Except DecodeError (Option Event)}
    (ran : Scan.event.run document trail = some (answer, later)) :
    next document ⟨trail, false⟩ = some (answered later answer) := by
  rw [next, if_neg Bool.false_ne_true, ran]
  rfl

theorem next_of_failed (trail : Trail) : next document ⟨trail, true⟩ = some (none, ⟨trail, true⟩) := rfl

/-- At the end of the document there is no event, and the position stays. -/
theorem next_of_isAt_nil (here : trail.IsAt document []) :
    next document ⟨trail, false⟩ = some (none, ⟨trail, false⟩) := by
  have stepped : Scan.step.run document trail = some (.ok (.inr none), trail) := by
    rw [Scan.step, Scan.run_bind, Scan.run_remaining here]
    rfl
  have ran : Scan.event.run document trail = some (.ok none, trail) := by
    show (Scan.untilDone (fun _ => Scan.step) (byteLength document + 1) ()).run document trail = _
    rw [Scan.untilDone, Scan.run_bind, stepped]
    rfl
  exact next_of_run ran

/-- There is an answer at every place, and the place after it is one as well. -/
theorem next_total {tokenizer : Tokenizer} (sound : tokenizer.trail.IsSound document) :
    ∃ item later, tokenizer.next document = some (item, later) ∧ later.trail.IsSound document := by
  obtain ⟨trail, failed⟩ := tokenizer
  cases failed with
  | true => exact ⟨none, _, next_of_failed trail, sound⟩
  | false =>
    obtain ⟨cs, here⟩ := sound.exists_isAt
    obtain ⟨answer, later, ran, soundLater, -⟩ := Scan.follows_event trail sound here
    refine ⟨_, _, next_of_run ran, ?_⟩
    cases answer <;> exact soundLater

/-- After an error and after the end there is no other answer. -/
theorem next_ends {tokenizer later : Tokenizer} {item : Option (Except DecodeError Event)}
    (sound : tokenizer.trail.IsSound document) (said : tokenizer.next document = some (item, later))
    (ends : ∀ event, item ≠ some (.ok event)) : later.next document = some (none, later) := by
  obtain ⟨trail, failed⟩ := tokenizer
  -- three ways to say no event: an error before, an error now, the end of the document
  cases failed with
  | true =>
    cases said
    rfl
  | false =>
    obtain ⟨cs, here⟩ := sound.exists_isAt
    obtain ⟨answer, after, ran, -, outcome⟩ := Scan.follows_event trail sound here
    rw [next_of_run ran] at said
    cases read : nextEvent cs with
    | error fault =>
      rw [read] at outcome
      obtain ⟨rfl, -⟩ := outcome
      cases said
      rfl
    | ok found =>
      rw [read] at outcome
      obtain ⟨rfl, there⟩ := outcome
      cases found with
      | none =>
        cases said
        exact next_of_isAt_nil there
      | some found =>
        cases said
        exact absurd rfl (ends _)

/-! ## Draining -/

theorem drain_of_none {tokenizer later : Tokenizer} (said : tokenizer.next document = some (none, later)) (n : Nat) :
    drain document (n + 1) tokenizer = some ([], later) := by
  rw [drain, said]

theorem drain_of_some {tokenizer later last : Tokenizer} {item : Except DecodeError Event}
    {items : List (Except DecodeError Event)} {n : Nat} (said : tokenizer.next document = some (some item, later))
    (drained : drain document n later = some (items, last)) :
    drain document (n + 1) tokenizer = some (item :: items, last) := by
  rw [drain, said]
  simp only [drained, Option.map_some]

/-- What a cursor says, as it is said of a document. -/
def saidOf (document : List Char) (said : List (Except Fault Event)) : List (Except DecodeError Event) :=
  said.map (·.mapError (·.inDocument document))

theorem saidOf_ok (document : List Char) (events : List Event) : saidOf document (events.map .ok) = events.map .ok := by
  rw [saidOf, List.map_map]
  rfl

/-- A tokenizer says what a cursor says where the same text stands, and then says no more. -/
theorem drain_follows {cs : List Char} {trail : Trail} {n : Nat} (enough : (Cursor.start cs).drain.length ≤ n)
    (sound : trail.IsSound document) (here : trail.IsAt document cs) :
    ∃ last, drain document (n + 1) ⟨trail, false⟩ = some (saidOf document (Cursor.start cs).drain, last) ∧
      last.trail.IsSound document ∧ last.next document = some (none, last) ∧
      ∀ fault, .error fault ∈ (Cursor.start cs).drain → fault.IsWithin document := by
  obtain ⟨answer, later, ran, soundLater, outcome⟩ := Scan.follows_event trail sound here
  have said := next_of_run ran
  rw [Cursor.drain_start] at enough ⊢
  cases read : nextEvent cs with
  | error fault =>
    rw [read] at outcome enough
    obtain ⟨rfl, within⟩ := outcome
    obtain ⟨m, rfl⟩ := Nat.exists_eq_succ_of_ne_zero (Nat.ne_zero_of_lt enough)
    refine ⟨⟨later, true⟩, drain_of_some said (drain_of_none (next_of_failed later) m), soundLater, rfl, ?_⟩
    intro fault' mem
    cases List.mem_singleton.mp mem
    exact within
  | ok found =>
    rw [read] at outcome enough
    obtain ⟨rfl, there⟩ := outcome
    cases found with
    | none => exact ⟨⟨later, false⟩, drain_of_none said n, soundLater, next_of_isAt_nil there, nofun⟩
    | some next =>
      obtain ⟨event, rest⟩ := next
      have shorter := nextEvent_shorter read
      obtain ⟨m, rfl⟩ := Nat.exists_eq_succ_of_ne_zero (Nat.ne_zero_of_lt enough)
      -- the drain of what follows the event is one shorter, and so is the count of answers
      obtain ⟨last, drained, soundLast, spent, within⟩ :=
        drain_follows (Nat.le_of_succ_le_succ enough) soundLater there
      refine ⟨last, drain_of_some said drained, soundLast, spent, ?_⟩
      intro fault mem
      rcases List.mem_cons.mp mem with same | after
      · cases same
      · exact within fault after
termination_by cs.length

/-- A document is drained from its beginning, by one answer for every byte at the most and the none after them. -/
theorem drain_start (document : List Char) :
    ∃ last, drain document (byteLength document + 1) start =
        some (saidOf document (Cursor.start document).drain, last) ∧
      last.trail.IsSound document ∧ last.next document = some (none, last) ∧
      ∀ fault, .error fault ∈ (Cursor.start document).drain → fault.IsWithin document :=
  drain_follows (length_drain_le document) (isSound_start document) (isAt_start document)

end Tokenizer

/-! ## Segments -/

/-- A text cut into segments. A run of characters goes on as far as it can. -/
inductive IsSegmented : List Char → List (Segment × List Char) → Prop
  | nil : IsSegmented [] []
  | cons {segment : Segment} {piece rest : List Char} {segments : List (Segment × List Char)} :
    SegmentText segment piece → (segment.isRun = true → ∀ c ∈ rest.head?, c = '<') →
      IsSegmented rest segments → IsSegmented (piece ++ rest) ((segment, piece) :: segments)

def eventsOf (segments : List (Segment × List Char)) : List Event :=
  segments.flatMap (·.1.event?.toList)

theorem eventsOf_cons (segment : Segment) (piece : List Char) (segments : List (Segment × List Char)) :
    eventsOf ((segment, piece) :: segments) = segment.event?.toList ++ eventsOf segments := rfl

theorem exists_segmented {after : List Char} (steps : StepsTo cs after) (ends : after = []) :
    ∃ segments, IsSegmented cs segments := by
  induction steps with
  | here =>
    subst ends
    exact ⟨[], .nil⟩
  | step some read _ ih =>
    obtain ⟨segments, segmented⟩ := ih ends
    obtain ⟨piece, rfl, text, stops⟩ := segmentText_of_read some read
    exact ⟨_, .cons text stops segmented⟩

namespace IsSegmented

theorem flatMap_eq (segmented : IsSegmented cs segments) : segments.flatMap (·.2) = cs := by
  induction segmented with
  | nil => rfl
  | cons _ _ _ ih => rw [List.flatMap_cons, ih]

/-- What a text says is what its segments say. -/
theorem drain_eq (segmented : IsSegmented cs segments) :
    (Cursor.start cs).drain = (eventsOf segments).map .ok := by
  induction segmented with
  | nil =>
    rw [Cursor.drain_start, nextEvent]
    rfl
  | @cons segment piece rest segments text stops _ ih =>
    have read := text.read stops
    -- a step takes a first character, and the segment has one
    obtain ⟨c, more, begins⟩ := List.exists_cons_of_ne_nil (List.append_ne_nil_of_left_ne_nil text.ne_nil rest)
    rw [begins] at read ⊢
    cases said : segment.event? with
    | none => rw [drain_of_silent read said, ih, eventsOf_cons, said, Option.toList_none, List.nil_append]
    | some event =>
      rw [drain_of_event read said, ih, eventsOf_cons, said, Option.toList_some, List.singleton_append, List.map_cons]

theorem text {segment : Segment} {piece : List Char} (segmented : IsSegmented cs segments)
    (mem : (segment, piece) ∈ segments) : SegmentText segment piece := by
  induction segmented with
  | nil => cases mem
  | cons text _ _ ih =>
    rcases List.mem_cons.mp mem with same | later
    · cases same
      exact text
    · exact ih later

/-- A segment is one when it stands alone as well. -/
theorem alone {segment : Segment} {piece : List Char} (segmented : IsSegmented cs segments)
    (mem : (segment, piece) ∈ segments) : IsSegmented piece [(segment, piece)] := by
  have one : IsSegmented (piece ++ []) [(segment, piece)] := .cons (segmented.text mem) nofun .nil
  rwa [List.append_nil] at one

/-- Where a segment begins it is read, and what it leaves is segmented. -/
theorem read {before after : List (Segment × List Char)} {segment : Segment} {piece : List Char}
    (segmented : IsSegmented cs (before ++ (segment, piece) :: after)) :
    readSegment (piece ++ after.flatMap (·.2)) = .ok (segment, after.flatMap (·.2)) := by
  induction before generalizing cs with
  | nil =>
    cases segmented with
    | cons text stops later =>
      obtain rfl := later.flatMap_eq
      exact text.read stops
  | cons first before ih =>
    cases segmented with
    | cons _ _ later => exact ih later

end IsSegmented

/-- Where a segment begins, a step passes it and nothing else. -/
theorem IsSegmented.run {before after : List (Segment × List Char)} {segment : Segment} {piece : List Char}
    (segmented : IsSegmented document (before ++ (segment, piece) :: after)) (sound : trail.IsSound document)
    (here : trail.position = byteLength (before.flatMap (·.2))) :
    ∃ later, Scan.step.run document trail = some (.ok (Scan.afterSegment segment.event?), later) ∧
      later.position = byteLength (before.flatMap (·.2) ++ piece) := by
  have split : document = before.flatMap (·.2) ++ (piece ++ after.flatMap (·.2)) := by
    rw [← segmented.flatMap_eq, List.flatMap_append, List.flatMap_cons]
  have isAt : trail.IsAt document (piece ++ after.flatMap (·.2)) := ⟨_, split, here⟩
  have text : SegmentText segment piece := segmented.text (List.mem_append_right _ (List.mem_cons_self ..))
  have some : piece ++ after.flatMap (·.2) ≠ [] := List.append_ne_nil_of_left_ne_nil text.ne_nil _
  obtain ⟨answer, later, ran, -, outcome⟩ := Scan.follows_step some trail sound isAt
  rw [segmented.read, Scan.eventOf_ok] at outcome
  obtain ⟨rfl, there⟩ := outcome
  exact ⟨later, ran, by rw [isAt.position_eq there, here, byteLength_append]⟩

/-! ## Errors -/

theorem exists_events_of_no_error {said : List (Except Fault Event)} (fine : ∀ fault, .error fault ∉ said) :
    ∃ events : List Event, said = events.map .ok := by
  induction said with
  | nil => exact ⟨[], rfl⟩
  | cons first more ih =>
    obtain ⟨events, rfl⟩ := ih fun fault mem => fine fault (List.mem_cons_of_mem _ mem)
    cases first with
    | error fault => exact absurd (List.mem_cons_self ..) (fine fault)
    | ok event => exact ⟨event :: events, rfl⟩

namespace Tokenizer

theorem mem_saidOf_error {said : List (Except Fault Event)} {error : DecodeError} :
    .error error ∈ saidOf document said ↔ ∃ fault, .error fault ∈ said ∧ fault.inDocument document = error := by
  constructor
  · intro mem
    obtain ⟨item, inSaid, same⟩ := List.mem_map.mp mem
    cases item with
    | error fault => exact ⟨fault, inSaid, Except.error.inj same⟩
    | ok event => cases same
  · rintro ⟨fault, inSaid, rfl⟩
    exact List.mem_map.mpr ⟨_, inSaid, rfl⟩

/-- The offset of a fault in a document is that of a character of it, or its end. -/
theorem isCharBoundary_of_isWithin {fault : Fault} {offset : Nat} {what : Malformation}
    (within : fault.IsWithin document) (same : fault.inDocument document = .malformed offset what) :
    IsCharBoundary document offset := by
  cases fault with
  | unknownReference name => cases same
  | malformed what' rest =>
    cases same
    obtain ⟨before, split⟩ := within
    exact ⟨before, rest, split.symm, offset_eq split.symm⟩

/-- The segments are the document, one after another, and what they say is all that is said. Each is passed by a
step from where it begins to where it ends, and says what it says when it stands alone. -/
structure IsCovered (document : List Char) (items : List (Except DecodeError Event))
    (segments : List (Segment × List Char)) : Prop where
  segmented : IsSegmented document segments
  whole : segments.flatMap (·.2) = document
  said : items = (eventsOf segments).map .ok
  passed : ∀ before segment piece after, segments = before ++ (segment, piece) :: after →
    ∀ trail : Trail, trail.IsSound document → trail.position = byteLength (before.flatMap (·.2)) →
      ∃ later, Scan.step.run document trail = some (.ok (Scan.afterSegment segment.event?), later) ∧
        later.position = byteLength (before.flatMap (·.2) ++ piece)
  alone : ∀ segment piece, (segment, piece) ∈ segments →
    ∃ last, drain piece (byteLength piece + 1) start = some (segment.event?.toList.map .ok, last)

theorem exists_covered (fine : ∀ error, .error error ∉ saidOf document (Cursor.start document).drain) :
    ∃ segments, IsCovered document (saidOf document (Cursor.start document).drain) segments := by
  have noFault : ∀ fault, .error fault ∉ (Cursor.start document).drain :=
    fun fault mem => fine _ (mem_saidOf_error.mpr ⟨fault, mem, rfl⟩)
  obtain ⟨events, said⟩ := exists_events_of_no_error noFault
  obtain ⟨segments, segmented⟩ := exists_segmented (stepsTo_nil document said) rfl
  refine ⟨segments, segmented, segmented.flatMap_eq, ?_, ?_, ?_⟩
  · rw [segmented.drain_eq, saidOf_ok]
  · rintro before segment piece after rfl trail sound here
    exact segmented.run sound here
  · -- a segment alone says what it says in its place
    intro segment piece mem
    obtain ⟨last, drained, -⟩ := drain_start piece
    refine ⟨last, ?_⟩
    rw [drained, (segmented.alone mem).drain_eq, saidOf_ok, eventsOf, List.flatMap_singleton]

/-- Draining ends on every document, after one answer for every byte at the most, and says what a cursor says. All
positions, those of errors included, are in the document, where a character begins or the text ends, and nothing
is refused. If there is no error, the segments that are passed are the document. Wherever it is asked, a step comes
forward unless it fails or the document has ended, and a tokenizer has an answer; after an error and after the end
it is none, and remains so. -/
theorem drain_exact (document : List Char) :
    (∃ items last, drain document (byteLength document + 1) start = some (items, last) ∧
      items = saidOf document (Cursor.start document).drain ∧ items.length ≤ byteLength document ∧
      (∀ n ∈ last.trail.position :: last.trail.earlier, n ≤ byteLength document ∧ IsCharBoundary document n) ∧
      (∀ offset what, .error (.malformed offset what) ∈ items →
        offset ≤ byteLength document ∧ IsCharBoundary document offset) ∧
      ((∀ error, .error error ∉ items) → ∃ segments, IsCovered document items segments)) ∧
    (∀ trail : Trail, trail.IsSound document →
      ∃ answer later, Scan.step.run document trail = some (answer, later) ∧ later.IsSound document ∧
        ∀ said, answer = .ok said →
          trail.position < later.position ∨ trail.position = byteLength document ∧ said = .inr none) ∧
    ∀ tokenizer : Tokenizer, tokenizer.trail.IsSound document →
      ∃ item later, tokenizer.next document = some (item, later) ∧ later.trail.IsSound document ∧
        ((∀ event, item ≠ some (.ok event)) → later.next document = some (none, later)) := by
  refine ⟨?_, fun trail sound => run_step sound, fun tokenizer sound => ?_⟩
  · -- the drain from the beginning of the document
    obtain ⟨last, drained, sound, -, within⟩ := drain_start document
    refine ⟨_, last, drained, rfl, ?_, fun n mem => ⟨(sound n mem).le, sound n mem⟩, ?_, exists_covered⟩
    · rw [saidOf, List.length_map]
      exact length_drain_le document
    · intro offset what mem
      obtain ⟨fault, inSaid, same⟩ := mem_saidOf_error.mp mem
      have isBoundary := isCharBoundary_of_isWithin (within fault inSaid) same
      exact ⟨isBoundary.le, isBoundary⟩
  · -- one answer of any tokenizer
    obtain ⟨item, later, said, soundLater⟩ := next_total sound
    exact ⟨item, later, said, soundLater, next_ends sound said⟩

end Tokenizer

end Discovery.Markup
