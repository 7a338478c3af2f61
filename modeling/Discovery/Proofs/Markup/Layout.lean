import Discovery.Proofs.Markup.Grammar
import Discovery.Proofs.Markup.Traversed

/-!
# Layout says nothing

White space, comments and instructions may be put wherever the reader of a document takes a step. What the
document says stays the same, and so does the tree that is read from it: a comment may stand where there was
no gap, and white space may come to lie at the end of a run of characters or next to a section.

* `drain_layout`: layout in front of a text is passed over, whatever the text is;
* `drain_insert`: layout does not change what a text says, wherever a step begins;
* `Tree.decode_insert_layout`: so it does not change the tree of a document.
-/

namespace Discovery

open Markup

namespace Markup

/-! ## Layout -/

/-- White space that may stand in a document, comments and instructions, one after another. The end of a comment
does not stand in its body, and the end of an instruction nowhere before its own end: it is searched for
from the first character on. -/
inductive IsLayout : List Char → Prop
  | nil : IsLayout []
  | space {c : Char} {more : List Char} :
    Text.isWhiteSpace c = true → isMarkupChar c = true → IsLayout more → IsLayout (c :: more)
  | comment {body more : List Char} :
    Text.OnlyAtEnd ['-', '-', '>'] (body ++ ['-', '-', '>']) → IsLayout more →
      IsLayout (['<', '!', '-', '-'] ++ (body ++ ['-', '-', '>']) ++ more)
  | instruction {body more : List Char} :
    Text.OnlyAtEnd ['?', '>'] (['<', '?'] ++ (body ++ ['?', '>'])) → IsLayout more →
      IsLayout (['<', '?'] ++ (body ++ ['?', '>']) ++ more)

/-- Layout begins with white space, and goes on with a comment or an instruction if there is more of it. -/
theorem IsLayout.exists_blank {layout : List Char} (isLayout : IsLayout layout) :
    ∃ blank more, layout = blank ++ more ∧ Text.IsBlank blank ∧ (∀ c ∈ blank, isMarkupChar c = true) ∧
      IsLayout more ∧ ∀ c ∈ more.head?, c = '<' := by
  induction isLayout with
  | nil => exact ⟨[], [], rfl, nofun, nofun, .nil, nofun⟩
  | @space c _ space markup _ ih =>
    obtain ⟨blank, more, rfl, blankSpace, blankMarkup, isLayout, starts⟩ := ih
    exact ⟨c :: blank, more, rfl, List.forall_mem_cons.mpr ⟨space, blankSpace⟩,
      List.forall_mem_cons.mpr ⟨markup, blankMarkup⟩, isLayout, starts⟩
  | comment only isLayout _ =>
    refine ⟨[], _, rfl, nofun, nofun, .comment only isLayout, ?_⟩
    rintro c ⟨⟩
    rfl
  | instruction only isLayout _ =>
    refine ⟨[], _, rfl, nofun, nofun, .instruction only isLayout, ?_⟩
    rintro c ⟨⟩
    rfl

/-! ## Layout in front of a text -/

/-- Texts that begin with the same segment say the same if what follows it says the same. -/
theorem drain_congr {cs cs' rest rest' : List Char} {segment : Segment} (some : cs ≠ []) (some' : cs' ≠ [])
    (read : readSegment cs = .ok (segment, rest)) (read' : readSegment cs' = .ok (segment, rest'))
    (same : (Cursor.start rest).drain = (Cursor.start rest').drain) :
    (Cursor.start cs).drain = (Cursor.start cs').drain := by
  obtain ⟨c, more, rfl⟩ := List.exists_cons_of_ne_nil some
  obtain ⟨c', more', rfl⟩ := List.exists_cons_of_ne_nil some'
  cases said : segment.event? with
  | none => rw [drain_of_silent read said, drain_of_silent read' said, same]
  | some event => rw [drain_of_event read said, drain_of_event read' said, same]

/-- Texts that are read alike say the same. -/
theorem drain_of_readSegment_eq {c d : Char} {cs ds : List Char}
    (alike : readSegment (c :: cs) = readSegment (d :: ds)) :
    (Cursor.start (c :: cs)).drain = (Cursor.start (d :: ds)).drain := by
  rw [Cursor.drain_start, Cursor.drain_start, nextEvent_cons, nextEvent_cons, alike]

/-- White space in front of a run of characters is trimmed with it. -/
theorem readCharacters_space {c : Char} (space : Text.isWhiteSpace c = true) (markup : isMarkupChar c = true)
    (cs : List Char) : readCharacters (c :: cs) = readCharacters cs := by
  have plain : decide (c ≠ '<') = true := by
    rw [decide_eq_true_iff]
    rintro rfl
    exact absurd space (by decide)
  -- the white space belongs to the run, and is trimmed off it
  have trimmed : ∀ run, Text.trimChars (c :: run) = Text.trimChars run := by
    intro run
    have blank : ∀ d ∈ [c], Text.isWhiteSpace d = true := by simpa using space
    exact Text.trimChars_append blank run
  have checked : ∀ run rest, checkChars (c :: run) rest = checkChars run rest := by
    intro run rest
    rw [checkChars, List.dropWhile_cons_of_pos markup, checkChars]
  have run : (c :: cs).takeWhile (· ≠ '<') = c :: cs.takeWhile (· ≠ '<') := List.takeWhile_cons_of_pos plain
  have rest : (c :: cs).dropWhile (· ≠ '<') = cs.dropWhile (· ≠ '<') := List.dropWhile_cons_of_pos plain
  simp only [readCharacters, run, rest, trimmed, checked]

/-- White space in front of a text is passed over: it is a run of its own in front of a tag, and part of the run
that it stands in front of otherwise. -/
theorem drain_space {c : Char} (space : Text.isWhiteSpace c = true) (markup : isMarkupChar c = true)
    (rest : List Char) : (Cursor.start (c :: rest)).drain = (Cursor.start rest).drain := by
  have plain : c ≠ '<' := by
    rintro rfl
    exact absurd space (by decide)
  by_cases stops : ∀ d ∈ rest.head?, d = '<'
  · have isRun : IsRun [c] "" := by
      have blank : ∀ d ∈ [c], Text.isWhiteSpace d = true := by simpa using space
      refine ⟨by simpa using plain.symm, by simpa using markup, ?_⟩
      rw [show Text.trimChars [c] = [] from Text.trimChars_append blank [], readReferences, resolve]
    have read : readSegment (c :: rest) = .ok (.characters "", rest) := by
      rw [readSegment_characters plain]
      exact readCharacters_eq_ok_iff.mpr ⟨[c], "", rfl, stops, isRun, rfl⟩
    exact drain_of_silent read rfl
  · cases rest with
    | nil => exact absurd (by simp) stops
    | cons d more =>
      -- the run begins one character later, and nothing else is different
      have plainNext : d ≠ '<' := by simpa using stops
      apply drain_of_readSegment_eq
      rw [readSegment_characters plain, readSegment_characters plainNext, readCharacters_space space markup]

/-- A segment that says nothing is passed over in front of any text. -/
theorem SegmentText.drain {segment : Segment} {piece : List Char} (text : SegmentText segment piece)
    (some : piece ≠ []) (noRun : segment.isRun = false) (silent : segment.event? = none) (rest : List Char) :
    (Cursor.start (piece ++ rest)).drain = (Cursor.start rest).drain := by
  have read := text.read (Segment.stops_of_not_isRun noRun rest)
  obtain ⟨c, more, rfl⟩ := List.exists_cons_of_ne_nil some
  exact drain_of_silent read silent

/-- Layout in front of a text is passed over. -/
theorem drain_layout {layout : List Char} (isLayout : IsLayout layout) (rest : List Char) :
    (Cursor.start (layout ++ rest)).drain = (Cursor.start rest).drain := by
  induction isLayout with
  | nil => rfl
  | space space markup _ ih => rw [List.cons_append, drain_space space markup, ih]
  | comment only _ ih =>
    have text := SegmentText.comment only
    rw [List.append_assoc, text.drain (List.cons_ne_nil _ _) rfl rfl, ih]
  | instruction only _ ih =>
    have text := SegmentText.instruction (List.prefix_append _ _)
      ((List.suffix_append _ _).trans (List.suffix_append _ _)) only
    rw [List.append_assoc, text.drain (List.cons_ne_nil _ _) rfl rfl, ih]

/-! ## Layout inside a text -/

/-- The second text is what is left of the first where a step of the reader begins. `nextEvent` takes one step for
every segment, whether it says something or not. -/
inductive StepsTo : List Char → List Char → Prop
  | here (cs : List Char) : StepsTo cs cs
  | step {cs rest after : List Char} {segment : Segment} :
    cs ≠ [] → readSegment cs = .ok (segment, rest) → StepsTo rest after → StepsTo cs after

theorem SegmentText.ne_nil {segment : Segment} {piece : List Char} (text : SegmentText segment piece) :
    piece ≠ [] := by
  cases text with
  | instruction starts =>
    rintro rfl
    cases List.prefix_nil.mp starts
  | characters some => exact some
  | comment | cdata | declaration | startTag | endTag => exact List.cons_ne_nil _ _

/-- White space after a run of characters is trimmed with it. -/
theorem IsRun.append_blank {run blank : List Char} {words : String} (isRun : IsRun run words)
    (space : Text.IsBlank blank) (markup : ∀ c ∈ blank, isMarkupChar c = true) : IsRun (run ++ blank) words := by
  refine ⟨?_, List.forall_mem_append.mpr ⟨isRun.markup, markup⟩, ?_⟩
  · intro mem
    rcases List.mem_append.mp mem with inRun | inBlank
    · exact isRun.noTag inRun
    · exact absurd (space _ inBlank) (by decide)
  · rw [Text.trimChars_append_blank space]
    exact isRun.means

/-- Layout after a run of characters goes on with the run as far as it is white space, and is passed over after
it. -/
theorem drain_run_layout {run layout after : List Char} {words : String} (some : run ≠ [])
    (isRun : IsRun run words) (isLayout : IsLayout layout) (stops : ∀ c ∈ after.head?, c = '<') :
    (Cursor.start (run ++ (layout ++ after))).drain = (Cursor.start (run ++ after)).drain := by
  obtain ⟨blank, more, rfl, space, markup, isLayout, starts⟩ := isLayout.exists_blank
  have stopsLater : ∀ c ∈ (more ++ after).head?, c = '<' := by
    cases more with
    | nil => exact stops
    | cons first more => exact starts
  have someLonger : run ++ blank ≠ [] := List.append_ne_nil_of_left_ne_nil some blank
  -- the white space that the layout begins with goes to the run, and the rest stands for itself
  have longer := SegmentText.characters someLonger (isRun.append_blank space markup)
  have read := longer.read fun _ => stopsLater
  have readBefore := (SegmentText.characters some isRun).read fun _ => stops
  rw [List.append_assoc blank, ← List.append_assoc run]
  exact drain_congr (List.append_ne_nil_of_left_ne_nil someLonger _)
    (List.append_ne_nil_of_left_ne_nil some _) read readBefore (drain_layout isLayout after)

/-- Layout does not change what a text says where a step of its reader begins. -/
theorem drain_insert {cs after layout : List Char} (place : StepsTo cs after) (isLayout : IsLayout layout) :
    ∃ before, cs = before ++ after ∧
      (Cursor.start (before ++ (layout ++ after))).drain = (Cursor.start cs).drain := by
  induction place with
  | here cs => exact ⟨[], rfl, drain_layout isLayout cs⟩
  | @step cs rest after segment someText read _ ih =>
    obtain ⟨before, rfl, same⟩ := ih
    obtain ⟨piece, rfl, text, stops⟩ := segmentText_of_read someText read
    have some := text.ne_nil
    refine ⟨piece ++ before, by simp, ?_⟩
    rw [List.append_assoc]
    -- only a run that ends at the place of the layout is read otherwise
    by_cases atRun : segment.isRun = true ∧ before = []
    · obtain ⟨run, rfl⟩ := atRun
      -- no other segment is a run
      cases text with
      | characters _ isRun => exact drain_run_layout some isRun isLayout (stops run)
      | instruction | comment | cdata | declaration | startTag | endTag => cases run
    · have read' : readSegment (piece ++ (before ++ (layout ++ after))) =
          .ok (segment, before ++ (layout ++ after)) := by
        apply text.read
        intro run
        cases before with
        | nil => exact absurd ⟨run, rfl⟩ atRun
        | cons first before => exact stops run
      exact drain_congr (List.append_ne_nil_of_left_ne_nil some _) someText read' read same

/-- Where no fault is met the reader steps to the end. -/
theorem stepsTo_nil (cs : List Char) {events : List Event}
    (said : (Cursor.start cs).drain = events.map .ok) : StepsTo cs [] := by
  cases cs with
  | nil => exact .here []
  | cons c more =>
    cases read : readSegment (c :: more) with
    | error fault =>
      rw [drain_of_fault read] at said
      cases events with
      | nil => cases said
      | cons first events => cases (List.cons.inj said).1
    | ok result =>
      obtain ⟨segment, rest⟩ := result
      have shorter := readSegment_shorter (List.cons_ne_nil _ _) read
      cases silent : segment.event? with
      | none =>
        rw [drain_of_silent read silent] at said
        exact .step (List.cons_ne_nil _ _) read (stepsTo_nil rest said)
      | some event =>
        -- the first event is this one, and the others are those of the rest
        rw [drain_of_event read silent] at said
        cases events with
        | nil => cases said
        | cons first events =>
          exact .step (List.cons_ne_nil _ _) read (stepsTo_nil rest (List.cons.inj said).2)
termination_by cs.length

/-- A place where a step begins in reading a text, or its end. -/
def IsBoundary (cs after : List Char) : Prop :=
  StepsTo cs after ∨ after = []

end Markup

/-! ## Documents -/

namespace Tree

/-- Documents that say the same, and no fault, are read alike. -/
theorem decode_of_drain_eq {document other : String} {tree : Tree} (read : decode document = .ok tree)
    (same : (Cursor.start other.toList).drain = (Cursor.start document.toList).drain) :
    decode other = .ok tree := by
  obtain ⟨b, built, finished⟩ := exists_builder_of_decodeChars read
  obtain ⟨events, said⟩ := Builder.exists_events_of_takeAll built
  rw [said, Builder.takeAll_map_ok _ _ other.toList] at built
  rw [decode, decodeChars, same, said, built]
  simp only [finished]

/-- White space, comments and instructions may be put between any two segments of a document, in front of the
first and after the last: the tree that is read stays the same. -/
theorem decode_insert_layout {before layout after : String} {tree : Tree}
    (read : decode (before ++ after) = .ok tree) (place : IsBoundary (before ++ after).toList after.toList)
    (isLayout : IsLayout layout.toList) : decode (before ++ layout ++ after) = .ok tree := by
  obtain ⟨b, built, -⟩ := exists_builder_of_decodeChars read
  obtain ⟨events, said⟩ := Builder.exists_events_of_takeAll built
  -- a document that is read is stepped through to its end
  have steps : StepsTo (before ++ after).toList after.toList := by
    rcases place with steps | ended
    · exact steps
    · rw [ended]
      exact stepsTo_nil _ said
  obtain ⟨front, split, same⟩ := drain_insert steps isLayout
  rw [String.toList_append] at split
  obtain rfl : before.toList = front := List.append_cancel_right split
  apply decode_of_drain_eq read
  rw [String.toList_append, String.toList_append, List.append_assoc]
  exact same

/-- A comment, an instruction and a line break between a text and the closing tag after it. -/
theorem decode_insert_layout_after_text :
    decode ("<a>x" ++ "</a>") = .ok ((named "a").pushText "x") ∧
      IsBoundary ("<a>x" ++ "</a>").toList "</a>".toList ∧ IsLayout " <!-- > --><?p?>\n".toList ∧
      decode ("<a>x" ++ " <!-- > --><?p?>\n" ++ "</a>") = .ok ((named "a").pushText "x") := by
  have read : decode ("<a>x" ++ "</a>") = .ok ((named "a").pushText "x") := by decide +kernel
  have tag : readSegment "<a>x</a>".toList =
      .ok (.startTag ⟨"a", .empty, false⟩, "x</a>".toList) := by decide +kernel
  have text : readSegment "x</a>".toList = .ok (.characters "x", "</a>".toList) := by decide +kernel
  have place : IsBoundary ("<a>x" ++ "</a>").toList "</a>".toList :=
    .inl (.step (by decide) tag (.step (by decide) text (.here _)))
  have comment : Text.OnlyAtEnd "-->".toList (" > ".toList ++ "-->".toList) :=
    Text.onlyAtEnd_of_cutAt (show Text.cutAt _ " > -->".toList = some (_, []) by decide)
  have instruction : Text.OnlyAtEnd "?>".toList ("<?".toList ++ ("p".toList ++ "?>".toList)) :=
    Text.onlyAtEnd_of_cutAt (show Text.cutAt _ "<?p?>".toList = some ("<?p".toList, []) by decide)
  have isLayout : IsLayout " <!-- > --><?p?>\n".toList :=
    .space (by decide) (by decide)
      (.comment comment (.instruction instruction (.space (by decide) (by decide) .nil)))
  exact ⟨read, place, isLayout, decode_insert_layout read place isLayout⟩

end Tree

end Discovery
