import Discovery.Proofs.Markup.Scanner
import Discovery.Proofs.Markup.Written
import Discovery.Proofs.Text.FirstMark

/-!
# Scanning is reading

A scanner moves a position through a document, a reader takes pieces off the front of a text. Where the text is
what stands from the position on, the two come to the same: what the one gives back the other does, the position
then stands in front of the text that is left, and a fault is the error at its offset. On the way every position
lies between two characters, so that no slice is refused, and no loop is.

* `Scan.Follows`: a scanner does at a position what a reader does with the text from there on;
* `Scan.Follows.bind`, `Scan.Follows.andThen`: what scanners do one after the other;
* `Scan.follows_loop`: a loop has rounds enough;
* `Scan.follows_step`, `Scan.follows_event`: a step of the tokenizer, and the next event.
-/

namespace Discovery.Markup

namespace Trail

/-- Is the text what stands from the position on? -/
def IsAt (document cs : List Char) (trail : Trail) : Prop :=
  ∃ before, document = before ++ cs ∧ trail.position = byteLength before

/-- Have all positions been in the document, between two characters? -/
def IsSound (document : List Char) (trail : Trail) : Prop :=
  ∀ n ∈ trail.position :: trail.earlier, IsCharBoundary document n

end Trail

/-- Does the fault stand at a place in the document? -/
def Fault.IsWithin (document : List Char) : Fault → Prop
  | .malformed _ rest => rest <:+ document
  | .unknownReference _ => True

namespace Scan

variable {document cs rest piece : List Char} {α β : Type} {trail trail' : Trail}

/-- What a scanner comes to is what a reader comes to: the same, with the position in front of the text that the
reader leaves, or the same fault. -/
def IsOutcome (document : List Char) (result : Except Fault (α × List Char)) (answer : Except DecodeError α)
    (trail : Trail) : Prop :=
  match result with
  | .ok (a, rest) => answer = .ok a ∧ trail.IsAt document rest
  | .error fault => answer = .error (fault.inDocument document) ∧ fault.IsWithin document

/-- Where a text stands the scanner has an outcome, that of reading the text, and leaves no position outside the
document or within a character. -/
def Follows (document : List Char) (m : Scan α) (cs : List Char) (result : Except Fault (α × List Char)) : Prop :=
  ∀ trail : Trail, trail.IsSound document → trail.IsAt document cs → ∃ answer trail',
    m.run document trail = some (answer, trail') ∧ trail'.IsSound document ∧ IsOutcome document result answer trail'

theorem run_bind (m : Scan α) (f : α → Scan β) (document : List Char) (trail : Trail) :
    (m >>= f).run document trail =
      match m.run document trail with
      | none => none
      | some (.error error, trail') => some (.error error, trail')
      | some (.ok a, trail') => (f a).run document trail' := by
  show (m document trail).bind _ = _
  rw [run]
  rcases m document trail with _ | ⟨_ | _, _⟩ <;> rfl

/-- What follows a scanner goes on where it has come to. -/
theorem Follows.bind {m : Scan α} {f : α → Scan β} {a : α} {result : Except Fault (β × List Char)}
    (first : Follows document m cs (.ok (a, rest))) (second : Follows document (f a) rest result) :
    Follows document (m >>= f) cs result := by
  intro trail sound here
  obtain ⟨answer, middle, ran, soundMiddle, rfl, there⟩ := first trail sound here
  obtain ⟨answer, last, ranOn, soundLast, outcome⟩ := second middle soundMiddle there
  refine ⟨answer, last, ?_, soundLast, outcome⟩
  rw [run_bind, ran]
  exact ranOn

/-- A fault is the last that a scanner comes to. -/
theorem Follows.bind_error {m : Scan α} {fault : Fault} (f : α → Scan β)
    (first : Follows document m cs (.error fault)) : Follows document (m >>= f) cs (.error fault) := by
  intro trail sound here
  obtain ⟨answer, last, ran, soundLast, rfl, within⟩ := first trail sound here
  refine ⟨_, last, ?_, soundLast, rfl, within⟩
  rw [run_bind, ran]

theorem follows_pure (a : α) : Follows document (pure a) cs (.ok (a, cs)) :=
  fun trail sound here => ⟨.ok a, trail, rfl, sound, rfl, here⟩

/-- A scanner that follows a reader goes on as the reader does, from wherever it is left. -/
theorem Follows.andThen {m : Scan α} {f : α → Scan β} {read : Except Fault (α × List Char)}
    {result : Except Fault (β × List Char)} (first : Follows document m cs read)
    (second : ∀ a rest, read = .ok (a, rest) → Follows document (f a) rest result)
    (faulty : ∀ fault, read = .error fault → result = .error fault) : Follows document (m >>= f) cs result := by
  cases read with
  | error fault =>
    rw [faulty fault rfl]
    exact first.bind_error f
  | ok found => exact first.bind (second _ _ rfl)

/-- A scanner that does not move is followed where it stands. -/
theorem Follows.andStay {m : Scan α} {f : α → Scan β} {checked : Except Fault α}
    {result : Except Fault (β × List Char)} (first : Follows document m cs (checked.map fun a => (a, cs)))
    (second : ∀ a, checked = .ok a → Follows document (f a) cs result)
    (faulty : ∀ fault, checked = .error fault → result = .error fault) : Follows document (m >>= f) cs result := by
  cases checked with
  | error fault =>
    rw [faulty fault rfl]
    exact first.bind_error f
  | ok a => exact first.bind (second a rfl)

theorem Follows.map {m : Scan α} {result : Except Fault (α × List Char)} (f : α → β)
    (follows : Follows document m cs result) :
    Follows document (do return f (← m)) cs (result.map fun (a, rest) => (f a, rest)) := by
  cases result with
  | error fault => exact follows.bind_error _
  | ok read => exact follows.bind (follows_pure _)

/-- The slice of the document from a sound position on is not refused. -/
theorem run_remaining (here : trail.IsAt document cs) : remaining.run document trail = some (.ok cs, trail) := by
  obtain ⟨before, split, position⟩ := here
  show (slice ((cutBytes? trail.position document).map (·.2))).run document trail = _
  rw [position, split, cutBytes?_byteLength]
  rfl

theorem follows_remaining : Follows document remaining cs (.ok (cs, cs)) :=
  fun trail sound here => ⟨.ok cs, trail, run_remaining here, sound, rfl, here⟩

/-- The position moves over a piece of the text. -/
theorem follows_advance {n : Nat} (size : byteLength piece = n) :
    Follows document (advance n) (piece ++ rest) (.ok ((), rest)) := by
  rintro trail sound ⟨before, rfl, position⟩
  have there : trail.position + n = byteLength (before ++ piece) := by
    rw [byteLength_append, position, size]
  refine ⟨.ok (), ⟨trail.position + n, trail.position :: trail.earlier⟩, rfl, ?_, rfl, ?_⟩
  · refine List.forall_mem_cons.mpr ⟨⟨before ++ piece, rest, ?_, there⟩, sound⟩
    rw [List.append_assoc]
  · exact ⟨before ++ piece, by rw [List.append_assoc], there⟩

theorem follows_upTo : Follows document (upTo (byteLength piece) (piece ++ rest)) cs (.ok (piece, cs)) := by
  rw [upTo, cutBytes?_byteLength]
  exact follows_pure piece

theorem follows_fail (what : Malformation) :
    Follows document (fail what : Scan α) cs (.error (.malformed what cs)) := by
  rintro trail sound ⟨before, split, position⟩
  refine ⟨.error (.malformed trail.position what), trail, rfl, sound, ?_, ⟨before, split.symm⟩⟩
  rw [Fault.inDocument, offset_eq split, position]

/-- The position is given to what follows. -/
theorem follows_position {f : Nat → Scan α} {result : Except Fault (α × List Char)}
    (follows : ∀ before, document = before ++ cs → Follows document (f (byteLength before)) cs result) :
    Follows document (position >>= f) cs result := by
  intro trail sound here
  obtain ⟨before, split, position⟩ := id here
  have followsHere := follows before split trail sound here
  rw [← position] at followsHere
  exact followsHere

/-- A loop has rounds enough for every character of the text, and one more. -/
theorem follows_loop {σ : Type} {round : σ → Scan (σ ⊕ α)} {state : σ} {result : Except Fault (α × List Char)}
    (follows : ∀ n, cs.length ≤ n → Follows document (untilDone round (n + 1) state) cs result) :
    Follows document (loop round state) cs result := by
  intro trail sound here
  have enough : cs.length ≤ byteLength document := by
    obtain ⟨before, split, -⟩ := here
    rw [split, byteLength_append]
    exact Nat.le_trans (length_le_byteLength cs) (Nat.le_add_left _ _)
  exact follows _ enough trail sound here

/-! ## Parts -/

theorem follows_takeUntil (mark : List Char) (part : Enclosed) :
    Follows document (takeUntil mark part) cs (readUntil mark part cs) := by
  refine follows_remaining.bind ?_
  rw [readUntil, find?]
  cases found : Text.cutAt mark cs with
  | none => exact follows_fail _
  | some parts =>
    obtain ⟨before, after⟩ := parts
    obtain rfl := Text.cutAt_eq_some found
    refine (follows_advance (byteLength_append before mark)).bind ?_
    rw [List.append_assoc]
    exact follows_upTo

/-- Characters are checked where they stand. -/
theorem follows_checkChars {before after : List Char} (split : document = before ++ (piece ++ after)) :
    Follows document (checkChars (byteLength before) piece) cs
      ((Markup.checkChars piece after).map fun () => ((), cs)) := by
  have parts : piece.takeWhile isMarkupChar ++ piece.dropWhile isMarkupChar = piece := List.takeWhile_append_dropWhile
  rw [checkChars, Markup.checkChars]
  cases begins : piece.dropWhile isMarkupChar with
  | nil => exact follows_pure ()
  | cons bad more =>
    have whole : document = (before ++ piece.takeWhile isMarkupChar) ++ (bad :: more ++ after) := by
      rw [split, ← begins, List.append_assoc, ← List.append_assoc (piece.takeWhile isMarkupChar), parts]
    refine fun trail sound _ => ⟨_, trail, rfl, sound, ?_, ⟨_, whole.symm⟩⟩
    rw [Fault.inDocument, offset_eq whole, byteLength_append]

theorem follows_references (piece : List Char) :
    Follows document (references piece) cs ((readReferences piece).map fun meant => (meant, cs)) := by
  rw [references, readReferences]
  cases resolve piece with
  | ok meant => exact follows_pure _
  | error name => exact fun trail sound _ => ⟨_, trail, rfl, sound, rfl, trivial⟩

theorem follows_skipSpace : Follows document skipSpace cs (.ok ((), Text.skipSpace cs)) := by
  obtain ⟨blank, -, skipped⟩ := Text.exists_blank cs
  refine follows_remaining.bind ?_
  have size : byteLength blank = byteLength cs - byteLength (Text.skipSpace cs) := by
    have whole := congrArg byteLength skipped
    rw [byteLength_append] at whole
    omega
  have moved : Follows document (advance (byteLength cs - byteLength (Text.skipSpace cs)))
      (blank ++ Text.skipSpace cs) (.ok ((), Text.skipSpace cs)) := follows_advance size
  rwa [← skipped] at moved

theorem follows_name : Follows document name cs (readName cs) := by
  refine follows_remaining.bind ?_
  cases cs with
  | nil => exact follows_fail _
  | cons c more =>
    rw [readName, nameLength]
    split
    · have size : byteLength (c :: more.takeWhile isNameChar) =
          c.utf8Size + byteLength (more.takeWhile isNameChar) := byteLength_cons ..
      -- the scanner asks how long the name is, the reader whether it has a first character
      have some : c.utf8Size + byteLength (more.takeWhile isNameChar) ≠ 0 := by
        have := c.utf8Size_pos
        omega
      have split : c :: more = (c :: more.takeWhile isNameChar) ++ more.dropWhile isNameChar := by
        rw [List.cons_append, List.takeWhile_append_dropWhile]
      rw [if_neg some, ← size, split]
      exact (follows_advance rfl).bind (follows_upTo.bind (follows_pure _))
    · exact follows_fail _

/-! ## Tags -/

theorem follows_value (key : String) (quote : Char) :
    Follows document (value key quote) cs (readValue key quote cs) := by
  refine follows_position fun before split => ?_
  refine (follows_takeUntil _ _).andThen (fun raw after found => ?_) (fun fault found => by rw [readValue, found])
  have parts : cs = raw ++ [quote] ++ after := Text.cutAt_eq_some (readUntil_eq_ok found)
  rw [parts, List.append_assoc] at split
  rw [readValue, found]
  -- both sides look for the beginning of a tag first
  show Follows document (if raw.contains '<' then _ else _) after (if raw.contains '<' then _ else _)
  split
  · exact follows_fail _
  · refine (follows_checkChars split).andStay (fun _ checked => ?_) (fun fault checked => ?_)
    · rw [List.singleton_append] at checked
      rw [checked]
      have resolved : Follows document (references raw) after _ := follows_references raw
      cases means : readReferences raw with
      | error fault => rwa [means] at resolved
      | ok meant => rwa [means] at resolved
    · rw [List.singleton_append] at checked
      rw [checked]

theorem follows_quoted (key : String) : Follows document (quoted key) cs (readQuoted key cs) := by
  refine follows_remaining.bind ?_
  fun_cases readQuoted key cs with
  | case1 rest => exact (follows_advance (show byteLength ['\x22'] = 1 by decide)).bind (follows_value _ _)
  | case2 rest => exact (follows_advance (show byteLength ['\x27'] = 1 by decide)).bind (follows_value _ _)
  | case3 cs noDouble noSingle =>
    split
    · exact absurd rfl (noDouble _)
    · exact absurd rfl (noSingle _)
    · exact follows_fail _

theorem follows_keyedValue : Follows document keyedValue cs
    ((readAttribute cs).map fun (key, value, rest) => ((key, value), rest)) := by
  refine follows_name.andThen (fun key after named => ?_) (fun fault named => by rw [readAttribute, named]; rfl)
  refine follows_skipSpace.bind (follows_remaining.bind ?_)
  have read : readAttribute cs =
      (readAssigned key (Text.skipSpace after)).map fun found => (key, found.1, found.2) := by
    rw [readAttribute, named]
    dsimp only
    cases readAssigned key (Text.skipSpace after) <;> rfl
  rw [read]
  -- the two cases of the reader: an equals sign follows, or it does not
  generalize Text.skipSpace after = assigned
  fun_cases readAssigned key assigned with
  | case1 more =>
    refine (follows_advance (show byteLength ['='] = 1 by decide)).bind (follows_skipSpace.bind ?_)
    refine (follows_quoted key).andThen (fun value rest read => ?_) (fun fault read => by rw [read]; rfl)
    rw [read]
    exact follows_pure _
  | case2 assigned noSign =>
    split
    · exact absurd rfl (noSign _)
    · exact follows_fail _

/-- Where a start tag does not end, an attribute comes next. -/
theorem follows_further {name : String} {known : Attributes}
    {result : Except Fault ((Attributes ⊕ StartTag) × List Char)} (some : Text.skipSpace cs ≠ [])
    (noEnd : ∀ more, Text.skipSpace cs ≠ '>' :: more) (noSlash : ∀ more, Text.skipSpace cs ≠ '/' :: '>' :: more)
    (follows : Follows document (do accept known (← keyedValue)) (Text.skipSpace cs) result) :
    Follows document (further name known) cs result := by
  refine follows_skipSpace.bind (follows_remaining.bind ?_)
  split
  · next none => exact absurd none some
  · next ends => exact absurd ends (noEnd _)
  · next ends => exact absurd ends (noSlash _)
  · exact follows

/-- The attributes of a start tag are scanned as they are read, if there are rounds enough. -/
theorem follows_untilDone_further (name : String) (known : Attributes) {n : Nat} (enough : cs.length ≤ n) :
    Follows document (untilDone (further name) (n + 1) known) cs (readAttributes name known cs) := by
  have entry : ∀ cs, Follows document keyedValue cs _ := fun _ => follows_keyedValue
  -- one round of the loop for one call of the reader, a round to spare being left each time
  fun_induction readAttributes name known cs generalizing n with
  | case1 known cs begins =>
    have round : Follows document (further name known) cs _ :=
      follows_skipSpace.bind (follows_remaining.bind (by rw [begins]; exact follows_fail _))
    exact round.bind_error _
  | case2 known cs rest begins =>
    have round : Follows document (further name known) cs (.ok (.inr ⟨name, known, false⟩, rest)) := by
      refine follows_skipSpace.bind (follows_remaining.bind ?_)
      rw [begins]
      exact (follows_advance (show byteLength ['>'] = 1 by decide)).bind (follows_pure _)
    exact round.bind (follows_pure _)
  | case3 known cs rest begins =>
    have round : Follows document (further name known) cs (.ok (.inr ⟨name, known, true⟩, rest)) := by
      refine follows_skipSpace.bind (follows_remaining.bind ?_)
      rw [begins]
      exact (follows_advance (show byteLength ['/', '>'] = 2 by decide)).bind (follows_pure _)
    exact round.bind (follows_pure _)
  | case4 known cs fault some noEnd noSlash found =>
    -- the attribute cannot be read
    have failed := entry (Text.skipSpace cs)
    rw [found] at failed
    exact (follows_further some noEnd noSlash (failed.bind_error _)).bind_error _
  | case5 known cs key value rest double some noEnd noSlash found =>
    have read := entry (Text.skipSpace cs)
    rw [found] at read
    -- its key is known
    refine (follows_further some noEnd noSlash (read.bind ?_)).bind_error _
    rw [accept, if_pos double]
    exact follows_fail _
  | case6 known cs key value rest fresh apart some noEnd noSlash found ih =>
    have read := entry (Text.skipSpace cs)
    rw [found] at read
    -- it is accepted, and takes a character at the least
    have accepted : Follows document (accept known (key, value)) rest (.ok (.inl (known.insert key value), rest)) := by
      rw [accept, if_neg fresh]
      refine follows_remaining.bind ?_
      rw [if_pos apart]
      exact follows_pure _
    have shorter : rest.length < cs.length :=
      Nat.lt_of_lt_of_le (readAttribute_shorter found) (Text.length_skipSpace_le cs)
    refine (follows_further some noEnd noSlash (read.bind accepted)).bind ?_
    obtain ⟨m, rfl⟩ : ∃ m, n = m + 1 := Nat.exists_eq_succ_of_ne_zero (by omega)
    exact ih (by omega)
  | case7 known cs key value rest fresh close some noEnd noSlash found =>
    have read := entry (Text.skipSpace cs)
    rw [found] at read
    -- nothing sets it apart from what follows
    refine (follows_further some noEnd noSlash (read.bind ?_)).bind_error _
    rw [accept, if_neg fresh]
    refine follows_remaining.bind ?_
    rw [if_neg close]
    exact follows_fail _

theorem follows_startTag : Follows document startTag ('<' :: cs) (readStartTag cs) := by
  refine (follows_advance (show byteLength ['<'] = 1 by decide)).bind ?_
  refine follows_name.andThen (fun name rest named => ?_) (fun fault named => by rw [readStartTag, named])
  rw [readStartTag, named]
  exact follows_loop fun _ enough => follows_untilDone_further name .empty enough

theorem follows_endTag : Follows document endTag ('<' :: '/' :: cs) (readEndTag cs) := by
  refine (follows_advance (show byteLength ['<', '/'] = 2 by decide)).bind ?_
  refine follows_name.andThen (fun name rest named => ?_) (fun fault named => by rw [readEndTag, named])
  rw [readEndTag, named]
  refine follows_skipSpace.bind (follows_remaining.bind ?_)
  dsimp only
  generalize Text.skipSpace rest = ending
  fun_cases readTagEnd name ending with
  | case1 more => exact (follows_advance (show byteLength ['>'] = 1 by decide)).bind (follows_pure _)
  | case2 ending noEnd =>
    split
    · exact absurd rfl (noEnd _)
    · exact follows_fail _

/-! ## Segments -/

/-- The event of a segment that is read, in front of what follows it. -/
def eventOf (read : Except Fault (Segment × List Char)) : Except Fault (Option Event × List Char) :=
  read.map fun (segment, rest) => (segment.event?, rest)

@[simp] theorem eventOf_ok (segment : Segment) (rest : List Char) :
    eventOf (.ok (segment, rest)) = .ok (segment.event?, rest) := rfl

theorem follows_cdata : Follows document cdata cs (eventOf (readCdata cs)) := by
  refine follows_position fun before split => ?_
  refine (follows_takeUntil _ _).andThen (fun words after found => ?_)
    (fun fault found => by rw [readCdata, found]; rfl)
  have parts : cs = words ++ [']', ']', '>'] ++ after := Text.cutAt_eq_some (readUntil_eq_ok found)
  rw [parts, List.append_assoc] at split
  rw [readCdata, found]
  refine (follows_checkChars split).andStay (fun _ checked => ?_) (fun fault checked => ?_)
  · dsimp only
    rw [checked]
    exact follows_pure _
  · dsimp only
    rw [checked]
    rfl

/-- A run of characters stops at the first tag, or at the end. -/
theorem stop_eq (cs : List Char) :
    (find? ['<'] cs).getD (byteLength cs) = byteLength (cs.takeWhile (· ≠ '<')) := by
  by_cases mem : '<' ∈ cs
  · obtain ⟨run, after, rfl, free⟩ := List.eq_append_cons_of_mem mem
    rw [find?, Text.cutAt_append free, (span_run free (by simp)).1]
    rfl
  · have whole : cs.takeWhile (· ≠ '<') = cs := by
      refine List.takeWhile_eq_self_iff.mpr fun c inside => decide_eq_true ?_
      rintro rfl
      exact mem inside
    rw [find?, Text.cutAt_eq_none (List.mem_singleton_self '<') mem, whole]
    rfl

/-- Every character and every reference means something. -/
theorem resolve_ne_nil {meant : List Char} (resolved : resolve cs = .ok meant) (some : cs ≠ []) : meant ≠ [] := by
  fun_induction resolve cs generalizing meant with
  | case1 => exact absurd rfl some
  | case2 => cases resolved
  | case3 => cases resolved
  | case4 =>
    obtain ⟨later, -, rfl⟩ := map_eq_ok resolved
    exact List.cons_ne_nil _ _
  | case5 =>
    obtain ⟨later, -, rfl⟩ := map_eq_ok resolved
    exact List.cons_ne_nil _ _

theorem isEmpty_of_readReferences {meant : String} (means : readReferences cs = .ok meant) (some : cs ≠ []) :
    meant.isEmpty = false := by
  rw [readReferences] at means
  split at means
  · next resolved =>
    cases means
    rw [Bool.eq_false_iff]
    intro empty
    exact resolve_ne_nil resolved some (String.ofList_eq_empty_iff.mp (String.isEmpty_iff.mp empty))
  · cases means

theorem follows_characters : Follows document characters cs (eventOf (readCharacters cs)) := by
  refine follows_remaining.bind ?_
  simp only [stop_eq, readCharacters]
  have parts : cs = cs.takeWhile (· ≠ '<') ++ cs.dropWhile (· ≠ '<') := List.takeWhile_append_dropWhile.symm
  generalize cs.takeWhile (· ≠ '<') = run at parts ⊢
  generalize cs.dropWhile (· ≠ '<') = rest at parts ⊢
  subst parts
  refine follows_upTo.bind (follows_position fun before split => ?_)
  refine (follows_checkChars split).andStay (fun _ checked => ?_) (fun fault checked => by rw [checked]; rfl)
  rw [checked]
  refine (follows_advance rfl).bind ?_
  dsimp only
  -- the scanner asks whether anything is left of the run before it resolves references
  cases Text.trimChars run with
  | nil =>
    have none : readReferences [] = .ok "" := by rw [readReferences, resolve]
    rw [none]
    exact follows_pure _
  | cons first more =>
    refine (follows_references (first :: more)).andStay (fun meant means => ?_) (fun fault means => by rw [means]; rfl)
    -- resolving leaves no text empty, so the event is there
    have filled := isEmpty_of_readReferences means (List.cons_ne_nil _ _)
    have said : Segment.event? (.characters meant) = some (.text meant) := by rw [Segment.event?, filled]; rfl
    rw [means]
    show Follows document _ rest (.ok (Segment.event? (.characters meant), rest))
    rw [said]
    exact follows_pure _

theorem follows_segment : Follows document (segment cs) cs (eventOf (readSegment cs)) := by
  fun_cases readSegment cs with
  | case1 rest =>
    -- an instruction
    refine (follows_takeUntil _ _).andThen (fun _ after found => ?_) (fun fault found => by rw [found]; rfl)
    rw [found]
    exact follows_pure _
  | case2 rest =>
    -- a comment
    refine (follows_advance (show byteLength ['<', '!', '-', '-'] = 4 by decide)).bind ?_
    refine (follows_takeUntil _ _).andThen (fun _ after found => ?_) (fun fault found => by rw [found]; rfl)
    rw [found]
    exact follows_pure _
  | case3 rest =>
    -- a section
    exact (follows_advance (show byteLength ['<', '!', '[', 'C', 'D', 'A', 'T', 'A', '['] = 9 by decide)).bind follows_cdata
  | case4 rest noComment noCdata =>
    -- a declaration
    rw [segment]
    · refine (follows_takeUntil _ _).andThen (fun _ after found => ?_) (fun fault found => by rw [found]; rfl)
      rw [found]
      exact follows_pure _
    · exact noComment
    · exact noCdata
  | case5 rest =>
    -- a closing tag
    refine follows_endTag.andThen (fun name after read => ?_) (fun fault read => by rw [read]; rfl)
    rw [read]
    exact follows_pure _
  | case6 rest noInstruction noComment noCdata noDeclaration noEndTag =>
    -- a start tag
    rw [segment]
    · refine follows_startTag.andThen (fun tag after read => ?_) (fun fault read => by rw [read]; rfl)
      rw [read]
      exact follows_pure _
    all_goals assumption
  | case7 cs =>
    -- a run of characters
    rw [segment]
    · exact follows_characters
    all_goals assumption

theorem follows_step_nil : Follows document step [] (.ok (.inr none, [])) :=
  follows_remaining.bind (follows_pure _)

theorem follows_step (some : cs ≠ []) :
    Follows document step cs ((eventOf (readSegment cs)).map fun found => (afterSegment found.1, found.2)) := by
  refine follows_remaining.bind ?_
  rw [if_neg (by simpa using some)]
  exact follows_segment.map afterSegment

/-- The next event in front of what follows it; at the end of the document there is nothing left. -/
def nextOf (read : Except Fault (Option (Event × List Char))) : Except Fault (Option Event × List Char) :=
  read.map fun next => (next.map (·.1), (next.map (·.2)).getD [])

/-- The next event is scanned as it is read, if there are rounds enough. -/
theorem follows_untilDone_step {n : Nat} (enough : cs.length ≤ n) :
    Follows document (untilDone (fun _ => step) (n + 1) ()) cs (nextOf (nextEvent cs)) := by
  have round : ∀ cs, cs ≠ [] → Follows document step cs _ := fun _ => follows_step
  -- one round for one segment, as in reading attributes
  fun_induction nextEvent cs generalizing n with
  | case1 => exact follows_step_nil.bind (follows_pure _)
  | case2 c more fault read =>
    have failed := round _ (List.cons_ne_nil c more)
    rw [read] at failed
    exact failed.bind_error _
  | case3 c more segment rest read event said =>
    have passed := round _ (List.cons_ne_nil c more)
    rw [read, eventOf_ok, said] at passed
    exact passed.bind (follows_pure _)
  | case4 c more segment rest read silent ih =>
    have passed := round _ (List.cons_ne_nil c more)
    rw [read, eventOf_ok, silent] at passed
    have shorter := readSegment_shorter (List.cons_ne_nil _ _) read
    refine passed.bind ?_
    obtain ⟨m, rfl⟩ : ∃ m, n = m + 1 := Nat.exists_eq_succ_of_ne_zero (by omega)
    exact ih (by omega)

/-- The next event is scanned as it is read, segment after segment. -/
theorem follows_event : Follows document event cs (nextOf (nextEvent cs)) :=
  follows_loop fun _ => follows_untilDone_step

end Scan

end Discovery.Markup
