import Discovery.Markup.Decode
import Discovery.Proofs.Markup.Written
import Discovery.Proofs.Tree.NormalForm

/-!
# Reading back a tree that was written

A tree with legal names that can be written is read back in its normal form.

* `Cursor.drain_start`: what a document says, one event after another.
* `drain_render`: what the markup of a tree says is `Tree.said`, whatever follows it.
* `takeAll_said`: what `Tree.said` builds is the normal form.
* `Tree.obstacle?_eq_none_iff`: what can be written.
* `encode_decode_normal_form`: both together.
-/

namespace Discovery

open Markup

/-! ## What documents say -/

namespace Markup

/-- What a document says, one event after another. -/
theorem Cursor.drain_start (cs : List Char) :
    (Cursor.start cs).drain =
      match nextEvent cs with
      | .error fault => [.error fault]
      | .ok none => []
      | .ok (some (event, rest)) => .ok event :: (Cursor.start rest).drain := by
  rw [Cursor.drain]
  split
  · next silent =>
    rw [Cursor.next?] at silent
    split at silent
    · next failed => cases failed
    · split at silent <;> simp_all [Cursor.start]
  · next said later spoken =>
    rw [Cursor.next?] at spoken
    split at spoken
    · cases spoken
    · split at spoken
      · next fault failed =>
        cases spoken
        -- after a fault a cursor says nothing more
        have ended : ∀ rest, Cursor.drain ⟨rest, true⟩ = [] := by
          intro rest
          rw [Cursor.drain]
          rfl
        simp_all [Cursor.start]
      · cases spoken
      · next event rest found =>
        cases spoken
        simp_all [Cursor.start]

/-- The segment that a text begins with decides on the next event. -/
theorem nextEvent_cons (c : Char) (more : List Char) :
    nextEvent (c :: more) =
      match readSegment (c :: more) with
      | .error fault => .error fault
      | .ok (segment, rest) =>
        match segment.event? with
        | some event => .ok (some (event, rest))
        | none => nextEvent rest := by
  rw [nextEvent]
  split
  · next read => simp only [read]
  · next segment rest read =>
    cases said : segment.event? with
    | some event => simp only [read, said]
    | none => simp only [read, said]

variable {c : Char} {more rest : List Char} {segment : Segment}

/-- A segment that says nothing is passed over. -/
theorem drain_of_silent (read : readSegment (c :: more) = .ok (segment, rest))
    (silent : segment.event? = none) :
    (Cursor.start (c :: more)).drain = (Cursor.start rest).drain := by
  have same : nextEvent (c :: more) = nextEvent rest := by
    rw [nextEvent_cons, read]
    simp only [silent]
  rw [Cursor.drain_start, Cursor.drain_start, same]

/-- A segment that says something is an event. -/
theorem drain_of_event {event : Event} (read : readSegment (c :: more) = .ok (segment, rest))
    (said : segment.event? = some event) :
    (Cursor.start (c :: more)).drain = .ok event :: (Cursor.start rest).drain := by
  have next : nextEvent (c :: more) = .ok (some (event, rest)) := by
    rw [nextEvent_cons, read]
    simp only [said]
  rw [Cursor.drain_start, next]

/-- A fault is the last that is said. -/
theorem drain_of_fault {fault : Fault} (read : readSegment (c :: more) = .error fault) :
    (Cursor.start (c :: more)).drain = [.error fault] := by
  have failed : nextEvent (c :: more) = .error fault := by rw [nextEvent_cons, read]
  rw [Cursor.drain_start, failed]

end Markup

/-! ## What the markup of a tree says -/

/-- What a run of characters says. -/
def saidByRun (words : String) : List Event :=
  if words = "" then [] else [.text words]

namespace Tree

mutual

/-- What the markup of a tree says. -/
def said : Tree → List Event
  | .node name attributes [] => [.startTag ⟨name, attributes, true⟩]
  | .node name attributes (first :: rest) =>
    .startTag ⟨name, attributes, false⟩ :: (saidIn (first :: rest) ++ [.endTag name])

def saidIn : List Content → List Event
  | [] => []
  | .text words :: rest => saidByRun (Text.trim words) ++ saidIn rest
  | .child tree :: rest => said tree ++ saidIn rest

end

/-- Are the names in the node legal: its own and those of its attributes? -/
def HasLegalNames (node : Tree) : Prop :=
  IsLegalName node.name ∧ ∀ key ∈ node.attributes.keys, IsLegalName key

instance (node : Tree) : Decidable node.HasLegalNames :=
  inferInstanceAs (Decidable (_ ∧ _))

/-- May the node's own texts and attribute values stand in a document? -/
def HasMarkupTexts (node : Tree) : Prop :=
  (∀ words, .text words ∈ node.contents → IsMarkupText words) ∧
    ∀ value ∈ node.attributes.values, IsMarkupText value

/-- What is needed of a node so that it can be written and read back. -/
structure IsWritable (node : Tree) : Prop where
  legal : node.HasLegalNames
  markup : node.HasMarkupTexts
  tidy : Content.Tidy node.contents

end Tree

namespace Markup

/-- White space and a text after it, up to a tag or to the end, say the trimmed text. -/
theorem drain_run {blank : List Char} (space : ∀ c ∈ blank, Text.isWhiteSpace c = true)
    (validBlank : ∀ c ∈ blank, isMarkupChar c = true) {words : String}
    (valid : IsMarkupText words) {after : List Char} (stops : ∀ c ∈ after.head?, c = '<') :
    (Cursor.start (blank ++ (words.toList.flatMap escapeInText ++ after))).drain =
      (saidByRun (Text.trim words)).map .ok ++ (Cursor.start after).drain := by
  have read := readCharacters_written space validBlank valid stops
  have noTag := not_mem_run space words
  rw [← List.append_assoc] at read ⊢
  cases run : blank ++ words.toList.flatMap escapeInText with
  | nil =>
    -- nothing stands before the tag, so nothing is left of the text either
    have bare : readCharacters ([] ++ ("".toList.flatMap escapeInText ++ after)) =
        .ok (.characters (Text.trim ""), after) :=
      readCharacters_written (by simp) (by simp) (by simp [IsMarkupText]) stops
    rw [run] at read
    have same : Text.trim words = "" := by
      have := read.symm.trans bare
      simp only [Except.ok.injEq, Prod.mk.injEq, Segment.characters.injEq, and_true] at this
      exact this
    rw [same]
    rfl
  | cons first more =>
    have plain : first ≠ '<' := by
      rintro rfl
      exact noTag (run ▸ List.mem_cons_self ..)
    rw [run, List.cons_append] at read
    have segment := (readSegment_characters plain (more ++ after)).trans read
    by_cases empty : Text.trim words = ""
    · have silent : (Segment.characters (Text.trim words)).event? = none := by
        rw [empty]
        rfl
      rw [List.cons_append, drain_of_silent segment silent, saidByRun, if_pos empty]
      rfl
    · have event : (Segment.characters (Text.trim words)).event? =
          some (.text (Text.trim words)) := by
        simp [Segment.event?, empty]
      rw [List.cons_append, drain_of_event segment event, saidByRun, if_neg empty]
      rfl

theorem space_of_small {blank : List Char} (small : blank = [] ∨ blank = ['\n']) :
    ∀ c ∈ blank, Text.isWhiteSpace c = true ∧ isMarkupChar c = true := by
  rcases small with rfl | rfl
  · exact List.forall_mem_nil _
  · exact List.forall_mem_singleton.mpr (by decide)

/-- The line feed after an element, and no more than it, says nothing up to a tag or the end. -/
theorem drain_blank {blank : List Char} (small : blank = [] ∨ blank = ['\n']) {after : List Char}
    (stops : ∀ c ∈ after.head?, c = '<') :
    (Cursor.start (blank ++ after)).drain = (Cursor.start after).drain := by
  have spaces := space_of_small small
  have run : (Cursor.start (blank ++ ("".toList.flatMap escapeInText ++ after))).drain =
      (saidByRun (Text.trim "")).map .ok ++ (Cursor.start after).drain :=
    drain_run (fun c mem => (spaces c mem).1) (fun c mem => (spaces c mem).2)
      (by simp [IsMarkupText]) stops
  exact run

end Markup

namespace Tree

/-- The markup of an element begins with a tag. -/
theorem render_head? (tree : Tree) : tree.render.head? = some '<' := by
  cases tree with
  | node name attributes contents => cases contents <;> simp [render]

/-- The markup of contents begins with a tag, unless a text comes first. -/
theorem renderContents_head? {contents : List Content}
    (noText : ∀ content ∈ contents.head?, content.text? = none) (rest : List Char) :
    ∀ c ∈ (renderContents contents ++ '<' :: rest).head?, c = '<' := by
  cases contents with
  | nil => simp [renderContents]
  | cons first more =>
    cases first with
    | text words => cases noText _ rfl
    | child tree => simp [renderContents, render_head?]

mutual

/-- What the markup of a tree says, whatever follows it. The line feed at its end belongs to the run
of characters that follows. -/
theorem drain_render : ∀ (tree : Tree), (∀ node ∈ tree.nodes, node.IsWritable) →
    ∀ rest : List Char, (Cursor.start (tree.render ++ rest)).drain =
      tree.said.map .ok ++ (Cursor.start ('\n' :: rest)).drain
  | .node name attributes [], writable, rest => by
    rw [nodes] at writable
    obtain ⟨⟨⟨(legal : IsLegalName name), legalKeys⟩, ⟨_, valid⟩, _⟩, _⟩ :=
      List.forall_mem_cons.mp writable
    have written : render (.node name attributes []) ++ rest = '<' :: (name.toList ++
        attributeRun attributes.entries (tagEnd true ++ '\n' :: rest)) := by
      simp [render, renderAttributes, attributeRun, tagEnd]
    have tag : readSegment ('<' :: (name.toList ++
        attributeRun attributes.entries (tagEnd true ++ '\n' :: rest))) =
          .ok (.startTag ⟨name, attributes, true⟩, '\n' :: rest) :=
      readSegment_startTag_written legal legalKeys valid true ('\n' :: rest)
    rw [written, drain_of_event tag rfl]
    rfl
  | .node name attributes (first :: more), writable, rest => by
    rw [nodes] at writable
    obtain ⟨⟨⟨(legal : IsLegalName name), legalKeys⟩, ⟨texts, valid⟩, tidy⟩, below⟩ :=
      List.forall_mem_cons.mp writable
    -- the contents stand between the start tag and the closing tag
    have written : render (.node name attributes (first :: more)) ++ rest = '<' :: (name.toList ++
        attributeRun attributes.entries (tagEnd false ++ ([] ++ (renderContents (first :: more) ++
          '<' :: '/' :: (name.toList ++ '>' :: '\n' :: rest))))) := by
      simp [render, renderAttributes, attributeRun, tagEnd]
    have tag : ∀ after, readSegment ('<' :: (name.toList ++
        attributeRun attributes.entries (tagEnd false ++ after))) =
          .ok (.startTag ⟨name, attributes, false⟩, after) :=
      readSegment_startTag_written legal legalKeys valid false
    rw [written, drain_of_event (tag _) rfl,
      drain_renderContents (first :: more) tidy texts below (.inl rfl) _,
      drain_of_event (readSegment_endTag_written legal ('\n' :: rest)) rfl, said]
    simp

/-- What the markup of contents says before a tag. A line feed may be left over from an element. -/
theorem drain_renderContents : ∀ (contents : List Content), Content.Tidy contents →
    (∀ words, .text words ∈ contents → IsMarkupText words) →
    (∀ node ∈ nodesIn contents, node.IsWritable) →
    ∀ {blank : List Char}, (blank = [] ∨ blank = ['\n']) → ∀ rest : List Char,
      (Cursor.start (blank ++ (renderContents contents ++ '<' :: rest))).drain =
        (saidIn contents).map .ok ++ (Cursor.start ('<' :: rest)).drain
  | [], _, _, _, blank, small, rest => by
    rw [renderContents, saidIn, List.nil_append]
    exact drain_blank small (by simp)
  | .text words :: more, tidy, texts, below, blank, small, rest => by
    -- the line feed behind a tag joins the run, and is trimmed with it
    have spaces := space_of_small small
    have later := drain_renderContents more tidy.tail
      (fun words mem => texts words (List.mem_cons_of_mem _ mem)) (by rwa [nodesIn] at below)
      (.inl rfl) rest
    rw [renderContents, List.append_assoc,
      drain_run (fun c mem => (spaces c mem).1) (fun c mem => (spaces c mem).2)
        (texts words (List.mem_cons_self ..)) (renderContents_head? tidy.not_text_after rest),
      saidIn, List.map_append, List.append_assoc, ← later]
    rfl
  | .child tree :: more, tidy, texts, below, blank, small, rest => by
    rw [nodesIn] at below
    obtain ⟨belowTree, belowMore⟩ := List.forall_mem_append.mp below
    have later := drain_renderContents more tidy.tail
      (fun words mem => texts words (List.mem_cons_of_mem _ mem)) belowMore (.inr rfl) rest
    -- an element follows, so that the line feed is a run of its own and says nothing
    have starts : ∀ c ∈ (renderContents (.child tree :: more) ++ '<' :: rest).head?, c = '<' :=
      renderContents_head? (by simp) rest
    rw [drain_blank small starts, renderContents, List.append_assoc,
      drain_render tree belowTree, saidIn, List.map_append, List.append_assoc, ← later]
    rfl

end

end Tree

/-! ## What is built -/

namespace Builder

/-- The builder after a whole element. -/
def adding (b : Builder) (tree : Tree) : Builder :=
  match b.stack with
  | [] => ⟨[], some tree⟩
  | parent :: below => { b with stack := parent.pushChild tree :: below }

theorem takeAll_ok {b b' : Builder} {event : Event} (taken : b.take event = .ok b')
    (document : List Char) (later : List (Except Fault Event)) :
    b.takeAll document (.ok event :: later) = b'.takeAll document later := by
  rw [takeAll, taken]

/-- Closing the element on top adds it to what is below. -/
theorem take_endTag (name : String) (attributes : Attributes) (contents : List Content)
    (below : List Tree) (root : Option Tree) (free : root = none) :
    Builder.take ⟨.node name attributes contents :: below, root⟩ (.endTag name) =
      .ok (Builder.adding ⟨below, root⟩ (.node name attributes contents)) := by
  subst free
  cases below with
  | nil => simp [take, current?, closeElement, adding]
  | cons parent more => simp [take, current?, closeElement, adding]

theorem take_startTag (name : String) (attributes : Attributes) (stack : List Tree) :
    Builder.take ⟨stack, none⟩ (.startTag ⟨name, attributes, false⟩) =
      .ok ⟨.node name attributes [] :: stack, none⟩ := by
  simp [take, openElement]

theorem take_startTag_selfClosing (name : String) (attributes : Attributes) (stack : List Tree) :
    Builder.take ⟨stack, none⟩ (.startTag ⟨name, attributes, true⟩) =
      .ok (Builder.adding ⟨stack, none⟩ (.node name attributes [])) := by
  cases stack with
  | nil => simp [take, openElement, closeElement, adding]
  | cons parent more => simp [take, openElement, closeElement, adding]

/-- A text is joined to the element on top. -/
theorem takeAll_saidByRun {name : String} {attributes : Attributes} {before : List Content}
    {below : List Tree} (free : ∀ content ∈ before.getLast?, content.text? = none)
    (words : String) (document : List Char) (later : List (Except Fault Event)) :
    Builder.takeAll document ⟨.node name attributes before :: below, none⟩
        ((saidByRun words).map .ok ++ later) =
      Builder.takeAll document ⟨.node name attributes
        (before ++ if words = "" then [] else [.text words]) :: below, none⟩ later := by
  by_cases empty : words = ""
  · rw [saidByRun, if_pos empty, if_pos empty, List.append_nil]
    rfl
  · rw [saidByRun, if_neg empty, if_neg empty]
    refine takeAll_ok ?_ document later
    simp [take, addText, Tree.pushText, Tree.push, Content.append,
      Content.appendText_eq_concat empty free]

end Builder

namespace Tree

mutual

/-- What the markup of a tree says builds the normal form of the tree. -/
theorem takeAll_said : ∀ (tree : Tree), tree.Tidy → ∀ (stack : List Tree) (document : List Char)
    (later : List (Except Fault Event)),
    Builder.takeAll document ⟨stack, none⟩ (tree.said.map .ok ++ later) =
      (Builder.adding ⟨stack, none⟩ tree.norm).takeAll document later
  | .node name attributes [], _, stack, document, later => by
    rw [said, norm, normContents]
    exact Builder.takeAll_ok (Builder.take_startTag_selfClosing ..) document later
  | .node name attributes (first :: more), tidy, stack, document, later => by
    obtain ⟨here, below⟩ := tidy_iff.mp tidy
    -- the element is open while what stands in it is said
    have inside := takeAll_saidIn (first :: more) here below name attributes [] stack document
      (by simp) (.ok (.endTag name) :: later)
    rw [said, List.map_cons, List.map_append, List.cons_append, List.append_assoc,
      Builder.takeAll_ok (Builder.take_startTag ..)]
    refine inside.trans ?_
    rw [Builder.takeAll_ok (Builder.take_endTag _ _ _ _ _ rfl), norm, List.nil_append]

/-- What the markup of contents says adds their normal form to the element on top. -/
theorem takeAll_saidIn : ∀ (contents : List Content), Content.Tidy contents →
    (∀ node ∈ nodesIn contents, Content.Tidy node.contents) →
    ∀ (name : String) (attributes : Attributes) (before : List Content) (below : List Tree)
      (document : List Char),
    (∀ last ∈ before.getLast?, ∀ first ∈ contents.head?, Content.Apart last first) →
    ∀ later : List (Except Fault Event),
    Builder.takeAll document ⟨.node name attributes before :: below, none⟩
        ((saidIn contents).map .ok ++ later) =
      Builder.takeAll document
        ⟨.node name attributes (before ++ normContents contents) :: below, none⟩ later
  | [], _, _, name, attributes, before, below, document, _, later => by
    rw [saidIn, normContents, List.append_nil]
    rfl
  | .text words :: more, tidy, deeper, name, attributes, before, below, document, apart, later => by
    -- the texts are apart, so the builder joins none of them to the one before
    have free : ∀ content ∈ before.getLast?, content.text? = none := by
      intro content last
      rcases apart content last _ rfl with free | next
      · exact free
      · cases next
    rw [nodesIn] at deeper
    rw [saidIn, List.map_append, List.append_assoc, Builder.takeAll_saidByRun free]
    have rest := takeAll_saidIn more tidy.tail deeper name attributes
      (before ++ if Text.trim words = "" then [] else [.text (Text.trim words)]) below document
      (fun _ _ first mem => .inr (tidy.not_text_after first mem)) later
    rw [rest, List.append_assoc, normContents]
    split <;> rfl
  | .child tree :: more, tidy, deeper, name, attributes, before, below, document, apart, later => by
    rw [nodesIn] at deeper
    obtain ⟨belowTree, belowMore⟩ := List.forall_mem_append.mp deeper
    have rest := takeAll_saidIn more tidy.tail belowMore name attributes
      (before ++ [.child tree.norm]) below document
      (fun last mem _ _ => .inl (by
        rw [List.getLast?_concat] at mem
        cases mem
        rfl)) later
    rw [saidIn, List.map_append, List.append_assoc, takeAll_said tree belowTree, normContents,
      List.append_cons]
    exact rest

end

/-! ## What can be written -/

theorem invalidChar?_eq_none_iff {words : String} : invalidChar? words = none ↔ IsMarkupText words := by
  rw [invalidChar?, Option.map_eq_none_iff, List.find?_eq_none]
  simp [IsMarkupText]

theorem invalidValue?_eq_none_iff {attributes : Attributes} :
    invalidValue? attributes = none ↔ ∀ value ∈ attributes.values, IsMarkupText value := by
  rw [invalidValue?, List.findSome?_eq_none_iff]
  simp only [invalidChar?_eq_none_iff, SortedMap.values, List.forall_mem_map]

mutual

/-- Nothing stands in the way of writing a tree if its nodes have names and all its characters may
stand in a document. -/
theorem obstacle?_eq_none_iff : ∀ (tree : Tree),
    tree.obstacle? = none ↔ ∀ node ∈ tree.nodes, node.name ≠ "" ∧ node.HasMarkupTexts
  | .node name attributes contents => by
    rw [obstacle?, nodes, List.forall_mem_cons]
    have inside := contentsObstacle?_eq_none_iff contents
    split
    · next unnamed => simp [String.isEmpty_iff.mp unnamed]
    · next named =>
      rw [String.isEmpty_iff] at named
      rw [Option.or_eq_none_iff, invalidValue?_eq_none_iff, inside]
      simp [HasMarkupTexts, named, and_left_comm, and_assoc]

theorem contentsObstacle?_eq_none_iff : ∀ (contents : List Content),
    contentsObstacle? contents = none ↔
      (∀ words, .text words ∈ contents → IsMarkupText words) ∧
        ∀ node ∈ nodesIn contents, node.name ≠ "" ∧ node.HasMarkupTexts
  | [] => by simp [contentsObstacle?, nodesIn]
  | .text words :: rest => by
    have later := contentsObstacle?_eq_none_iff rest
    simp [contentsObstacle?, nodesIn, invalidChar?_eq_none_iff, later, and_assoc]
  | .child tree :: rest => by
    have here := obstacle?_eq_none_iff tree
    have later := contentsObstacle?_eq_none_iff rest
    rw [contentsObstacle?, nodesIn, Option.or_eq_none_iff, here, later, List.forall_mem_append]
    simp [and_left_comm]

end

theorem encode_eq_ok_iff {tree : Tree} {element : String} :
    tree.encode = .ok element ↔ tree.obstacle? = none ∧ element = String.ofList tree.render := by
  rw [encode]
  cases tree.obstacle? <;> simp [eq_comm]

theorem encodeDocument_eq_ok_iff {tree : Tree} {document : String} :
    tree.encodeDocument = .ok document ↔
      ∃ element, tree.encode = .ok element ∧ document = header ++ "\n" ++ element := by
  rw [encodeDocument]
  cases tree.encode <;> simp [Except.map, eq_comm]

/-! ## There and back -/

/-- The header line is passed over. -/
theorem drain_header (cs : List Char) (starts : cs.head? = some '<') :
    (Cursor.start ((header ++ "\n").toList ++ cs)).drain = (Cursor.start cs).drain := by
  have read : readSegment ((header ++ "\n").toList ++ cs) = .ok (.instruction, '\n' :: cs) := rfl
  have silent := drain_of_silent read rfl
  exact silent.trans (drain_blank (.inr rfl) (by simp [starts]))

/-- The markup of a tree is read as its normal form. -/
theorem decodeChars_of_drain {tree : Tree} (tidy : tree.Tidy) {document : List Char}
    (spoken : (Cursor.start document).drain = tree.said.map .ok) :
    decodeChars document = .ok tree.norm := by
  have built := takeAll_said tree tidy [] document []
  rw [List.append_nil] at built
  rw [decodeChars, spoken, Builder.new, built]
  rfl

theorem drain_render_alone {tree : Tree} (writable : ∀ node ∈ tree.nodes, node.IsWritable) :
    (Cursor.start tree.render).drain = tree.said.map .ok := by
  have whole := drain_render tree writable []
  have ends : (Cursor.start ['\n']).drain = (Cursor.start []).drain :=
    drain_blank (.inr rfl) (by simp)
  have silent : (Cursor.start []).drain = [] := by
    rw [Cursor.drain_start]
    simp [nextEvent]
  rw [List.append_nil, ends, silent, List.append_nil] at whole
  exact whole

/-- What is written of a tidy tree with legal names, with or without the header line, is read as the
normal form of the tree. -/
theorem decode_written {tree : Tree} (tidy : tree.Tidy)
    (legal : ∀ node ∈ tree.nodes, node.HasLegalNames) {text : String}
    (written : tree.encode = .ok text ∨ tree.encodeDocument = .ok text) :
    Tree.decode text = .ok tree.norm := by
  -- what is written says the tree if nothing keeps it from being written
  have spoken : tree.obstacle? = none → (Cursor.start tree.render).drain = tree.said.map .ok := by
    intro free
    refine drain_render_alone fun node mem => ?_
    exact ⟨legal node mem, (obstacle?_eq_none_iff tree |>.mp free node mem).2, tidy node mem⟩
  rcases written with element | document
  · obtain ⟨free, rfl⟩ := encode_eq_ok_iff.mp element
    rw [decode, String.toList_ofList]
    exact decodeChars_of_drain tidy (spoken free)
  · obtain ⟨element, encoded, rfl⟩ := encodeDocument_eq_ok_iff.mp document
    obtain ⟨free, rfl⟩ := encode_eq_ok_iff.mp encoded
    rw [decode, String.toList_append, String.toList_ofList]
    refine decodeChars_of_drain tidy ?_
    rw [drain_header _ tree.render_head?, spoken free]

/-- A tree with legal names can be written if its characters may stand in a document. -/
theorem obstacle?_eq_none_of_legal {tree : Tree}
    (legal : ∀ node ∈ tree.nodes, node.HasLegalNames) :
    tree.obstacle? = none ↔ ∀ node ∈ tree.nodes, node.HasMarkupTexts := by
  rw [obstacle?_eq_none_iff]
  constructor
  · intro named node mem
    exact (named node mem).2
  · intro valid node mem
    exact ⟨(legal node mem).1.ne_empty, valid node mem⟩

/-- A tree that was grown with legal names can be written, as an element and as a document, if its
characters may stand in a document. It is then read back in its normal form, and as it was if no text
in it begins or ends with white space. -/
theorem encode_decode_normal_form {tree : Tree} (grown : tree.Grown)
    (legal : ∀ node ∈ tree.nodes, node.HasLegalNames) :
    ((∃ element, tree.encode = .ok element) ↔ ∀ node ∈ tree.nodes, node.HasMarkupTexts) ∧
    ((∃ document, tree.encodeDocument = .ok document) ↔
      ∀ node ∈ tree.nodes, node.HasMarkupTexts) ∧
    ∀ text, tree.encode = .ok text ∨ tree.encodeDocument = .ok text →
      Tree.decode text = .ok tree.norm ∧
      (Tree.decode text = .ok tree ↔ ∀ node ∈ tree.nodes, node.HasTrimmedTexts) := by
  rw [← obstacle?_eq_none_of_legal legal]
  refine ⟨?_, ?_, ?_⟩
  · simp [encode_eq_ok_iff]
  · simp [encodeDocument_eq_ok_iff, encode_eq_ok_iff]
  · intro text written
    have read := decode_written grown.tidy legal written
    refine ⟨read, ?_⟩
    rw [read, Except.ok.injEq]
    exact norm_eq_self_iff grown.tidy

/-- A note with white space at the ends of its text and with reserved characters. -/
def note : Tree :=
  (((named "note").setAttribute "title" " \"<a> & b").pushText " 1 < 2 ").pushChild (named "_x")

theorem encode_decode_note :
    (note.Grown ∧ ∀ node ∈ note.nodes, node.HasLegalNames) ∧
    note.encode = .ok
      "<note title=\" &quot;&lt;a&gt; &amp; b\"> 1 &lt; 2 <_x/>\n</note>\n" ∧
    Tree.decode "<note title=\" &quot;&lt;a&gt; &amp; b\"> 1 &lt; 2 <_x/>\n</note>\n" =
      .ok note.norm ∧ note.norm ≠ note := by
  have grown : note.Grown :=
    .pushChild (.pushText _ (.setAttribute _ _ (.named _))) (.named _)
  have legal : ∀ node ∈ note.nodes, node.HasLegalNames := by decide
  have written : note.encode = .ok
      "<note title=\" &quot;&lt;a&gt; &amp; b\"> 1 &lt; 2 <_x/>\n</note>\n" := by decide
  have read := (encode_decode_normal_form grown legal).2.2 _ (.inl written)
  exact ⟨⟨grown, legal⟩, written, read.1, by decide⟩

end Tree

end Discovery
