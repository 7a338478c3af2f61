import Discovery.Proofs.Markup.Read
import Discovery.Proofs.Tree.Traversal

/-!
# A document is the traversal of its tree

What a document says, spelled in one way, is the traversal of the tree that is read from it; and a
document that says such a traversal is read as the tree. So nothing that is said is lost, moved or
attached elsewhere, and tags that do not match, texts outside the root, a second root and an empty
document are refused.

* `Builder.takeAll_spelled`: a builder makes the same of events and of their spelling;
* `Builder.takeAll_written`: what has been written after events are the events;
* `Tree.Grown.takeAll_traversal`: a traversal builds its tree;
* `Tree.decode_iff_traversal`: both together.
-/

namespace Discovery

open Markup Textual

namespace Markup

/-- No text that is said is empty. -/
theorem Segment.text_ne_empty {segment : Segment} {words : String}
    (said : segment.event? = some (.text words)) : words ≠ "" := by
  cases segment with
  | cdata run =>
    rw [event?] at said
    split at said
    · cases said
    · next some =>
      cases said
      intro empty
      have none : run = [] := by simpa using congrArg String.toList empty
      exact some (List.isEmpty_iff.mpr none)
  | characters run =>
    rw [event?] at said
    split at said
    · cases said
    · next some =>
      cases said
      intro empty
      exact some (String.isEmpty_iff.mpr empty)
  | instruction | comment | declaration | startTag | endTag => cases said

theorem Cursor.text_ne_empty {cursor : Cursor} {words : String}
    (mem : .ok (.text words) ∈ cursor.drain) : words ≠ "" := by
  rcases exists_segment_of_mem_drain mem with ⟨-, segment, -, -, said⟩
  exact segment.text_ne_empty said

end Markup

/-! ## The spelling does not matter to a builder -/

namespace Builder

variable {b b' : Builder} {document : List Char} {events : List Event}

theorem takeAll_append (b : Builder) (document : List Char) (said more : List (Except Fault Event)) :
    b.takeAll document (said ++ more) =
      (b.takeAll document said).bind fun b' => b'.takeAll document more := by
  induction said generalizing b with
  | nil => rfl
  | cons first later ih =>
    cases first with
    | error fault => rfl
    | ok event =>
      rw [List.cons_append, takeAll, takeAll]
      cases b.take event with
      | error error => rfl
      | ok after => exact ih after

/-- A tag that is its own closing tag does what the two tags do. -/
theorem takeAll_spelledOut (b : Builder) (document : List Char) (event : Event) :
    b.takeAll document (event.spelledOut.map .ok) = b.takeAll document [.ok event] := by
  cases event with
  | endTag | text => rfl
  | startTag tag =>
    rcases tag with ⟨name, attributes, selfClosing⟩
    cases selfClosing with
    | false => rfl
    | true =>
      simp only [Event.spelledOut, List.map_cons, List.map_nil, takeAll, take]
      cases done : b.openElement name attributes with
      | error error => rfl
      | ok opened =>
        have current := current?_of_openElement done
        simp [current]

theorem takeAll_flatMap_spelledOut (b : Builder) (document : List Char) (events : List Event) :
    b.takeAll document ((events.flatMap Event.spelledOut).map .ok) =
      b.takeAll document (events.map .ok) := by
  induction events generalizing b with
  | nil => rfl
  | cons event events ih =>
    have step : b.takeAll document (.ok event :: events.map .ok) =
        (b.takeAll document [.ok event]).bind fun b' => b'.takeAll document (events.map .ok) :=
      takeAll_append b document [.ok event] (events.map .ok)
    rw [List.flatMap_cons, List.map_append, takeAll_append, takeAll_spelledOut, List.map_cons, step]
    simp only [ih]

/-- Two texts one after the other do what their concatenation does. -/
theorem takeAll_joinOnto (b : Builder) (document : List Char) (event : Event) (later : List Event) :
    b.takeAll document ((joinOnto event later).map .ok) =
      b.takeAll document ((event :: later).map .ok) := by
  cases event with
  | startTag | endTag => rfl
  | text words =>
    cases later with
    | nil => rfl
    | cons next later =>
      cases next with
      | startTag | endTag => rfl
      | text more =>
        rcases b with ⟨stack, root⟩
        cases stack with
        | nil => rfl
        | cons top below =>
          -- adding two texts one after the other is adding them at once
          have twice : (top.pushText words).pushText more = top.pushText (words ++ more) := by
            simp [Tree.pushText, Tree.push, Content.append, Content.appendText_appendText]
          have joined : joinOnto (Event.text words) (.text more :: later) = .text (words ++ more) :: later :=
            joinOnto_ofWords_ofWords words more later
          simp [joined, takeAll, take, addText, twice]

theorem takeAll_joinTexts (b : Builder) (document : List Char) (events : List Event) :
    b.takeAll document ((joinTexts events).map .ok) = b.takeAll document (events.map .ok) := by
  induction events generalizing b with
  | nil => rfl
  | cons event events ih =>
    rw [joinTexts_cons, takeAll_joinOnto, List.map_cons, List.map_cons, takeAll, takeAll]
    cases b.take event with
    | error error => rfl
    | ok after => exact ih after

/-- A builder makes the same of events and of their spelling. -/
theorem takeAll_spelled (b : Builder) (document : List Char) (events : List Event) :
    b.takeAll document ((spelled events).map .ok) = b.takeAll document (events.map .ok) := by
  rw [spelled, takeAll_joinTexts, takeAll_flatMap_spelledOut]

/-! ## What has been written -/

/-- An event that is taken is written at the end. -/
theorem take_written (oneRoot : b.OneRoot) {event : Event}
    (filled : ∀ words, event = .text words → words ≠ "") (done : b.take event = .ok b') :
    b'.OneRoot ∧ ∀ later,
      joinTexts (b'.written ++ later) = joinTexts (b.written ++ (event.spelledOut ++ later)) := by
  -- what was written grows by what the event spells, whatever the event does
  cases taken_of_take done with
  | @opened tag noSelfClosing openDone =>
    rcases tag with ⟨name, attributes, selfClosing⟩
    cases noSelfClosing
    rcases openElement_written openDone with ⟨oneRootOpened, writtenOpened⟩
    refine ⟨oneRootOpened, fun later => ?_⟩
    rw [writtenOpened, List.append_assoc]
    rfl
  | @openedAndClosed tag opened selfClosing openDone closeDone =>
    rcases tag with ⟨name, attributes, selfClosing'⟩
    cases selfClosing
    rcases openElement_written openDone with ⟨oneRootOpened, writtenOpened⟩
    rcases closeElement_written oneRootOpened closeDone with ⟨oneRootClosed, writtenClosed⟩
    refine ⟨oneRootClosed, fun later => ?_⟩
    rw [writtenClosed, writtenOpened, List.append_assoc, List.append_assoc]
    rfl
  | closed closeDone =>
    rcases closeElement_written oneRoot closeDone with ⟨oneRootClosed, writtenClosed⟩
    refine ⟨oneRootClosed, fun later => ?_⟩
    rw [writtenClosed, List.append_assoc]
    rfl
  | added addDone => exact addText_written oneRoot (filled _ rfl) addDone

/-- The events that were taken have been written. -/
theorem takeAll_written (oneRoot : b.OneRoot) (filled : ∀ words, .text words ∈ events → words ≠ "")
    (done : b.takeAll document (events.map .ok) = .ok b') :
    ∀ later, joinTexts (b'.written ++ later) =
      joinTexts (b.written ++ (events.flatMap Event.spelledOut ++ later)) := by
  -- along the events; that there is one root is kept by each step
  induction events generalizing b with
  | nil =>
    cases done
    exact fun _ => rfl
  | cons event events ih =>
    have filledHere : ∀ words, event = .text words → words ≠ "" := by
      rintro words rfl
      exact filled words (List.mem_cons_self ..)
    have filledLater : ∀ words, .text words ∈ events → words ≠ "" := by
      intro words mem
      exact filled words (List.mem_cons_of_mem _ mem)
    rw [List.map_cons, takeAll] at done
    split at done
    · cases done
    · next after taken =>
      rcases take_written oneRoot filledHere taken with ⟨oneRootAfter, written⟩
      intro later
      rw [ih oneRootAfter filledLater done later, written, List.flatMap_cons, List.append_assoc]

/-- What a builder takes to the end holds no fault. -/
theorem exists_events_of_takeAll {said : List (Except Fault Event)}
    (done : b.takeAll document said = .ok b') : ∃ events : List Event, said = events.map .ok := by
  induction said generalizing b with
  | nil => exact ⟨[], rfl⟩
  | cons first later ih =>
    cases first with
    | error fault => cases done
    | ok event =>
      rw [takeAll] at done
      split at done
      · cases done
      · rcases ih done with ⟨events, rfl⟩
        exact ⟨event :: events, rfl⟩

end Builder

/-! ## Traversals build -/

/-- An element is built if what stands in it is built. -/
theorem Builder.takeAll_element {name : String} {attributes : Attributes} {contents : List Content}
    {stack : List Tree} {document : List Char}
    (inside : Builder.takeAll document ⟨.node name attributes [] :: stack, none⟩
      ((Tree.traversalIn contents).map .ok) = .ok ⟨.node name attributes contents :: stack, none⟩) :
    Builder.takeAll document ⟨stack, none⟩ ((Tree.node name attributes contents).traversal.map .ok) =
      .ok (Builder.adding ⟨stack, none⟩ (.node name attributes contents)) := by
  rw [Tree.traversal, List.map_cons, takeAll_ok (take_startTag ..), List.map_append, takeAll_append,
    inside]
  exact takeAll_ok (take_endTag _ _ _ _ _ rfl) document []

namespace Tree

/-- What stands in a grown tree is built again in an element of any name. -/
theorem Grown.takeAll_traversalIn {tree : Tree} (grown : tree.Grown) (name : String)
    (attributes : Attributes) (below : List Tree) (document : List Char) :
    Builder.takeAll document ⟨.node name attributes [] :: below, none⟩
        ((traversalIn tree.contents).map .ok) =
      .ok ⟨.node name attributes tree.contents :: below, none⟩ := by
  -- on how the tree was grown, for every element that may be open at its place
  induction grown generalizing name attributes below with
  | named => rfl
  | setAttribute key value _ ih => exact ih name attributes below
  | @pushText tree words _ ih =>
    show Builder.takeAll document _
      ((traversalIn (Content.appendText words tree.contents)).map .ok) = _
    by_cases empty : words = ""
    · rw [empty, Content.appendText_empty, ih]
      simp [Tree.pushText, Tree.push, Content.append, Content.appendText_empty]
    · -- the text is said at the end, and added to what has been built before it
      have said := joinTexts_appendText empty tree.contents []
      rw [List.append_nil] at said
      rw [← Builder.takeAll_joinTexts, said, Builder.takeAll_joinTexts, List.map_append,
        Builder.takeAll_append, ih]
      rfl
  | @pushChild tree child _ _ ih ihChild =>
    show Builder.takeAll document _ ((traversalIn (tree.contents ++ [.child child])).map .ok) = _
    rw [traversalIn_append, List.map_append, Builder.takeAll_append, ih]
    rcases child with ⟨childName, childAttributes, childContents⟩
    -- the child's own hypothesis, with the tree so far open below it
    have inside := ihChild childName childAttributes (.node name attributes tree.contents :: below)
    have whole := Builder.takeAll_element inside
    rw [traversalIn, traversalIn, List.append_nil]
    exact whole

/-- The traversal of a grown tree builds the tree. -/
theorem Grown.takeAll_traversal {tree : Tree} (grown : tree.Grown) (document : List Char) :
    Builder.new.takeAll document (tree.traversal.map .ok) = .ok ⟨[], some tree⟩ := by
  rcases tree with ⟨name, attributes, contents⟩
  exact Builder.takeAll_element (grown.takeAll_traversalIn name attributes [] document)

/-! ## Documents -/

/-- What is read from a document can be grown. -/
theorem decode_grown {document : String} {tree : Tree} (read : decode document = .ok tree) :
    tree.Grown := by
  rcases exists_builder_of_decodeChars read with ⟨b, built, finished⟩
  have grown : b.Everywhere Grown := by
    refine Builder.takeAll_induction ?_ Builder.everywhere_new built
    -- every event grows what is open by an operation of trees
    intro event b b' _ grown done
    apply grown.take _ _ _ done
    · intro tag _
      exact grown_leaf tag.name tag.attributes
    · intro words _ tree grownTree
      exact grownTree.pushText words
    · intro tree child grownTree grownChild
      exact grownTree.pushChild grownChild
  exact grown.2 tree (Builder.root_of_finish finished)

/-- A document says a tree if it says no fault, and its events spell the traversal of the tree. -/
def SaidBy (tree : Tree) (document : String) : Prop :=
  ∃ events : List Event, (Cursor.start document.toList).drain = events.map .ok ∧
    spelled events = tree.traversal

theorem saidBy_of_decode {document : String} {tree : Tree} (read : decode document = .ok tree) :
    tree.SaidBy document := by
  rcases exists_builder_of_decodeChars read with ⟨b, built, finished⟩
  rcases Builder.exists_events_of_takeAll built with ⟨events, said⟩
  -- no event says an empty text, so that joining texts loses nothing
  have filled : ∀ words, .text words ∈ events → words ≠ "" := by
    intro words mem
    have inDrain : .ok (.text words) ∈ (Cursor.start document.toList).drain := by
      rw [said]
      exact List.mem_map_of_mem mem
    exact Cursor.text_ne_empty inDrain
  rw [said] at built
  have written := Builder.takeAll_written Builder.oneRoot_new filled built []
  rw [Builder.finish_written finished, List.append_nil, List.append_nil,
    joinTexts_traversal (decode_grown read).tidy] at written
  exact ⟨events, said, written.symm⟩

theorem Grown.decode_of_saidBy {document : String} {tree : Tree} (grown : tree.Grown)
    (said : tree.SaidBy document) : decode document = .ok tree := by
  rcases said with ⟨events, said, traversed⟩
  have built : Builder.new.takeAll document.toList (events.map .ok) = .ok ⟨[], some tree⟩ := by
    rw [← Builder.takeAll_spelled, traversed]
    exact grown.takeAll_traversal document.toList
  rw [decode, decodeChars, said, built]
  rfl

/-- A document is read as a tree that can be grown if and only if it says the tree: if draining it meets
no fault, and the events, with tags that are their own closing tags as two tags and neighbouring texts
joined, are the traversal of the tree. Every other document is refused, and nothing else is ever read. -/
theorem decode_iff_traversal (document : String) :
    (∀ tree : Tree, tree.Grown → (decode document = .ok tree ↔ tree.SaidBy document)) ∧
      (∀ tree, decode document = .ok tree → tree.Grown) ∧
      ((∃ error, decode document = .error error) ↔ ¬ ∃ tree : Tree, tree.Grown ∧ tree.SaidBy document) := by
  refine ⟨?_, ?_, ?_⟩
  · intro tree grown
    constructor
    · intro read
      exact saidBy_of_decode read
    · intro said
      exact grown.decode_of_saidBy said
  · intro tree read
    exact decode_grown read
  · constructor
    · rintro ⟨error, refused⟩ ⟨tree, grown, said⟩
      rw [grown.decode_of_saidBy said] at refused
      cases refused
    · intro none
      -- decoding gives an answer, and one that is no error is grown and said
      cases answer : decode document with
      | error error => exact ⟨error, rfl⟩
      | ok tree => exact absurd ⟨tree, decode_grown answer, saidBy_of_decode answer⟩ none

/-- A text in four pieces around a comment and a section, and an element that is its own closing tag. -/
def pieces : Tree :=
  ((((named "a").setAttribute "k" "<").pushText "one two").pushChild (named "b")).pushText "three"

/-- The pieces are said by a document that spells them otherwise. Tags that cross say no tree. -/
theorem decode_pieces :
    pieces.Grown ∧
      pieces.SaidBy "<?x?><a k='&lt;'> one<!--c--><![CDATA[ ]]>two <b/>th&#114;<?y?>ee</a>\n" ∧
      decode "<?x?><a k='&lt;'> one<!--c--><![CDATA[ ]]>two <b/>th&#114;<?y?>ee</a>\n" = .ok pieces ∧
      ¬ ∃ tree : Tree, tree.Grown ∧ tree.SaidBy "<a><b></a></b>" := by
  have grown : pieces.Grown :=
    .pushText _ (.pushChild (.pushText _ (.setAttribute _ _ (.named _))) (.named _))
  have said : pieces.SaidBy
      "<?x?><a k='&lt;'> one<!--c--><![CDATA[ ]]>two <b/>th&#114;<?y?>ee</a>\n" := by
    refine ⟨[.startTag ⟨"a", pieces.attributes, false⟩, .text "one", .text " ", .text "two",
      .startTag ⟨"b", .empty, true⟩, .text "thr", .text "ee", .endTag "a"], ?_, ?_⟩
    · decide +kernel
    · decide +kernel
  have crossed : decode "<a><b></a></b>" = .error (.mismatched "b" "a") := by decide +kernel
  refine ⟨grown, said, ((decode_iff_traversal _).1 pieces grown).mpr said, ?_⟩
  exact (decode_iff_traversal _).2.2.mp ⟨_, crossed⟩

end Tree

end Discovery
