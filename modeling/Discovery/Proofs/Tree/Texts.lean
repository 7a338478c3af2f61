import Discovery.Proofs.Markup.Traversed
import Discovery.Proofs.Tree.Calls

/-!
# Texts in trees

A tree can be made by pushing onto it, by the calls of a builder, or by reading a document, and what has been
made in one way can be carried on or put below another tree in another. However it is made, no text in it is
empty and no two texts are neighbours. So a tree shows nothing of the pieces in which its texts were pushed: it
holds what was appended to it in condensed form.

* `Content.condensed`: contents without empty texts and with neighbouring texts joined;
* `Content.condensed_eq_self_iff`: it is the form of tidy contents and of no others;
* `Content.appendAll_condensed`: appending contents is appending them condensed;
* `Tree.Obtained.tidy`: what holds of the texts of every tree, however it has been made;
* `Builder.after_calls`: a builder appends as pushing does;
* `Tree.texts_kept_apart`: all of it together.
-/

namespace Discovery

open Markup Textual

/-! ## Contents appended -/

namespace Content

variable {contents added later : List Content} {content : Content}

def appendAll (contents added : List Content) : List Content :=
  added.foldl append contents

instance : Textual Content where
  words? := text?
  ofWords := .text
  words?_eq_some_iff {content words} := by cases content <;> simp

/-- Contents without empty texts, and with every run of neighbouring texts joined into one. -/
def condensed (contents : List Content) : List Content :=
  Textual.condensed contents

theorem condensed_empty (contents : List Content) : condensed (.text "" :: contents) = condensed contents :=
  Textual.condensed_empty contents

theorem condensed_cons (filled : content ≠ .text "") (contents : List Content) :
    condensed (content :: contents) = joinOnto content (condensed contents) :=
  Textual.condensed_cons filled contents

/-- Two texts that are appended one after the other are appended as one. -/
theorem appendAll_joinOnto (contents : List Content) (content : Content) (later : List Content) :
    appendAll contents (joinOnto content later) = appendAll contents (content :: later) := by
  cases content with
  | child tree => rfl
  | text words =>
    cases later with
    | nil => rfl
    | cons next later =>
      cases next with
      | child tree => rfl
      | text more =>
        have joined : joinOnto (Content.text words) (.text more :: later) = .text (words ++ more) :: later :=
          joinOnto_ofWords_ofWords words more later
        rw [joined, appendAll, appendAll, List.foldl_cons, List.foldl_cons, List.foldl_cons, append,
          append, append, appendText_appendText]

/-- Appending contents is appending them condensed, whatever they are appended to. -/
theorem appendAll_condensed (contents added : List Content) :
    appendAll contents (condensed added) = appendAll contents added := by
  induction added generalizing contents with
  | nil => rfl
  | cons content added ih =>
    by_cases empty : content = .text ""
    · rw [empty, condensed_empty, ih, appendAll, appendAll, List.foldl_cons, append, appendText_empty]
    · calc appendAll contents (condensed (content :: added))
          = appendAll contents (joinOnto content (condensed added)) := by rw [condensed_cons empty]
        _ = appendAll (append contents content) (condensed added) := appendAll_joinOnto ..
        _ = appendAll (append contents content) added := ih _

/-! ## The condensed form -/

theorem Tidy.cons_child (tidy : Tidy later) (tree : Tree) : Tidy (.child tree :: later) := by
  refine ⟨?_, List.isChain_cons.mpr ⟨?_, tidy.separated⟩⟩
  · intro words mem
    rcases List.mem_cons.mp mem with here | after
    · cases here
    · exact tidy.nonempty words after
  · intro next _
    exact .inl rfl

theorem Tidy.cons_text (tidy : Tidy later) {words : String} (filled : words ≠ "")
    (free : ∀ next ∈ later.head?, next.text? = none) : Tidy (.text words :: later) := by
  refine ⟨?_, List.isChain_cons.mpr ⟨?_, tidy.separated⟩⟩
  · intro other mem
    rcases List.mem_cons.mp mem with here | after
    · cases here
      exact filled
    · exact tidy.nonempty other after
  · intro next first
    exact .inr (free next first)

/-- What is put in front of tidy contents and is no empty text leaves them tidy. -/
theorem Tidy.joinOnto (tidy : Tidy later) (filled : content ≠ .text "") :
    Tidy (joinOnto content later) := by
  cases content with
  | child tree => exact tidy.cons_child tree
  | text words =>
    have filled : words ≠ "" := by simpa using filled
    cases later with
    | nil => exact tidy.cons_text filled (by simp)
    | cons next later =>
      cases next with
      | child tree => exact tidy.cons_text filled (by simp)
      | text more =>
        -- the text that is joined on takes the place of the one it is joined to
        refine tidy.tail.cons_text ?_ tidy.not_text_after
        simp [filled]

theorem condensed_tidy (contents : List Content) : Tidy (condensed contents) := by
  induction contents with
  | nil => exact tidy_nil
  | cons content contents ih =>
    by_cases empty : content = .text ""
    · rw [empty, condensed_empty]
      exact ih
    · rw [condensed_cons empty]
      exact ih.joinOnto empty

/-- Contents that are tidy as they stand are appended as they stand. -/
theorem appendAll_of_tidy (tidy : Tidy (contents ++ added)) : appendAll contents added = contents ++ added := by
  induction added generalizing contents with
  | nil => exact (List.append_nil _).symm
  | cons content added ih =>
    have appended : append contents content = contents ++ [content] := by
      cases content with
      | child tree => rfl
      | text words =>
        have filled : words ≠ "" := tidy.nonempty words (by simp)
        refine appendText_eq_concat filled ?_
        -- it is not joined to what it follows, which is no text
        intro last mem
        have apart := (List.isChain_append.mp tidy.separated).2.2 last mem (.text words) rfl
        exact apart.resolve_right (by simp)
    have split : contents ++ content :: added = (contents ++ [content]) ++ added := by simp
    rw [split] at tidy ⊢
    rw [← ih tidy, ← appended]
    rfl

/-- What is appended to tidy contents stands there with them in condensed form. -/
theorem Tidy.appendAll_eq (tidy : Tidy contents) (added : List Content) :
    appendAll contents added = condensed (contents ++ added) := by
  -- tidy contents are themselves appended to nothing, so that all of it can be condensed at once
  have fromNothing : appendAll [] contents = contents := appendAll_of_tidy tidy
  calc appendAll contents added
      = appendAll (appendAll [] contents) added := by rw [fromNothing]
    _ = appendAll [] (contents ++ added) := (List.foldl_append ..).symm
    _ = appendAll [] (condensed (contents ++ added)) := (appendAll_condensed ..).symm
    _ = condensed (contents ++ added) := appendAll_of_tidy (condensed_tidy _)

/-- The condensed form changes nothing but contents that are not tidy. -/
theorem condensed_eq_self_iff : condensed contents = contents ↔ Tidy contents := by
  constructor
  · intro same
    rw [← same]
    exact condensed_tidy contents
  · intro tidy
    have appended := tidy.appendAll_eq []
    rw [List.append_nil] at appended
    exact appended.symm

end Content

/-! ## Trees pushed onto -/

namespace Tree

variable {tree : Tree}

def pushAll (tree : Tree) (added : List Content) : Tree :=
  added.foldl push tree

theorem pushAll_eq (tree : Tree) (added : List Content) :
    tree.pushAll added = .node tree.name tree.attributes (Content.appendAll tree.contents added) := by
  induction added generalizing tree with
  | nil => cases tree; rfl
  | cons content added ih => exact ih (tree.push content)

/-- What can be obtained by the operations on trees, from builders and from documents. -/
inductive Obtained : Tree → Prop
  | named (name : String) : Obtained (named name)
  | ofText (name words : String) : Obtained (ofText name words)
  | setAttribute {tree : Tree} (key value : String) : Obtained tree → Obtained (tree.setAttribute key value)
  | pushText {tree : Tree} (words : String) : Obtained tree → Obtained (tree.pushText words)
  | pushChild {tree child : Tree} : Obtained tree → Obtained child → Obtained (tree.pushChild child)
  | push {tree : Tree} {content : Content} :
    Obtained tree → (∀ child, content.child? = some child → Obtained child) → Obtained (tree.push content)
  | built {tree : Tree} {calls : List Builder.Call} :
    (Builder.new.after calls).finish = .ok tree → Obtained tree
  | decoded {tree : Tree} {document : String} : decode document = .ok tree → Obtained tree
  | decodedBytes {tree : Tree} {document : List UInt8} : decodeBytes document = .ok tree → Obtained tree

theorem decodeBytes_grown {document : List UInt8} (read : decodeBytes document = .ok tree) :
    tree.Grown := by
  rw [decodeBytes] at read
  split at read
  · exact decode_grown read
  · cases read

theorem built_grown {calls : List Builder.Call} (built : (Builder.new.after calls).finish = .ok tree) :
    tree.Grown := by
  have accounted := Builder.accounted_new.run calls
  exact accounted.grown.2 tree (Builder.root_of_finish built)

/-- Builders and documents come to nothing that could not have been grown. -/
theorem Obtained.grown (obtained : tree.Obtained) : tree.Grown := by
  induction obtained with
  | named name => exact .named name
  | ofText name words => exact .pushText words (.named name)
  | setAttribute key value _ ih => exact .setAttribute key value ih
  | pushText words _ ih => exact .pushText words ih
  | pushChild _ _ ih ihChild => exact .pushChild ih ihChild
  | @push tree content _ _ ih ihChild =>
    cases content with
    | text words => exact .pushText words ih
    | child child => exact .pushChild ih (ihChild child rfl)
  | built built => exact built_grown built
  | decoded read => exact decode_grown read
  | decodedBytes read => exact decodeBytes_grown read

theorem Obtained.tidy (obtained : tree.Obtained) : tree.Tidy :=
  obtained.grown.tidy

end Tree

/-! ## What a builder appends -/

namespace Builder

/-- The calls that append the content to an element that is open. -/
def contentCalls : Content → List Call
  | .text words => [.addText words]
  | .child tree => tree.calls

theorem after_append (b : Builder) (calls more : List Call) :
    b.after (calls ++ more) = (b.after calls).after more :=
  List.foldl_append ..

theorem calls_node (name : String) (attributes : Attributes) (contents : List Content) :
    (Tree.node name attributes contents).calls =
      .openElement name attributes :: (contents.flatMap contentCalls ++ [.closeElement]) := by
  have inside : (Tree.traversalIn contents).map Call.ofEvent = contents.flatMap contentCalls := by
    induction contents with
    | nil => rfl
    | cons first rest ih =>
      rw [List.flatMap_cons, ← ih]
      cases first with
      | text words => rfl
      | child tree => rw [Tree.traversalIn, List.map_append, contentCalls, Tree.calls]
  rw [Tree.calls, Tree.traversal, List.map_cons, List.map_append, inside]
  rfl

mutual

/-- The calls of a tidy tree put it below the element that is open. -/
theorem after_calls : ∀ (tree : Tree), tree.Tidy → ∀ (top : Tree) (below : List Tree),
    Builder.after ⟨top :: below, none⟩ tree.calls = ⟨top.pushChild tree :: below, none⟩
  | .node name attributes contents, tidy, top, below => by
    obtain ⟨here, inside⟩ := Tree.tidy_iff.mp tidy
    -- the element is opened with nothing in it, so that tidy contents are appended to it as they stand
    have opened := after_contentCalls contents inside (.node name attributes []) (top :: below)
    have whole : (Tree.node name attributes []).pushAll contents = .node name attributes contents := by
      rw [Tree.pushAll_eq]
      exact congrArg (Tree.node name attributes) (Content.appendAll_of_tidy here)
    calc Builder.after ⟨top :: below, none⟩ (Tree.node name attributes contents).calls
        = Builder.after ⟨.node name attributes [] :: top :: below, none⟩
            (contents.flatMap contentCalls ++ [.closeElement]) := by rw [calls_node]; rfl
      _ = Builder.after ⟨.node name attributes contents :: top :: below, none⟩ [.closeElement] := by
          rw [after_append, opened, whole]
      _ = ⟨top.pushChild (.node name attributes contents) :: below, none⟩ := rfl

/-- What a builder appends to the element that is open is pushed onto it. -/
theorem after_contentCalls : ∀ (added : List Content),
    (∀ node ∈ Tree.nodesIn added, Content.Tidy node.contents) → ∀ (top : Tree) (below : List Tree),
      Builder.after ⟨top :: below, none⟩ (added.flatMap contentCalls) = ⟨top.pushAll added :: below, none⟩
  | [], _, _, _ => rfl
  | .text words :: rest, tidy, top, below => by
    rw [Tree.nodesIn] at tidy
    exact after_contentCalls rest tidy (top.pushText words) below
  | .child tree :: rest, tidy, top, below => by
    rw [Tree.nodesIn] at tidy
    obtain ⟨tidyTree, tidyRest⟩ := List.forall_mem_append.mp tidy
    rw [List.flatMap_cons, after_append, contentCalls, after_calls tree tidyTree top below]
    exact after_contentCalls rest tidyRest (top.pushChild tree) below

end

end Builder

namespace Tree

/-- The trees among contents that have all been obtained are tidy, and so are those below them. -/
theorem tidy_nodesIn {contents : List Content} (obtained : ∀ child, .child child ∈ contents → Obtained child) :
    ∀ node ∈ nodesIn contents, Content.Tidy node.contents := by
  induction contents with
  | nil =>
    intro node mem
    cases mem
  | cons first rest ih =>
    have later : ∀ node ∈ nodesIn rest, Content.Tidy node.contents := by
      apply ih
      intro child mem
      exact obtained child (List.mem_cons_of_mem _ mem)
    cases first with
    | text words =>
      rw [nodesIn]
      exact later
    | child tree =>
      rw [nodesIn]
      exact List.forall_mem_append.mpr ⟨(obtained tree (List.mem_cons_self ..)).tidy, later⟩

/-- In every tree, however it has been obtained, no text at any depth is empty and no two texts are neighbours.
How texts are pushed does not matter: whatever a sequence of texts and trees is pushed onto, it comes to the same
as the sequence without its empty texts and with each run of neighbouring texts joined into one, which is the
tidy form of the sequence; onto a tree that has been obtained it is pushed so that its contents are the
condensed form of all that was pushed. A builder that appends the sequence to the element that is open does the
same. -/
theorem texts_kept_apart :
    (∀ tree : Tree, tree.Obtained → ∀ node ∈ tree.nodes, Content.Tidy node.contents) ∧
      (∀ (tree : Tree) (added : List Content),
        tree.pushAll added = tree.pushAll (Content.condensed added)) ∧
      (∀ added : List Content, Content.Tidy (Content.condensed added) ∧
        (Content.condensed added = added ↔ Content.Tidy added)) ∧
      (∀ (tree : Tree) (added : List Content), tree.Obtained →
        (tree.pushAll added).contents = Content.condensed (tree.contents ++ added)) ∧
      (∀ (tree : Tree) (words more : String),
        (tree.pushText words).pushText more = tree.pushText (words ++ more)) ∧
      (∀ (top : Tree) (below : List Tree) (added : List Content),
        (∀ child, .child child ∈ added → Obtained child) →
          Builder.after ⟨top :: below, none⟩ (added.flatMap Builder.contentCalls) =
            ⟨top.pushAll added :: below, none⟩) := by
  refine ⟨?_, ?_, ?_, ?_, ?_, ?_⟩
  · intro tree obtained
    exact obtained.tidy
  · intro tree added
    rw [pushAll_eq, pushAll_eq, Content.appendAll_condensed]
  · intro added
    exact ⟨Content.condensed_tidy added, Content.condensed_eq_self_iff⟩
  · intro tree added obtained
    rw [pushAll_eq, contents_node]
    exact (tidy_iff.mp obtained.tidy).1.appendAll_eq added
  · intro tree words more
    exact congrArg (node tree.name tree.attributes) (Content.appendText_appendText words more tree.contents)
  · intro top below added obtained
    exact Builder.after_contentCalls added (tidy_nodesIn obtained) top below

/-- Texts in pieces, some of them empty, on both sides of an element. -/
def fragments : List Content :=
  [.text "", .text " and", .text " more", .child (named "b"), .text "", .text "last", .text ""]

/-- They are pushed onto a tree that was read from a document, and appended by a builder. -/
theorem texts_kept_apart_fragments :
    decode "<a>one<!--c--><![CDATA[ two]]></a>" = .ok (ofText "a" "one two") ∧
      ((ofText "a" "one two").pushAll fragments).contents =
        [.text "one two and more", .child (named "b"), .text "last"] ∧
      (∀ node ∈ ((ofText "a" "one two").pushAll fragments).nodes, Content.Tidy node.contents) ∧
      Builder.after ⟨[ofText "a" "one two"], none⟩ (fragments.flatMap Builder.contentCalls) =
        ⟨[(ofText "a" "one two").pushAll [.text " and more", .child (named "b"), .text "last"]], none⟩ := by
  have read : decode "<a>one<!--c--><![CDATA[ two]]></a>" = .ok (ofText "a" "one two") := by decide +kernel
  have start : (ofText "a" "one two").Obtained := .decoded read
  have pushed : ((ofText "a" "one two").pushAll fragments).Obtained :=
    .pushText _ (.pushText _ (.pushText _ (.pushChild (.pushText _ (.pushText _ (.pushText _ start)))
      (.named "b"))))
  have parts : ∀ child, .child child ∈ fragments → Obtained child := by
    intro child mem
    have only : child = named "b" := by simpa [fragments] using mem
    exact only ▸ .named "b"
  have short : Content.condensed fragments = [.text " and more", .child (named "b"), .text "last"] := by
    decide +kernel
  obtain ⟨tidy, same, -, condensed, -, appended⟩ := texts_kept_apart
  refine ⟨read, ?_, tidy _ pushed, ?_⟩
  · rw [condensed _ _ start]
    decide +kernel
  · rw [appended _ _ _ parts, same, short]

end Tree

end Discovery
