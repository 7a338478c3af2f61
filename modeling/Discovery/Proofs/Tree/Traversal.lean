import Discovery.Proofs.Text.Joined
import Discovery.Proofs.Tree.Building
import Discovery.Proofs.Tree.Grown

/-!
# Traversals

The traversal of a tree is its start tag, what stands in it in order, and its closing tag. A builder that
is driven by events writes such a traversal from left to right: at every moment it holds the part of it
that has been written.

Events may say the same in more than one way: an element with nothing in it by a tag that is its own
closing tag, a text in several pieces. `spelled` says all of it in one way.

* `Tree.joinTexts_appendText`: appending a text to contents says it after them;
* `Tree.joinTexts_traversal`: a traversal is spelled already;
* `Builder.openElement_written`, `Builder.addText_written`, `Builder.closeElement_written`: what each step
  writes.
-/

namespace Discovery

open Markup Textual

/-! ## Events -/

namespace Markup

/-- The event, with a tag that is its own closing tag as two tags. -/
def Event.spelledOut : Event → List Event
  | .startTag ⟨name, attributes, true⟩ => [.startTag ⟨name, attributes, false⟩, .endTag name]
  | .startTag ⟨name, attributes, false⟩ => [.startTag ⟨name, attributes, false⟩]
  | .endTag name => [.endTag name]
  | .text words => [.text words]

instance : Textual Event where
  words?
    | .text words => some words
    | _ => none
  ofWords := .text
  words?_eq_some_iff {event words} := by cases event <;> simp

/-- What events say, spelled in one way: no tag is its own closing tag, no two texts are neighbours. -/
def spelled (events : List Event) : List Event :=
  joinTexts (events.flatMap Event.spelledOut)

@[simp] theorem joinTexts_startTag (tag : StartTag) (later : List Event) :
    joinTexts (.startTag tag :: later) = .startTag tag :: joinTexts later := rfl

@[simp] theorem joinTexts_endTag (name : String) (later : List Event) :
    joinTexts (.endTag name :: later) = .endTag name :: joinTexts later := rfl

end Markup

namespace Content

/-- A text that is appended in two pieces is appended as one. -/
theorem appendText_appendText (words more : String) (contents : List Content) :
    appendText more (appendText words contents) = appendText (words ++ more) contents := by
  by_cases empty : words = ""
  · rw [empty, appendText_empty, String.empty_append]
  rcases List.eq_nil_or_concat' contents with rfl | ⟨before, last, rfl⟩
  · have both : words ++ more ≠ "" := by simp [empty]
    rw [appendText_eq_concat empty (by simp), appendText_eq_concat both (by simp)]
    exact appendText_concat_text [] words more
  · cases last with
    | text last =>
      rw [appendText_concat_text, appendText_concat_text, appendText_concat_text,
        String.append_assoc]
    | child tree =>
      have both : words ++ more ≠ "" := by simp [empty]
      have free : ∀ content ∈ (before ++ [Content.child tree]).getLast?, content.text? = none := by
        simp
      rw [appendText_eq_concat empty free, appendText_eq_concat both free, appendText_concat_text]

end Content

/-! ## Traversals -/

namespace Tree

mutual

/-- The tree as events: its start tag, what stands in it, its closing tag. -/
def traversal : Tree → List Event
  | .node name attributes contents =>
    .startTag ⟨name, attributes, false⟩ :: (traversalIn contents ++ [.endTag name])

def traversalIn : List Content → List Event
  | [] => []
  | .text words :: rest => .text words :: traversalIn rest
  | .child tree :: rest => traversal tree ++ traversalIn rest

end

/-- The traversal of a tree as far as it goes while the tree is open. -/
def opened (tree : Tree) : List Event :=
  .startTag ⟨tree.name, tree.attributes, false⟩ :: traversalIn tree.contents

theorem traversal_eq (tree : Tree) : tree.traversal = tree.opened ++ [.endTag tree.name] := by
  cases tree with
  | node name attributes contents => rw [traversal, opened, List.cons_append]; rfl

theorem traversalIn_append (before after : List Content) :
    traversalIn (before ++ after) = traversalIn before ++ traversalIn after := by
  induction before with
  | nil => rfl
  | cons first rest ih =>
    cases first with
    | text words => rw [List.cons_append, traversalIn, traversalIn, ih, List.cons_append]
    | child tree => rw [List.cons_append, traversalIn, traversalIn, ih, List.append_assoc]

theorem opened_pushChild (tree child : Tree) :
    (tree.pushChild child).opened = tree.opened ++ child.traversal := by
  show Event.startTag ⟨tree.name, tree.attributes, false⟩ ::
    traversalIn (tree.contents ++ [.child child]) = tree.opened ++ child.traversal
  rw [traversalIn_append, traversalIn, traversalIn, List.append_nil]
  rfl

/-- A text that is appended is said at the end. -/
theorem joinTexts_appendText {words : String} (filled : words ≠ "") (contents : List Content)
    (later : List Event) :
    joinTexts (traversalIn (Content.appendText words contents) ++ later) =
      joinTexts (traversalIn contents ++ .text words :: later) := by
  rcases List.eq_nil_or_concat' contents with rfl | ⟨before, last, rfl⟩
  · rw [Content.appendText_eq_concat filled (by simp)]
    rfl
  · cases last with
    | text last =>
      -- the text is joined to the one before it, here by the builder and there by the spelling
      rw [Content.appendText_concat_text, traversalIn_append, traversalIn_append, List.append_assoc,
        List.append_assoc]
      exact joinTexts_append_congr (joinTexts_pair last words later).symm _
    | child tree =>
      rw [Content.appendText_eq_concat filled (by simp), traversalIn_append _ [.text words],
        List.append_assoc]
      rfl

mutual

/-- In the traversal of a tidy tree no texts are neighbours. -/
theorem joinTexts_traversal_append : ∀ (tree : Tree), tree.Tidy → ∀ {later : List Event},
    joinTexts later = later → joinTexts (tree.traversal ++ later) = tree.traversal ++ later
  | .node name attributes contents, tidy, later, joined => by
    obtain ⟨here, below⟩ := tidy_iff.mp tidy
    rw [traversal, List.cons_append, List.append_assoc, joinTexts_startTag]
    congr 1
    exact joinTexts_traversalIn_append contents here below name joined

theorem joinTexts_traversalIn_append : ∀ (contents : List Content), Content.Tidy contents →
    (∀ node ∈ nodesIn contents, Content.Tidy node.contents) → ∀ (name : String) {later : List Event},
    joinTexts later = later →
      joinTexts (traversalIn contents ++ .endTag name :: later) =
        traversalIn contents ++ .endTag name :: later
  | [], _, _, name, later, joined => by rw [traversalIn, List.nil_append, joinTexts_endTag, joined]
  | .text words :: rest, tidy, below, name, later, joined => by
    have after := joinTexts_traversalIn_append rest tidy.tail (by rwa [nodesIn] at below) name joined
    rw [traversalIn, List.cons_append, joinTexts_cons, after]
    -- no text follows the text
    cases rest with
    | nil => rfl
    | cons first more =>
      cases first with
      | text => cases tidy.not_text_after _ rfl
      | child tree => cases tree with
        | node => rfl
  | .child tree :: rest, tidy, below, name, later, joined => by
    rw [nodesIn] at below
    obtain ⟨belowTree, belowRest⟩ := List.forall_mem_append.mp below
    have after := joinTexts_traversalIn_append rest tidy.tail belowRest name joined
    rw [traversalIn, List.append_assoc]
    exact joinTexts_traversal_append tree belowTree after

end

/-- The traversal of a tidy tree is spelled already. -/
theorem joinTexts_traversal {tree : Tree} (tidy : tree.Tidy) :
    joinTexts tree.traversal = tree.traversal := by
  have alone := joinTexts_traversal_append tree tidy joinTexts_nil
  rwa [List.append_nil] at alone

end Tree

/-! ## What a builder has written -/

namespace Builder

variable {b b' : Builder}

/-- Nothing is open any more once the root is complete. -/
def OneRoot (b : Builder) : Prop :=
  b.root.isSome = true → b.stack = []

/-- The events that have led to the builder: those of the root, or those of the open elements from the
outermost on. -/
def written (b : Builder) : List Event :=
  match b.root with
  | some tree => tree.traversal
  | none => b.stack.reverse.flatMap Tree.opened

theorem oneRoot_new : new.OneRoot := fun _ => rfl

/-- While an element is open there is no root. -/
theorem OneRoot.root_eq_none (oneRoot : b.OneRoot) (some : b.stack ≠ []) : b.root = none := by
  rw [← Option.not_isSome_iff_eq_none]
  intro complete
  exact some (oneRoot complete)

/-- Opening writes a start tag. -/
theorem openElement_written {name : String} {attributes : Attributes}
    (done : b.openElement name attributes = .ok b') :
    b'.OneRoot ∧ b'.written = b.written ++ [.startTag ⟨name, attributes, false⟩] := by
  unfold openElement at done
  split at done
  · cases done
  · next incomplete =>
    have noRoot : b.root = none := Option.not_isSome_iff_eq_none.mp incomplete
    cases done
    constructor
    · intro complete
      exact absurd complete incomplete
    · simp [written, noRoot, Tree.opened, Tree.traversalIn]

/-- Adding a text writes it, joined to a text before it. -/
theorem addText_written (oneRoot : b.OneRoot) {words : String} (filled : words ≠ "")
    (done : b.addText words = .ok b') :
    b'.OneRoot ∧
      ∀ later, joinTexts (b'.written ++ later) = joinTexts (b.written ++ .text words :: later) := by
  rcases b with ⟨stack, root⟩
  cases stack with
  | nil => cases done
  | cons top below =>
    have noRoot : root = none := oneRoot.root_eq_none (List.cons_ne_nil _ _)
    subst noRoot
    cases done
    constructor
    · intro complete
      cases complete
    · intro later
      -- the text is the last that has been said of the innermost element
      have said := Tree.joinTexts_appendText filled top.contents later
      have whole := joinTexts_append_congr said
        (below.reverse.flatMap Tree.opened ++ [.startTag ⟨top.name, top.attributes, false⟩])
      simpa [written, Tree.opened, Tree.pushText, Tree.push, Content.append] using whole

/-- Closing writes the closing tag of the element on top. -/
theorem closeElement_written (oneRoot : b.OneRoot) {name : String}
    (done : b.closeElement = .ok (name, b')) :
    b'.OneRoot ∧ b'.written = b.written ++ [.endTag name] := by
  rcases b with ⟨stack, root⟩
  cases stack with
  | nil => cases done
  | cons top below =>
    have noRoot : root = none := oneRoot.root_eq_none (List.cons_ne_nil _ _)
    subst noRoot
    -- the root is complete, or what is closed is the end of the element around it
    cases below with
    | nil =>
      cases done
      exact ⟨fun _ => rfl, by simp [written, Tree.traversal_eq]⟩
    | cons parent below =>
      cases done
      constructor
      · intro complete
        cases complete
      · simp [written, Tree.opened_pushChild, Tree.traversal_eq]

/-- A builder that is finished has written the traversal of its tree. -/
theorem finish_written {tree : Tree} (done : b.finish = .ok tree) : b.written = tree.traversal := by
  rw [written, root_of_finish done]

end Builder

end Discovery
