import Discovery.Proofs.Tree.Traversal

/-!
# Calls of a builder

A builder is called in place: a call changes the builder that it is made of, and answers or fails. Nothing
keeps a caller from calling it in any order. What a builder has become after any calls is decided by those
that succeeded, in their order; the others have left no trace.

* `Builder.call_eq`: a call that is made in place is a step, or fails and changes nothing;
* `Tree.eq_of_calls`: a tree is determined by the calls that build it;
* `Builder.Accounted.run`: how the calls that succeeded are related to the builder that they have led to;
* `Builder.called_in_any_order`: what becomes of a new builder, whatever is called.
-/

namespace Discovery

open Markup

namespace Builder

/-! ## Calls in place -/

/-- What can be asked of a builder. -/
inductive Call where
  | openElement (name : String) (attributes : Attributes)
  | addText (words : String)
  | closeElement
deriving DecidableEq

/-- What is done to a builder in place. An action that fails leaves a builder behind as well: what it has
changed before it fails stays changed. -/
abbrev InPlace := ExceptT TreeError (StateM Builder)

def pop : InPlace (Option Tree) :=
  modifyGet fun b => (b.stack.head?, { b with stack := b.stack.tail })

def openInPlace (name : String) (attributes : Attributes) : InPlace (Option String) := do
  if (← get).isComplete then throw (.rootClosed name)
  else
    modify fun b => { b with stack := .node name attributes [] :: b.stack }
    return none

def addTextInPlace (words : String) : InPlace (Option String) := do
  match (← get).stack with
  | [] => throw .nothingOpen
  | top :: below =>
    modify fun b => { b with stack := top.pushText words :: below }
    return none

/-- Hands the element on top of the stack to the one below it, or makes it the root. The element is taken
off before it is looked at whether there was one. -/
def closeInPlace : InPlace (Option String) := do
  match ← pop with
  | none => throw .nothingOpen
  | some top =>
    match (← get).stack with
    | [] => modify fun b => { b with root := some top }
    | parent :: below => modify fun b => { b with stack := parent.pushChild top :: below }
    return some top.name

/-- What a call does; closing answers with the name of the element. -/
def Call.perform : Call → InPlace (Option String)
  | .openElement name attributes => openInPlace name attributes
  | .addText words => addTextInPlace words
  | .closeElement => closeInPlace

/-- The answer to a call and what has become of the builder. -/
def call (b : Builder) (call : Call) : Except TreeError (Option String) × Builder :=
  call.perform.run.run b

/-- The builder after calls, whether they succeed or not. -/
def after (b : Builder) (calls : List Call) : Builder :=
  calls.foldl (fun b call => (b.call call).2) b

def accepted (b : Builder) : List Call → List Call
  | [] => []
  | call :: calls =>
    match b.call call with
    | (.ok _, b') => call :: accepted b' calls
    | (.error _, b') => accepted b' calls

/-- The step of a builder that a call asks for. -/
def step (b : Builder) : Call → Except TreeError (Option String × Builder)
  | .openElement name attributes => (b.openElement name attributes).map (none, ·)
  | .addText words => (b.addText words).map (none, ·)
  | .closeElement => b.closeElement.map fun (name, b) => (some name, b)

variable {b b' : Builder} {calls done : List Call}

/-- A call that is made in place does the step, or fails and leaves the builder as it was. -/
theorem call_eq (b : Builder) (call : Call) :
    b.call call =
      match b.step call with
      | .ok (answer, b') => (.ok answer, b')
      | .error error => (.error error, b) := by
  rcases b with ⟨stack, root⟩
  cases call with
  | openElement name attributes =>
    cases root with
    | none => rfl
    | some tree => rfl
  | addText words =>
    cases stack with
    | nil => rfl
    | cons top below => rfl
  | closeElement =>
    -- an element that is not there is taken off an empty stack, which stays empty
    cases stack with
    | nil => rfl
    | cons top below =>
      cases below with
      | nil => rfl
      | cons parent below => rfl

/-- A call that fails leaves the builder as it was. -/
theorem eq_of_call_error {call : Call} {error : TreeError} (failed : b.call call = (.error error, b')) :
    b' = b := by
  rw [call_eq] at failed
  split at failed
  · cases failed
  · cases failed
    rfl

/-- Opening fails once the root is complete. -/
theorem call_openElement_error_iff {name : String} {attributes : Attributes} {error : TreeError} :
    (b.call (.openElement name attributes)).1 = .error error ↔
      b.isComplete = true ∧ error = .rootClosed name := by
  rcases b with ⟨stack, root⟩
  cases root with
  | none => simp [call_eq, step, openElement, isComplete, Except.map]
  | some tree => simp [call_eq, step, openElement, isComplete, Except.map, eq_comm]

/-- Adding and closing fail while nothing is open. -/
theorem call_error_iff {call : Call} (noOpening : ∀ name attributes, call ≠ .openElement name attributes)
    {error : TreeError} : (b.call call).1 = .error error ↔ b.depth = 0 ∧ error = .nothingOpen := by
  rcases b with ⟨stack, root⟩
  cases call with
  | openElement name attributes => exact absurd rfl (noOpening name attributes)
  | addText words =>
    cases stack with
    | nil => simp [call_eq, step, addText, depth, Except.map, eq_comm]
    | cons top below => simp [call_eq, step, addText, depth, Except.map]
  | closeElement =>
    cases stack with
    | nil => simp [call_eq, step, closeElement, depth, Except.map, eq_comm]
    | cons top below =>
      cases below with
      | nil => simp [call_eq, step, closeElement, depth, Except.map]
      | cons parent below => simp [call_eq, step, closeElement, depth, Except.map]

/-! ## Calls as events -/

namespace Call

/-- The call that says the event; the tag that opens an element and the name that closes it are given apart. -/
def ofEvent : Event → Call
  | .startTag tag => .openElement tag.name tag.attributes
  | .endTag _ => .closeElement
  | .text words => .addText words

instance : Textual Call where
  words?
    | .addText words => some words
    | _ => none
  ofWords := .addText
  words?_eq_some_iff {call words} := by cases call <;> simp

/-- Calls without those of empty texts, and with neighbouring texts joined. -/
def condensed (calls : List Call) : List Call :=
  Textual.condensed calls

/-- A call has the text of the event that it says. -/
theorem words?_ofEvent (event : Event) : Textual.words? (ofEvent event) = Textual.words? event := by
  cases event <;> rfl

def isOpening : Call → Bool
  | .openElement .. => true
  | _ => false

def isClosing : Call → Bool
  | .closeElement => true
  | _ => false

end Call

end Builder

/-! ## Trees as calls -/

namespace Tree

open Builder (Call)

/-- The calls that build the tree: opening, what stands in it in order, closing. -/
def calls (tree : Tree) : List Call :=
  tree.traversal.map Call.ofEvent

mutual

/-- A tree is determined by its calls, whatever comes after them. -/
theorem eq_of_calls_append : ∀ (tree tree' : Tree) {later later' : List Call},
    tree.calls ++ later = tree'.calls ++ later' → tree = tree' ∧ later = later'
  | .node name attributes contents, .node name' attributes' contents', later, later', same => by
    simp only [calls, traversal, List.map_cons, List.map_append, List.map_nil, List.cons_append,
      List.append_assoc, List.nil_append, List.cons.injEq, Call.ofEvent, Call.openElement.injEq] at same
    obtain ⟨⟨rfl, rfl⟩, inside⟩ := same
    obtain ⟨rfl, rfl⟩ := eq_of_calls_in contents contents' inside
    exact ⟨rfl, rfl⟩

/-- Contents are determined by their calls up to the closing of the element that they stand in. -/
theorem eq_of_calls_in : ∀ (contents contents' : List Content) {later later' : List Call},
    (traversalIn contents).map Call.ofEvent ++ .closeElement :: later =
        (traversalIn contents').map Call.ofEvent ++ .closeElement :: later' →
      contents = contents' ∧ later = later'
  | [], [], later, later', same => ⟨rfl, (List.cons.inj same).2⟩
  | [], .text _ :: _, _, _, same => by cases (List.cons.inj same).1
  | [], .child (.node ..) :: _, _, _, same => by cases (List.cons.inj same).1
  | .text _ :: _, [], _, _, same => by cases (List.cons.inj same).1
  | .child (.node ..) :: _, [], _, _, same => by cases (List.cons.inj same).1
  | .text _ :: _, .child (.node ..) :: _, _, _, same => by cases (List.cons.inj same).1
  | .child (.node ..) :: _, .text _ :: _, _, _, same => by cases (List.cons.inj same).1
  | .text words :: rest, .text words' :: rest', later, later', same => by
    obtain ⟨first, after⟩ := List.cons.inj same
    obtain rfl := Call.addText.inj first
    obtain ⟨rfl, rfl⟩ := eq_of_calls_in rest rest' after
    exact ⟨rfl, rfl⟩
  | .child tree :: rest, .child tree' :: rest', later, later', same => by
    rw [traversalIn, traversalIn, List.map_append, List.map_append, List.append_assoc,
      List.append_assoc] at same
    obtain ⟨rfl, after⟩ := eq_of_calls_append tree tree' same
    obtain ⟨rfl, rfl⟩ := eq_of_calls_in rest rest' after
    exact ⟨rfl, rfl⟩

end

/-- A tree is determined by the calls that build it. -/
theorem eq_of_calls {tree tree' : Tree} (same : tree.calls = tree'.calls) : tree = tree' :=
  (eq_of_calls_append tree tree' (congrArg (· ++ []) same)).1

end Tree

/-! ## The calls that succeeded -/

namespace Builder

open Call

variable {b b' : Builder} {calls done : List Call}

/-- How the calls that succeeded are related to the builder that they have led to. -/
structure Accounted (done : List Call) (b : Builder) : Prop where
  oneRoot : b.OneRoot
  grown : b.Everywhere Tree.Grown
  balanced : done.countP isOpening = done.countP isClosing + b.depth
  begun : done.countP isOpening = 0 ↔ b.stack = [] ∧ b.root = none
  /-- The calls, as events, have been written, however the texts are joined in the end. -/
  told : ∃ events, events.map ofEvent = Textual.withoutEmpty done ∧
    ∀ later, Textual.joinTexts (b.written ++ later) = Textual.joinTexts (events ++ later)

theorem accounted_new : Accounted [] new :=
  ⟨oneRoot_new, everywhere_new, rfl, by simp [new], [], rfl, fun _ => rfl⟩

/-- An event that is written at the end is told after the others. -/
theorem Accounted.told_concat (accounted : Accounted done b) (b' : Builder) {event : Event}
    (filled : ofEvent event ≠ .addText "")
    (written : ∀ later, Textual.joinTexts (b'.written ++ later) = Textual.joinTexts (b.written ++ event :: later)) :
    ∃ events, events.map ofEvent = Textual.withoutEmpty (done ++ [ofEvent event]) ∧
      ∀ later, Textual.joinTexts (b'.written ++ later) = Textual.joinTexts (events ++ later) := by
  obtain ⟨events, same, told⟩ := accounted.told
  refine ⟨events ++ [event], ?_, ?_⟩
  · rw [List.map_append, same, Textual.withoutEmpty_append, Textual.withoutEmpty_cons filled]
    rfl
  · intro later
    rw [written, told, List.append_assoc, List.singleton_append]

theorem Accounted.openElement (accounted : Accounted done b) {name : String} {attributes : Attributes}
    (opened : b.openElement name attributes = .ok b') :
    Accounted (done ++ [.openElement name attributes]) b' := by
  obtain ⟨oneRoot, written⟩ := openElement_written opened
  have pushed : b'.stack = .node name attributes [] :: b.stack := by
    unfold Builder.openElement at opened
    split at opened
    · cases opened
    · cases opened
      rfl
  have filled : ofEvent (.startTag ⟨name, attributes, false⟩) ≠ .addText "" := by simp [ofEvent]
  have told := accounted.told_concat b' filled
    (by intro later; rw [written, List.append_assoc, List.singleton_append])
  -- one more opening, one more element on the stack
  have counts : (done ++ [Call.openElement name attributes]).countP isOpening = done.countP isOpening + 1 ∧
      (done ++ [Call.openElement name attributes]).countP isClosing = done.countP isClosing := by
    simp [isOpening, isClosing]
  refine ⟨oneRoot, accounted.grown.openElement (Tree.grown_leaf name attributes) opened, ?_, ?_, told⟩
  · rw [counts.1, counts.2, accounted.balanced, depth, depth, pushed, List.length_cons, Nat.add_assoc]
  · rw [counts.1, pushed]
    simp

/-- A text that is empty changes nothing. -/
theorem addText_empty (added : b.addText "" = .ok b') : b' = b := by
  rcases b with ⟨stack, root⟩
  cases stack with
  | nil => cases added
  | cons top below =>
    cases added
    cases top
    simp [Tree.pushText, Tree.push, Content.append, Content.appendText_empty]

theorem Accounted.addText (accounted : Accounted done b) {words : String}
    (added : b.addText words = .ok b') : Accounted (done ++ [.addText words]) b' := by
  have counts : (done ++ [Call.addText words]).countP isOpening = done.countP isOpening ∧
      (done ++ [Call.addText words]).countP isClosing = done.countP isClosing := by
    simp [isOpening, isClosing]
  by_cases filled : words = ""
  · -- an empty text leaves no trace, neither in the builder nor among the condensed calls
    subst filled
    obtain rfl := addText_empty added
    refine ⟨accounted.oneRoot, accounted.grown, ?_, ?_, ?_⟩
    · rw [counts.1, counts.2, accounted.balanced]
    · rw [counts.1, accounted.begun]
    · obtain ⟨events, same, told⟩ := accounted.told
      have silent : Textual.withoutEmpty [Call.addText ""] = [] := Textual.withoutEmpty_empty []
      exact ⟨events, by rw [same, Textual.withoutEmpty_append, silent, List.append_nil], told⟩
  · obtain ⟨oneRoot, written⟩ := addText_written accounted.oneRoot filled added
    have filledCall : ofEvent (.text words) ≠ .addText "" := by simpa [ofEvent] using filled
    have told := accounted.told_concat b' filledCall written
    have grown := accounted.grown.addText (fun _ grown => grown.pushText words) added
    rcases b with ⟨stack, root⟩
    cases stack with
    | nil => cases added
    | cons top below =>
      cases added
      refine ⟨oneRoot, grown, ?_, ?_, told⟩
      · rw [counts.1, counts.2, accounted.balanced]
        rfl
      · rw [counts.1, accounted.begun]
        simp

theorem Accounted.closeElement (accounted : Accounted done b) {name : String}
    (closed : b.closeElement = .ok (name, b')) : Accounted (done ++ [.closeElement]) b' := by
  obtain ⟨oneRoot, written⟩ := closeElement_written accounted.oneRoot closed
  have filled : ofEvent (.endTag name) ≠ .addText "" := by simp [ofEvent]
  have told := accounted.told_concat b' filled
    (by intro later; rw [written, List.append_assoc, List.singleton_append])
  have grown := accounted.grown.closeElement (fun _ _ grown grownChild => grown.pushChild grownChild) closed
  have balanced := accounted.balanced
  rcases b with ⟨stack, root⟩
  -- what is closed has been opened before
  have opened : done.countP isOpening ≠ 0 := by
    intro none
    obtain ⟨empty, -⟩ := accounted.begun.mp none
    cases empty
    cases closed
  have counts : (done ++ [Call.closeElement]).countP isOpening = done.countP isOpening ∧
      (done ++ [Call.closeElement]).countP isClosing = done.countP isClosing + 1 := by
    simp [isOpening, isClosing]
  rw [depth] at balanced
  cases stack with
  | nil => cases closed
  | cons top below =>
    cases below with
    | nil =>
      cases closed
      refine ⟨oneRoot, grown, ?_, ?_, told⟩
      · rw [counts.1, counts.2, balanced]
        rfl
      · simpa [counts.1] using opened
    | cons parent below =>
      cases closed
      refine ⟨oneRoot, grown, ?_, ?_, told⟩
      · rw [counts.1, counts.2, balanced, depth, List.length_cons, List.length_cons, List.length_cons]
        omega
      · simpa [counts.1] using opened

/-- A call that succeeds is added to those that did. -/
theorem Accounted.step (accounted : Accounted done b) {call : Call} {answer : Option String}
    (taken : b.step call = .ok (answer, b')) : Accounted (done ++ [call]) b' := by
  cases call with
  | openElement name attributes =>
    obtain ⟨_, opened, eq⟩ := map_eq_ok taken
    cases eq
    exact accounted.openElement opened
  | addText words =>
    obtain ⟨_, added, eq⟩ := map_eq_ok taken
    cases eq
    exact accounted.addText added
  | closeElement =>
    obtain ⟨_, closed, eq⟩ := map_eq_ok taken
    cases eq
    exact accounted.closeElement closed

/-- After any calls the builder is the one that the successful ones account for. -/
theorem Accounted.run (accounted : Accounted done b) (calls : List Call) :
    Accounted (done ++ b.accepted calls) (b.after calls) := by
  induction calls generalizing b done with
  | nil => simpa [accepted, after] using accounted
  | cons call calls ih =>
    have again : b.after (call :: calls) = (b.call call).2.after calls := rfl
    rw [again, accepted, call_eq]
    cases taken : b.step call with
    | error error => exact ih accounted
    | ok result =>
      obtain ⟨answer, next⟩ := result
      have later := ih (accounted.step taken)
      rwa [List.append_assoc, List.singleton_append] at later

/-! ## What is built -/

theorem finish_of_root (oneRoot : b.OneRoot) {tree : Tree} (root : b.root = some tree) :
    b.finish = .ok tree := by
  have none : b.stack = [] := oneRoot (by rw [root]; rfl)
  simp [finish, depth, none, root]

theorem finish_eq_unclosed_iff {n : Nat} :
    b.finish = .error (.unclosed n) ↔ 0 < b.depth ∧ n = b.depth := by
  unfold finish
  split
  · next closed =>
    rw [closed]
    cases b.root with
    | none => simp
    | some tree => simp
  · next opened => simp [Nat.pos_iff_ne_zero, opened, eq_comm]

/-- Nothing has been built only if nothing has been opened. -/
theorem finish_eq_nothingBuilt_iff :
    b.finish = .error .nothingBuilt ↔ b.stack = [] ∧ b.root = none := by
  rcases b with ⟨stack, root⟩
  cases stack with
  | nil => cases root <;> simp [finish, depth]
  | cons top below => simp [finish, depth]

/-- The calls of the finished tree are those that succeeded. -/
theorem Accounted.calls_eq (accounted : Accounted done b) {tree : Tree} (root : b.root = some tree) :
    tree.calls = condensed done := by
  obtain ⟨events, same, told⟩ := accounted.told
  have written := told []
  rw [finish_written (finish_of_root accounted.oneRoot root), List.append_nil, List.append_nil,
    Tree.joinTexts_traversal (accounted.grown.2 tree root).tidy] at written
  rw [Tree.calls, written, Textual.map_joinTexts words?_ofEvent, same]
  rfl

/-- What becomes of a new builder that is called in any order, and what its next call does. A call that fails
changes nothing. Opening fails once the root is complete, adding and closing while nothing is open. The root
is complete only after everything has been closed, and as many elements are open as have been opened and not
closed. What is finished is the one tree that is built by the calls that succeeded, without empty texts and
with neighbouring texts joined. -/
theorem called_in_any_order (calls : List Call) :
    let b := new.after calls
    let done := new.accepted calls
    (∀ call error left, b.call call = (.error error, left) → left = b) ∧
      (∀ name attributes error, (b.call (.openElement name attributes)).1 = .error error ↔
        b.isComplete = true ∧ error = .rootClosed name) ∧
      (∀ words error, (b.call (.addText words)).1 = .error error ↔ b.depth = 0 ∧ error = .nothingOpen) ∧
      (∀ error, (b.call .closeElement).1 = .error error ↔ b.depth = 0 ∧ error = .nothingOpen) ∧
      (b.isComplete = true → b.stack = []) ∧
      b.depth = done.countP isOpening - done.countP isClosing ∧
      done.countP isClosing ≤ done.countP isOpening ∧
      (∀ n, b.finish = .error (.unclosed n) ↔ 0 < b.depth ∧ n = b.depth) ∧
      (b.finish = .error .nothingBuilt ↔ done.countP isOpening = 0) ∧
      (b.depth = 0 → done.countP isOpening ≠ 0 → ∃ tree, b.finish = .ok tree ∧
        tree.calls = condensed done ∧ ∀ other : Tree, other.calls = condensed done → other = tree) := by
  have accounted : Accounted (new.accepted calls) (new.after calls) := accounted_new.run calls
  refine ⟨?_, ?_, ?_, ?_, accounted.oneRoot, ?_, ?_, ?_, ?_, ?_⟩
  · intro call error left failed
    exact eq_of_call_error failed
  · intro name attributes error
    exact call_openElement_error_iff
  · intro words error
    exact call_error_iff (by simp)
  · intro error
    exact call_error_iff (by simp)
  · rw [accounted.balanced, Nat.add_sub_cancel_left]
  · rw [accounted.balanced]
    exact Nat.le_add_right _ _
  · intro n
    exact finish_eq_unclosed_iff
  · rw [accounted.begun]
    exact finish_eq_nothingBuilt_iff
  · intro closed opened
    -- something has been opened and nothing is open any more, so that there is a root
    have root : ∃ tree, (new.after calls).root = some tree := by
      rw [← Option.isSome_iff_exists, Option.isSome_iff_ne_none]
      intro none
      exact opened (accounted.begun.mpr ⟨List.eq_nil_of_length_eq_zero closed, none⟩)
    obtain ⟨tree, root⟩ := root
    have built := accounted.calls_eq root
    refine ⟨tree, finish_of_root accounted.oneRoot root, built, ?_⟩
    intro other same
    exact Tree.eq_of_calls (same.trans built.symm)

/-- Calls of every kind, some of them at the wrong time: before anything is open and after all is closed. -/
def clumsyCalls : List Call :=
  [.closeElement, .addText "lost", .openElement "a" .empty, .addText "one", .addText "", .addText " two",
    .openElement "b" (SortedMap.empty.insert "k" "v"), .closeElement, .addText "three", .closeElement,
    .openElement "c" .empty, .addText "late", .closeElement]

/-- The calls at the wrong time leave no trace in what is built. -/
theorem called_clumsily :
    (new.after clumsyCalls).depth = 0 ∧ (new.accepted clumsyCalls).countP isOpening ≠ 0 ∧
      ((new.after clumsyCalls).call .closeElement).1 = .error .nothingOpen ∧
      ∃ tree, (new.after clumsyCalls).finish = .ok tree ∧
        tree.calls = [.openElement "a" .empty, .addText "one two",
          .openElement "b" (SortedMap.empty.insert "k" "v"), .closeElement, .addText "three", .closeElement] ∧
        ∀ other : Tree, other.calls = tree.calls → other = tree := by
  have closed : (new.after clumsyCalls).depth = 0 := by decide +kernel
  have opened : (new.accepted clumsyCalls).countP isOpening ≠ 0 := by decide +kernel
  have succeeded : condensed (new.accepted clumsyCalls) = [.openElement "a" .empty, .addText "one two",
      .openElement "b" (SortedMap.empty.insert "k" "v"), .closeElement, .addText "three", .closeElement] := by
    decide +kernel
  obtain ⟨-, -, -, closeFails, -, -, -, -, -, built⟩ := called_in_any_order clumsyCalls
  obtain ⟨tree, finished, calls, unique⟩ := built closed opened
  refine ⟨closed, opened, (closeFails _).mpr ⟨closed, rfl⟩, tree, finished, calls.trans succeeded, ?_⟩
  intro other same
  exact unique other (same.trans calls)

end Builder

end Discovery
