import Discovery.Tree.Basic
import Mathlib.Data.List.Chain

/-!
# Trees that are grown

A tree is grown from a name by setting attributes and by appending texts and grown trees. However it
is grown, no text in it is empty and no two texts are neighbours.

* `Tree.nodes`: the tree and all trees below it.
* `Tree.Grown`: what can be grown; `Tree.Tidy`: no empty and no neighbouring texts at any depth.
* `Tree.Grown.tidy`: a grown tree is tidy.
* `Tree.grown_leaf`: attributes of any kind can be grown.
-/

namespace Discovery

namespace Content

/-- Is one of the two no text? -/
def Apart (a b : Content) : Prop :=
  a.text? = none ∨ b.text? = none

/-- No text is empty, and no two texts are neighbours. -/
structure Tidy (contents : List Content) : Prop where
  nonempty : ∀ words, .text words ∈ contents → words ≠ ""
  separated : contents.IsChain Apart

@[simp] theorem text?_text (words : String) : (Content.text words).text? = some words := rfl

@[simp] theorem text?_child (tree : Tree) : (Content.child tree).text? = none := rfl

theorem tidy_nil : Tidy [] :=
  ⟨by simp, .nil⟩

/-- What stands after the first content of tidy contents is tidy. -/
theorem Tidy.tail {first : Content} {rest : List Content} (tidy : Tidy (first :: rest)) :
    Tidy rest :=
  ⟨fun words mem => tidy.nonempty words (List.mem_cons_of_mem _ mem), tidy.separated.tail⟩

/-- What follows a text in tidy contents does not begin with a text. -/
theorem Tidy.not_text_after {words : String} {rest : List Content}
    (tidy : Tidy (.text words :: rest)) : ∀ content ∈ rest.head?, content.text? = none := by
  intro content first
  rcases (List.isChain_cons.mp tidy.separated).1 content first with here | next
  · cases here
  · exact next

/-! ## Appending -/

/-- A text that follows no text is appended as it is. -/
theorem appendText_eq_concat {words : String} (filled : words ≠ "") {contents : List Content}
    (free : ∀ content ∈ contents.getLast?, content.text? = none) :
    appendText words contents = contents ++ [.text words] := by
  fun_induction appendText words contents with
  | case1 empty => exact absurd (String.isEmpty_iff.mp empty) filled
  | case2 => rfl
  | case3 before =>
    have := free (.text before) rfl
    cases this
  | case4 first rest notText ih =>
    rw [ih, List.cons_append]
    cases rest with
    | nil => simp
    | cons second more => simpa using free

/-- A text that follows a text is joined to it. -/
theorem appendText_concat_text (before : List Content) (words more : String) :
    appendText more (before ++ [.text words]) = before ++ [.text (words ++ more)] := by
  induction before with
  | nil => rfl
  | cons first rest ih =>
    rw [List.cons_append, appendText, ih, List.cons_append]
    intro _ _ empty
    exact absurd empty (by simp)

/-- An empty text is left out. -/
theorem appendText_empty (contents : List Content) : appendText "" contents = contents := by
  fun_induction appendText "" contents with
  | case1 => rfl
  | case2 filled => exact absurd rfl filled
  | case3 before => rw [String.append_empty]
  | case4 first rest notText ih => rw [ih]

/-- One more content that is no neighbour of its kind keeps contents tidy. -/
theorem Tidy.concat {contents : List Content} (tidy : Tidy contents) {last : Content}
    (filled : ∀ words, last = .text words → words ≠ "")
    (free : ∀ content ∈ contents.getLast?, Apart content last) : Tidy (contents ++ [last]) := by
  refine ⟨?_, ?_⟩
  · intro words mem
    rcases List.mem_append.mp mem with before | here
    · exact tidy.nonempty words before
    · exact filled words (List.mem_singleton.mp here).symm
  · refine List.isChain_append.mpr ⟨tidy.separated, .singleton _, ?_⟩
    intro content mem next eq
    cases eq
    exact free content mem

/-- Appending a text keeps contents tidy. -/
theorem Tidy.appendText {contents : List Content} (tidy : Tidy contents) (words : String) :
    Tidy (Content.appendText words contents) := by
  by_cases empty : words = ""
  · rw [empty, appendText_empty]
    exact tidy
  · rcases List.eq_nil_or_concat' contents with rfl | ⟨before, last, rfl⟩
    · rw [appendText_eq_concat empty (by simp)]
      exact tidy_nil.concat (by simpa using empty) (by simp)
    · cases last with
      | text last =>
        rw [appendText_concat_text]
        -- the last text is replaced by a longer one, and what is apart from it stays apart
        have chain := List.isChain_append.mp tidy.separated
        have tidyBefore : Tidy before :=
          ⟨fun words mem => tidy.nonempty words (List.mem_append_left _ mem), chain.1⟩
        refine tidyBefore.concat ?_ ?_
        · rintro _ ⟨⟩
          simp [empty]
        · intro content mem
          exact (chain.2.2 content mem (.text last) rfl).imp id (by simp)
      | child tree =>
        rw [appendText_eq_concat empty (by simp)]
        refine tidy.concat (by simpa using empty) ?_
        intro content mem
        simp only [List.getLast?_append, List.getLast?_singleton, Option.some_or,
          Option.mem_some] at mem
        exact .inl (mem ▸ rfl)

end Content

namespace Tree

mutual

/-- The tree and the trees below it at every depth, each before those below it. -/
def nodes : Tree → List Tree
  | .node name attributes contents => .node name attributes contents :: nodesIn contents

def nodesIn : List Content → List Tree
  | [] => []
  | .text _ :: rest => nodesIn rest
  | .child tree :: rest => nodes tree ++ nodesIn rest

end

/-- No text of the tree is empty and no two texts are neighbours, at any depth. -/
def Tidy (tree : Tree) : Prop :=
  ∀ node ∈ tree.nodes, Content.Tidy node.contents

/-- What can be grown from a name. -/
inductive Grown : Tree → Prop
  | named (name : String) : Grown (named name)
  | setAttribute {tree : Tree} (key value : String) : Grown tree → Grown (tree.setAttribute key value)
  | pushText {tree : Tree} (words : String) : Grown tree → Grown (tree.pushText words)
  | pushChild {tree child : Tree} : Grown tree → Grown child → Grown (tree.pushChild child)

theorem nodes_eq (tree : Tree) : tree.nodes = tree :: nodesIn tree.contents := by
  cases tree with
  | node name attributes contents => rw [nodes, contents_node]

theorem nodesIn_append (before after : List Content) :
    nodesIn (before ++ after) = nodesIn before ++ nodesIn after := by
  induction before with
  | nil => rfl
  | cons first rest ih =>
    cases first with
    | text words => rw [List.cons_append, nodesIn, nodesIn, ih]
    | child tree => rw [List.cons_append, nodesIn, nodesIn, ih, List.append_assoc]

/-- A text adds no tree. -/
theorem nodesIn_appendText (words : String) (contents : List Content) :
    nodesIn (Content.appendText words contents) = nodesIn contents := by
  fun_induction Content.appendText words contents with
  | case1 => rfl
  | case2 => rfl
  | case3 => rfl
  | case4 first rest notText ih =>
    cases first with
    | text words => rw [nodesIn, nodesIn, ih]
    | child tree => rw [nodesIn, nodesIn, ih]

theorem tidy_iff {tree : Tree} :
    tree.Tidy ↔
      Content.Tidy tree.contents ∧ ∀ node ∈ nodesIn tree.contents, Content.Tidy node.contents := by
  rw [Tidy, nodes_eq, List.forall_mem_cons]

/-- A grown tree is tidy. -/
theorem Grown.tidy {tree : Tree} (grown : tree.Grown) : tree.Tidy := by
  -- on how the tree was grown; `tidy_iff` parts its own contents from the trees below
  induction grown with
  | named name => exact tidy_iff.mpr ⟨Content.tidy_nil, by simp [Tree.named, nodesIn]⟩
  | @setAttribute tree key value _ ih =>
    obtain ⟨here, below⟩ := tidy_iff.mp ih
    exact tidy_iff.mpr ⟨here, below⟩
  | @pushText tree words _ ih =>
    obtain ⟨here, below⟩ := tidy_iff.mp ih
    refine tidy_iff.mpr ⟨here.appendText words, ?_⟩
    change ∀ node ∈ nodesIn (Content.appendText words tree.contents), _
    rw [nodesIn_appendText]
    exact below
  | @pushChild tree child _ _ ih ihChild =>
    obtain ⟨here, below⟩ := tidy_iff.mp ih
    refine tidy_iff.mpr ⟨here.concat (by simp) (fun _ _ => .inr rfl), ?_⟩
    change ∀ node ∈ nodesIn (tree.contents ++ [.child child]), _
    rw [nodesIn_append, nodesIn, nodesIn, List.append_nil]
    exact List.forall_mem_append.mpr ⟨below, ihChild⟩

/-- An element with nothing in it can be grown, whatever its attributes are. -/
theorem grown_leaf (name : String) (attributes : Attributes) : Grown (.node name attributes []) := by
  rcases attributes with ⟨entries, sorted⟩
  induction entries using List.reverseRecOn with
  | nil => exact .named name
  | append_singleton before entry ih =>
    obtain ⟨sortedBefore, -, between⟩ := List.pairwise_append.mp sorted
    -- the last key lies above the others, so that setting it puts it at the end
    have above : ∀ earlier ∈ before, earlier.1 < entry.1 :=
      fun earlier mem => between earlier mem entry (List.mem_singleton_self _)
    have last : (SortedMap.mk before sortedBefore).insert entry.1 entry.2 =
        ⟨before ++ [entry], sorted⟩ :=
      SortedMap.eq_of_entries (SortedMap.entries_insert_of_above above entry.2)
    rw [← last]
    exact (ih sortedBefore).setAttribute entry.1 entry.2

end Tree

end Discovery
