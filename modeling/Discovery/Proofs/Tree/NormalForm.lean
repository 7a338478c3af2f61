import Discovery.Proofs.Text.Trimmed
import Discovery.Proofs.Tree.Grown

/-!
# The normal form of a tree

The white space at the ends of a text does not survive a reader that lays documents out as it likes.
The normal form of a tree has every text trimmed and none that was white space alone; names,
attributes, nesting and order are kept.

* `Tree.norm_eq_self_iff`: a tidy tree is its own normal form if its texts are trimmed.
-/

namespace Discovery.Tree

mutual

/-- The tree with its texts trimmed, and without those of which nothing is left. -/
def norm : Tree → Tree
  | .node name attributes contents => .node name attributes (normContents contents)

def normContents : List Content → List Content
  | [] => []
  | .text words :: rest =>
    if Text.trim words = "" then normContents rest
    else .text (Text.trim words) :: normContents rest
  | .child tree :: rest => .child (norm tree) :: normContents rest

end

/-- Contents do not become more. -/
theorem length_normContents_le (contents : List Content) :
    (normContents contents).length ≤ contents.length := by
  induction contents with
  | nil => exact Nat.le_refl _
  | cons first rest ih =>
    cases first with
    | text words =>
      rw [normContents]
      split
      · exact Nat.le_succ_of_le ih
      · exact Nat.succ_le_succ ih
    | child tree =>
      rw [normContents]
      exact Nat.succ_le_succ ih

/-- A text that is there stays as it is if it is trimmed. -/
theorem normContents_text_eq_self_iff {words : String} (filled : words ≠ "")
    (rest : List Content) :
    normContents (.text words :: rest) = .text words :: rest ↔
      Text.IsTrimmed words ∧ normContents rest = rest := by
  rw [normContents, ← Text.trim_eq_self_iff]
  split
  · next empty =>
    constructor
    · intro same
      have short := length_normContents_le rest
      rw [same] at short
      exact absurd short (Nat.not_succ_le_self _)
    · rintro ⟨same, _⟩
      exact absurd (same ▸ empty) filled
  · rw [List.cons.injEq, Content.text.injEq]

/-- Are the texts directly in the node trimmed? -/
def HasTrimmedTexts (node : Tree) : Prop :=
  ∀ words, .text words ∈ node.contents → Text.IsTrimmed words

mutual

/-- A tidy tree is its own normal form if its texts are trimmed. -/
theorem norm_eq_self_iff : ∀ {tree : Tree}, tree.Tidy →
    (tree.norm = tree ↔ ∀ node ∈ tree.nodes, node.HasTrimmedTexts)
  | .node name attributes contents, tidy => by
    obtain ⟨here, below⟩ := tidy_iff.mp tidy
    rw [norm, Tree.node.injEq, nodes, List.forall_mem_cons]
    simpa [HasTrimmedTexts] using normContents_eq_self_iff here below

/-- Tidy contents are their own normal form if the texts among them and below are trimmed. -/
theorem normContents_eq_self_iff : ∀ {contents : List Content}, Content.Tidy contents →
    (∀ node ∈ nodesIn contents, Content.Tidy node.contents) →
    (normContents contents = contents ↔
      (∀ words, .text words ∈ contents → Text.IsTrimmed words) ∧
        ∀ node ∈ nodesIn contents, node.HasTrimmedTexts)
  | [], _, _ => by simp [normContents, nodesIn]
  | .text words :: rest, tidy, below => by
    have filled := tidy.nonempty words (List.mem_cons_self ..)
    rw [nodesIn] at below ⊢
    rw [normContents_text_eq_self_iff filled, normContents_eq_self_iff tidy.tail below]
    simp [and_assoc]
  | .child tree :: rest, tidy, below => by
    rw [nodesIn] at below ⊢
    obtain ⟨belowTree, belowRest⟩ := List.forall_mem_append.mp below
    rw [normContents, List.cons.injEq, Content.child.injEq, norm_eq_self_iff belowTree,
      normContents_eq_self_iff tidy.tail belowRest, List.forall_mem_append]
    simp [and_left_comm]

end

end Discovery.Tree
