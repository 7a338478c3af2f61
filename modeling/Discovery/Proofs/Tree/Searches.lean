import Discovery.Proofs.Tree.Grown
import Discovery.Tree.Search

/-!
# Searches and the listing of a tree

The listing of a tree in pre-order has the tree first, and after it the listings of the trees directly below
it, one after another. `search` stops at the first tree of a name, `hasDescendant` looks at the trees directly
below before it looks at those below them; both are read off the one listing.

* `Tree.nodes_eq_cons`: the listing of a tree from those of the trees directly below it;
* `Tree.IsNth`: the `n`-th tree of a name in a listing, by what stands before and after it;
* `Tree.search_eq`, `Tree.hasDescendant_eq`: what each search finds in the listing;
* `Tree.searches_in_preorder`: the searches together.
-/

namespace Discovery.Tree

variable {name : String} {tree found : Tree} {listing : List Tree} {n : Nat}

/-! ## The listing -/

theorem nodesIn_eq_flatMap (contents : List Content) :
    nodesIn contents = (contents.filterMap Content.child?).flatMap nodes := by
  induction contents with
  | nil => rfl
  | cons first rest ih =>
    cases first with
    | text words => rw [nodesIn, ih, List.filterMap_cons_none rfl]
    | child tree =>
      have here : Content.child? (.child tree) = some tree := rfl
      rw [nodesIn, ih, List.filterMap_cons_some here, List.flatMap_cons]

/-- The tree itself, then the listings of the trees directly below it. -/
theorem nodes_eq_cons (tree : Tree) : tree.nodes = tree :: tree.children.flatMap nodes := by
  rw [nodes_eq, nodesIn_eq_flatMap, children]

/-! ## Places in a listing -/

/-- The tree stands in the listing with the name, and is the `n`-th of that name, counted from one. -/
def IsNth (name : String) (n : Nat) (listing : List Tree) (found : Tree) : Prop :=
  ∃ before after, listing = before ++ found :: after ∧ found.name = name ∧
    before.countP (·.name = name) + 1 = n

theorem isNth_cons {first : Tree} :
    IsNth name n (first :: listing) found ↔
      (first.name = name ∧ ((n = 1 ∧ found = first) ∨ ∃ m, n = m + 1 ∧ IsNth name m listing found)) ∨
        (first.name ≠ name ∧ IsNth name n listing found) := by
  constructor
  · rintro ⟨before, after, split, named, counted⟩
    -- the tree is the first one, or stands after it and is counted on from it
    rcases List.cons_eq_append_iff.mp split with ⟨rfl, here⟩ | ⟨before, rfl, later⟩
    · obtain ⟨rfl, rfl⟩ := List.cons.inj here
      exact .inl ⟨named, .inl ⟨counted.symm, rfl⟩⟩
    · by_cases same : first.name = name
      · rw [List.countP_cons_of_pos (by simpa using same)] at counted
        exact .inl ⟨same, .inr ⟨_, counted.symm, before, after, later, named, rfl⟩⟩
      · rw [List.countP_cons_of_neg (by simpa using same)] at counted
        exact .inr ⟨same, before, after, later, named, counted⟩
  · rintro (⟨same, ⟨rfl, rfl⟩ | ⟨m, rfl, before, after, rfl, named, rfl⟩⟩ |
      ⟨differ, before, after, rfl, named, rfl⟩)
    · exact ⟨[], listing, rfl, same, rfl⟩
    · refine ⟨first :: before, after, rfl, named, ?_⟩
      rw [List.countP_cons_of_pos (by simpa using same)]
    · refine ⟨first :: before, after, rfl, named, ?_⟩
      rw [List.countP_cons_of_neg (by simpa using differ)]

theorem not_isNth_nil : ¬ IsNth name n [] found := by
  rintro ⟨before, after, split, -⟩
  exact absurd split (by simp)

/-- The trees of the name, taken out of the listing, stand there in the same order. -/
theorem getElem?_filter_eq_some_iff :
    (listing.filter (·.name = name))[n]? = some found ↔ IsNth name (n + 1) listing found := by
  induction listing generalizing n with
  | nil => simp [not_isNth_nil]
  | cons first listing ih =>
    rw [isNth_cons]
    by_cases same : first.name = name
    · rw [List.filter_cons_of_pos (by simpa using same)]
      cases n with
      | zero =>
        -- no tree is the one before the first
        have none : ¬ IsNth name 0 listing found := by
          rintro ⟨_, _, _, _, counted⟩
          exact absurd counted (Nat.succ_ne_zero _)
        simp [same, none, eq_comm]
      | succ n => simp [same, ih]
    · rw [List.filter_cons_of_neg (by simpa using same), ih]
      simp [same]

/-- The first tree of the name is the first in the listing that a predicate holds of. -/
theorem find?_listing_eq_some_iff :
    listing.find? (·.name = name) = some found ↔ IsNth name 1 listing found := by
  rw [← List.head?_filter, List.head?_eq_getElem?, getElem?_filter_eq_some_iff]

/-! ## The search that stops at the first -/

mutual

/-- The search finds the first tree of the name in the listing. -/
theorem search_eq (name : String) : ∀ tree : Tree,
    search name tree = tree.nodes.find? (·.name = name)
  | .node root attributes contents => by
    rw [search, nodes, List.find?_cons]
    by_cases same : root = name
    · simp [same]
    · rw [if_neg same, searchContents_eq name contents]
      simp [same]

theorem searchContents_eq (name : String) : ∀ contents : List Content,
    searchContents name contents = (nodesIn contents).find? (·.name = name)
  | [] => by rw [searchContents, nodesIn, List.find?_nil]
  | .text _ :: rest => by rw [searchContents, nodesIn, searchContents_eq name rest]
  | .child tree :: rest => by
    rw [searchContents, nodesIn, List.find?_append, search_eq name tree, searchContents_eq name rest]
    -- what follows in the listing is looked at only if the first part has no tree of the name
    cases tree.nodes.find? (·.name = name) with
    | none => rfl
    | some found => rfl

end

theorem find?_eq (filled : name ≠ "") (tree : Tree) :
    tree.find? name = tree.nodes.find? (·.name = name) := by
  rw [find?, if_neg (by simpa using filled), search_eq]

theorem find?_eq_some_iff (filled : name ≠ "") :
    tree.find? name = some found ↔ IsNth name 1 tree.nodes found := by
  rw [find?_eq filled, find?_listing_eq_some_iff]

theorem find?_eq_none_iff (filled : name ≠ "") :
    tree.find? name = none ↔ ∀ node ∈ tree.nodes, node.name ≠ name := by
  rw [find?_eq filled, List.find?_eq_none]
  simp

/-! ## The search below the root -/

/-- A listing of contents has a tree of the name if one stands there, or below one that stands there. -/
theorem any_nodesIn (p : Tree → Bool) (contents : List Content) :
    (nodesIn contents).any p =
      ((contents.filterMap Content.child?).any p ||
        (contents.filterMap Content.child?).any fun child => (nodesIn child.contents).any p) := by
  rw [nodesIn_eq_flatMap, List.any_flatMap]
  induction contents.filterMap Content.child? with
  | nil => rfl
  | cons child children ih =>
    -- the listing goes down below a tree before the next one, the search looks at all of them first
    rw [List.any_cons, List.any_cons, List.any_cons, ih, nodes_eq, List.any_cons]
    ac_rfl

mutual

/-- A tree has a descendant of the name if its listing has one after the root. -/
theorem hasDescendant_eq (name : String) : ∀ tree : Tree,
    tree.hasDescendant name = (nodesIn tree.contents).any (·.name = name)
  | .node root attributes contents => by
    rw [hasDescendant, anyHasDescendant_eq name contents, contents_node, any_nodesIn]

theorem anyHasDescendant_eq (name : String) : ∀ contents : List Content,
    anyHasDescendant name contents =
      (contents.filterMap Content.child?).any fun child => (nodesIn child.contents).any (·.name = name)
  | [] => rfl
  | .text _ :: rest => by
    rw [anyHasDescendant, anyHasDescendant_eq name rest, List.filterMap_cons_none rfl]
  | .child tree :: rest => by
    have here : Content.child? (.child tree) = some tree := rfl
    rw [anyHasDescendant, anyHasDescendant_eq name rest, hasDescendant_eq name tree,
      List.filterMap_cons_some here, List.any_cons]

end

theorem hasDescendant_iff :
    tree.hasDescendant name = true ↔ ∃ node ∈ tree.children.flatMap nodes, node.name = name := by
  rw [hasDescendant_eq, nodesIn_eq_flatMap, List.any_eq_true, children]
  simp

/-- The two searches agree: there is a descendant of the name if the other search, begun at some tree directly
below, finds a tree. -/
theorem hasDescendant_iff_find? (filled : name ≠ "") :
    tree.hasDescendant name = true ↔ ∃ child ∈ tree.children, (child.find? name).isSome = true := by
  rw [hasDescendant_iff]
  constructor
  · rintro ⟨node, mem, named⟩
    rcases List.mem_flatMap.mp mem with ⟨child, below, listed⟩
    refine ⟨child, below, ?_⟩
    rw [Option.isSome_iff_ne_none, Ne, find?_eq_none_iff filled]
    intro absent
    exact absent node listed named
  · rintro ⟨child, below, some⟩
    rcases Option.isSome_iff_exists.mp some with ⟨found, here⟩
    rcases (find?_eq_some_iff filled).mp here with ⟨before, after, split, named, -⟩
    refine ⟨found, List.mem_flatMap.mpr ⟨child, below, ?_⟩, named⟩
    rw [split]
    exact List.mem_append_right _ (List.mem_cons_self ..)

/-! ## Trees directly below -/

theorem nthChild?_eq_some_iff :
    tree.nthChild? name n = some found ↔ IsNth name n tree.children found := by
  cases n with
  | zero =>
    constructor
    · intro nothing
      cases nothing
    · rintro ⟨_, _, _, _, counted⟩
      exact absurd counted (Nat.succ_ne_zero _)
  | succ n => rw [nthChild?, getElem?_filter_eq_some_iff]

theorem nthChild?_eq_none_iff :
    tree.nthChild? name n = none ↔ n = 0 ∨ tree.children.countP (·.name = name) < n := by
  cases n with
  | zero => simp [nthChild?]
  | succ n =>
    rw [nthChild?, List.getElem?_eq_none_iff, ← List.countP_eq_length_filter, Nat.lt_add_one_iff]
    simp

theorem child?_eq (tree : Tree) (name : String) : tree.child? name = tree.nthChild? name 1 := by
  rw [child?, nthChild?, ← List.head?_filter, List.head?_eq_getElem?]

/-! ## What stands in the tree that is found -/

theorem firstContent?_eq_some_iff (filled : name ≠ "") {content : Content} :
    tree.firstContent? name = some content ↔
      ∃ found rest, IsNth name 1 tree.nodes found ∧ found.contents = content :: rest := by
  rw [firstContent?, Option.bind_eq_some_iff]
  simp only [find?_eq_some_iff filled, List.head?_eq_some_iff, exists_and_left]

theorem text?_eq_some_iff (filled : name ≠ "") {words : String} :
    tree.text? name = some words ↔
      ∃ found rest, IsNth name 1 tree.nodes found ∧ found.contents = .text words :: rest := by
  rw [text?, Option.bind_eq_some_iff, ← firstContent?_eq_some_iff filled]
  constructor
  · rintro ⟨content, first, isText⟩
    cases content with
    | text own =>
      cases isText
      exact first
    | child below => cases isText
  · intro first
    exact ⟨.text words, first, rfl⟩

/-- Every search in a tree is a search in its listing in pre-order: the tree itself, then the listings of the
trees directly below it, one after another. For a name that is not empty, `find?` finds the first tree of the
name in the listing, and nothing only if there is none; a tree other than the root has the name if and only
if `hasDescendant` says so, which is if and only if `find?` finds a tree in one of the trees directly below;
the first content and the leading text are those of the first tree of the name. The `n`-th child of a name,
counted from one, is the `n`-th among the trees directly below, and there is none for zero or if there are
fewer. -/
theorem searches_in_preorder (filled : name ≠ "") (tree : Tree) :
    tree.nodes = tree :: tree.children.flatMap nodes ∧
      (∀ found, tree.find? name = some found ↔ IsNth name 1 tree.nodes found) ∧
      (tree.find? name = none ↔ ∀ node ∈ tree.nodes, node.name ≠ name) ∧
      (tree.hasDescendant name = true ↔ ∃ node ∈ tree.children.flatMap nodes, node.name = name) ∧
      (tree.hasDescendant name = true ↔
        ∃ child ∈ tree.children, (child.find? name).isSome = true) ∧
      (∀ content, tree.firstContent? name = some content ↔
        ∃ found rest, IsNth name 1 tree.nodes found ∧ found.contents = content :: rest) ∧
      (∀ words, tree.text? name = some words ↔
        ∃ found rest, IsNth name 1 tree.nodes found ∧ found.contents = .text words :: rest) ∧
      (∀ n found, tree.nthChild? name n = some found ↔ IsNth name n tree.children found) ∧
      (∀ n, tree.nthChild? name n = none ↔ n = 0 ∨ tree.children.countP (·.name = name) < n) ∧
      tree.child? name = tree.nthChild? name 1 := by
  refine ⟨nodes_eq_cons tree, ?_, find?_eq_none_iff filled, hasDescendant_iff,
    hasDescendant_iff_find? filled, ?_, ?_, ?_, ?_, child?_eq tree name⟩
  · intro found
    exact find?_eq_some_iff filled
  · intro content
    exact firstContent?_eq_some_iff filled
  · intro words
    exact text?_eq_some_iff filled
  · intro n found
    exact nthChild?_eq_some_iff
  · intro n
    exact nthChild?_eq_none_iff

def branch : Tree :=
  ((named "b").pushChild (ofText "c" "deep")).pushChild (named "a")

/-- A name at the root and below, another at two depths, the deeper one first. -/
def branched : Tree :=
  (((((named "a").pushText "lead").pushChild branch).pushText "between").pushChild
    (ofText "c" "flat")).pushChild (named "b")

/-- The deeper tree comes first in the listing, and the other one among the trees directly below. The root is
none of its own descendants, another tree of its name is. -/
theorem searches_in_preorder_branched :
    "c" ≠ "" ∧ branched.find? "c" = some (ofText "c" "deep") ∧
      IsNth "c" 1 branched.nodes (ofText "c" "deep") ∧ branched.text? "c" = some "deep" ∧
      branched.child? "c" = some (ofText "c" "flat") ∧ branched.nthChild? "c" 2 = none ∧
      branched.find? "a" = some branched ∧ branched.hasDescendant "a" = true ∧
      (∃ child ∈ branched.children, (child.find? "a").isSome = true) := by
  have filled : "c" ≠ "" := by decide
  have filledRoot : "a" ≠ "" := by decide
  obtain ⟨-, first, -, -, -, -, texts, nth, missing, direct⟩ := searches_in_preorder filled branched
  obtain ⟨-, -, -, -, below, -⟩ := searches_in_preorder filledRoot branched
  have deep : branched.find? "c" = some (ofText "c" "deep") := by decide +kernel
  have descendant : branched.hasDescendant "a" = true := by decide +kernel
  refine ⟨filled, deep, (first _).mp deep, ?_, ?_, ?_, by decide +kernel, descendant, below.mp descendant⟩
  · exact (texts "deep").mpr ⟨_, [], (first _).mp deep, rfl⟩
  · -- directly below it stands behind the branch alone, which has another name
    rw [direct]
    exact (nth 1 _).mpr ⟨[branch], [named "b"], by decide +kernel, rfl, by decide +kernel⟩
  · exact (missing 2).mpr (.inr (by decide +kernel))

end Discovery.Tree
