import Discovery.Query.Tree

/-!
# Which trees describe queries

A tree describes a query if it has the query's shape: a leaf with the names of a facet and of a comparison and
with a target, a composite with as many operands as its kind has. Texts between the operands have no meaning.

A `not` has one operand, and further trees below it are ignored. Of an `and` and an `or` with more than two
trees below the first two are read and the others ignored likewise, although such a tree has not the shape of a
conjunction or disjunction. This is the only way in which reading is more lenient than the shape.

* `ofTree?_eq_some_iff`: one step of reading;
* `IsRead.ofTree?_eq_none`: a part that is no query makes the whole none;
* `describes_iff`: a tree has the shape of a query if it is read as it and nothing is ignored that may not be;
* `reading_exact`: what is read, and when no operand is lost.
-/

namespace Discovery.Query

variable {attributes : Attributes} {contents : List Content} {tree part whole : Tree} {children : List Tree}
  {q left right : Query} {facet : Facet} {comparison : Comparison} {target : String}

/-! ## The shape of a query -/

/-- The contents are nothing, for the empty target, or begin with the target. -/
def IsTarget (target : String) (contents : List Content) : Prop :=
  contents = [] ∧ target = "" ∨ ∃ more, contents = .text target :: more

/-- The tree has the shape of the query. What may stand below an `and` or an `or` after its two operands is a
parameter. -/
inductive Describes (spare : List Tree → Prop) : Tree → Query → Prop where
  | item {tree : Tree} {facet : Facet} {comparison : Comparison} {target : String}
      (named : tree.name = "queryItem") (kind : tree.attribute? "kind" = some facet.name)
      (relation : tree.attribute? "comparison" = some comparison.name)
      (words : IsTarget target tree.contents) : Describes spare tree (.item facet comparison target)
  | and {tree first second : Tree} {further : List Tree} {left right : Query} (named : tree.name = "and")
      (below : tree.children = first :: second :: further) (few : spare further)
      (leftShape : Describes spare first left) (rightShape : Describes spare second right) :
      Describes spare tree (.and left right)
  | or {tree first second : Tree} {further : List Tree} {left right : Query} (named : tree.name = "or")
      (below : tree.children = first :: second :: further) (few : spare further)
      (leftShape : Describes spare first left) (rightShape : Describes spare second right) :
      Describes spare tree (.or left right)
  | not {tree first : Tree} {further : List Tree} {q : Query} (named : tree.name = "not")
      (below : tree.children = first :: further) (shape : Describes spare first q) :
      Describes spare tree (.not q)

/-! ## One step of reading -/

/-- The first two of the trees are read as the queries. -/
def ReadAsPair (children : List Tree) (left right : Query) : Prop :=
  ∃ first second further, children = first :: second :: further ∧ ofTree? first = some left ∧
    ofTree? second = some right

/-- The first of the trees is read as the query. -/
def ReadAsOne (children : List Tree) (q : Query) : Prop :=
  ∃ first further, children = first :: further ∧ ofTree? first = some q

/-- The operands are the trees below, each of them read. -/
theorem operands_eq (contents : List Content) :
    operands contents = (contents.filterMap Content.child?).map ofTree? := by
  induction contents with
  | nil => rfl
  | cons content rest ih =>
    cases content with
    | text words => rw [operands, ih, List.filterMap_cons_none rfl]
    | child tree =>
      have below : (Content.child tree).child? = some tree := rfl
      rw [operands, ih, List.filterMap_cons_some below, List.map_cons]

theorem target?_eq_some_iff : target? contents = some target ↔ IsTarget target contents := by
  cases contents with
  | nil =>
    have empty : target? [] = some target ↔ target = "" := by rw [target?, Option.some.injEq, eq_comm]
    simp [empty, IsTarget]
  | cons first rest => cases first <;> simp [target?, IsTarget]

theorem itemOfTree?_eq_some_iff : itemOfTree? attributes contents = some q ↔
    ∃ facet comparison target, attributes.get? "kind" = some facet.name ∧
      attributes.get? "comparison" = some comparison.name ∧ IsTarget target contents ∧
      q = .item facet comparison target := by
  simp only [itemOfTree?, Option.bind_eq_bind, Option.bind_eq_some_iff, Option.pure_def, Option.some.injEq,
    Facet.ofName?_eq_some_iff, Comparison.ofName?_eq_some_iff, target?_eq_some_iff]
  constructor
  · rintro ⟨facet, ⟨_, kind, rfl⟩, comparison, ⟨_, relation, rfl⟩, target, words, rfl⟩
    exact ⟨facet, comparison, target, kind, relation, words, rfl⟩
  · rintro ⟨facet, comparison, target, kind, relation, words, rfl⟩
    exact ⟨facet, ⟨_, kind, rfl⟩, comparison, ⟨_, relation, rfl⟩, target, words, rfl⟩

/-- Of a composite with two operands the first two trees are read. -/
theorem matchPair_eq_some_iff (join : Query → Query → Query) :
    (match children.map ofTree? with
      | some left :: some right :: _ => some (join left right)
      | _ => none) = some q ↔ ∃ left right, ReadAsPair children left right ∧ q = join left right := by
  constructor
  · intro found
    split at found
    · next left right others same =>
      obtain ⟨first, more, rfl, readLeft, later⟩ := List.map_eq_cons_iff.mp same
      obtain ⟨second, further, rfl, readRight, -⟩ := List.map_eq_cons_iff.mp later
      exact ⟨left, right, ⟨first, second, further, rfl, readLeft, readRight⟩, (Option.some.inj found).symm⟩
    · cases found
  · rintro ⟨left, right, ⟨first, second, further, rfl, readLeft, readRight⟩, rfl⟩
    rw [List.map_cons, List.map_cons, readLeft, readRight]

/-- Of a negation the first tree is read. -/
theorem matchOne_eq_some_iff :
    (match children.map ofTree? with
      | some operand :: _ => some (Query.not operand)
      | _ => none) = some q ↔ ∃ operand, ReadAsOne children operand ∧ q = .not operand := by
  constructor
  · intro found
    split at found
    · next operand others same =>
      obtain ⟨first, further, rfl, read, -⟩ := List.map_eq_cons_iff.mp same
      exact ⟨operand, ⟨first, further, rfl, read⟩, (Option.some.inj found).symm⟩
    · cases found
  · rintro ⟨operand, ⟨first, further, rfl, read⟩, rfl⟩
    rw [List.map_cons, read]

/-- A tree is read by its name, and a composite by the trees below it. -/
theorem ofTree?_eq_some_iff : ofTree? tree = some q ↔
    (tree.name = "queryItem" ∧ ∃ facet comparison target, tree.attribute? "kind" = some facet.name ∧
      tree.attribute? "comparison" = some comparison.name ∧ IsTarget target tree.contents ∧
      q = .item facet comparison target) ∨
    (tree.name = "and" ∧ ∃ left right, ReadAsPair tree.children left right ∧ q = .and left right) ∨
    (tree.name = "or" ∧ ∃ left right, ReadAsPair tree.children left right ∧ q = .or left right) ∨
    tree.name = "not" ∧ ∃ operand, ReadAsOne tree.children operand ∧ q = .not operand := by
  obtain ⟨name, attributes, contents⟩ := tree
  rw [ofTree?, operands_eq, Tree.children, Tree.attribute?, Tree.attribute?, Tree.name_node, Tree.contents_node,
    Tree.attributes_node]
  -- the names exclude each other, and each leaves one of the four forms
  by_cases leaf : name = "queryItem"
  · subst leaf
    rw [if_pos rfl, itemOfTree?_eq_some_iff]
    simp
  by_cases conjunction : name = "and"
  · subst conjunction
    rw [if_neg (by decide), if_pos rfl]
    refine (matchPair_eq_some_iff .and).trans ?_
    simp
  by_cases disjunction : name = "or"
  · subst disjunction
    rw [if_neg (by decide), if_neg (by decide), if_pos rfl]
    refine (matchPair_eq_some_iff .or).trans ?_
    simp
  by_cases negation : name = "not"
  · subst negation
    rw [if_neg (by decide), if_neg (by decide), if_neg (by decide), if_pos rfl]
    refine matchOne_eq_some_iff.trans ?_
    simp
  · rw [if_neg leaf, if_neg conjunction, if_neg disjunction, if_neg negation]
    simp [leaf, conjunction, disjunction, negation]

/-! ## Reading by the shape of the query -/

theorem ofTree?_eq_item_iff : ofTree? tree = some (.item facet comparison target) ↔
    tree.name = "queryItem" ∧ tree.attribute? "kind" = some facet.name ∧
      tree.attribute? "comparison" = some comparison.name ∧ IsTarget target tree.contents := by
  rw [ofTree?_eq_some_iff]
  constructor
  · rintro (⟨named, facet', comparison', target', kind, relation, words, same⟩ | other)
    · cases same
      exact ⟨named, kind, relation, words⟩
    · simp at other
  · rintro ⟨named, kind, relation, words⟩
    exact Or.inl ⟨named, facet, comparison, target, kind, relation, words, rfl⟩

theorem ofTree?_eq_and_iff : ofTree? tree = some (.and left right) ↔
    tree.name = "and" ∧ ReadAsPair tree.children left right := by
  simp [ofTree?_eq_some_iff]

theorem ofTree?_eq_or_iff : ofTree? tree = some (.or left right) ↔
    tree.name = "or" ∧ ReadAsPair tree.children left right := by
  simp [ofTree?_eq_some_iff]

theorem ofTree?_eq_not_iff : ofTree? tree = some (.not q) ↔
    tree.name = "not" ∧ ReadAsOne tree.children q := by
  simp [ofTree?_eq_some_iff]

/-! ## Parts that are read -/

/-- How many operands a tree of the name has. -/
def operandCount (name : String) : Nat :=
  if name = "and" ∨ name = "or" then 2 else if name = "not" then 1 else 0

/-- The trees below that are read. -/
def readBelow (tree : Tree) : List Tree :=
  tree.children.take (operandCount tree.name)

/-- The part is read where the whole is read. -/
inductive IsRead (part : Tree) : Tree → Prop where
  | self : IsRead part part
  | inside {operand whole : Tree} (mem : operand ∈ readBelow whole) (deeper : IsRead part operand) :
      IsRead part whole

/-- If the tree is a conjunction or disjunction, then what stands after its two operands may stand there. -/
def HasSpare (spare : List Tree → Prop) (tree : Tree) : Prop :=
  tree.name = "and" ∨ tree.name = "or" → spare (tree.children.drop 2)

theorem forall_isRead_iff {p : Tree → Prop} : (∀ part, IsRead part whole → p part) ↔
    p whole ∧ ∀ operand ∈ readBelow whole, ∀ part, IsRead part operand → p part := by
  constructor
  · intro all
    exact ⟨all whole .self, fun operand mem part deeper => all part (.inside mem deeper)⟩
  · rintro ⟨here, below⟩ part read
    cases read with
    | self => exact here
    | inside mem deeper => exact below _ mem part deeper

/-- Every operand of what is a query is a query. -/
theorem exists_ofTree?_of_mem (read : ofTree? whole = some q) :
    ∀ operand ∈ readBelow whole, ∃ p, ofTree? operand = some p := by
  rw [readBelow]
  cases q with
  | item facet comparison target =>
    rw [(ofTree?_eq_item_iff.mp read).1]
    exact nofun
  | and left right =>
    obtain ⟨named, first, second, further, below, readLeft, readRight⟩ := ofTree?_eq_and_iff.mp read
    rw [named, below]
    exact List.forall_mem_cons.mpr ⟨⟨left, readLeft⟩, List.forall_mem_singleton.mpr ⟨right, readRight⟩⟩
  | or left right =>
    obtain ⟨named, first, second, further, below, readLeft, readRight⟩ := ofTree?_eq_or_iff.mp read
    rw [named, below]
    exact List.forall_mem_cons.mpr ⟨⟨left, readLeft⟩, List.forall_mem_singleton.mpr ⟨right, readRight⟩⟩
  | not q =>
    obtain ⟨named, first, further, below, readFirst⟩ := ofTree?_eq_not_iff.mp read
    rw [named, below]
    exact List.forall_mem_singleton.mpr ⟨q, readFirst⟩

/-- A part that is no query makes the whole none. -/
theorem IsRead.ofTree?_eq_none (inside : IsRead part whole) (malformed : ofTree? part = none) :
    ofTree? whole = none := by
  induction inside with
  | self => exact malformed
  | inside mem _ none =>
    rw [Option.eq_none_iff_forall_ne_some]
    intro q read
    obtain ⟨p, readOperand⟩ := exists_ofTree?_of_mem read _ mem
    rw [none] at readOperand
    cases readOperand

/-! ## Reading whole trees -/

variable {spare : List Tree → Prop} {first second : Tree} {further : List Tree}

/-- Of the trees below a leaf none is read. -/
theorem forall_isRead_leaf_iff (named : whole.name = "queryItem") :
    (∀ part, IsRead part whole → HasSpare spare part) ↔ True := by
  have none : readBelow whole = [] := by rw [readBelow, named]; rfl
  rw [forall_isRead_iff, HasSpare, named, none]
  exact iff_true_intro ⟨fun composite => absurd composite (by decide), nofun⟩

theorem forall_isRead_pair_iff (named : whole.name = "and" ∨ whole.name = "or")
    (below : whole.children = first :: second :: further) :
    (∀ part, IsRead part whole → HasSpare spare part) ↔
      spare further ∧ (∀ part, IsRead part first → HasSpare spare part) ∧
        ∀ part, IsRead part second → HasSpare spare part := by
  have two : readBelow whole = [first, second] := by rw [readBelow, operandCount, if_pos named, below]; rfl
  rw [forall_isRead_iff, HasSpare, two, below, List.forall_mem_cons, List.forall_mem_singleton]
  exact and_congr_left' (imp_iff_right named)

theorem forall_isRead_not_iff (named : whole.name = "not") (below : whole.children = first :: further) :
    (∀ part, IsRead part whole → HasSpare spare part) ↔ ∀ part, IsRead part first → HasSpare spare part := by
  have one : readBelow whole = [first] := by rw [readBelow, named, below]; rfl
  rw [forall_isRead_iff, HasSpare, named, one, List.forall_mem_singleton]
  exact and_iff_right fun composite => absurd composite (by decide)

/-- A tree has the shape of the query that it is read as, if what is ignored in it may stand there. -/
theorem describes_iff : Describes spare tree q ↔
    ofTree? tree = some q ∧ ∀ part, IsRead part tree → HasSpare spare part := by
  constructor
  · intro shape
    -- by induction on the shape, which is that of the operands too
    induction shape with
    | item named kind relation words =>
      exact ⟨ofTree?_eq_item_iff.mpr ⟨named, kind, relation, words⟩, (forall_isRead_leaf_iff named).mpr trivial⟩
    | and named below few _ _ ihl ihr =>
      refine ⟨ofTree?_eq_and_iff.mpr ⟨named, _, _, _, below, ihl.1, ihr.1⟩, ?_⟩
      exact (forall_isRead_pair_iff (Or.inl named) below).mpr ⟨few, ihl.2, ihr.2⟩
    | or named below few _ _ ihl ihr =>
      refine ⟨ofTree?_eq_or_iff.mpr ⟨named, _, _, _, below, ihl.1, ihr.1⟩, ?_⟩
      exact (forall_isRead_pair_iff (Or.inr named) below).mpr ⟨few, ihl.2, ihr.2⟩
    | not named below _ ih =>
      exact ⟨ofTree?_eq_not_iff.mpr ⟨named, _, _, below, ih.1⟩, (forall_isRead_not_iff named below).mpr ih.2⟩
  · rintro ⟨read, spared⟩
    -- by induction on the query, since reading goes down with it
    induction q generalizing tree with
    | item facet comparison target =>
      obtain ⟨named, kind, relation, words⟩ := ofTree?_eq_item_iff.mp read
      exact .item named kind relation words
    | and left right ihl ihr =>
      obtain ⟨named, first, second, further, below, readLeft, readRight⟩ := ofTree?_eq_and_iff.mp read
      obtain ⟨few, sparedLeft, sparedRight⟩ := (forall_isRead_pair_iff (Or.inl named) below).mp spared
      exact .and named below few (ihl readLeft sparedLeft) (ihr readRight sparedRight)
    | or left right ihl ihr =>
      obtain ⟨named, first, second, further, below, readLeft, readRight⟩ := ofTree?_eq_or_iff.mp read
      obtain ⟨few, sparedLeft, sparedRight⟩ := (forall_isRead_pair_iff (Or.inr named) below).mp spared
      exact .or named below few (ihl readLeft sparedLeft) (ihr readRight sparedRight)
    | not q ih =>
      obtain ⟨named, first, further, below, readFirst⟩ := ofTree?_eq_not_iff.mp read
      exact .not named below (ih readFirst ((forall_isRead_not_iff named below).mp spared))

/-- A tree that is read has the shape of the query that is read, where any trees may stand after the operands. It
has the strict shape, with nothing after the operands of an `and` or an `or`, if and only if every part of it that
is read has. A part that is read and is no query makes the whole none. -/
theorem reading_exact (tree : Tree) :
    (∀ q, ofTree? tree = some q ↔ Describes (fun _ => True) tree q) ∧
    (∀ q, Describes (· = []) tree q ↔
      ofTree? tree = some q ∧ ∀ part, IsRead part tree → HasSpare (· = []) part) ∧
    ∀ part, IsRead part tree → ofTree? part = none → ofTree? tree = none := by
  refine ⟨?_, ?_, ?_⟩
  · intro q
    rw [describes_iff]
    exact (and_iff_left fun part _ _ => trivial).symm
  · intro q
    exact describes_iff
  · intro part inside malformed
    exact inside.ofTree?_eq_none malformed

/-- A conjunction of leaves for an id and for a port with a text between them. -/
def interleaved : Tree :=
  (((Tree.named "and").pushChild (item .id .equal "w1").toTree).pushText "and").pushChild
    (item .port .less "5").toTree

def malformed : Tree :=
  ((Tree.named "and").pushChild (item .id .equal "w1").toTree).pushChild (Tree.named "xor")

/-- The text is not in the way of the strict shape. What holds the malformed conjunction is not read. -/
theorem reading_exact_interleaved :
    Describes (· = []) interleaved (.and (.item .id .equal "w1") (.item .port .less "5")) ∧
      ofTree? ((Tree.named "not").pushChild malformed) = none := by
  constructor
  · refine ((reading_exact interleaved).2.1 _).mpr ⟨by decide, ?_⟩
    refine (forall_isRead_pair_iff (Or.inl rfl) rfl).mpr ⟨rfl, ?_, ?_⟩
    · exact (forall_isRead_leaf_iff rfl).mpr trivial
    · exact (forall_isRead_leaf_iff rfl).mpr trivial
  · have below : malformed ∈ readBelow ((Tree.named "not").pushChild malformed) := by decide
    have unknown : Tree.named "xor" ∈ readBelow malformed := by decide
    exact (reading_exact _).2.2 (Tree.named "xor") (.inside below (.inside unknown .self)) (by decide)

def crowded : Tree :=
  (((Tree.named "and").pushChild (item .id .equal "w1").toTree).pushChild
    (item .port .less "5").toTree).pushChild (item .id .different "w2").toTree

/-- It is read as the conjunction of the first two leaves, although it has not the strict shape of any query. -/
theorem third_operand_ignored :
    ofTree? crowded = some (.and (.item .id .equal "w1") (.item .port .less "5")) ∧
      ∀ q, ¬ Describes (· = []) crowded q := by
  refine ⟨by decide, ?_⟩
  intro q shape
  have spared := (describes_iff.mp shape).2 crowded .self (Or.inl rfl)
  exact absurd (congrArg List.length spared) (by decide)

end Discovery.Query
