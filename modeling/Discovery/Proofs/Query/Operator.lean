import Discovery.Proofs.Query.Predicate
import Mathlib.Data.List.Infix

/-!
# Where a predicate is divided

People write a predicate as the name of a facet, with white space around it if they like, an operator and a
target. The operator is the longest one that stands where the name and the white space behind it end: `>=` in
`port>=1520`, and not `>`.

The text is divided elsewhere, namely at the operator that is tried first of those that stand anywhere in it.
As no operator stands in a name, this is the same place unless the target holds an operator that is tried
before. A predicate with such a target is refused, because no facet has the name that is then before the operator.

* `divide?_eq_some_iff`: which operator divides a text;
* `IsWritten.unique`: a text is written with one operator and one rest;
* `IsWritten.divide?_eq`, `isWritten_of_divide?`: when this operator divides the text;
* `parse_exact`: which texts are read as which predicate.
-/

namespace Discovery.Predicate

variable {raw before after rest : List Char} {facet : Facet} {comparison other : Comparison}

/-! ## Predicates as they are written -/

/-- No longer operator stands where the text begins. -/
def IsLongestIn (comparison : Comparison) (cs : List Char) : Prop :=
  ∀ other : Comparison, other.symbol.toList <+: cs → other.symbol.length ≤ comparison.symbol.length

/-- The text is the name of the facet with white space around it, the operator, which is the longest one at this
place, and the rest. -/
def IsWritten (facet : Facet) (comparison : Comparison) (rest raw : List Char) : Prop :=
  ∃ lead gap, Text.IsBlank lead ∧ Text.IsBlank gap ∧
    raw = lead ++ facet.name.toList ++ gap ++ (comparison.symbol.toList ++ rest) ∧
    IsLongestIn comparison (comparison.symbol.toList ++ rest)

/-- The comparisons whose operators are tried before the operator of this one. -/
def triedBefore (comparison : Comparison) : List Comparison :=
  operators.takeWhile (· ≠ comparison)

/-- No operator that is tried before stands in the rest. -/
def IsClear (comparison : Comparison) (rest : List Char) : Prop :=
  ∀ other ∈ triedBefore comparison, ¬ other.symbol.toList <:+: rest

/-! ## Which operator divides a text -/

/-- A text is divided at the first of the operators that stands in it. -/
theorem divide?_eq_some_iff {comparisons : List Comparison} :
    divide? raw comparisons = some (comparison, before, after) ↔
      comparison ∈ comparisons ∧
        (∀ other ∈ comparisons.takeWhile (· ≠ comparison), Text.cutAt other.symbol.toList raw = none) ∧
        Text.cutAt comparison.symbol.toList raw = some (before, after) := by
  induction comparisons with
  | nil => exact iff_of_false (Option.some_ne_none _).symm fun divided => absurd divided.1 List.not_mem_nil
  | cons first others ih =>
    by_cases here : first = comparison
    · subst here
      rw [divide?]
      cases cut : Text.cutAt first.symbol.toList raw with
      | some parts =>
        obtain ⟨front, back⟩ := parts
        simp
      | none =>
        -- the comparison may come again, but its operator does not stand in the text
        rw [ih, cut]
        simp only [reduceCtorEq, and_false]
    · have further : (first :: others).takeWhile (· ≠ comparison) =
          first :: others.takeWhile (· ≠ comparison) := List.takeWhile_cons_of_pos (by simpa using here)
      rw [divide?, further, List.forall_mem_cons, List.mem_cons, or_iff_right (Ne.symm here)]
      cases cut : Text.cutAt first.symbol.toList raw with
      | some parts =>
        refine iff_of_false ?_ fun divided => Option.some_ne_none _ divided.2.1.1
        intro divided
        cases divided
        exact here rfl
      | none => simp [ih]

/-- A text in which no operator stands is not divided. -/
theorem divide?_eq_none_iff {comparisons : List Comparison} :
    divide? raw comparisons = none ↔
      ∀ other ∈ comparisons, Text.cutAt other.symbol.toList raw = none := by
  induction comparisons with
  | nil => exact iff_of_true rfl (List.forall_mem_nil _)
  | cons first others ih =>
    rw [divide?, List.forall_mem_cons]
    cases cut : Text.cutAt first.symbol.toList raw with
    | some parts =>
      refine iff_of_false ?_ fun absent => Option.some_ne_none _ absent.1
      obtain ⟨before, after⟩ := parts
      exact Option.some_ne_none _
    | none => exact ih.trans (and_iff_right rfl).symm

/-! ## Characters of operators -/

def marks : List Char := ['=', '!', '<', '>']

/-- None of the characters that operators are made of stands in the text. -/
def IsUnmarked (cs : List Char) : Prop :=
  ∀ c ∈ cs, c ∉ marks

theorem mem_marks_of_symbol (comparison : Comparison) : ∀ c ∈ comparison.symbol.toList, c ∈ marks := by
  have all : comparison.symbol.toList.all (· ∈ marks) = true := by cases comparison <;> decide
  intro c mem
  exact of_decide_eq_true (List.all_eq_true.mp all c mem)

theorem symbol_ne_nil (comparison : Comparison) : comparison.symbol.toList ≠ [] := by
  cases comparison <;> decide

theorem isUnmarked_name (facet : Facet) : IsUnmarked facet.name.toList := by
  have all : facet.name.toList.all (· ∉ marks) = true := by cases facet <;> decide
  intro c mem
  exact of_decide_eq_true (List.all_eq_true.mp all c mem)

theorem isUnmarked_of_blank {blank : List Char} (space : Text.IsBlank blank) : IsUnmarked blank := by
  have plain : marks.all (!Text.isWhiteSpace ·) = true := by decide
  intro c mem marked
  have solid := List.all_eq_true.mp plain c marked
  rw [space c mem] at solid
  cases solid

theorem IsUnmarked.append (unmarked : IsUnmarked before) (unmarkedAfter : IsUnmarked after) :
    IsUnmarked (before ++ after) :=
  List.forall_mem_append.mpr ⟨unmarked, unmarkedAfter⟩

/-- What stands before the operator has none of the characters that operators are made of. -/
theorem isUnmarked_head {lead gap : List Char} (leadBlank : Text.IsBlank lead) (gapBlank : Text.IsBlank gap)
    (facet : Facet) : IsUnmarked (lead ++ facet.name.toList ++ gap) :=
  ((isUnmarked_of_blank leadBlank).append (isUnmarked_name facet)).append (isUnmarked_of_blank gapBlank)

/-- Behind an unmarked text an operator divides. -/
theorem cutAt_of_unmarked (unmarked : IsUnmarked before) (comparison : Comparison) :
    Text.cutAt comparison.symbol.toList (before ++ (comparison.symbol.toList ++ after)) =
      some (before, after) := by
  have some := symbol_ne_nil comparison
  have marked := mem_marks_of_symbol comparison
  cases shown : comparison.symbol.toList with
  | nil => exact absurd shown some
  | cons c mark =>
    rw [shown] at marked
    have absent : c ∉ before := fun mem => unmarked c mem (marked c (List.mem_cons_self ..))
    rw [← List.append_assoc]
    exact Text.cutAt_of_onlyAtEnd (List.cons_ne_nil c mark) (Text.onlyAtEnd_cons absent) after

/-- In front of a text an unmarked one brings in no operator. -/
theorem symbol_infix_append_iff (unmarked : IsUnmarked before) (comparison : Comparison) :
    comparison.symbol.toList <:+: before ++ after ↔ comparison.symbol.toList <:+: after := by
  refine Text.infix_append_iff_of_disjoint (symbol_ne_nil comparison) ?_
  intro c mem inSymbol
  exact unmarked c mem (mem_marks_of_symbol comparison c inSymbol)

/-! ## Which operators are tried before -/

theorem mem_operators (comparison : Comparison) : comparison ∈ operators := by
  cases comparison <;> decide

/-- Longer operators are tried before. -/
theorem mem_triedBefore_of_length_lt (longer : comparison.symbol.length < other.symbol.length) :
    other ∈ triedBefore comparison := by
  have all : ∀ comparison other : Comparison, comparison.symbol.length < other.symbol.length →
      other ∈ triedBefore comparison := by
    intro comparison other
    cases comparison <;> cases other <;> decide
  exact all comparison other longer

/-- What is tried before begins with no end of the operator, unless with the whole of it. -/
theorem eq_symbol_of_triedBefore {part : List Char} (before : other ∈ triedBefore comparison)
    (some : part ≠ []) (ends : part <:+ comparison.symbol.toList) (begins : part <+: other.symbol.toList) :
    part = comparison.symbol.toList := by
  have all : ∀ comparison other : Comparison, other ∈ triedBefore comparison →
      ∀ part ∈ comparison.symbol.toList.tails, part ≠ [] → part <+: other.symbol.toList →
        part = comparison.symbol.toList := by
    intro comparison other
    cases comparison <;> cases other <;> decide
  exact all comparison other before part ((List.mem_tails part _).mpr ends) some begins

/-- An operator that is tried before is no part of this one. -/
theorem not_infix_symbol_of_triedBefore (before : other ∈ triedBefore comparison) :
    ¬ other.symbol.toList <:+: comparison.symbol.toList := by
  have all : ∀ comparison other : Comparison, other ∈ triedBefore comparison →
      ¬ other.symbol.toList <:+: comparison.symbol.toList := by
    intro comparison other
    cases comparison <;> cases other <;> decide
  exact all comparison other before

/-- If an operator that is tried before stands in the text from this operator on, then it stands behind it. -/
theorem infix_rest_of_triedBefore (longest : IsLongestIn comparison (comparison.symbol.toList ++ rest))
    (before : other ∈ triedBefore comparison)
    (stands : other.symbol.toList <:+: comparison.symbol.toList ++ rest) : other.symbol.toList <:+: rest := by
  -- it stands in the operator, behind it, or across its end
  rcases List.infix_append_iff.mp stands with inside | behind | ⟨part, more, split, ends, begins⟩
  · exact absurd inside (not_infix_symbol_of_triedBefore before)
  · exact behind
  · rcases eq_or_ne part [] with rfl | some
    · rw [List.nil_append] at split
      exact split ▸ begins.isInfix
    · -- it begins with the whole of this operator, and would be the longer one at this place
      have whole := eq_symbol_of_triedBefore before some ends ⟨more, split.symm⟩
      obtain ⟨further, later⟩ := begins
      have here : other.symbol.toList <+: comparison.symbol.toList ++ rest := by
        refine ⟨further, ?_⟩
        rw [split, whole, List.append_assoc, later]
      have short := longest other here
      rw [String.length, String.length, split, whole, List.length_append] at short
      have none : more = [] := List.eq_nil_of_length_eq_zero (by omega)
      rw [whole, none, List.append_nil] at split
      exact absurd (split ▸ List.infix_refl _) (not_infix_symbol_of_triedBefore before)

/-! ## Predicates as they are written, read -/

/-- What stands before the operator is told by the text. -/
theorem takeWhile_of_unmarked (unmarked : IsUnmarked before) (comparison : Comparison) (rest : List Char) :
    (before ++ (comparison.symbol.toList ++ rest)).takeWhile (· ∉ marks) = before := by
  have marked := mem_marks_of_symbol comparison
  have some := symbol_ne_nil comparison
  cases shown : comparison.symbol.toList with
  | nil => exact absurd shown some
  | cons c mark =>
    rw [shown] at marked
    have stops : ¬ decide (c ∉ marks) = true := by simpa using marked c (List.mem_cons_self ..)
    have passes : ∀ c ∈ before, decide (c ∉ marks) = true := fun c mem => decide_eq_true (unmarked c mem)
    have stopped : ((c :: mark) ++ rest).takeWhile (· ∉ marks) = [] := List.takeWhile_cons_of_neg stops
    rw [List.takeWhile_append_of_pos passes, stopped, List.append_nil]

/-- The operator and what follows it are told by the text. -/
theorem IsWritten.unique {facet' : Facet} {rest' : List Char} (written : IsWritten facet comparison rest raw)
    (written' : IsWritten facet' other rest' raw) : comparison = other ∧ rest = rest' := by
  obtain ⟨lead, gap, leadBlank, gapBlank, split, longest⟩ := written
  obtain ⟨lead', gap', leadBlank', gapBlank', split', longest'⟩ := written'
  have front := takeWhile_of_unmarked (isUnmarked_head leadBlank gapBlank facet) comparison rest
  have front' := takeWhile_of_unmarked (isUnmarked_head leadBlank' gapBlank' facet') other rest'
  rw [← split] at front
  rw [← split', front] at front'
  rw [split, front', List.append_cancel_left_eq] at split'
  -- both operators stand here, and each is at least as long as the other
  have first : comparison.symbol.toList <+: other.symbol.toList ++ rest' := ⟨rest, split'⟩
  have second : other.symbol.toList <+: comparison.symbol.toList ++ rest := ⟨rest', split'.symm⟩
  have lengths := Nat.le_antisymm (longest' comparison first) (longest other second)
  obtain ⟨same, sameRest⟩ := List.append_inj split' lengths
  refine ⟨?_, sameRest⟩
  have injective : ∀ c c' : Comparison, c.symbol.toList = c'.symbol.toList → c = c' := by
    intro c c'
    cases c <;> cases c' <;> decide
  exact injective comparison other same

/-- A text is divided at the operator that it is written with, if none that is tried before follows. -/
theorem IsWritten.divide?_eq (written : IsWritten facet comparison rest raw) (clear : IsClear comparison rest) :
    ∃ before, String.ofList (Text.trimChars before) = facet.name ∧
      divide? raw operators = some (comparison, before, rest) := by
  obtain ⟨lead, gap, leadBlank, gapBlank, rfl, longest⟩ := written
  have unmarked := isUnmarked_head leadBlank gapBlank facet
  refine ⟨lead ++ facet.name.toList ++ gap, ?_, ?_⟩
  · have trimmed : Text.trimChars facet.name.toList = facet.name.toList := by cases facet <;> decide
    rw [Text.trimChars_append_blank gapBlank, Text.trimChars_append leadBlank, trimmed, String.ofList_toList]
  · refine divide?_eq_some_iff.mpr ⟨mem_operators comparison, ?_, cutAt_of_unmarked unmarked comparison⟩
    intro other before
    refine (Text.cutAt_eq_none_iff (symbol_ne_nil other)).mpr ?_
    -- an operator that is tried before would have to stand behind the name
    intro stands
    have behind := (symbol_infix_append_iff unmarked other).mp stands
    exact clear other before (infix_rest_of_triedBefore longest before behind)

/-- Where the name of a facet is before the operator that divides a text, the text is written with it. -/
theorem isWritten_of_divide? (divided : divide? raw operators = some (comparison, before, rest))
    (named : String.ofList (Text.trimChars before) = facet.name) :
    IsWritten facet comparison rest raw ∧ IsClear comparison rest := by
  obtain ⟨-, notBefore, cut⟩ := divide?_eq_some_iff.mp divided
  have split := Text.cutAt_eq_some cut
  -- what is tried before was not found anywhere in the text
  have absent : ∀ other ∈ triedBefore comparison, ¬ other.symbol.toList <:+: raw := by
    intro other before
    exact (Text.cutAt_eq_none_iff (symbol_ne_nil other)).mp (notBefore other before)
  obtain ⟨lead, gap, leadBlank, gapBlank, head⟩ := Text.exists_blanks before
  have name : Text.trimChars before = facet.name.toList := by rw [← named, String.toList_ofList]
  rw [name] at head
  refine ⟨⟨lead, gap, leadBlank, gapBlank, ?_, ?_⟩, ?_⟩
  · rw [split, ← head, List.append_assoc]
  · -- a longer operator would have been tried before
    intro other here
    by_contra longer
    refine absent other (mem_triedBefore_of_length_lt (Nat.lt_of_not_le longer)) ?_
    rw [split, List.append_assoc]
    exact here.isInfix.trans (List.suffix_append _ _).isInfix
  · intro other before behind
    refine absent other before ?_
    rw [split]
    exact behind.trans (List.suffix_append _ _).isInfix

/-- What a predicate is, in the form in which it is written. -/
theorem parse_eq_item_iff {raw target : String} : parse raw = .ok (.item facet comparison target) ↔
    ∃ rest, IsWritten facet comparison rest raw.toList ∧ IsClear comparison rest ∧
      String.ofList (Text.trimChars rest) = target := by
  constructor
  · intro parsed
    obtain ⟨facet', comparison', before, rest, divided, named, same⟩ := parse_eq_ok_iff.mp parsed
    cases same
    obtain ⟨written, clear⟩ := isWritten_of_divide? divided (Facet.ofName?_eq_some_iff.mp named)
    exact ⟨rest, written, clear, rfl⟩
  · rintro ⟨rest, written, clear, rfl⟩
    obtain ⟨before, named, divided⟩ := written.divide?_eq clear
    exact parse_eq_ok_iff.mpr
      ⟨facet, comparison, before, rest, divided, Facet.ofName?_eq_some_iff.mpr named, rfl⟩

/-- A text that is written with an operator is divided at one. -/
theorem IsWritten.divide?_ne_none (written : IsWritten facet comparison rest raw) :
    divide? raw operators ≠ none := by
  intro undivided
  obtain ⟨lead, gap, -, -, rfl, -⟩ := written
  have absent := divide?_eq_none_iff.mp undivided comparison (mem_operators comparison)
  refine (Text.cutAt_eq_none_iff (symbol_ne_nil comparison)).mp absent ?_
  rw [← List.append_assoc]
  exact List.infix_append _ _ _

/-- If an operator that is tried before stands in the target, then no facet has the name before it. -/
theorem exists_unknownFacet {raw : String} (written : IsWritten facet comparison rest raw.toList)
    (blocked : ¬ IsClear comparison rest) : ∃ name, parse raw = .error (.unknownFacet name) := by
  cases divided : divide? raw.toList operators with
  | none => exact absurd divided written.divide?_ne_none
  | some parts =>
    obtain ⟨other, before, after⟩ := parts
    rw [parse, divided]
    cases named : Facet.ofName? (String.ofList (Text.trimChars before)) with
    | none => exact ⟨String.ofList (Text.trimChars before), by simp only [named]⟩
    | some facet' =>
      -- the text would be written with the operator that divides it, and that is the one it is written with
      obtain ⟨written', clear⟩ := isWritten_of_divide? divided (Facet.ofName?_eq_some_iff.mp named)
      obtain ⟨rfl, rfl⟩ := written.unique written'
      exact absurd clear blocked

/-- A text is read as the predicate that it is written as if no operator that is tried before the written one
stands in the target, and it is refused otherwise. -/
theorem parse_exact (raw : String) :
    (∀ facet comparison target, parse raw = .ok (.item facet comparison target) ↔
      ∃ rest, IsWritten facet comparison rest raw.toList ∧ IsClear comparison rest ∧
        String.ofList (Text.trimChars rest) = target) ∧
    ∀ facet comparison rest, IsWritten facet comparison rest raw.toList → ¬ IsClear comparison rest →
      ∃ name, parse raw = .error (.unknownFacet name) := by
  constructor
  · intro facet comparison target
    exact parse_eq_item_iff
  · intro facet comparison rest written blocked
    exact exists_unknownFacet written blocked

/-- In `type!=x>=y` no operator is tried before the written one, in `id>a=b` the equals sign is. -/
theorem parse_exact_type_id :
    parse "type!=x>=y" = .ok (.item .type .different "x>=y") ∧
      ∃ name, parse "id>a=b" = .error (.unknownFacet name) := by
  constructor
  · refine ((parse_exact "type!=x>=y").1 .type .different "x>=y").mpr ⟨"x>=y".toList, ?_, ?_, ?_⟩
    · refine ⟨[], [], nofun, nofun, rfl, ?_⟩
      intro other _
      cases other <;> decide
    · nofun
    · decide
  · refine (parse_exact "id>a=b").2 .id .greater "a=b".toList ?_ ?_
    · refine ⟨[], [], nofun, nofun, rfl, ?_⟩
      intro other here
      cases other <;> revert here <;> decide
    · intro clear
      exact clear .equal (by decide) (by decide)

/-- `attribute=a!=b` and `id>a=b` are written as predicates and refused. -/
theorem written_but_refused :
    (IsWritten .attributes .equal "a!=b".toList "attribute=a!=b".toList ∧
      parse "attribute=a!=b" = .error (.unknownFacet "attribute=a")) ∧
    IsWritten .id .greater "a=b".toList "id>a=b".toList ∧
      parse "id>a=b" = .error (.unknownFacet "id>a") := by
  refine ⟨⟨⟨[], [], nofun, nofun, rfl, ?_⟩, ?_⟩, ⟨[], [], nofun, nofun, rfl, ?_⟩, ?_⟩
  · intro other here
    cases other <;> revert here <;> decide
  · decide
  · intro other here
    cases other <;> revert here <;> decide
  · decide

end Discovery.Predicate
