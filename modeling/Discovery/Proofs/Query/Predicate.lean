import Discovery.Proofs.Message.Search
import Discovery.Proofs.Text.FirstMark
import Discovery.Query.Predicate

/-!
# Queries from predicates

A predicate is one leaf of a query, whose target has no white space around it. Predicates that are read
together make up a query of these leaves and no others. So the white space that the wire drops around targets
is not there, and such a query is received as it was sent.

* `parse_eq_ok_iff`: what a predicate stands for;
* `exists_predicate_of_toQuery`: every target is that of a predicate;
* `mapTargets_trim_of_toQuery`: what the wire does to the query.
-/

namespace Discovery.Predicate

variable {raw target : String} {predicates : List String} {any negated : Bool} {q : Query}

/-- A predicate is a leaf, made of what stands before its operator and of what stands behind it. -/
theorem parse_eq_ok_iff : parse raw = .ok q ↔
    ∃ facet comparison before after, divide? raw.toList operators = some (comparison, before, after) ∧
      Facet.ofName? (String.ofList (Text.trimChars before)) = some facet ∧
      q = .item facet comparison (String.ofList (Text.trimChars after)) := by
  unfold parse
  cases divided : divide? raw.toList operators with
  | none =>
    refine iff_of_false nofun ?_
    rintro ⟨facet, comparison, before, after, found, -⟩
    cases found
  | some parts =>
    obtain ⟨comparison, before, after⟩ := parts
    cases named : Facet.ofName? (String.ofList (Text.trimChars before)) with
    | none =>
      simp only [named]
      refine iff_of_false nofun ?_
      rintro ⟨facet, comparison', before', after', found, known, -⟩
      cases found
      rw [named] at known
      cases known
    | some facet =>
      simp only [named]
      constructor
      · intro parsed
        cases parsed
        exact ⟨facet, comparison, before, after, rfl, named, rfl⟩
      · rintro ⟨facet', comparison', before', after', found, known, rfl⟩
        cases found
        rw [named] at known
        cases known
        rfl

/-- Where no other operator can be the equals sign divides. -/
theorem divide?_equal {name words : List Char} (first : '=' ∉ name)
    (noNegation : '!' ∉ name ++ '=' :: words) (noGreater : '>' ∉ name ++ '=' :: words)
    (noLess : '<' ∉ name ++ '=' :: words) :
    divide? (name ++ '=' :: words) operators = some (.equal, name, words) := by
  have different : Text.cutAt "!=".toList (name ++ '=' :: words) = none :=
    Text.cutAt_eq_none (by decide) noNegation
  have greaterEqual : Text.cutAt ">=".toList (name ++ '=' :: words) = none :=
    Text.cutAt_eq_none (by decide) noGreater
  have lessEqual : Text.cutAt "<=".toList (name ++ '=' :: words) = none :=
    Text.cutAt_eq_none (by decide) noLess
  have equal : Text.cutAt "=".toList (name ++ '=' :: words) = some (name, words) :=
    Text.cutAt_append first words
  simp only [operators, divide?, Comparison.symbol, different, greaterEqual, lessEqual, equal]

/-- The target of a predicate has no white space around it. -/
theorem trim_target {facet : Facet} {comparison : Comparison}
    (parsed : parse raw = .ok (.item facet comparison target)) : Text.trim target = target := by
  obtain ⟨facet', comparison', before, after, -, -, same⟩ := parse_eq_ok_iff.mp parsed
  cases same
  rw [Text.trim, String.toList_ofList, Text.trimChars_trimChars]

/-! ## Predicates together -/

/-- The target is that of one of the predicates. -/
def IsTargetOf (predicates : List String) (target : String) : Prop :=
  ∃ raw ∈ predicates, ∃ facet comparison, parse raw = .ok (.item facet comparison target)

/-- The targets of a predicate's query are the predicate's. -/
theorem isTargetOf_of_parse (parsed : parse raw = .ok q) (given : raw ∈ predicates) :
    ∀ target ∈ q.targets, IsTargetOf predicates target := by
  intro target mem
  obtain ⟨facet, comparison, before, after, -, -, rfl⟩ := parse_eq_ok_iff.mp parsed
  cases List.mem_singleton.mp mem
  exact ⟨raw, given, facet, comparison, parsed⟩

/-- Reading further predicates brings in no other targets than theirs. -/
theorem isTargetOf_of_parseOnto {join : Query → Query → Query}
    (joins : ∀ left right, (join left right).targets = left.targets ++ right.targets)
    {others : List String} {first : Query} (read : parseOnto join first others = .ok q)
    (further : ∀ raw ∈ others, raw ∈ predicates)
    (before : ∀ target ∈ first.targets, IsTargetOf predicates target) :
    ∀ target ∈ q.targets, IsTargetOf predicates target := by
  -- along the predicates; the targets read so far are carried along
  induction others generalizing first with
  | nil =>
    cases read
    exact before
  | cons raw rest ih =>
    obtain ⟨given, later⟩ := List.forall_mem_cons.mp further
    rw [parseOnto] at read
    cases parsed : parse raw with
    | error error =>
      rw [parsed] at read
      cases read
    | ok item =>
      rw [parsed] at read
      refine ih read later ?_
      rw [joins, List.forall_mem_append]
      exact ⟨before, isTargetOf_of_parse parsed given⟩

/-- Every target of the query is that of a predicate. -/
theorem exists_predicate_of_toQuery (asked : toQuery predicates any negated = .ok q) :
    ∀ target ∈ q.targets, IsTargetOf predicates target := by
  cases predicates with
  | nil => cases asked
  | cons raw others =>
    rw [toQuery] at asked
    cases parsed : parse raw with
    | error error =>
      rw [parsed] at asked
      cases asked
    | ok first =>
      rw [parsed] at asked
      obtain ⟨combined, read, same⟩ := Markup.map_eq_ok asked
      have joins : ∀ left right : Query, ((if any then Query.or else Query.and) left right).targets =
          left.targets ++ right.targets := by
        cases any <;> exact fun _ _ => rfl
      -- a negation has the targets of what it negates
      have targets : q.targets = combined.targets := by
        rw [← same]
        cases negated <;> rfl
      rw [targets]
      exact isTargetOf_of_parseOnto joins read (fun _ later => List.mem_cons_of_mem raw later)
        (isTargetOf_of_parse parsed (List.mem_cons_self ..))

/-- Trimming its targets leaves the query as it is. -/
theorem mapTargets_trim_of_toQuery (asked : toQuery predicates any negated = .ok q) :
    q.mapTargets Text.trim = q := by
  apply Query.mapTargets_eq_self_iff.mpr
  intro target mem
  obtain ⟨raw, -, facet, comparison, parsed⟩ := exists_predicate_of_toQuery asked target mem
  exact trim_target parsed

end Discovery.Predicate
