import Discovery.Proofs.Query.Predicate
import Discovery.Query.Evaluate

/-!
# Predicates together

Several predicates are read from the first to the last, each onto the query of those before it. The query leans to
the left as far as there are predicates, and the negation is put around the whole of it. What it says of a component
is what the predicates say: all of them or any of them, or the opposite of that. So neither their order nor that one
is given twice makes a difference.

The first predicate that cannot be read ends the reading, and it is its error that is reported.

* `failsFirst_cons`: the first failure, one predicate at a time;
* `toQuery_eq_ok_iff`, `toQuery_eq_error_iff`: which query is read, and which error is reported;
* `evaluateOne_foldl`: by induction on the predicates that are joined, what their query says;
* `combined_exact`: both together.
-/

namespace Discovery.Predicate

variable {predicates others : List String} {any negated : Bool} {error : PredicateError} {first q : Query}
  {items : List Query} {raw : String} {c : Component}

/-- Each predicate is read as its item. -/
abbrev ReadAs (predicates : List String) (items : List Query) : Prop :=
  List.Forall₂ (fun raw item => parse raw = .ok item) predicates items

/-- The error is that of the first predicate that cannot be read. -/
def FailsFirst (predicates : List String) (error : PredicateError) : Prop :=
  ∃ before raw after, predicates = before ++ raw :: after ∧
    (∀ other ∈ before, ∃ item, parse other = .ok item) ∧ parse raw = .error error

/-! ## Reading -/

theorem not_failsFirst_nil : ¬ FailsFirst [] error := by
  rintro ⟨before, raw, after, split, -⟩
  cases before <;> cases split

/-- The first failure is that of the first predicate, or comes behind it. -/
theorem failsFirst_cons : FailsFirst (raw :: others) error ↔
    parse raw = .error error ∨ (∃ item, parse raw = .ok item) ∧ FailsFirst others error := by
  constructor
  · rintro ⟨before, failed, after, split, read, failure⟩
    cases before with
    | nil =>
      cases split
      exact .inl failure
    | cons here before =>
      cases split
      obtain ⟨readHere, readBefore⟩ := List.forall_mem_cons.mp read
      exact .inr ⟨readHere, before, failed, after, rfl, readBefore, failure⟩
  · rintro (failure | ⟨read, before, failed, after, rfl, readBefore, failure⟩)
    · exact ⟨[], raw, others, rfl, nofun, failure⟩
    · exact ⟨raw :: before, failed, after, rfl, List.forall_mem_cons.mpr ⟨read, readBefore⟩, failure⟩

/-- Predicates are read onto a query if each of them can be read, and are joined to it in their order. -/
theorem parseOnto_eq_ok_iff {join : Query → Query → Query} :
    parseOnto join first others = .ok q ↔ ∃ items, ReadAs others items ∧ q = items.foldl join first := by
  induction others generalizing first with
  | nil =>
    constructor
    · intro read
      cases read
      exact ⟨[], .nil, rfl⟩
    · rintro ⟨items, read, rfl⟩
      cases read
      rfl
  | cons raw others ih =>
    rw [parseOnto]
    cases parsed : parse raw with
    | error error =>
      refine iff_of_false (by simp) ?_
      -- no list of items begins with a predicate that cannot be read
      rintro ⟨items, read, -⟩
      cases read with
      | cons here later =>
        rw [parsed] at here
        cases here
    | ok item =>
      simp only
      rw [ih]
      constructor
      · rintro ⟨items, later, rfl⟩
        exact ⟨item :: items, .cons parsed later, rfl⟩
      · rintro ⟨items, read, rfl⟩
        cases read with
        | cons here later =>
          rw [parsed] at here
          cases here
          exact ⟨_, later, rfl⟩

/-- Reading further predicates fails with the first failure among them. -/
theorem parseOnto_eq_error_iff {join : Query → Query → Query} :
    parseOnto join first others = .error error ↔ FailsFirst others error := by
  induction others generalizing first with
  | nil => exact iff_of_false nofun not_failsFirst_nil
  | cons raw others ih =>
    rw [parseOnto, failsFirst_cons]
    cases parsed : parse raw with
    | error failure => simp
    | ok item => simp [ih]

/-- The query of predicates is that of their items, joined from the left, with the negation around it. -/
theorem toQuery_eq_ok_iff : toQuery predicates any negated = .ok q ↔
    ∃ first items, ReadAs predicates (first :: items) ∧
      q = (if negated then Query.not else id) (items.foldl (if any then .or else .and) first) := by
  cases predicates with
  | nil =>
    refine iff_of_false (by simp [toQuery]) ?_
    rintro ⟨first, items, read, -⟩
    cases read
  | cons raw others =>
    rw [toQuery]
    cases parsed : parse raw with
    | error error =>
      refine iff_of_false (by simp) ?_
      rintro ⟨first, items, read, -⟩
      cases read with
      | cons here later =>
        rw [parsed] at here
        cases here
    | ok first =>
      constructor
      · intro asked
        -- the others are folded onto the first, and the negation comes last
        obtain ⟨combined, read, rfl⟩ := Markup.map_eq_ok asked
        obtain ⟨items, later, rfl⟩ := parseOnto_eq_ok_iff.mp read
        refine ⟨first, items, .cons parsed later, ?_⟩
        cases negated <;> rfl
      · rintro ⟨first', items, read, rfl⟩
        cases read with
        | cons here later =>
          rw [parsed] at here
          cases here
          simp only
          rw [parseOnto_eq_ok_iff.mpr ⟨items, later, rfl⟩]
          cases negated <;> rfl

/-- Predicates are no query if there are none, or for the first of them that cannot be read. -/
theorem toQuery_eq_error_iff : toQuery predicates any negated = .error error ↔
    (predicates = [] ∧ error = .noPredicates) ∨ FailsFirst predicates error := by
  cases predicates with
  | nil =>
    rw [toQuery]
    simp [not_failsFirst_nil, eq_comm]
  | cons raw others =>
    rw [toQuery, failsFirst_cons]
    cases parsed : parse raw with
    | error failure => simp
    | ok item =>
      simp only
      -- the first predicate is read, so the error is that of a later one
      cases read : parseOnto (if any then .or else .and) item others with
      | error failure =>
        rw [← parseOnto_eq_error_iff, read]
        simp [Except.map]
      | ok combined =>
        rw [← parseOnto_eq_error_iff, read]
        simp [Except.map]

/-! ## What the query says -/

/-- What a component answers to the items together. -/
def answer (any negated : Bool) (items : List Query) (c : Component) : Bool :=
  negated ^^ if any then items.any (·.evaluateOne c) else items.all (·.evaluateOne c)

/-- Items that are joined from the left say what they say together. -/
theorem evaluateOne_foldl :
    (items.foldl (if any then .or else .and) first).evaluateOne c = answer any false (first :: items) c := by
  induction items generalizing first with
  | nil => cases any <;> simp [answer]
  | cons item items ih =>
    rw [List.foldl_cons, ih]
    cases any <;> simp [answer, Query.evaluateOne, Bool.and_assoc, Bool.or_assoc]

/-- Items that are the same apart from order and repetition say the same. -/
theorem answer_congr {items' : List Query} (same : ∀ item, item ∈ items ↔ item ∈ items') :
    answer any negated items c = answer any negated items' c := by
  have anyOf : items.any (·.evaluateOne c) = items'.any (·.evaluateOne c) := by
    rw [Bool.eq_iff_iff]
    simp only [List.any_eq_true, same]
  have allOf : items.all (·.evaluateOne c) = items'.all (·.evaluateOne c) := by
    rw [Bool.eq_iff_iff]
    simp only [List.all_eq_true, same]
  rw [answer, answer, anyOf, allOf]

/-- The items of predicates are what these are read as. -/
theorem ReadAs.mem_iff (read : ReadAs predicates items) {item : Query} :
    item ∈ items ↔ ∃ raw ∈ predicates, parse raw = .ok item := by
  induction read with
  | nil => simp
  | @cons raw item' others items here later ih =>
    rw [List.mem_cons, ih, List.exists_mem_cons_iff, here, Except.ok.injEq, eq_comm]

theorem exists_readAs (each : ∀ raw ∈ predicates, ∃ item, parse raw = .ok item) :
    ∃ items, ReadAs predicates items := by
  induction predicates with
  | nil => exact ⟨[], .nil⟩
  | cons raw others ih =>
    obtain ⟨⟨item, here⟩, later⟩ := List.forall_mem_cons.mp each
    obtain ⟨items, read⟩ := ih later
    exact ⟨item :: items, .cons here read⟩

theorem ReadAs.exists_of_mem (read : ReadAs predicates items) :
    ∀ raw ∈ predicates, ∃ item, parse raw = .ok item := by
  induction read with
  | nil => exact nofun
  | cons here later ih => exact List.forall_mem_cons.mpr ⟨⟨_, here⟩, ih⟩

/-- Predicates that are read as items make up a query, if there is one at least, which says what the items say
together. -/
theorem ReadAs.toQuery (read : ReadAs predicates items) (some : predicates ≠ []) (any negated : Bool) :
    ∃ q, toQuery predicates any negated = .ok q ∧ ∀ c : Component, q.evaluateOne c = answer any negated items c := by
  cases read with
  | nil => exact absurd rfl some
  | @cons _ first _ items here later =>
    refine ⟨_, toQuery_eq_ok_iff.mpr ⟨first, items, .cons here later, rfl⟩, ?_⟩
    intro c
    cases negated with
    | false => exact evaluateOne_foldl
    | true =>
      rw [if_pos rfl, Query.evaluateOne, evaluateOne_foldl]
      simp [answer]

/-- There is no query if and only if there are no predicates or one of them cannot be read. -/
theorem exists_error_iff : (∃ error, toQuery predicates any negated = .error error) ↔
    predicates = [] ∨ ∃ raw ∈ predicates, ∃ error, parse raw = .error error := by
  constructor
  · rintro ⟨error, refused⟩
    rcases toQuery_eq_error_iff.mp refused with ⟨none, -⟩ | ⟨before, raw, after, rfl, -, failure⟩
    · exact .inl none
    · exact .inr ⟨raw, List.mem_append_right _ (List.mem_cons_self ..), error, failure⟩
  · intro unreadable
    cases asked : toQuery predicates any negated with
    | error error => exact ⟨error, rfl⟩
    | ok q =>
      -- a query has been read from every predicate
      obtain ⟨first, items, read, -⟩ := toQuery_eq_ok_iff.mp asked
      rcases unreadable with rfl | ⟨raw, mem, error, failure⟩
      · cases read
      · obtain ⟨item, parsed⟩ := read.exists_of_mem raw mem
        rw [failure] at parsed
        cases parsed

/-- Predicates that can all be read, one at least, make up a query that says of every component what they say: all
of them, or any of them, or the opposite of that. Predicates that are the same apart from order and repetition make
up queries that say the same. There is no query if and only if there are no predicates or one of them cannot be
read; then the error is that of the first one. -/
theorem combined_exact (any negated : Bool) :
    (∀ predicates items, predicates ≠ [] → ReadAs predicates items →
      ∃ q, toQuery predicates any negated = .ok q ∧
        ∀ c : Component, q.evaluateOne c =
          (negated ^^ if any then items.any (·.evaluateOne c) else items.all (·.evaluateOne c))) ∧
    (∀ predicates predicates' q, (∀ raw, raw ∈ predicates ↔ raw ∈ predicates') →
      toQuery predicates any negated = .ok q →
        ∃ q', toQuery predicates' any negated = .ok q' ∧ ∀ c : Component, q'.evaluateOne c = q.evaluateOne c) ∧
    (∀ predicates, (∃ error, toQuery predicates any negated = .error error) ↔
      predicates = [] ∨ ∃ raw ∈ predicates, ∃ error, parse raw = .error error) ∧
    ∀ predicates error, toQuery predicates any negated = .error error ↔
      (predicates = [] ∧ error = .noPredicates) ∨
        ∃ before raw after, predicates = before ++ raw :: after ∧
          (∀ other ∈ before, ∃ item, parse other = .ok item) ∧ parse raw = .error error := by
  refine ⟨?_, ?_, fun _ => exists_error_iff, fun _ _ => toQuery_eq_error_iff⟩
  · intro predicates items some read
    exact read.toQuery some any negated
  · intro predicates predicates' q same asked
    obtain ⟨first, items, read, -⟩ := toQuery_eq_ok_iff.mp asked
    have some : predicates ≠ [] := by
      rintro rfl
      cases read
    have some' : predicates' ≠ [] := by
      obtain ⟨raw, mem⟩ := List.exists_mem_of_ne_nil predicates some
      exact List.ne_nil_of_mem ((same raw).mp mem)
    -- the same predicates can be read, whatever their order and number
    have each : ∀ raw ∈ predicates', ∃ item, parse raw = .ok item :=
      fun raw mem => read.exists_of_mem raw ((same raw).mpr mem)
    obtain ⟨items', read'⟩ := exists_readAs each
    obtain ⟨q₀, asked₀, agrees⟩ := read.toQuery some any negated
    obtain ⟨q', asked', agrees'⟩ := read'.toQuery some' any negated
    obtain rfl : q₀ = q := Except.ok.inj (asked₀.symm.trans asked)
    refine ⟨q', asked', ?_⟩
    intro c
    rw [agrees, agrees']
    refine answer_congr fun item => ?_
    simp only [read.mem_iff, read'.mem_iff, same]

/-- Neither on a port of 1520 or above nor with the id `w1`, with one of the two given twice; and two texts that are
no predicates, of which the first is reported. -/
theorem combined_exact_neither :
    (∃ q, toQuery ["port>=1520", "id = w1", "port>=1520"] true true = .ok q ∧
      q.evaluateOne ⟨7, "w2", "", 1000, "", [], [], []⟩ = true) ∧
    toQuery ["id=w1", "colour=red", "port"] true true = .error (.unknownFacet "colour") := by
  obtain ⟨agree, -, -, fails⟩ := combined_exact true true
  constructor
  · have read : ReadAs ["port>=1520", "id = w1", "port>=1520"]
        [.item .port .greaterEqual "1520", .item .id .equal "w1", .item .port .greaterEqual "1520"] :=
      .cons (by decide) (.cons (by decide) (.cons (by decide) .nil))
    obtain ⟨q, asked, answers⟩ := agree _ _ (by decide) read
    refine ⟨q, asked, ?_⟩
    rw [answers]
    decide +kernel
  · refine (fails _ _).mpr (.inr ⟨["id=w1"], "colour=red", ["port"], rfl, ?_, by decide⟩)
    intro other mem
    cases List.mem_singleton.mp mem
    exact ⟨.item .id .equal "w1", by decide⟩

end Discovery.Predicate
