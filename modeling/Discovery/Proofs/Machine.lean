import Discovery.Component.Basic

/-!
# Runs

A `Machine` takes one operation after another; some operations admit a component under the next index.
Indexes are words, so that a run is followed only while it admits fewer components than
`indexLimit`: past it an index may be handed out a second time.

* `Reached.of_steps`: one machine does what another does;
* `Reached.invariant`: what holds at the start and survives each step holds in every reached state,
  together with the number of components that were admitted on the way.
-/

namespace Discovery

/-- How many components a run may admit before an index can come up again: `2^32 - 1`. -/
def indexLimit : Nat := 4294967295

/-- A state that changes with one operation at a time. -/
structure Machine (σ ω : Type) where
  /-- The state after an operation. -/
  step : σ → ω → σ
  /-- Does the operation admit a component? -/
  admits : σ → ω → Bool

namespace Machine

variable {σ ω : Type} (m : Machine σ ω)

def run (s : σ) (ops : List ω) : σ :=
  ops.foldl m.step s

/-- How many of the operations admit a component. -/
def admissions : σ → List ω → Nat
  | _, [] => 0
  | s, op :: ops => (m.admits s op).toNat + admissions (m.step s op) ops

/-- The states that runs below the limit lead to. -/
def Reached (start : σ → Prop) (s : σ) : Prop :=
  ∃ s₀ ops, start s₀ ∧ m.admissions s₀ ops < indexLimit ∧ m.run s₀ ops = s

theorem admissions_le (s : σ) (ops : List ω) : m.admissions s ops ≤ ops.length := by
  induction ops generalizing s with
  | nil => exact Nat.le_refl 0
  | cons op ops ih =>
    have rest := ih (m.step s op)
    have one : (m.admits s op).toNat ≤ 1 := Bool.toNat_le _
    rw [admissions, List.length_cons]
    omega

theorem run_append (s : σ) (ops more : List ω) :
    m.run s (ops ++ more) = m.run (m.run s ops) more :=
  List.foldl_append

theorem admissions_append (s : σ) (ops more : List ω) :
    m.admissions s (ops ++ more) = m.admissions s ops + m.admissions (m.run s ops) more := by
  induction ops generalizing s with
  | nil => rw [List.nil_append, admissions, Nat.zero_add, run, List.foldl_nil]
  | cons op ops ih =>
    rw [List.cons_append, admissions, admissions, ih, Nat.add_assoc]
    rfl

/-- A run of fewer operations than the limit cannot exceed it. -/
theorem reached_of_short {start : σ → Prop} {s : σ} (hstart : start s) {ops : List ω}
    (short : ops.length < indexLimit) : m.Reached start (m.run s ops) :=
  ⟨s, ops, hstart, Nat.lt_of_le_of_lt (m.admissions_le s ops) short, rfl⟩

variable {m} {start : σ → Prop} {inv : Nat → σ → Prop}

/-- A run of one machine is a run of another that can do every step of it with some operation. -/
theorem Reached.of_steps {ω' : Type} {m' : Machine σ ω'} {s : σ}
    (each : ∀ s op, ∃ op', m.step s op = m'.step s op' ∧ m.admits s op = m'.admits s op')
    (reached : m.Reached start s) : m'.Reached start s := by
  -- the operations of one machine are followed one by one, counting the same admissions
  have runs : ∀ ops s, ∃ ops', m.run s ops = m'.run s ops' ∧
      m.admissions s ops = m'.admissions s ops' := by
    intro ops
    induction ops with
    | nil => exact fun s => ⟨[], rfl, rfl⟩
    | cons op ops ih =>
      intro s
      rcases each s op with ⟨op', same, admitted⟩
      rcases ih (m.step s op) with ⟨ops', after, admissions⟩
      rw [same] at after admissions
      refine ⟨op' :: ops', ?_, ?_⟩
      · show m.run (m.step s op) ops = m'.run (m'.step s op') ops'
        rw [same, after]
      · rw [Machine.admissions, Machine.admissions, same, admitted, admissions]
  rcases reached with ⟨s₀, ops, hstart, few, rfl⟩
  rcases runs ops s₀ with ⟨ops', after, admissions⟩
  rw [admissions] at few
  exact ⟨s₀, ops', hstart, few, after.symm⟩

/-- An invariant over the number of admissions holds after a run if every step preserves it. -/
theorem run_invariant
    (hstep : ∀ n s op, n + (m.admits s op).toNat < indexLimit → inv n s →
      inv (n + (m.admits s op).toNat) (m.step s op))
    {ops : List ω} {s : σ} {n : Nat} (few : n + m.admissions s ops < indexLimit) (hinv : inv n s) :
    inv (n + m.admissions s ops) (m.run s ops) := by
  induction ops generalizing n s with
  | nil => exact hinv
  | cons op ops ih =>
    rw [admissions, ← Nat.add_assoc] at few ⊢
    -- a count only grows, so that it is below the limit at every step of the run
    have fewSoFar : n + (m.admits s op).toNat < indexLimit := by omega
    exact ih few (hstep n s op fewSoFar hinv)

/-- Invariant induction over the runs below the limit. -/
theorem Reached.invariant {s : σ} (hinit : ∀ s₀, start s₀ → inv 0 s₀)
    (hstep : ∀ n s op, n + (m.admits s op).toNat < indexLimit → inv n s →
      inv (n + (m.admits s op).toNat) (m.step s op))
    (reached : m.Reached start s) : ∃ n, n < indexLimit ∧ inv n s := by
  rcases reached with ⟨s₀, ops, hstart, few, rfl⟩
  have fewFromZero : 0 + m.admissions s₀ ops < indexLimit := by
    rw [Nat.zero_add]
    exact few
  exact ⟨_, fewFromZero, run_invariant hstep fewFromZero (hinit s₀ hstart)⟩

end Machine

end Discovery
