import Mathlib.Logic.Function.Basic
import PersonTracking.Library.Program
import PersonTracking.Library.Transition

/-!
# Programs that run next to each other

A `Pool` is a shared state and one program per worker.  Moves answer the call one
worker waits for, or let something else happen around the workers: a worker is
given a new program, a process dies, a third party changes the shared state.
An answer may be refused, which models a worker that has to wait.

`Surroundings.tracked` is the rule for such pools.  Every worker has a ghost
phase and keeps to one calculus (`Program.Rules`); `tracks` ties all phases to
the shared state.  When answers and happenings keep phases and state in step,
every state of every guarded run is tracked by some phases.
-/

namespace PersonTracking.Library

/-- The shared state, and what is left of each worker's program. -/
structure Pool (ι Call : Type) (Reply : Call → Type) (α σ : Type) where
  shared : σ
  residual : ι → Program Call Reply α

/-- What happens next. -/
inductive PoolMove (ι L E : Type)
  | answer (worker : ι) (moment : L)
  | happen (event : E)
deriving DecidableEq, Repr

/-- What answers the calls of a worker at a moment, if it is not made to wait,
and what else may happen. -/
structure Surroundings (ι Call : Type) (Reply : Call → Type) (α σ L E : Type) where
  answer : L → ι → (request : Call) → σ → Option (Reply request × σ)
  happen : E → Pool ι Call Reply α σ → Option (Pool ι Call Reply α σ)

variable {ι Call : Type} {Reply : Call → Type} {α σ L E Φ : Type} [DecidableEq ι]

namespace Pool

/-- A worker's call answered. -/
def resume (pool : Pool ι Call Reply α σ) (worker : ι) (rest : Program Call Reply α) (shared : σ) :
    Pool ι Call Reply α σ where
  shared := shared
  residual := Function.update pool.residual worker rest

@[simp] theorem residual_resume_self (pool : Pool ι Call Reply α σ) (worker : ι)
    (rest : Program Call Reply α) (shared : σ) :
    (pool.resume worker rest shared).residual worker = rest := Function.update_self _ _ _

@[simp] theorem residual_resume_of_ne (pool : Pool ι Call Reply α σ) {worker other : ι}
    (rest : Program Call Reply α) (shared : σ) (different : other ≠ worker) :
    (pool.resume worker rest shared).residual other = pool.residual other :=
  Function.update_of_ne different _ _

/-- A worker that goes on with another program disturbs nobody. -/
theorem wp_resume {pool : Pool ι Call Reply α σ} {rules : Program.Rules Call Reply Φ}
    {post : α → Φ → Prop} {phases : ι → Φ} {worker : ι} {rest : Program Call Reply α} {shared : σ}
    {phase : Φ} (others : ∀ other, Program.wp rules post (pool.residual other) (phases other))
    (keeps : Program.wp rules post rest phase) (other : ι) :
    Program.wp rules post ((pool.resume worker rest shared).residual other)
      (Function.update phases worker phase other) := by
  by_cases same : other = worker
  · subst same
    rw [residual_resume_self, Function.update_self]
    exact keeps
  · rw [residual_resume_of_ne _ _ _ same, Function.update_of_ne same]
    exact others other

/-- Some phases describe the pool: they are tracked, and what is left of each
program keeps to the rules from its phase on. -/
def Tracked (rules : Program.Rules Call Reply Φ) (post : α → Φ → Prop)
    (tracks : (ι → Φ) → σ → Prop) (pool : Pool ι Call Reply α σ) : Prop :=
  ∃ phases : ι → Φ, tracks phases pool.shared ∧
    ∀ worker, Program.wp rules post (pool.residual worker) (phases worker)

end Pool

namespace Surroundings

variable (surroundings : Surroundings ι Call Reply α σ L E)

/-- One move. -/
def step (pool : Pool ι Call Reply α σ) : PoolMove ι L E → Option (Pool ι Call Reply α σ)
  | .happen event => surroundings.happen event pool
  | .answer worker moment =>
      match pool.residual worker with
      | .done _ => none
      | .call request next =>
          (surroundings.answer moment worker request pool.shared).map fun answered =>
            pool.resume worker (next answered.1) answered.2

variable {surroundings}

/-- **What an answered call does.** -/
theorem step_answer_eq_some {pool after : Pool ι Call Reply α σ} {worker : ι} {moment : L} :
    surroundings.step pool (.answer worker moment) = some after ↔
      ∃ request next reply shared, pool.residual worker = .call request next ∧
        surroundings.answer moment worker request pool.shared = some (reply, shared) ∧
        after = pool.resume worker (next reply) shared := by
  rw [step]
  cases waiting : pool.residual worker with
  | done value => simp
  | call request next =>
      constructor
      · intro moved
        obtain ⟨⟨reply, shared⟩, answered, rfl⟩ := Option.map_eq_some_iff.mp moved
        exact ⟨request, next, reply, shared, rfl, answered, rfl⟩
      · rintro ⟨request', next', reply, shared, same, answered, rfl⟩
        cases same
        exact Option.map_eq_some_iff.mpr ⟨_, answered, rfl⟩

section Rule

variable {rules : Program.Rules Call Reply Φ} {post : α → Φ → Prop}
  {tracks : (ι → Φ) → σ → Prop} {guard : Pool ι Call Reply α σ → PoolMove ι L E → Prop}

-- what the rules need of the surroundings
variable
  (answers : ∀ pool phases worker moment request next reply shared,
    tracks phases pool.shared →
    (∀ other, Program.wp rules post (pool.residual other) (phases other)) →
    pool.residual worker = .call request next → rules.allowed (phases worker) request →
    guard pool (.answer worker moment) →
    surroundings.answer moment worker request pool.shared = some (reply, shared) →
    rules.admits (phases worker) request reply ∧
      tracks (Function.update phases worker (rules.after (phases worker) request reply)) shared)
  (happens : ∀ pool event after, Pool.Tracked rules post tracks pool →
    guard pool (.happen event) → surroundings.happen event pool = some after →
    Pool.Tracked rules post tracks after)

include answers happens

/-- One move keeps a pool tracked. -/
theorem tracked_step
    (pool : Pool ι Call Reply α σ) (move : PoolMove ι L E) (after : Pool ι Call Reply α σ)
    (tracked : Pool.Tracked rules post tracks pool) (met : guard pool move)
    (moved : surroundings.step pool move = some after) : Pool.Tracked rules post tracks after := by
  cases move with
  | happen event => exact happens pool event after tracked met moved
  | answer worker moment =>
      obtain ⟨request, next, reply, shared, waiting, answered, rfl⟩ := step_answer_eq_some.mp moved
      obtain ⟨phases, follows, holds⟩ := tracked
      have here := holds worker
      rw [waiting] at here
      obtain ⟨permitted, continues⟩ := here
      obtain ⟨admitted, still⟩ := answers pool phases worker moment request next reply shared
        follows holds waiting permitted met answered
      exact ⟨_, still, Pool.wp_resume holds (continues reply admitted)⟩

/-- **Every state of every guarded run is tracked.** -/
theorem tracked
    {pool after : Pool ι Call Reply α σ} {moves : List (PoolMove ι L E)}
    (start : Pool.Tracked rules post tracks pool)
    (guarded : Meets guard surroundings.step pool moves)
    (reached : runFrom surroundings.step pool moves = some after) :
    Pool.Tracked rules post tracks after :=
  runFrom_invariant_of_meets (tracked_step answers happens) start guarded reached

end Rule

end Surroundings

end PersonTracking.Library
