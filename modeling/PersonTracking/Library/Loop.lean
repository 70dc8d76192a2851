import PersonTracking.Library.Program
import PersonTracking.Library.Transition

/-!
# Service loops that stop and start again

A service runs one `turn` after the other against an outside that answers its
calls.  It can stop between any two calls, and starts again with a fresh turn;
what a stop does to the outside is `restart`.

`Machine.tracked` is the rule for such services.  A calculus (`Program.Rules`)
describes what a turn may do in which ghost phase, `tracks` ties phases to the
outside.  When the answers keep the two in step, a turn that starts idle ends
idle, and a stop leads back to an idle phase, every state of every run is
tracked by some phase.
-/

namespace PersonTracking.Library

/-- What is outside the service, and what is left of its turn. -/
structure Loop (Call : Type) (Reply : Call → Type) (σ : Type) where
  outside : σ
  residual : Program Call Reply Bool

/-- What happens next: a call is answered, or the service stops. -/
inductive Move (L : Type)
  | answer (moment : L)
  | stop
deriving DecidableEq, Repr

/-- A service: its turn, whose value tells whether there is a next one, what
answers its calls at a moment, and what a stop does. -/
structure Machine (Call : Type) (Reply : Call → Type) (σ L : Type) where
  turn : Program Call Reply Bool
  handler : L → Program.Handler Call Reply σ
  restart : σ → σ

namespace Machine

variable {Call : Type} {Reply : Call → Type} {σ L Φ : Type}

/-- The service at the start of a turn. -/
def start (machine : Machine Call Reply σ L) (outside : σ) : Loop Call Reply σ where
  outside := outside
  residual := machine.turn

/-- One move.  A service whose last turn is over only starts again after a stop. -/
def step (machine : Machine Call Reply σ L) (loop : Loop Call Reply σ) :
    Move L → Option (Loop Call Reply σ)
  | .stop => some (machine.start (machine.restart loop.outside))
  | .answer moment =>
      match loop.residual with
      | .done true => some (machine.start loop.outside)
      | .done false => none
      | .call request next =>
          some { outside := (machine.handler moment request loop.outside).2
                 residual := next (machine.handler moment request loop.outside).1 }

/-- A loop some phase describes: it is tracked, and what is left of the turn
keeps to the rules. -/
def Tracked (rules : Program.Rules Call Reply Φ) (tracks : Φ → σ → Prop) (idle : Φ → Prop)
    (loop : Loop Call Reply σ) : Prop :=
  ∃ phase, tracks phase loop.outside ∧
    Program.wp rules (fun goesOn phase => goesOn = true → idle phase) loop.residual phase

section Rule

variable {machine : Machine Call Reply σ L} {rules : Program.Rules Call Reply Φ}
  {tracks : Φ → σ → Prop} {idle : Φ → Prop} {guard : Loop Call Reply σ → Move L → Prop}

-- what the rules need of the machine
variable
  (answers : ∀ phase request next s moment, tracks phase s → rules.allowed phase request →
    guard ⟨s, .call request next⟩ (.answer moment) →
    rules.admits phase request (machine.handler moment request s).1 ∧
      tracks (rules.after phase request (machine.handler moment request s).1)
        (machine.handler moment request s).2)
  (turns : ∀ phase, idle phase →
    Program.wp rules (fun goesOn phase => goesOn = true → idle phase) machine.turn phase)
  (restarts : ∀ phase s, tracks phase s → ∃ fresh, idle fresh ∧ tracks fresh (machine.restart s))

include answers turns restarts

/-- One move keeps a loop tracked. -/
theorem tracked_step
    (loop : Loop Call Reply σ) (move : Move L) (next : Loop Call Reply σ)
    (tracked : Tracked rules tracks idle loop) (met : guard loop move)
    (moved : machine.step loop move = some next) : Tracked rules tracks idle next := by
  obtain ⟨s, residual⟩ := loop
  obtain ⟨phase, follows, holds⟩ := tracked
  cases move with
  | stop =>
      cases moved
      obtain ⟨fresh, rested, again⟩ := restarts phase s follows
      exact ⟨fresh, again, turns fresh rested⟩
  | answer moment =>
      cases residual with
      | done goesOn =>
          cases goesOn with
          | false => cases moved
          | true =>
              cases moved
              exact ⟨phase, follows, turns phase (holds rfl)⟩
      | call request rest =>
          cases moved
          obtain ⟨permitted, continues⟩ := holds
          obtain ⟨admitted, still⟩ := answers phase request rest s moment follows permitted met
          exact ⟨_, still, continues _ admitted⟩

/-- **Every state of every guarded run is tracked.** -/
theorem tracked
    {outside : σ} {phase : Φ} (rested : idle phase) (follows : tracks phase outside)
    {moves : List (Move L)} {loop : Loop Call Reply σ}
    (guarded : Meets guard machine.step (machine.start outside) moves)
    (reached : runFrom machine.step (machine.start outside) moves = some loop) :
    Tracked rules tracks idle loop :=
  runFrom_invariant_of_meets (tracked_step answers turns restarts)
    ⟨phase, follows, turns phase rested⟩ guarded reached

end Rule

end Machine

end PersonTracking.Library
