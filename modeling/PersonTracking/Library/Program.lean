import Mathlib.Data.List.Basic

/-!
# Programs that call out

A program is a finite-depth tree: it is done, or it makes one external call and
continues with the answer.  The type of an answer depends on the call.  Source
code that talks to databases, brokers and other services is written once as
such a tree and then read in several ways:

* `run` — sequentially, against a handler that owns a state;
* one call at a time, by whoever interleaves several programs.

`wp` is the precondition calculus: `wp rules` walks the tree with a ghost phase,
asks at each call whether it is allowed in that phase and continues for *every*
answer the rules admit.  `wp_bind` composes, `run_of_wp` turns it into statements
about sequential runs, and `wp_refine` into other calculi.

Exceptions are `ExceptT` over this monad (`Fallible`), so a state change made
before a raise stays, and `try … catch` is the usual one.
-/

namespace PersonTracking.Library

universe u

/-- A program making calls of type `Call`, each answered in `Reply call`. -/
inductive Program (Call : Type) (Reply : Call → Type) (α : Type u) : Type u
  | done (value : α)
  | call (request : Call) (next : Reply request → Program Call Reply α)

namespace Program

variable {Call : Type} {Reply : Call → Type} {α β γ σ : Type}

/-- Sequencing grafts the continuation onto every leaf. -/
def bind (program : Program Call Reply α) (next : α → Program Call Reply β) :
    Program Call Reply β :=
  match program with
  | done value => next value
  | call request rest => call request fun answer => (rest answer).bind next

instance : Monad (Program Call Reply) where
  pure := done
  bind := bind

@[simp] theorem pure_eq (value : α) : (pure value : Program Call Reply α) = done value := rfl

@[simp] theorem done_bind (value : α) (next : α → Program Call Reply β) :
    (done value >>= next) = next value := rfl

@[simp] theorem call_bind (request : Call) (rest : Reply request → Program Call Reply α)
    (next : α → Program Call Reply β) :
    (call request rest >>= next) = call request fun answer => rest answer >>= next := rfl

theorem bind_done (program : Program Call Reply α) : program >>= done = program := by
  induction program with
  | done value => rfl
  | call request rest ih => rw [call_bind]; congr 1; funext answer; exact ih answer

theorem bind_assoc (program : Program Call Reply α) (first : α → Program Call Reply β)
    (second : β → Program Call Reply γ) :
    (program >>= first) >>= second = program >>= fun value => first value >>= second := by
  induction program with
  | done value => rfl
  | call request rest ih => simp only [call_bind]; congr 1; funext answer; exact ih answer

instance : LawfulMonad (Program Call Reply) :=
  LawfulMonad.mk' _ bind_done (fun _ _ => rfl) bind_assoc

/-- Make one call and return its answer. -/
def perform (request : Call) : Program Call Reply (Reply request) := call request done

/-! ## Sequential runs -/

/-- What answers the calls: every call gets an answer and may move the state. -/
abbrev Handler (Call : Type) (Reply : Call → Type) (σ : Type) : Type :=
  (request : Call) → σ → Reply request × σ

/-- Run to completion against a handler. -/
def run (handler : Handler Call Reply σ) : Program Call Reply α → σ → α × σ
  | done value, s => (value, s)
  | call request next, s => run handler (next (handler request s).1) (handler request s).2

@[simp] theorem run_done (handler : Handler Call Reply σ) (value : α) (s : σ) :
    run handler (done value) s = (value, s) := rfl

@[simp] theorem run_call (handler : Handler Call Reply σ) (request : Call)
    (next : Reply request → Program Call Reply α) (s : σ) :
    run handler (call request next) s =
      run handler (next (handler request s).1) (handler request s).2 := rfl

@[simp] theorem run_bind (handler : Handler Call Reply σ) (program : Program Call Reply α)
    (next : α → Program Call Reply β) (s : σ) :
    run handler (program >>= next) s =
      run handler (next (run handler program s).1) (run handler program s).2 := by
  induction program generalizing s with
  | done value => rfl
  | call request rest ih => rw [call_bind, run_call, ih]; rfl

/-- A handler for one component of a larger state. -/
def Handler.focus {τ : Type} (get : τ → σ) (set : τ → σ → τ) (handler : Handler Call Reply σ) :
    Handler Call Reply τ :=
  fun request t => ((handler request (get t)).1, set t (handler request (get t)).2)

/-- A run against a component moves nothing but the component. -/
theorem run_focus {τ : Type} (get : τ → σ) (set : τ → σ → τ) (handler : Handler Call Reply σ)
    (get_set : ∀ t s, get (set t s) = s) (set_set : ∀ t s s', set (set t s) s' = set t s')
    (set_get : ∀ t, set t (get t) = t) (program : Program Call Reply α) (t : τ) :
    run (handler.focus get set) program t =
      ((run handler program (get t)).1, set t (run handler program (get t)).2) := by
  induction program generalizing t with
  | done value => rw [run_done, run_done, set_get]
  | call request rest ih =>
      rw [run_call, run_call, Handler.focus, ih, get_set, set_set]

/-! ### Calls that raise -/

/-- How calls fail: which of them raise, and which of those are carried out all
the same, only their answers being lost. -/
structure Faults (Call : Type) where
  raises : Call → Bool
  applied : Call → Bool

namespace Faults

/-- No call raises. -/
def never : Faults Call where
  raises _ := false
  applied _ := false

@[simp] theorem raises_never (request : Call) : (never : Faults Call).raises request = false := rfl

/-- Calls that raise without being carried out. -/
def refusing (raises : Call → Bool) : Faults Call where
  raises := raises
  applied _ := false

@[simp] theorem raises_refusing (raises : Call → Bool) : (refusing raises).raises = raises := rfl

/-- How the calls behind their new names fail. -/
def within {D : Type} (inject : Call → D) (faults : Faults D) : Faults Call where
  raises request := faults.raises (inject request)
  applied request := faults.applied (inject request)

/-- The call is carried out, whether or not it raises. -/
def carriesOut (faults : Faults Call) (request : Call) : Bool :=
  !faults.raises request || faults.applied request

/-- A call that would be answered `done`: it is, or it raises before or after it
is carried out. -/
def carryOut {ε : Type} (faults : Faults Call) (request : Call) (error : ε) (s : σ)
    (done : Except ε α × σ) : Except ε α × σ :=
  if faults.raises request then (.error error, if faults.applied request then done.2 else s)
  else done

section CarryOut

variable {ε : Type} {faults : Faults Call} {request : Call} {error : ε} {s : σ}
  {done : Except ε α × σ}

theorem carryOut_of_quiet (quiet : ¬ faults.raises request = true) :
    faults.carryOut request error s done = done := if_neg quiet

theorem carryOut_of_raises (raised : faults.raises request = true) :
    faults.carryOut request error s done =
      (.error error, if faults.applied request then done.2 else s) := if_pos raised

@[simp] theorem carryOut_never : (never : Faults Call).carryOut request error s done = done := rfl

theorem carryOut_refusing {raises : Call → Bool} :
    (refusing raises).carryOut request error s done =
      if raises request then (.error error, s) else done := by
  unfold carryOut refusing
  split <;> rfl

/-- What a call leaves is what it does or what was there. -/
theorem carryOut_snd : (faults.carryOut request error s done).2 =
    if faults.carriesOut request then done.2 else s := by
  unfold carryOut carriesOut
  cases faults.raises request <;> rfl

end CarryOut

end Faults

/-! ## Preconditions -/

/-- The rules of a calculus over ghost phases `Φ`: which calls are allowed in a
phase, which answers they may get there and which phase follows. -/
structure Rules (Call : Type) (Reply : Call → Type) (Φ : Type) where
  allowed : Φ → Call → Prop
  admits : (phase : Φ) → (request : Call) → Reply request → Prop
  after : (phase : Φ) → (request : Call) → Reply request → Φ

variable {Φ : Type}

/-- The weakest precondition: every call the program can come to is allowed,
whatever admitted answers came before, and it ends in `post`. -/
def wp (rules : Rules Call Reply Φ) (post : α → Φ → Prop) : Program Call Reply α → Φ → Prop
  | done value, phase => post value phase
  | call request next, phase =>
      rules.allowed phase request ∧ ∀ answer, rules.admits phase request answer →
        wp rules post (next answer) (rules.after phase request answer)

@[simp] theorem wp_done (rules : Rules Call Reply Φ) (post : α → Φ → Prop) (value : α)
    (phase : Φ) : wp rules post (done value) phase = post value phase := rfl

@[simp] theorem wp_perform (rules : Rules Call Reply Φ) (request : Call)
    (post : Reply request → Φ → Prop) (phase : Φ) :
    wp rules post (perform request) phase ↔
      rules.allowed phase request ∧ ∀ answer, rules.admits phase request answer →
        post answer (rules.after phase request answer) := Iff.rfl

/-- **Sequencing rule.** -/
@[simp] theorem wp_bind (rules : Rules Call Reply Φ) (post : β → Φ → Prop)
    (program : Program Call Reply α) (next : α → Program Call Reply β) (phase : Φ) :
    wp rules post (program >>= next) phase =
      wp rules (fun value => wp rules post (next value)) program phase := by
  induction program generalizing phase with
  | done value => rfl
  | call request rest ih => simp only [call_bind, wp, ih]

/-- **Consequence rule.** -/
theorem wp_mono {rules : Rules Call Reply Φ} {post weaker : α → Φ → Prop}
    (implies : ∀ value phase, post value phase → weaker value phase)
    {program : Program Call Reply α} {phase : Φ} (holds : wp rules post program phase) :
    wp rules weaker program phase := by
  induction program generalizing phase with
  | done value => exact implies value phase holds
  | call request rest ih =>
      exact ⟨holds.1, fun answer admitted => ih answer (holds.2 answer admitted)⟩

/-- **Refinement rule.**  What is shown in one calculus holds in every other that
simulates it: there the calls the first allows are allowed, the answers admitted
are admitted by the first, and the phases stay related. -/
theorem wp_refine {Ψ : Type} {rules : Rules Call Reply Φ} {finer : Rules Call Reply Ψ}
    {related : Ψ → Φ → Prop} {post : α → Φ → Prop} {post' : α → Ψ → Prop}
    (simulates : ∀ ψ φ request, related ψ φ → rules.allowed φ request →
      finer.allowed ψ request ∧ ∀ answer, finer.admits ψ request answer →
        rules.admits φ request answer ∧
          related (finer.after ψ request answer) (rules.after φ request answer))
    (ends : ∀ value ψ φ, related ψ φ → post value φ → post' value ψ)
    {program : Program Call Reply α} {ψ : Ψ} {φ : Φ} (holds : wp rules post program φ)
    (start : related ψ φ) : wp finer post' program ψ := by
  induction program generalizing ψ φ with
  | done value => exact ends value ψ φ start holds
  | call request rest ih =>
      obtain ⟨allowed, continues⟩ := holds
      obtain ⟨permitted, follows⟩ := simulates ψ φ request start allowed
      refine ⟨permitted, fun answer admitted => ?_⟩
      obtain ⟨known, still⟩ := follows answer admitted
      exact ih answer (continues answer known) still

/-- One calculus for every input of a program; the phase remembers the input. -/
def Rules.each {P : Type} (rules : P → Rules Call Reply Φ) : Rules Call Reply (P × Φ) where
  allowed phase := (rules phase.1).allowed phase.2
  admits phase := (rules phase.1).admits phase.2
  after phase request answer := (phase.1, (rules phase.1).after phase.2 request answer)

/-- **Rule for families.**  What is shown in the calculus of an input holds in all
of them together. -/
theorem wp_each {P : Type} {rules : P → Rules Call Reply Φ} {post : α → P × Φ → Prop}
    {program : Program Call Reply α} {input : P} {phase : Φ} :
    wp (Rules.each rules) post program (input, phase) ↔
      wp (rules input) (fun value phase => post value (input, phase)) program phase := by
  induction program generalizing phase with
  | done value => rfl
  | call request rest ih =>
      exact and_congr Iff.rfl (forall_congr' fun answer => imp_congr Iff.rfl (ih answer))

/-- Where every call is allowed and every end is good, nothing is left to show. -/
theorem wp_of_allowed {rules : Rules Call Reply Φ} {post : α → Φ → Prop}
    (always : ∀ phase request, rules.allowed phase request)
    (holds : ∀ value phase, post value phase) (program : Program Call Reply α) (phase : Φ) :
    wp rules post program phase := by
  induction program generalizing phase with
  | done value => exact holds value phase
  | call request rest ih => exact ⟨always phase request, fun answer _ => ih answer _⟩

/-- Calls that move the phase nowhere leave it where it is. -/
theorem wp_of_still {rules : Rules Call Reply Φ} {post : α → Φ → Prop} {phase : Φ}
    (still : ∀ request, rules.allowed phase request ∧
      ∀ answer, rules.after phase request answer = phase)
    (holds : ∀ value, post value phase) (program : Program Call Reply α) :
    wp rules post program phase := by
  induction program with
  | done value => exact holds value
  | call request rest ih =>
      refine ⟨(still request).1, fun answer _ => ?_⟩
      rw [(still request).2 answer]
      exact ih answer

/-- **Soundness for sequential runs.**  Ghost phases follow the state through
`tracks`: a handler that keeps them in step carries the precondition to the
end of the run. -/
theorem run_of_wp {rules : Rules Call Reply Φ} {handler : Handler Call Reply σ}
    {tracks : Φ → σ → Prop} {post : α → Φ → Prop}
    (sound : ∀ phase request s, tracks phase s → rules.allowed phase request →
      rules.admits phase request (handler request s).1 ∧
        tracks (rules.after phase request (handler request s).1) (handler request s).2)
    {program : Program Call Reply α} {phase : Φ} {s : σ} (tracked : tracks phase s)
    (holds : wp rules post program phase) :
    ∃ final, tracks final (run handler program s).2 ∧ post (run handler program s).1 final := by
  induction program generalizing phase s with
  | done value => exact ⟨phase, tracked, holds⟩
  | call request rest ih =>
      obtain ⟨permitted, continues⟩ := holds
      obtain ⟨admitted, tracked'⟩ := sound phase request s tracked permitted
      exact ih _ tracked' (continues _ admitted)

/-! ## Calls within calls -/

section Relabel

variable {D : Type} {S : D → Type}

/-- The same program, its calls made under other names. -/
def relabel (inject : Call → D) : Program Call (fun request => S (inject request)) α →
    Program D S α
  | done value => done value
  | call request next => call (inject request) fun answer => (next answer).relabel inject

/-- The rules for the calls behind their new names. -/
def Rules.within (inject : Call → D) (rules : Rules D S Φ) :
    Rules Call (fun request => S (inject request)) Φ where
  allowed phase request := rules.allowed phase (inject request)
  admits phase request := rules.admits phase (inject request)
  after phase request := rules.after phase (inject request)

theorem wp_relabel {inject : Call → D} {rules : Rules D S Φ} {post : α → Φ → Prop}
    {program : Program Call (fun request => S (inject request)) α} {phase : Φ} :
    wp rules post (program.relabel inject) phase ↔
      wp (rules.within inject) post program phase := by
  induction program generalizing phase with
  | done value => rfl
  | call request next ih =>
      exact and_congr Iff.rfl (forall_congr' fun answer => imp_congr Iff.rfl (ih answer))

theorem run_relabel {inject : Call → D} {handler : Handler D S σ}
    {program : Program Call (fun request => S (inject request)) α} {s : σ} :
    run handler (program.relabel inject) s =
      run (fun request => handler (inject request)) program s := by
  induction program generalizing s with
  | done value => rfl
  | call request next ih => exact ih _

end Relabel

section Expand

variable {D : Type} {S : D → Type}

/-- The same program, each of its calls carried out by a program of its own. -/
def expand (body : (request : Call) → Program D S (Reply request)) :
    Program Call Reply α → Program D S α
  | done value => done value
  | call request next => body request >>= fun answer => (next answer).expand body

theorem expand_bind {body : (request : Call) → Program D S (Reply request)}
    {program : Program Call Reply α} {next : α → Program Call Reply β} :
    (program >>= next).expand body =
      program.expand body >>= fun value => (next value).expand body := by
  induction program with
  | done value => rfl
  | call request rest ih =>
      rw [call_bind, expand, expand, bind_assoc]
      exact congrArg (body request >>= ·) (funext ih)

@[simp] theorem expand_perform {body : (request : Call) → Program D S (Reply request)}
    {request : Call} : (perform request).expand body = body request := bind_done (body request)

end Expand

/-! ## One call at a time -/

/-- What every call would be answered at one moment. -/
abbrev Answers (Call : Type) (Reply : Call → Type) : Type := (request : Call) → Reply request

/-- Answer the call the program waits for; a finished program waits for none. -/
def advance : Program Call Reply α → Answers Call Reply → Option (Program Call Reply α)
  | done _, _ => none
  | call request next, answers => some (next (answers request))

end Program

/-! ## Programs that raise -/

/-- A program that may raise: state changes made before the raise stay. -/
abbrev Fallible (Call : Type) (Reply : Call → Type) (ε : Type) : Type → Type :=
  ExceptT ε (Program Call Reply)

namespace Fallible

variable {Call : Type} {Reply : Call → Type} {ε α β Φ : Type}

/-- Run a program that cannot raise. -/
def lift (program : Program Call Reply α) : Fallible Call Reply ε α :=
  ExceptT.lift program

/-- Make a call whose answer may be an exception. -/
def attempt (program : Program Call Reply (Except ε α)) : Fallible Call Reply ε α :=
  ExceptT.mk program

/-- Run a raising program to its end and forget what it raised. -/
def swallow {ε' : Type} (program : Fallible Call Reply ε' Unit) : Fallible Call Reply ε Unit :=
  lift (program.run >>= fun _ => pure ())

/-- A raising program, its calls made under other names. -/
def relabel {D : Type} {S : D → Type} (inject : Call → D)
    (program : Fallible Call (fun request => S (inject request)) ε α) : Fallible D S ε α :=
  ExceptT.mk (Program.relabel inject program.run)

section Expand

variable {D : Type} {S : D → Type} {body : (request : Call) → Program D S (Reply request)}

/-- A raising program, each of its calls carried out by a program of its own. -/
def expand (body : (request : Call) → Program D S (Reply request))
    (program : Fallible Call Reply ε α) : Fallible D S ε α :=
  ExceptT.mk (Program.expand body program.run)

@[simp] theorem expand_pure {value : α} :
    expand body (pure value : Fallible Call Reply ε α) = pure value := rfl

@[simp] theorem expand_attempt {program : Program Call Reply (Except ε α)} :
    expand body (attempt program) = attempt (program.expand body) := rfl

@[simp] theorem expand_lift {program : Program Call Reply α} :
    expand body (lift program : Fallible Call Reply ε α) = lift (program.expand body) := by
  refine congrArg ExceptT.mk ?_
  rw [lift, ExceptT.run_lift, map_eq_pure_bind, Program.expand_bind]
  exact (map_eq_pure_bind Except.ok (program.expand body)).symm

@[simp] theorem expand_bind {program : Fallible Call Reply ε α}
    {next : α → Fallible Call Reply ε β} :
    expand body (program >>= next) =
      expand body program >>= fun value => expand body (next value) := by
  refine Program.expand_bind.trans ?_
  refine congrArg (Program.expand body program.run >>= ·) (funext fun result => ?_)
  cases result <;> rfl

@[simp] theorem expand_tryCatch {program : Fallible Call Reply ε α}
    {rescue : ε → Fallible Call Reply ε α} :
    expand body (tryCatch program rescue) =
      tryCatch (expand body program) fun error => expand body (rescue error) := by
  refine Program.expand_bind.trans ?_
  refine congrArg (Program.expand body program.run >>= ·) (funext fun result => ?_)
  cases result <;> rfl

end Expand

section Exec

variable {σ : Type} {handler : Program.Handler Call Reply σ} {s after : σ}

/-- Run a raising program to its end, normal or not. -/
def exec (handler : Program.Handler Call Reply σ) (program : Fallible Call Reply ε α) (s : σ) :
    Except ε α × σ :=
  Program.run handler program.run s

@[simp] theorem exec_pure {value : α} :
    exec handler (pure value : Fallible Call Reply ε α) s = (.ok value, s) := rfl

@[simp] theorem exec_throw {error : ε} :
    exec handler (throw error : Fallible Call Reply ε α) s = (.error error, s) := rfl

@[simp] theorem exec_attempt {program : Program Call Reply (Except ε α)} :
    exec handler (attempt program) s = Program.run handler program s := rfl

@[simp] theorem exec_lift {program : Program Call Reply α} :
    exec handler (lift program : Fallible Call Reply ε α) s =
      (.ok (Program.run handler program s).1, (Program.run handler program s).2) := by
  rw [exec, lift, ExceptT.run_lift, map_eq_pure_bind, Program.run_bind]
  rfl

theorem exec_relabel {D : Type} {S : D → Type} {inject : Call → D}
    {handler : Program.Handler D S σ}
    {program : Fallible Call (fun request => S (inject request)) ε α} :
    exec handler (relabel inject program) s =
      exec (fun request => handler (inject request)) program s := Program.run_relabel

/-- A swallowed program leaves what it did, and never raises. -/
theorem exec_swallow {ε' : Type} {program : Fallible Call Reply ε' Unit} :
    exec handler (swallow program : Fallible Call Reply ε Unit) s =
      (.ok (), (exec handler program s).2) := by
  rw [swallow, exec_lift, Program.run_bind]
  rfl

theorem exec_bind {program : Fallible Call Reply ε α} {next : α → Fallible Call Reply ε β} :
    exec handler (program >>= next) s =
      match exec handler program s with
      | (.ok value, after) => exec handler (next value) after
      | (.error error, after) => (.error error, after) := by
  rw [exec, ExceptT.run_bind, Program.run_bind, exec]
  generalize Program.run handler program.run s = outcome
  obtain ⟨result, after⟩ := outcome
  cases result <;> rfl

/-- What a program does after a first part that succeeds. -/
theorem exec_bind_ok {program : Fallible Call Reply ε α} {next : α → Fallible Call Reply ε β}
    {value : α} (done : exec handler program s = (.ok value, after)) :
    exec handler (program >>= next) s = exec handler (next value) after := by
  rw [exec_bind, done]

/-- …and after one that raises: nothing. -/
theorem exec_bind_error {program : Fallible Call Reply ε α} {next : α → Fallible Call Reply ε β}
    {error : ε} (raised : exec handler program s = (.error error, after)) :
    exec handler (program >>= next) s = (.error error, after) := by
  rw [exec_bind, raised]

theorem exec_tryCatch {program : Fallible Call Reply ε α} {rescue : ε → Fallible Call Reply ε α} :
    exec handler (tryCatch program rescue) s =
      match exec handler program s with
      | (.ok value, after) => (.ok value, after)
      | (.error error, after) => exec handler (rescue error) after := by
  rw [exec, show (tryCatch program rescue).run = program.run >>= fun result =>
    match result with
    | .ok value => pure (.ok value)
    | .error error => (rescue error).run from rfl, Program.run_bind, exec]
  generalize Program.run handler program.run s = outcome
  obtain ⟨result, after⟩ := outcome
  cases result <;> rfl

end Exec

/-- The precondition of a raising program: it ends in `post`, or in `raised`
when it leaves with an exception. -/
def wpe (rules : Program.Rules Call Reply Φ) (post : α → Φ → Prop) (raised : ε → Φ → Prop)
    (program : Fallible Call Reply ε α) (phase : Φ) : Prop :=
  Program.wp rules (fun result phase =>
    match result with
    | .ok value => post value phase
    | .error error => raised error phase) program.run phase

section Rules

variable {rules : Program.Rules Call Reply Φ} {raised : ε → Φ → Prop} {phase : Φ}

@[simp] theorem wpe_pure {post : α → Φ → Prop} {value : α} :
    wpe rules post raised (pure value) phase ↔ post value phase := Iff.rfl

@[simp] theorem wpe_throw {post : α → Φ → Prop} {error : ε} :
    wpe rules post raised (throw error) phase ↔ raised error phase := Iff.rfl

@[simp] theorem wpe_attempt {post : α → Φ → Prop} {program : Program Call Reply (Except ε α)} :
    wpe rules post raised (attempt program) phase ↔
      Program.wp rules (fun result phase =>
        match result with
        | .ok value => post value phase
        | .error error => raised error phase) program phase := Iff.rfl

@[simp] theorem wpe_lift {post : α → Φ → Prop} {program : Program Call Reply α} :
    wpe rules post raised (lift program) phase ↔ Program.wp rules post program phase := by
  rw [wpe, lift, ExceptT.run_lift, map_eq_pure_bind, Program.wp_bind]
  rfl

/-- **Sequencing rule**: an exception skips the rest. -/
@[simp] theorem wpe_bind {post : β → Φ → Prop} {program : Fallible Call Reply ε α}
    {next : α → Fallible Call Reply ε β} :
    wpe rules post raised (program >>= next) phase ↔
      wpe rules (fun value => wpe rules post raised (next value)) raised program phase := by
  rw [wpe, wpe, ExceptT.run_bind, Program.wp_bind]
  refine iff_of_eq (congrArg (fun post => Program.wp rules post program.run phase) ?_)
  funext result phase
  cases result <;> rfl

/-- **Handling rule**: an exception starts the rescue. -/
@[simp] theorem wpe_tryCatch {post : α → Φ → Prop} {program : Fallible Call Reply ε α}
    {rescue : ε → Fallible Call Reply ε α} :
    wpe rules post raised (tryCatch program rescue) phase ↔
      wpe rules post (fun error => wpe rules post raised (rescue error)) program phase := by
  rw [wpe, wpe, show (tryCatch program rescue).run = program.run >>= fun result =>
    match result with
    | .ok value => pure (.ok value)
    | .error error => (rescue error).run from rfl, Program.wp_bind]
  refine iff_of_eq (congrArg (fun post => Program.wp rules post program.run phase) ?_)
  funext result phase
  cases result <;> rfl

/-- **Forgetting rule**: both ends of the program go on alike. -/
@[simp] theorem wpe_swallow {ε' : Type} {post : Unit → Φ → Prop}
    {program : Fallible Call Reply ε' Unit} :
    wpe rules post raised (swallow program : Fallible Call Reply ε Unit) phase ↔
      wpe rules post (fun _ => post ()) program phase := by
  rw [swallow, wpe_lift, Program.wp_bind, wpe]
  refine iff_of_eq (congrArg (fun post => Program.wp rules post program.run phase) ?_)
  funext result phase
  cases result <;> rfl

/-- **Cleaning up** on the way out: the error goes on, or the one the cleaning raises. -/
theorem wpe_rethrow {post : β → Φ → Prop} {cleanup : Program Call Reply (Except ε α)} {error : ε}
    (cleans : Program.wp rules (fun _ later => ∀ error, raised error later) cleanup phase) :
    wpe rules post raised (attempt cleanup >>= fun _ => throw error) phase := by
  rw [wpe_bind, wpe_attempt]
  refine Program.wp_mono (fun result later out => ?_) cleans
  cases result with
  | ok value => exact out error
  | error other => exact out other

theorem wpe_relabel {D : Type} {S : D → Type} {inject : Call → D} {rules : Program.Rules D S Φ}
    {post : α → Φ → Prop} {program : Fallible Call (fun request => S (inject request)) ε α} :
    wpe rules post raised (relabel inject program) phase ↔
      wpe (rules.within inject) post raised program phase := Program.wp_relabel

/-- **Refinement rule.** -/
theorem wpe_refine {Ψ : Type} {finer : Program.Rules Call Reply Ψ} {related : Ψ → Φ → Prop}
    {post : α → Φ → Prop} {post' : α → Ψ → Prop} {raised' : ε → Ψ → Prop}
    (simulates : ∀ ψ φ request, related ψ φ → rules.allowed φ request →
      finer.allowed ψ request ∧ ∀ answer, finer.admits ψ request answer →
        rules.admits φ request answer ∧
          related (finer.after ψ request answer) (rules.after φ request answer))
    (ends : ∀ value ψ φ, related ψ φ → post value φ → post' value ψ)
    (raises : ∀ error ψ φ, related ψ φ → raised error φ → raised' error ψ)
    {program : Fallible Call Reply ε α} {ψ : Ψ} (holds : wpe rules post raised program phase)
    (start : related ψ phase) : wpe finer post' raised' program ψ := by
  refine Program.wp_refine simulates (fun result ψ φ same reached => ?_) holds start
  cases result with
  | ok value => exact ends value ψ φ same reached
  | error error => exact raises error ψ φ same reached

/-- **Consequence rule.** -/
theorem wpe_mono {post weaker : α → Φ → Prop} {raised' : ε → Φ → Prop}
    (implies : ∀ value phase, post value phase → weaker value phase)
    (raises : ∀ error phase, raised error phase → raised' error phase)
    {program : Fallible Call Reply ε α} (holds : wpe rules post raised program phase) :
    wpe rules weaker raised' program phase := by
  refine Program.wp_mono (fun result phase reached => ?_) holds
  cases result with
  | ok value => exact implies value phase reached
  | error error => exact raises error phase reached

end Rules

end Fallible

end PersonTracking.Library
