/-!
The schedule of steps and of waiting tasks.

One step runs at a time, until it finishes or has to wait for a signal. A step
that waits leaves its task behind in a line. A waiting task is woken by any
signal raised after it began to wait. Woken tasks are resumed one after another,
always the one that began its present wait first (`Waiting.nextWoken`); a task
that has to wait again goes to the end of the line.

* `Machine` says what starting a step and resuming a task do to a state.
* `Machine.drain` resumes woken tasks until none is left; `Machine.perform` runs
  one step and drains the line, and `Machine.run` does so for a list of steps.
-/

namespace PageTxn

/-- How far a task came when it had its turn: it waits, or it has a result. -/
inductive Turn (τ ρ : Type) where
  | parked (task : τ)
  | finished (result : ρ)
  deriving DecidableEq

/-- A task that waits. -/
structure Waiting (τ : Type) where
  /-- The number of the step that the task belongs to. -/
  step : Nat
  task : τ
  /-- How often the signal had been raised when the wait began. -/
  since : Nat

namespace Waiting

variable {τ : Type}

/-- Whether the signal was raised since the wait began. -/
def isWoken (signals : Nat) (waiting : Waiting τ) : Bool :=
  decide (waiting.since < signals)

/-- Take out the first woken task of the line. -/
def nextWoken (signals : Nat) :
    List (Waiting τ) → Option (Waiting τ × List (Waiting τ))
  | [] => none
  | waiting :: rest =>
      if waiting.isWoken signals then some (waiting, rest)
      else (nextWoken signals rest).map fun (found, others) => (found, waiting :: others)

end Waiting

/-- A machine with states `σ`, commands `γ`, waiting tasks `τ` and results
`ρ`. -/
structure Machine (σ γ τ ρ : Type) where
  /-- Start the step that a command asks for. -/
  start : σ → γ → σ × Turn τ ρ
  /-- Give a woken task its turn. -/
  resume : σ → τ → σ × Turn τ ρ
  /-- How often the signal was raised so far. -/
  signals : σ → Nat
  /-- A bound on the progress that a task can still make. -/
  budget : τ → Nat

/-- What a step brought: its own result if it has one, the results of the steps
that finished because of it, and what could be seen afterwards. -/
structure Entry (ρ ν : Type) where
  result : Option ρ
  woke : List (Nat × ρ)
  seen : ν

namespace Machine

variable {σ γ τ ρ ν : Type}

/-- Resume woken tasks until none is left; `fuel` bounds the number of turns. The
results come with the numbers of their steps, in the order in which the tasks
finished. -/
def drain (machine : Machine σ γ τ ρ) :
    Nat → σ → List (Waiting τ) → σ × List (Waiting τ) × List (Nat × ρ)
  | 0, state, line => (state, line, [])
  | fuel + 1, state, line =>
      match Waiting.nextWoken (machine.signals state) line with
      | none => (state, line, [])
      | some (waiting, others) =>
          match machine.resume state waiting.task with
          | (state, .parked task) =>
              machine.drain fuel state (others ++ [⟨waiting.step, task, machine.signals state⟩])
          | (state, .finished result) =>
              let (state, line, results) := machine.drain fuel state others
              (state, line, (waiting.step, result) :: results)

/-- A number of turns that suffices to drain a line. A turn either brings its
task forward, which lowers the budget of the task, or raises no signal and puts
the task back. Between two turns of the first kind each task has at most one of
the second. -/
def turns (machine : Machine σ γ τ ρ) (line : List (Waiting τ)) : Nat :=
  let progress := line.foldl (fun total waiting => total + machine.budget waiting.task + 1) 0
  (progress + 1) * (line.length + 1)

/-- Run the step with the number `step` and then every task that it woke. -/
def perform (machine : Machine σ γ τ ρ) (step : Nat) (state : σ)
    (line : List (Waiting τ)) (command : γ) :
    σ × List (Waiting τ) × Option ρ × List (Nat × ρ) :=
  let (state, line, result) :=
    match machine.start state command with
    | (state, .parked task) => (state, line ++ [⟨step, task, machine.signals state⟩], none)
    | (state, .finished result) => (state, line, some result)
  let (state, line, woke) := machine.drain (machine.turns line) state line
  (state, line, result, woke)

/-- Run steps one after another, numbered from `step` on, and tell what each
brought and which tasks still wait at the end. -/
def run (machine : Machine σ γ τ ρ) (observe : γ → σ → ν) :
    Nat → σ → List (Waiting τ) → List γ → List (Entry ρ ν) × List (Waiting τ)
  | _, _, line, [] => ([], line)
  | step, state, line, command :: rest =>
      let (state, line, result, woke) := machine.perform step state line command
      let (entries, line) := machine.run observe (step + 1) state line rest
      (⟨result, woke, observe command state⟩ :: entries, line)

end Machine

end PageTxn
