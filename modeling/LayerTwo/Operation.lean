import LayerTwo.Failure

/-! Calls that log, fail and keep something for the calls after them. A failure does not undo the
log records or the state of what came before it. -/
namespace LayerTwo

inductive Level where
  | debug | warning | error
deriving DecidableEq

/-- The part of the library that a record comes from. -/
inductive Area where
  | contracts | networks | messages | wire | payloads
deriving DecidableEq

structure LogRecord where
  level : Level
  area : Area
  message : String
deriving DecidableEq

/-- What a call leaves behind. -/
structure Outcome (σ α : Type) where
  log : List LogRecord
  state : σ
  result : Except Failure α

def Operation (σ α : Type) := σ → Outcome σ α

namespace Operation

variable {σ α β : Type}

protected def pure (a : α) : Operation σ α := fun state => ⟨[], state, .ok a⟩

protected def bind (first : Operation σ α) (next : α → Operation σ β) : Operation σ β :=
  fun state =>
    let outcome := first state
    match outcome.result with
    | .ok a =>
      let rest := next a outcome.state
      ⟨outcome.log ++ rest.log, rest.state, rest.result⟩
    | .error failure => ⟨outcome.log, outcome.state, .error failure⟩

instance : Monad (Operation σ) where
  pure := Operation.pure
  bind := Operation.bind

def fail (failure : Failure) : Operation σ α := fun state => ⟨[], state, .error failure⟩

def ofExcept (result : Except Failure α) : Operation σ α := fun state => ⟨[], state, result⟩

def log (level : Level) (area : Area) (message : String) : Operation σ Unit :=
  fun state => ⟨[⟨level, area, message⟩], state, .ok ()⟩

def get : Operation σ σ := fun state => ⟨[], state, .ok state⟩

def set (state : σ) : Operation σ Unit := fun _ => ⟨[], state, .ok ()⟩

/-- The result, with its failure as a value. -/
def attempt (operation : Operation σ α) : Operation σ (Except Failure α) := fun state =>
  let outcome := operation state
  ⟨outcome.log, outcome.state, .ok outcome.result⟩

/-- Runs operations one after another, each on the state that those before it leave. -/
def runAll (operations : List (Operation σ α)) : Operation σ (List (Except Failure α)) :=
  operations.mapM attempt

/-- Logs a message, or fails if what it shows cannot be shown. -/
def logShown (level : Level) (area : Area) : (message? : Option String) → Operation σ Unit
  | some message => log level area message
  | none => fail (.badValue .unprintable)

/-- Logs a failure as an error before it is raised. A failure without a message is not raised: the
lack of the message is the failure. -/
def logged (area : Area) (failure : Failure) : Operation σ α := do
  logShown .error area failure.message?
  fail failure

end Operation

end LayerTwo
