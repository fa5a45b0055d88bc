import DemuxSession.Log

/-!
# Actions

An action reads and changes a state, gives a value, and leaves a trace: the lines
it logged and the calls it made to the outside, each in order.  Actions are
composed with `do`; the traces of the parts follow one another.
-/

namespace DemuxSession

/-- What an action leaves behind. -/
structure Outcome (State Call Value : Type) where
  value : Value
  state : State
  log : List LogLine
  calls : List Call

/-- A computation on a state that logs lines and makes calls. -/
def Action (State Call Value : Type) : Type :=
  State → Outcome State Call Value

namespace Action

variable {State Call Value Next : Type}

instance : Monad (Action State Call) where
  pure value := fun state => ⟨value, state, [], []⟩
  bind action next := fun state =>
    let first := action state
    let second := next first.value first.state
    ⟨second.value, second.state, first.log ++ second.log, first.calls ++ second.calls⟩

/-- Logs one line. -/
def log (line : LogLine) : Action State Call Unit :=
  fun state => ⟨(), state, [line], []⟩

/-- Makes one call to the outside. -/
def call (call : Call) : Action State Call Unit :=
  fun state => ⟨(), state, [], [call]⟩

/-- Gives a value of the state and replaces the state. -/
def update (change : State → Value × State) : Action State Call Value :=
  fun state => ⟨(change state).1, (change state).2, [], []⟩

/-- Gives a value of the state and keeps the state. -/
def read (view : State → Value) : Action State Call Value :=
  fun state => ⟨view state, state, [], []⟩

/-- The same action with its calls left unrecorded. -/
def withoutCalls {Other : Type} (action : Action State Call Value) : Action State Other Value :=
  fun state =>
    let outcome := action state
    ⟨outcome.value, outcome.state, outcome.log, []⟩

/-! ## What composition leaves behind -/

@[simp] theorem pure_apply (value : Value) (state : State) :
    (pure value : Action State Call Value) state = ⟨value, state, [], []⟩ := rfl

@[simp] theorem bind_apply (action : Action State Call Value)
    (next : Value → Action State Call Next) (state : State) :
    (action >>= next) state =
      ⟨(next (action state).value (action state).state).value,
        (next (action state).value (action state).state).state,
        (action state).log ++ (next (action state).value (action state).state).log,
        (action state).calls ++ (next (action state).value (action state).state).calls⟩ := rfl

@[simp] theorem log_apply (line : LogLine) (state : State) :
    (log line : Action State Call Unit) state = ⟨(), state, [line], []⟩ := rfl

@[simp] theorem call_apply (event : Call) (state : State) :
    (call event : Action State Call Unit) state = ⟨(), state, [], [event]⟩ := rfl

@[simp] theorem update_apply (change : State → Value × State) (state : State) :
    (update change : Action State Call Value) state =
      ⟨(change state).1, (change state).2, [], []⟩ := rfl

@[simp] theorem read_apply (view : State → Value) (state : State) :
    (read view : Action State Call Value) state = ⟨view state, state, [], []⟩ := rfl

@[simp] theorem withoutCalls_apply {Other : Type} (action : Action State Call Value)
    (state : State) :
    (action.withoutCalls : Action State Other Value) state =
      ⟨(action state).value, (action state).state, (action state).log, []⟩ := rfl

end Action

end DemuxSession
