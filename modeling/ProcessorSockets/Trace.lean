import ProcessorSockets.Time

/-! What the sockets tell about themselves: events of some level, and one span for each
traced operation.  A span carries what was recorded about the operation; recording a field
again replaces it. -/

namespace ProcessorSockets

inductive Level
  | error
  | warn
  | info
  | debug
  | trace
  deriving DecidableEq, Repr

namespace Level

def name : Level → String
  | .error => "ERROR"
  | .warn => "WARN"
  | .info => "INFO"
  | .debug => "DEBUG"
  | .trace => "TRACE"

def verbosity : Level → Nat
  | .error => 1
  | .warn => 2
  | .info => 3
  | .debug => 4
  | .trace => 5

end Level

structure Event where
  level : Level
  message : String
  deriving DecidableEq, Repr

namespace Event

def line (e : Event) : String := e.level.name ++ " " ++ e.message

def started : Event := ⟨.debug, "operation started"⟩

def completed : Event := ⟨.debug, "operation completed"⟩

def slow : Event := ⟨.warn, "slow socket operation"⟩

def ended (elapsed : Duration) : Event := if elapsed.isLong then slow else completed

end Event

inductive Outcome
  | success
  | failure
  deriving DecidableEq, Repr

def Outcome.name : Outcome → String
  | .success => "success"
  | .failure => "error"

structure Span where
  operation : String
  fd : Option Int := none
  cpu : Option String := none
  name : Option String := none
  result : Option Outcome := none
  error : Option String := none
  durationMicros : Option UInt64 := none
  durationMillis : Option UInt64 := none
  deriving DecidableEq, Repr

namespace Span

def opened (operation : String) : Span := { operation }

def recordDescriptor (s : Span) (fd : Int) : Span := { s with fd := some fd }

def recordAddress (s : Span) (cpu name : String) : Span :=
  { s with cpu := some cpu, name := some name }

def recordResult (s : Span) (success : Bool) : Span :=
  { s with result := some (if success then .success else .failure) }

def recordError (s : Span) (message : String) : Span :=
  { s with error := some message, result := some .failure }

def finish {ε α : Type} (s : Span) (message : ε → String) : Except ε α → Span
  | .ok _ => s.recordResult true
  | .error e => s.recordError (message e)

/-- Only of a slow operation the milliseconds are recorded; the count keeps its low 64
bits. -/
def took (s : Span) (elapsed : Duration) : Span :=
  if elapsed.isLong then { s with durationMillis := some (.ofNat elapsed.millis) }
  else { s with durationMicros := some (.ofNat elapsed.micros) }

@[simp] theorem operation_finish {ε α : Type} (s : Span) (message : ε → String)
    (r : Except ε α) : (s.finish message r).operation = s.operation := by
  cases r <;> rfl

@[simp] theorem operation_took (s : Span) (elapsed : Duration) :
    (s.took elapsed).operation = s.operation := by
  unfold took
  split <;> rfl

@[simp] theorem result_took (s : Span) (elapsed : Duration) :
    (s.took elapsed).result = s.result := by
  unfold took
  split <;> rfl

@[simp] theorem error_took (s : Span) (elapsed : Duration) :
    (s.took elapsed).error = s.error := by
  unfold took
  split <;> rfl

end Span

end ProcessorSockets
