import ProcessorSockets.Echo.Peer
import ProcessorSockets.Echo.Program
import ProcessorSockets.Transport.Selection

namespace ProcessorSockets.Echo

def levelVariable : String := "RUST_LOG"

def verbosity (env : Environment) : Nat :=
  match (env.text? levelVariable).map fun s => String.ofList (Text.lowerAscii s.toList) with
  | some "off" => 0
  | some "error" => Level.error.verbosity
  | some "warn" => Level.warn.verbosity
  | some "debug" => Level.debug.verbosity
  | some "trace" => Level.trace.verbosity
  | _ => Level.info.verbosity

def logsJson (env : Environment) : Bool :=
  env.text? Config.traceJsonVariable = some "1" ∨ env.text? Config.traceJsonVariable = some "true"

/-- The line for an entry of a log.  Only the layout in JSON has one for a span that was
closed. -/
def line? (json : Bool) : Entry → Option Event
  | .event e => some e
  | .told _ e => some e
  | .closed _ => if json then some ⟨.debug, "close"⟩ else none
  | _ => none

def lines (env : Environment) (log : List Entry) : List Event :=
  (log.filterMap (line? (logsJson env))).filter (·.level.verbosity ≤ verbosity env)

def initialized (env : Environment) : Event :=
  ⟨.info, if logsJson env then "Structured tracing initialized with JSON output"
    else "Structured tracing initialized"⟩

structure Run (σ : Type) where
  printed : List Event
  /-- The lines of the usage and the report of a run that failed. -/
  complaint : List String
  world : World σ

namespace Run

variable {σ : Type}

def log (r : Run σ) : List Event := r.printed.filter fun e => e ≠ .completed ∧ e ≠ .slow

def status (r : Run σ) : Nat := if r.complaint = [] then 0 else 1

end Run

variable {σ : Type}

def run (transport : Config → Transport σ) (env : Environment) (arguments : List String)
    (state : σ) : Run σ :=
  let first := Entry.event (initialized env)
  match Mode.ofArguments? arguments with
  | none =>
    { printed := lines env [first]
      complaint := usage ++ unknownMode.lines
      world := { transport := state } }
  | some mode =>
    let (config, warnings) := Config.ofEnvironment env
    let entries := first :: warnings.map Entry.event ++ [.event Config.selected]
    let world : World σ := { transport := state, log := entries }
    let (r, world) := mode.program (Link.direct (transport config)) world
    { printed := lines env world.log
      complaint := match r with
        | .ok _ => []
        | .error report => report.lines
      world }

/-- Runs the command next to a peer, and lets the peer finish.  Also tells what the peer
heard. -/
def runBeside (env : Environment) (arguments : List String) (peer : Option Peer)
    (kernel : UnixDomain.State) :
    Run (Desk UnixDomain.State × Option Peer) × Option (List UInt8) :=
  let r := run (fun c => Peer.beside (c.transport UnixDomain.kernel)) env arguments
    ({ kernel }, peer)
  let (desk, peer) := r.world.transport
  (r, peer.bind fun p => (p.settle desk.kernel).1.heard)

end ProcessorSockets.Echo
