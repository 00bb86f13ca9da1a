import ProcessorSockets.Environment
import ProcessorSockets.Json.Printer
import ProcessorSockets.Limits
import ProcessorSockets.Trace
import ProcessorSockets.TransportKind

namespace ProcessorSockets

structure Config where
  kind : TransportKind := .rpmsg
  addressFamily : Int := Limits.addressFamily
  socketDirectory : String := Limits.socketDirectory
  localCpu : String := Limits.localCpu
  deriving DecidableEq, Repr

namespace Config

def standard : Config := {}

def unix (directory : String) : Config :=
  { kind := .unix, socketDirectory := directory }

def transportVariable : String := "RPMSG_TRANSPORT"

def familyVariable : String := "RPMSG_ADDRESS_FAMILY"

def directoryVariable : String := "RPMSG_SOCKET_DIR"

def cpuVariable : String := "RPMSG_LOCAL_CPU"

def traceJsonVariable : String := "RPMSG_TRACE_JSON"

def family? (s : String) : Option Int :=
  (Text.Decimal.word? (Text.trim s.toList)).filter (0 < ·)

abbrev Warned (α : Type) := α × List Event

def kindOf : Option String → Warned TransportKind
  | none => (standard.kind, [])
  | some s =>
    match TransportKind.parse s with
    | .ok kind => (kind, [])
    | .error _ => (standard.kind, [⟨.warn, "Ignoring " ++ transportVariable⟩])

def familyOf : Option String → Warned Int
  | none => (standard.addressFamily, [])
  | some s =>
    match family? s with
    | some n => (n, [])
    | none => (standard.addressFamily, [⟨.warn, "Ignoring invalid " ++ familyVariable⟩])

def ofEnvironment (env : Environment) : Warned Config :=
  let kind := kindOf (env.text? transportVariable)
  let family := familyOf (env.text? familyVariable)
  ({ kind := kind.1
     addressFamily := family.1
     socketDirectory := (env.nonempty? directoryVariable).getD standard.socketDirectory
     localCpu := (env.nonempty? cpuVariable).getD standard.localCpu },
    kind.2 ++ family.2)

def toJson (c : Config) : List Char :=
  Json.printObject
    [Json.printMember "kind" (Json.printString c.kind.name),
      Json.printMember "address_family" (Json.printInt c.addressFamily),
      Json.printMember "socket_dir" (Json.printString c.socketDirectory),
      Json.printMember "local_cpu" (Json.printString c.localCpu)]

end Config

end ProcessorSockets
