import ProcessorSockets.Echo.Report
import ProcessorSockets.Server

/-! The round trip between two processors: a server sends sixteen bytes to the first peer
that connects and expects them back; a client expects them and sends them back.  Whatever
happens, every descriptor is closed in the end. -/

namespace ProcessorSockets.Echo

abbrev Program (σ α : Type) := ExceptT Report (StateM (World σ)) α

variable {σ α : Type}

namespace Program

def act (a : Action σ α) (report : SocketError → Report := Report.ofError) : Program σ α :=
  fun w =>
    let (r, w) := a w
    (r.mapError report, w)

def plain (m : StateM (World σ) α) : Program σ α := fun w =>
  let (a, w) := m w
  (.ok a, w)

def info (message : String) : Program σ Unit := plain (World.emit .info message)

def holding (L : Link σ) (ep : Endpoint) (part : Program σ α) : Program σ α := fun w =>
  let (r, w) := part w
  (r, (ep.discard L w).2)

end Program

def pattern : List UInt8 := (List.range 16).map UInt8.ofNat

def listing (bytes : List UInt8) : String :=
  "[" ++ ", ".intercalate (bytes.map fun b => toString b.toNat) ++ "]"

def echoMismatch (received : List UInt8) : Report :=
  { message := "echo mismatch: sent " ++ listing pattern ++ ", received " ++ listing received }

def payloadMismatch (received : List UInt8) : Report :=
  { message :=
      "payload mismatch: expected " ++ listing pattern ++ ", received " ++ listing received }

variable (L : Link σ)

def receive (s : Socket) : Program σ (List UInt8) := do
  let input ← Program.act (s.inputStream L)
  let (bytes, r) ← Program.plain (input.readExact L pattern.length)
  Program.act (.ofExcept r)
  return bytes

def send (s : Socket) (bytes : List UInt8) : Program σ Unit := do
  let output ← Program.act (s.outputStream L)
  Program.act (output.writeAll L bytes)

def exchange (server : Server) (peer : Socket) : Program σ Unit := do
  Program.info "Peer connected"
  send L peer pattern
  let echoed ← receive L peer
  if echoed ≠ pattern then throw (echoMismatch echoed)
  Program.act (peer.close L)
  Program.act (server.close L)
  Program.info "Round trip verified"

def serve (name : String) : Program σ Unit := do
  let server ← Program.act (Server.bind L name)
  Program.holding L server.endpoint do
    Program.info "Waiting for a peer"
    let peer ← Program.act (server.accept L)
    Program.holding L peer.endpoint (exchange L server peer)

def visit (cpu name : String) : Program σ Unit := do
  let socket ← Program.plain (Socket.fresh .stream)
  let address : Address := ⟨cpu, name⟩
  Program.holding L socket.endpoint do
    Program.act (socket.connect L address) (.during ("connecting to " ++ address.display))
    Program.info "Connected"
    let received ← receive L socket
    if received ≠ pattern then throw (payloadMismatch received)
    send L socket received
    Program.act (socket.close L)
    Program.info "Round trip verified"

inductive Mode
  | server (name : String)
  | client (cpu name : String)
  deriving DecidableEq, Repr

def Mode.ofArguments? : List String → Option Mode
  | "server" :: rest => some (.server (rest.headD "hello"))
  | "client" :: rest => some (.client (rest.headD "ap") ((rest.drop 1).headD "hello"))
  | _ => none

def Mode.program : Mode → Program σ Unit
  | .server name => serve L name
  | .client cpu name => visit L cpu name

def usage : List String :=
  ["Usage: rpmsg-echo server [name]", "       rpmsg-echo client [cpu] [name]"]

def unknownMode : Report := { message := "missing or unknown mode" }

end ProcessorSockets.Echo
