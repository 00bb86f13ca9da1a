import ProcessorSockets.Guard
import ProcessorSockets.Socket

namespace ProcessorSockets

namespace Server

variable {σ α : Type} (L : Link σ)

def guarded (ep : Endpoint) (setup : Traced σ α) : Traced σ α := fun span w =>
  match setup span w with
  | ((.ok a, span), w) => ((.ok a, span), w)
  | ((.error e, span), w) => ((.error e, span), ((Guard.around ep).discard L w).2)

def keeping (ep : Endpoint) (step : Action σ α) : Action σ α := fun w =>
  match step w with
  | (.ok a, w) => (.ok a, w)
  | (.error e, w) => (.error e, (ep.discard L w).2)

def keepingTraced (ep : Endpoint) (step : Traced σ α) : Traced σ α := fun span w =>
  match step span w with
  | ((.ok a, span), w) => ((.ok a, span), w)
  | ((.error e, span), w) => ((.error e, span), (ep.discard L w).2)

def setUp (ep : Endpoint) (address : Address) : Traced σ Server := do
  Traced.finish (ep.create L .stream)
  guarded L ep do
    Traced.finish (ep.bind L address)
    Traced.finish (ep.listen L Limits.listenBacklog)
  let h ← Traced.plain ep.handle
  if let some fd := h.fd then Traced.note (·.recordDescriptor fd)
  Traced.plain (World.emit .info "Server socket listening")
  return ⟨ep, some address⟩

def bind (name : String) : Action σ Server :=
  let address := Address.here name
  traced L "server_bind" do
    Traced.note (·.recordAddress address.cpu address.name)
    let ep ← Traced.plain Endpoint.fresh
    keepingTraced L ep (setUp L ep address)

def adopt (fd : Descriptor) : Action σ Server := do
  let ep ← Action.plain (Endpoint.adopt fd)
  keeping L ep do
    ep.listen L Limits.listenBacklog
    return ⟨ep, none⟩

variable (s : Server)

def localAddress : Action σ Address :=
  match s.address? with
  | some address => pure address
  | none => throw (.unsupported "address of adopted server descriptor")

def accept : Action σ Socket := do
  let ep ← Action.plain Endpoint.fresh
  keeping L ep do
    s.endpoint.accept L ep
    Action.plain (Socket.ofAccepted ep)

def close : Action σ Unit := s.endpoint.release L

def description (w : World σ) : String :=
  "RpmsgServerSocket \x7b endpoint: " ++ Endpoint.description L (w.handle s.endpoint) ++
    ", address: " ++
    (match s.address? with
      | none => "None"
      | some address => "Some(" ++ address.description ++ ")") ++ " \x7d"

end Server

end ProcessorSockets
