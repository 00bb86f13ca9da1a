import ProcessorSockets.Action
import ProcessorSockets.Limits
import ProcessorSockets.SocketOption

/-! Endpoints.  An endpoint holds at most one descriptor of the transport and makes every
request about it.  A descriptor that the endpoint made itself is owned: the endpoint closes
it, at the latest when nothing refers to the endpoint any more.  One that came from
elsewhere is only ever detached. -/

namespace ProcessorSockets

namespace Endpoint

variable {σ α : Type} (L : Link σ) (ep : Endpoint)

def make (h : Handle) : StateM (World σ) Endpoint := fun w =>
  (⟨w.endpoints.length⟩, { w with endpoints := w.endpoints ++ [{ handle := h }] })

def fresh : StateM (World σ) Endpoint := make {}

def adopt (fd : Descriptor) : StateM (World σ) Endpoint := make { fd := some fd }

def handle : StateM (World σ) Handle := fun w => (w.handle ep, w)

def setHandle (h : Handle) : StateM (World σ) Unit := modify (·.setHandle ep h)

def fd : Action σ Descriptor := do
  match (← Action.plain ep.handle).fd with
  | some fd => return fd
  | none => throw .notCreated

theorem run_fd (w : World σ) :
    ep.fd w = (match (w.handle ep).fd with
      | some fd => .ok fd
      | none => .error .notCreated, w) := by
  simp only [Endpoint.fd, Action.run_bind, Action.run_plain, Endpoint.handle]
  cases (w.handle ep).fd <;> rfl

def ask (operation : String) (r : Request) : Action σ r.Reply := fun w =>
  let (reply, w) := L.send (some ep) r w
  (reply.mapError (.native operation), w)

def exclusively {β : Type} (step : StateM (World σ) β) : StateM (World σ) β := fun w =>
  let (r, w) := step (w.setCreating ep true)
  (r, w.setCreating ep false)

def create (kind : SocketKind) : Action σ Unit := traced L "create" do
  let h ← Traced.plain ep.handle
  if h.fd.isSome then Traced.finish (throw .alreadyExists)
  let native ← Traced.finish (.ofExcept kind.native)
  let fd ← Traced.finish (ep.exclusively (ep.ask L "create" (.create native 0)))
  Traced.plain (ep.setHandle (.owning fd))
  Traced.note (·.recordDescriptor fd)
  Traced.plain (World.emit .debug "Created socket")

def bind (address : Address) : Action σ Unit := traced L "bind" do
  Traced.note (·.recordAddress address.cpu address.name)
  let fd ← Traced.finish ep.fd
  Traced.note (·.recordDescriptor fd)
  Traced.finish (ep.ask L "bind" (.bind fd address))

def listen (backlog : Int) : Action σ Unit := traced L "listen" do
  let fd ← Traced.finish ep.fd
  Traced.note (·.recordDescriptor fd)
  Traced.finish (ep.ask L "listen" (.listen fd backlog))

def turnAway (peer : Descriptor) : StateM (World σ) Unit := do
  match ← L.send (some ep) (.close peer) with
  | .ok _ => pure ()
  | .error _ => World.emit .warn "Failed to discard accepted descriptor"

def accept (into : Endpoint) : Action σ Unit := traced L "accept" do
  let fd ← Traced.finish ep.fd
  Traced.note (·.recordDescriptor fd)
  if (← Traced.plain into.handle).fd.isSome then Traced.finish (throw .alreadyExists)
  let peer ← Traced.finish (ep.ask L "accept" (.accept fd))
  if (← Traced.plain into.handle).fd.isSome then
    Traced.plain (ep.turnAway L peer)
    Traced.finish (throw .alreadyExists)
  else
    Traced.plain (into.setHandle (.owning peer))
    Traced.plain (World.emit .debug "Accepted connection")
    Traced.note (·.recordResult true)

/-- The transport alone decides how long this blocks; a timeout is only remarked upon. -/
def connect (address : Address) (timeout : Int) : Action σ Unit := traced L "connect" do
  Traced.note (·.recordAddress address.cpu address.name)
  let fd ← Traced.finish ep.fd
  Traced.note (·.recordDescriptor fd)
  if timeout ≠ 0 then Traced.plain (World.emit .trace "connect timeout not enforced")
  Traced.finish (ep.ask L "connect" (.connect fd address))

def closeOwned (fd : Descriptor) : Action σ Unit := do
  match ← Action.plain (L.send (some ep) (.shutdown fd .both)) with
  | .ok _ => pure ()
  | .error _ => Action.plain (World.emit .trace "shutdown before close failed")
  ep.ask L "close" (.close fd)
  Action.plain (World.emit .debug "Closed descriptor")

/-- Gives the descriptor up: an owned one is closed, another only detached. -/
def close : Action σ Unit := traced L "close" do
  let h ← Traced.plain ep.handle
  match h.fd with
  | none => throw .notCreated
  | some fd =>
    Traced.plain (ep.setHandle {})
    Traced.note (·.recordDescriptor fd)
    if h.owned then Traced.finish (ep.closeOwned L fd)
    else
      Traced.plain (World.emit .debug "Detached adopted descriptor without closing it")
      Traced.note (·.recordResult true)

def release : Action σ Unit := do
  if (← Action.plain ep.handle).owned then
    match ← (ep.close L).attempt with
    | .error .notCreated => return
    | r => Action.ofExcept r

def discard : StateM (World σ) Unit := do
  match ← ep.handle with
  | ⟨some fd, true⟩ =>
    ep.setHandle {}
    match ← ep.exclusively (L.send (some ep) (.close fd)) with
    | .ok _ => World.emit .trace "Closed descriptor on drop"
    | .error _ => World.emit .warn "Failed to close descriptor on drop"
  | _ => ep.setHandle {}

def shutdown (half : Half) : Action σ Unit := do
  ep.ask L "shutdown" (.shutdown (← ep.fd) half)

def timeoutValue (d : Duration) : Int := min (d.millis : Int) Word.greatest

def getOption (option : SocketOption) : Action σ Int := do
  let fd ← ep.fd
  match option with
  | .timeout => return timeoutValue (← ep.ask L "getsockopt" (.getTimeout fd .send))
  | .receiveBufferSize => ep.ask L "getsockopt" (.getBuffer fd .receive)
  | .sendBufferSize => ep.ask L "getsockopt" (.getBuffer fd .send)

/-- Sets the timeout for both directions or, unless even the way back fails, for neither. -/
def setTimeout (fd : Descriptor) (timeout : Duration) : Action σ Unit := do
  let previous ← ep.ask L "getsockopt" (.getTimeout fd .receive)
  ep.ask L "setsockopt" (.setTimeout fd .receive timeout)
  match ← (ep.ask L "setsockopt" (.setTimeout fd .send timeout)).attempt with
  | .ok _ => return
  | .error e =>
    match ← Action.plain (L.send (some ep) (.setTimeout fd .receive previous)) with
    | .ok _ => pure ()
    | .error _ => Action.plain (World.emit .warn "Failed to restore receive timeout")
    throw e

def setOption (option : SocketOption) (value : Int) : Action σ Unit := traced L "set_option" do
  if value < 0 then
    Traced.finish (throw (.invalidArgument s!"negative value {value} for {option.name}"))
  let fd ← Traced.finish ep.fd
  Traced.note (·.recordDescriptor fd)
  Traced.finish (match option with
    | .timeout => ep.setTimeout L fd (.ofMillis value.toNat)
    | .receiveBufferSize => ep.ask L "setsockopt" (.setBuffer fd .receive value)
    | .sendBufferSize => ep.ask L "setsockopt" (.setBuffer fd .send value))

def inputStream : Action σ InputStream := do
  let _ ← ep.fd
  let w ← Action.plain get
  match (w.endpoint ep).input with
  | some serial => return ⟨ep, serial⟩
  | none =>
    let w := w.setEndpoint ep { w.endpoint ep with input := some w.nextStream }
    Action.plain (set { w with nextStream := w.nextStream + 1 })
    return ⟨ep, w.nextStream⟩

def outputStream : Action σ OutputStream := do
  let _ ← ep.fd
  let w ← Action.plain get
  match (w.endpoint ep).output with
  | some serial => return ⟨ep, serial⟩
  | none =>
    let w := w.setEndpoint ep { w.endpoint ep with output := some w.nextStream }
    Action.plain (set { w with nextStream := w.nextStream + 1 })
    return ⟨ep, w.nextStream⟩

def optional : Option Descriptor → String
  | none => "None"
  | some fd => "Some(" ++ toString fd ++ ")"

def description (h : Handle) : String :=
  "EndpointDescriptor \x7b transport: " ++ quoted L.name ++ ", fd: " ++ optional h.fd ++
    ", owned: " ++ toString h.owned ++ " \x7d"

def display (h : Handle) : String :=
  match h.fd with
  | some fd => L.name ++ " fd:" ++ toString fd
  | none => L.name ++ " fd:none"

end Endpoint

end ProcessorSockets
