import ProcessorSockets.Stream

/-! Sockets.  A socket makes its descriptor when it first needs one, and binds and connects
at most once; a connection settles the binding, too.  A socket that is closed before it was
ever made is closed for good without a descriptor. -/

namespace ProcessorSockets

namespace Socket

variable {σ : Type} (L : Link σ)

def onto (ep : Endpoint) (st : SocketState) : StateM (World σ) Socket := fun w =>
  (⟨w.sockets.length, ep⟩, { w with sockets := w.sockets ++ [st] })

def fresh (kind : SocketKind) : StateM (World σ) Socket := do
  onto (← Endpoint.fresh) (.fresh kind)

def adopt (fd : Descriptor) : StateM (World σ) Socket := do
  World.emit .debug "Adopting connected descriptor"
  onto (← Endpoint.adopt fd) .established

def ofAccepted (ep : Endpoint) : StateM (World σ) Socket := onto ep .established

variable (s : Socket)

def state : Action σ SocketState := fun w => (.ok (w.socket s), w)

def update (f : SocketState → SocketState) : Action σ Unit := fun w =>
  (.ok (), w.setSocket s (f (w.socket s)))

/-- Makes the descriptor, unless that has been done.  After a failure the next operation
tries again. -/
def ensureCreated : Action σ Unit := do
  let st ← s.state
  if !st.created then
    s.endpoint.create L st.kind
    s.update fun st => { st with created := true }

def connect (address : Address) : Action σ Unit := do
  if (← s.state).connected then throw .alreadyConnected
  s.ensureCreated L
  s.endpoint.connect L address 0
  s.update fun st =>
    { st with connected := true, bound := true, remoteAddress := some address }

def connectTimeout (_ : Address) (_ : Int) : Action σ Unit :=
  throw (.unsupported "connect_timeout")

def bindCreated (address : Address) : Action σ Unit := do
  if (← s.state).bound then throw .alreadyBound
  s.endpoint.bind L address
  s.update fun st => { st with bound := true, localAddress := some address }

def bind (address : Address) : Action σ Unit := do
  s.ensureCreated L
  s.bindCreated L address

def inputStream : Action σ InputStream := do
  s.ensureCreated L
  s.endpoint.inputStream

def outputStream : Action σ OutputStream := do
  s.ensureCreated L
  s.endpoint.outputStream

def close : Action σ Unit := do
  if (← s.state).created then s.endpoint.release L
  else
    s.update fun st => { st with created := true }
    Action.plain (World.emit .debug "Closed socket that was never created")

def shutdownInput : Action σ Unit := do
  s.ensureCreated L
  s.endpoint.shutdown L .read

def shutdownOutput : Action σ Unit := do
  s.ensureCreated L
  s.endpoint.shutdown L .write

def receiveBufferSize : Action σ Int := s.endpoint.getOption L .receiveBufferSize

def setReceiveBufferSize (value : Int) : Action σ Unit :=
  s.endpoint.setOption L .receiveBufferSize value

def sendBufferSize : Action σ Int := s.endpoint.getOption L .sendBufferSize

def setSendBufferSize (value : Int) : Action σ Unit :=
  s.endpoint.setOption L .sendBufferSize value

def timeout : Action σ Int := s.endpoint.getOption L .timeout

def setTimeout (value : Int) : Action σ Unit := s.endpoint.setOption L .timeout value

def option (id : Int) : Action σ Int := do
  s.endpoint.getOption L (← .ofExcept (SocketOption.ofId id))

def setOption (id value : Int) : Action σ Unit := do
  s.endpoint.setOption L (← .ofExcept (SocketOption.ofId id)) value

def socketAddress : Action σ Address := throw (.unsupported "socket_address")

def isClosed : Action σ Bool := throw (.unsupported "is_closed")

def isInputShutdown : Action σ Bool := throw (.unsupported "is_input_shutdown")

def isOutputShutdown : Action σ Bool := throw (.unsupported "is_output_shutdown")

def description (w : World σ) : String :=
  let st := w.socket s
  "RpmsgSocket \x7b kind: " ++ st.kind.name ++
    ", endpoint: " ++ Endpoint.description L (w.handle s.endpoint) ++
    ", bound: " ++ toString st.bound ++ ", connected: " ++ toString st.connected ++ " \x7d"

def display (w : World σ) : String :=
  "RpmsgSocket impl:" ++ Endpoint.display L (w.handle s.endpoint)

end Socket

end ProcessorSockets
