import ProcessorSockets.SocketKind
import ProcessorSockets.Transport

/-! Everything that the sockets of one transport change: the transport's own state, the
endpoints, the sockets on top of them, and the log of what happened so far.

The log tells each request with the endpoint that made it, the transport's answer, the
spans and the events.  Nothing in it is ever taken back, so a statement about a history is
a statement about the log. -/

namespace ProcessorSockets

structure Endpoint where
  index : Nat
  deriving DecidableEq, Repr

structure Socket where
  index : Nat
  endpoint : Endpoint
  deriving DecidableEq, Repr

structure Server where
  endpoint : Endpoint
  /-- Not known of a server around a descriptor made elsewhere. -/
  address? : Option Address
  deriving DecidableEq, Repr

structure InputStream where
  endpoint : Endpoint
  serial : Nat
  deriving DecidableEq, Repr

structure OutputStream where
  endpoint : Endpoint
  serial : Nat
  deriving DecidableEq, Repr

structure Handle where
  fd : Option Descriptor := none
  /-- Whether the endpoint made the descriptor, and so has to close it. -/
  owned : Bool := false
  deriving DecidableEq, Repr

def Handle.owning (fd : Descriptor) : Handle := ⟨some fd, true⟩

structure EndpointState where
  handle : Handle := {}
  /-- Serial numbers of the streams handed out. -/
  input : Option Nat := none
  output : Option Nat := none
  /-- Set while the transport is asked for a descriptor, and while the last descriptor is
  given up with the endpoint: nobody else gets at the handle then. -/
  creating : Bool := false
  deriving DecidableEq, Repr

structure SocketState where
  kind : SocketKind
  created : Bool := false
  bound : Bool := false
  connected : Bool := false
  localAddress : Option Address := none
  remoteAddress : Option Address := none
  deriving DecidableEq, Repr

namespace SocketState

def fresh (kind : SocketKind) : SocketState := { kind }

def established : SocketState :=
  { kind := .unspecified, created := true, bound := true, connected := true }

end SocketState

inductive Deed
  | create (ep : Endpoint) (kind : SocketKind)
  | close (ep : Endpoint)
  /-- What closing a server or a stream does. -/
  | release (ep : Endpoint)
  | closeSocket (s : Socket)
  deriving DecidableEq, Repr

def Deed.target : Deed → Endpoint
  | .create ep _ => ep
  | .close ep => ep
  | .release ep => ep
  | .closeSocket s => s.endpoint

structure Disturbance where
  during : Method
  /-- So many requests of the kind pass before. -/
  after : Nat := 0
  deed : Deed
  /-- The request is one that somebody makes who acts in the middle of so many others. -/
  depth : Nat := 0
  deriving DecidableEq, Repr

inductive Entry
  /-- A request, and the endpoint that made it; requests from outside have none. -/
  | request (caller : Option Endpoint) (r : Request)
  | reply (caller : Option Endpoint) (r : Request) (reply : Except NativeError r.Reply)
  | syscall (c : Syscall)
  | event (e : Event)
  | opened (operation : String)
  /-- An event that the span of an operation tells of itself. -/
  | told (operation : String) (e : Event)
  | closed (span : Span)
  /-- How a deed in the middle of a request ended. -/
  | disturbed (result : Except SocketError Unit)

namespace Entry

def opening (operation : String) : List Entry := [.opened operation, .told operation .started]

def closing (operation : String) (span : Span) (elapsed : Duration) : List Entry :=
  [.told operation (.ended elapsed), .closed (span.took elapsed)]

end Entry

structure World (σ : Type) where
  transport : σ
  endpoints : List EndpointState := []
  sockets : List SocketState := []
  /-- The next serial number of a stream. -/
  nextStream : Nat := 0
  disturbances : List Disturbance := []
  log : List Entry := []

namespace World

variable {σ : Type}

def endpoint (w : World σ) (ep : Endpoint) : EndpointState := w.endpoints.getD ep.index {}

def handle (w : World σ) (ep : Endpoint) : Handle := (w.endpoint ep).handle

def socket (w : World σ) (s : Socket) : SocketState :=
  w.sockets.getD s.index (.fresh .unspecified)

def setEndpoint (w : World σ) (ep : Endpoint) (st : EndpointState) : World σ :=
  { w with endpoints := w.endpoints.set ep.index st }

def setHandle (w : World σ) (ep : Endpoint) (h : Handle) : World σ :=
  w.setEndpoint ep { w.endpoint ep with handle := h }

def setCreating (w : World σ) (ep : Endpoint) (b : Bool) : World σ :=
  w.setEndpoint ep { w.endpoint ep with creating := b }

def setSocket (w : World σ) (s : Socket) (st : SocketState) : World σ :=
  { w with sockets := w.sockets.set s.index st }

def add (w : World σ) (entries : List Entry) : World σ := { w with log := w.log ++ entries }

@[simp] theorem add_nil (w : World σ) : w.add [] = w := by simp [add]

@[simp] theorem endpoints_add (w : World σ) (es : List Entry) :
    (w.add es).endpoints = w.endpoints := rfl

@[simp] theorem endpoint_add (w : World σ) (es : List Entry) (ep : Endpoint) :
    (w.add es).endpoint ep = w.endpoint ep := rfl

@[simp] theorem handle_add (w : World σ) (es : List Entry) (ep : Endpoint) :
    (w.add es).handle ep = w.handle ep := rfl

@[simp] theorem socket_add (w : World σ) (es : List Entry) (s : Socket) :
    (w.add es).socket s = w.socket s := rfl

@[simp] theorem log_add (w : World σ) (es : List Entry) : (w.add es).log = w.log ++ es := rfl

@[simp] theorem log_setHandle (w : World σ) (ep : Endpoint) (h : Handle) :
    (w.setHandle ep h).log = w.log := rfl

theorem handle_setHandle (w : World σ) (ep : Endpoint) (h : Handle)
    (inside : ep.index < w.endpoints.length) : (w.setHandle ep h).handle ep = h := by
  simp [handle, endpoint, setHandle, setEndpoint, inside]

theorem handle_setHandle_of_ne (w : World σ) {ep other : Endpoint} (h : Handle)
    (ne : other ≠ ep) : (w.setHandle ep h).handle other = w.handle other := by
  have : ep.index ≠ other.index := fun e => ne (by cases ep; cases other; simp_all)
  simp [handle, endpoint, setHandle, setEndpoint, this]

theorem socket_setSocket (w : World σ) (s : Socket) (st : SocketState)
    (inside : s.index < w.sockets.length) : (w.setSocket s st).socket s = st := by
  simp [socket, setSocket, inside]

theorem inside_of_handle (w : World σ) {ep : Endpoint} {fd : Descriptor}
    (has : (w.handle ep).fd = some fd) : ep.index < w.endpoints.length := by
  apply Nat.lt_of_not_le
  intro out
  simp [handle, endpoint, List.getElem?_eq_none out] at has

theorem endpoint_setEndpoint (w : World σ) (ep other : Endpoint) (st : EndpointState) :
    (w.setEndpoint ep st).endpoint other =
      if other = ep ∧ ep.index < w.endpoints.length then st else w.endpoint other := by
  cases ep with
  | mk i =>
    cases other with
    | mk j =>
      by_cases same : i = j
      · subst same
        by_cases inside : i < w.endpoints.length <;> simp [endpoint, setEndpoint, inside]
      · simp [endpoint, setEndpoint, same, Ne.symm same]

@[simp] theorem length_endpoints_setEndpoint (w : World σ) (ep : Endpoint) (st : EndpointState) :
    (w.setEndpoint ep st).endpoints.length = w.endpoints.length := by simp [setEndpoint]

@[simp] theorem length_endpoints_setHandle (w : World σ) (ep : Endpoint) (h : Handle) :
    (w.setHandle ep h).endpoints.length = w.endpoints.length := length_endpoints_setEndpoint ..

@[simp] theorem length_endpoints_setCreating (w : World σ) (ep : Endpoint) (b : Bool) :
    (w.setCreating ep b).endpoints.length = w.endpoints.length := length_endpoints_setEndpoint ..

theorem creating_setCreating (w : World σ) (ep other : Endpoint) (b : Bool) :
    ((w.setCreating ep b).endpoint other).creating =
      if other = ep ∧ ep.index < w.endpoints.length then b else (w.endpoint other).creating := by
  simp only [setCreating, endpoint_setEndpoint]
  split <;> rfl

@[simp] theorem handle_setCreating (w : World σ) (ep other : Endpoint) (b : Bool) :
    (w.setCreating ep b).handle other = w.handle other := by
  simp only [handle, setCreating, endpoint_setEndpoint]
  split
  · simp [*]
  · rfl

@[simp] theorem creating_setHandle (w : World σ) (ep other : Endpoint) (h : Handle) :
    ((w.setHandle ep h).endpoint other).creating = (w.endpoint other).creating := by
  simp only [setHandle, endpoint_setEndpoint]
  split
  · simp [*]
  · rfl

end World

end ProcessorSockets
