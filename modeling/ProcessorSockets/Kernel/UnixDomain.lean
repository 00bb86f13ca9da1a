import ProcessorSockets.Kernel
import ProcessorSockets.Kernel.FileTree
import ProcessorSockets.Transport.Sockaddr

/-! A kernel with local sockets and nothing else.

A socket file leads to the socket bound to it as long as that is open.  A stream connection
is made when it is asked for: its far end waits in the listener's queue until somebody
accepts it, and can be written to before that.  What would wait for ever fails as if its
time had run out. -/

namespace ProcessorSockets.UnixDomain

open FileTree (Path Node Tree)

inductive Style
  | stream
  | datagram
  /-- Connected like a stream, with the messages kept apart. -/
  | packets
  deriving DecidableEq, Repr

namespace Style

def ofType? (type : Int) : Option Style :=
  if type = 1 then some .stream
  else if type = 2 ∨ type = 3 then some .datagram
  else if type = 5 then some .packets
  else none

def paired : Style → Bool
  | .stream => true
  | .datagram => false
  | .packets => true

end Style

structure Sock where
  style : Style
  bound : Bool := false
  /-- How many connections may wait, if the socket listens. -/
  backlog : Option Int := none
  /-- The far ends of connections that nobody has accepted yet. -/
  waiting : List Nat := []
  established : Bool := false
  peer : Option Nat := none
  /-- What was written to the socket and not read yet, one write after another. -/
  queue : List (List UInt8) := []
  readShut : Bool := false
  writeShut : Bool := false
  /-- A failure that the next read without data reports. -/
  reset : Bool := false
  receiveTimeout : Timeval := .zero
  sendTimeout : Timeval := .zero
  closed : Bool := false
  deriving DecidableEq, Repr

structure State where
  tree : Tree := {}
  sockets : List Sock := []
  /-- The open descriptors with their sockets. -/
  descriptors : List (Descriptor × Nat) := []
  /-- The next descriptor; none is ever given out twice. -/
  next : Descriptor := 3
  deriving DecidableEq, Repr

abbrev Call (α : Type) := ExceptT Int (StateM State) α

namespace State

def sock (s : State) (id : Nat) : Sock := s.sockets.getD id { style := .stream, closed := true }

def setSock (s : State) (id : Nat) (k : Sock) : State := { s with sockets := s.sockets.set id k }

def socketOf? (s : State) (fd : Descriptor) : Option Nat := s.descriptors.lookup fd

def contains (s : State) (path : String) : Bool := s.tree.contains (bytesOf path)

end State

def lookup (fd : Descriptor) : Call Nat := do
  match (← get).socketOf? fd with
  | some id => return id
  | none => throw Errno.badDescriptor

def sock (id : Nat) : Call Sock := return (← get).sock id

def update (id : Nat) (f : Sock → Sock) : Call Unit := modify fun s => s.setSock id (f (s.sock id))

def newSocket (k : Sock) : Call Nat := fun s =>
  (.ok s.sockets.length, { s with sockets := s.sockets ++ [k] })

def newDescriptor (id : Nat) : Call Descriptor := fun s =>
  (.ok s.next, { s with descriptors := s.descriptors ++ [(s.next, id)], next := s.next + 1 })

def onTree (f : Tree → Except Int Tree) : Call Unit := do
  match f (← get).tree with
  | .ok tree => modify fun s => { s with tree }
  | .error code => throw code

def socket (domain type protocol : Int) : Call Descriptor := do
  if domain ≠ Syscall.localDomain then throw Errno.familyUnsupported
  if protocol ≠ 0 ∧ protocol ≠ Syscall.localDomain then throw Errno.protocolUnsupported
  match Style.ofType? (type - Syscall.closeOnExec) with
  | none => throw Errno.typeUnsupported
  | some style => newDescriptor (← newSocket { style })

def bind (fd : Descriptor) (raw : List UInt8) : Call Unit := do
  let id ← lookup fd
  match (← get).tree.make (Sockaddr.pathOf raw) (.socket (some id)) with
  | .error code =>
    throw (if code = Errno.pathExists then Errno.addressInUse else code)
  | .ok tree =>
    if (← sock id).bound then throw Errno.invalid
    modify fun s => { s with tree }
    update id fun k => { k with bound := true }

def target (style : Style) (path : List UInt8) : Call Nat := do
  let s ← get
  match s.tree.get path with
  | .error code => throw code
  | .ok (_, .socket (some id)) =>
    if (s.sock id).closed then throw Errno.connectionRefused
    if (s.sock id).style ≠ style then throw Errno.wrongType
    return id
  | .ok _ => throw Errno.connectionRefused

def connectPaired (id listener : Nat) : Call Unit := do
  let far ← sock listener
  match far.backlog with
  | none => throw Errno.connectionRefused
  | some backlog =>
    if far.readShut then throw Errno.connectionRefused
    if backlog < far.waiting.length then throw Errno.again
    let near ← sock id
    if near.established then throw Errno.alreadyConnected
    if near.backlog.isSome then throw Errno.invalid
    let serverEnd ← newSocket
      { style := near.style, bound := true, established := true, peer := some id }
    update listener fun k => { k with waiting := k.waiting ++ [serverEnd] }
    update id fun k => { k with established := true, peer := some serverEnd }

/-- A message socket that loses its peer loses what it has not read; a peer that was
connected back learns of it. -/
def disconnect (id peer : Nat) : Call Unit := do
  if (← sock id).queue ≠ [] then
    update id fun k => { k with queue := [] }
    let far ← sock peer
    if !far.closed ∧ far.peer = some id then update peer fun k => { k with reset := true }

def connectMessages (id far : Nat) : Call Unit := do
  let other := (← sock far).peer
  if other.isSome ∧ other ≠ some id then throw Errno.notPermitted
  let before := (← sock id).peer
  update id fun k => { k with established := true, peer := some far }
  update far fun k => { k with established := true }
  match before with
  | some old => if old ≠ far then disconnect id old
  | none => pure ()

def connectTo (id : Nat) (path : List UInt8) : Call Unit := do
  let style := (← sock id).style
  let far ← target style path
  if style.paired then connectPaired id far else connectMessages id far

def connect (fd : Descriptor) (raw : List UInt8) : Call Unit := do
  connectTo (← lookup fd) (Sockaddr.pathOf raw)

def backlogOf (n : Int) : Int := if 0 ≤ n ∧ n ≤ 4096 then n else 4096

def listen (fd : Descriptor) (backlog : Int) : Call Unit := do
  let id ← lookup fd
  let k ← sock id
  if !k.style.paired then throw Errno.operationUnsupported
  if !k.bound ∨ k.established then throw Errno.invalid
  update id fun k => { k with backlog := some (backlogOf backlog) }

def accept (fd : Descriptor) : Call Descriptor := do
  let id ← lookup fd
  let k ← sock id
  if !k.style.paired then throw Errno.operationUnsupported
  if k.backlog.isNone then throw Errno.invalid
  match k.waiting with
  | serverEnd :: rest =>
    update id fun k => { k with waiting := rest }
    newDescriptor serverEnd
  | [] => throw (if k.readShut then Errno.invalid else Errno.again)

def hangUp (id : Nat) (lost : Bool) : Call Unit := do
  let k ← sock id
  update id fun k => { k with closed := true, peer := none, queue := [], waiting := [] }
  match k.peer with
  | none => pure ()
  | some far =>
    if k.style.paired then
      update far fun f =>
        { f with readShut := true, writeShut := true,
                 reset := f.reset || lost || k.queue ≠ [] }

def closeSocket (id : Nat) : Call Unit := do
  let waiting := (← sock id).waiting
  hangUp id false
  for serverEnd in waiting do hangUp serverEnd true

def close (fd : Descriptor) : Call Unit := do
  let id ← lookup fd
  modify fun s => { s with descriptors := s.descriptors.filter (·.1 ≠ fd) }
  closeSocket id

def shutdown (fd : Descriptor) (how : Int) : Call Unit := do
  let id ← lookup fd
  let reading := how = 0 ∨ how = 2
  let writing := how = 1 ∨ how = 2
  if !(reading ∨ writing) then throw Errno.invalid
  let k ← sock id
  update id fun k =>
    { k with readShut := k.readShut || reading, writeShut := k.writeShut || writing }
  match k.peer with
  | none => pure ()
  | some far =>
    if k.style.paired then
      update far fun f =>
        { f with readShut := f.readShut || writing, writeShut := f.writeShut || reading }

def takeReset (id : Nat) : Call Unit := do
  if (← sock id).reset then
    update id fun k => { k with reset := false }
    throw Errno.connectionReset

def takeBytes : Nat → List (List UInt8) → List UInt8 × List (List UInt8)
  | 0, queue => ([], queue)
  | _, [] => ([], [])
  | n, chunk :: rest =>
    if chunk.length ≤ n then
      let (bytes, queue) := takeBytes (n - chunk.length) rest
      (chunk ++ bytes, queue)
    else (chunk.take n, chunk.drop n :: rest)

def readStream (id length : Nat) : Call (List UInt8) := do
  let k ← sock id
  if !k.established then throw Errno.invalid
  if k.queue.flatten = [] then
    takeReset id
    if k.readShut then return [] else throw Errno.again
  else
    let (bytes, queue) := takeBytes length k.queue
    update id fun k => { k with queue }
    return bytes

def readMessage (id length : Nat) : Call (List UInt8) := do
  let k ← sock id
  if k.style = .packets ∧ !k.established then throw Errno.notConnected
  takeReset id
  match k.queue with
  | message :: rest =>
    update id fun k => { k with queue := rest }
    return message.take length
  | [] => if k.readShut then return [] else throw Errno.again

def read (fd : Descriptor) (length : Nat) : Call (List UInt8) := do
  let id ← lookup fd
  if length = 0 then return []
  if (← sock id).style = .stream then readStream id length else readMessage id length

def writePaired (id far : Nat) (bytes : List UInt8) : Call Nat := do
  let k ← sock id
  let f ← sock far
  if k.writeShut ∨ f.closed ∨ f.readShut then throw Errno.brokenPipe
  if bytes ≠ [] ∨ k.style = .packets then
    update far fun f => { f with queue := f.queue ++ [bytes] }
  return bytes.length

def writeMessage (id far : Nat) (bytes : List UInt8) : Call Nat := do
  if (← sock id).writeShut then throw Errno.brokenPipe
  let f ← sock far
  if f.peer.isSome ∧ f.peer ≠ some id then throw Errno.notPermitted
  if f.closed then
    update id fun k => { k with peer := none, established := false }
    disconnect id far
    throw Errno.connectionRefused
  if f.readShut then throw Errno.brokenPipe
  update far fun f => { f with queue := f.queue ++ [bytes] }
  return bytes.length

def write (fd : Descriptor) (bytes : List UInt8) : Call Nat := do
  let id ← lookup fd
  let k ← sock id
  match k.peer with
  | none => throw Errno.notConnected
  | some far => if k.style.paired then writePaired id far bytes else writeMessage id far bytes

def pending (fd : Descriptor) : Call Int := do
  let k ← sock (← lookup fd)
  if k.backlog.isSome then throw Errno.invalid
  return if k.style.paired then k.queue.flatten.length else (k.queue.headD []).length

def getTime (fd : Descriptor) (option : Int) : Call Timeval := do
  let k ← sock (← lookup fd)
  return if option = Syscall.receiveTimeout then k.receiveTimeout else k.sendTimeout

def setTime (fd : Descriptor) (option : Int) (value : Timeval) : Call Unit := do
  let id ← lookup fd
  if value.micros < 0 ∨ 1_000_000 ≤ value.micros then throw Errno.outOfDomain
  let value := if value.seconds < 0 then .zero else value
  update id fun k =>
    if option = Syscall.receiveTimeout then { k with receiveTimeout := value }
    else { k with sendTimeout := value }

def bufferSize : Int := 212992

def perform : (c : Syscall) → Call c.Reply
  | .socket domain type protocol => socket domain type protocol
  | .bind fd raw => bind fd raw
  | .connect fd raw => connect fd raw
  | .listen fd backlog => listen fd backlog
  | .accept fd _ => accept fd
  | .close fd => close fd
  | .shutdown fd how => shutdown fd how
  | .getNumber fd _ _ => do
    let _ ← lookup fd
    return bufferSize
  | .getTime fd _ option => getTime fd option
  | .setNumber fd _ _ _ => do
    let _ ← lookup fd
  | .setTime fd _ option value => setTime fd option value
  | .read fd length => read fd length
  | .write fd bytes => write fd bytes
  | .pending fd _ => pending fd
  | .mkdir path => onTree (·.make (bytesOf path) .directory)
  | .unlink path => onTree (·.remove (bytesOf path))

def probe (path : String) : Call Unit := do
  let id ← newSocket { style := .stream }
  let outcome ← ExceptT.lift (connectTo id (bytesOf path)).run
  closeSocket id
  ExceptT.mk (pure outcome)

def supply (s : State) : Nat :=
  let queues := s.sockets.flatMap (·.queue)
  queues.length + queues.flatten.length

def kernel : Kernel State where
  call c s := (perform c).run.run s
  isDirectory s path := s.tree.isDirectory (bytesOf path)
  probe path s :=
    let (outcome, s) := (probe path).run.run s
    ([], outcome, s)
  patience := supply

end ProcessorSockets.UnixDomain
