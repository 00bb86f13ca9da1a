import ProcessorSockets.Kernel.UnixDomain
import ProcessorSockets.Transport.Loopback

namespace ProcessorSockets.Echo

inductive Peer.Stage
  | listening (fd : Descriptor)
  | seeking
  /-- Connected, and still to hear so many bytes before it speaks. -/
  | polite (fd : Descriptor) (missing : Nat)
  | hearing (fd : Descriptor)
  | finished
  deriving DecidableEq, Repr

structure Peer where
  place : Loopback.Place
  address : Address
  words : List UInt8
  stage : Peer.Stage
  /-- What was heard, once there is a connection. -/
  heard : Option (List UInt8) := none
  deriving DecidableEq, Repr

namespace Peer

open UnixDomain (State)

def call (c : Syscall) : StateM State (Except Int c.Reply) := fun s =>
  UnixDomain.kernel.call c s

def reach (p : Peer) : StateM State (Option Descriptor) := do
  match p.place.sockaddr p.address with
  | .error _ => return none
  | .ok raw =>
    match ← call (.socket Syscall.localDomain (1 + Syscall.closeOnExec) 0) with
    | .error _ => return none
    | .ok fd =>
      match ← call (.connect fd raw) with
      | .ok _ => return some fd
      | .error _ =>
        let _ ← call (.close fd)
        return none

def speak (p : Peer) (fd : Descriptor) : StateM State Peer := do
  let _ ← call (.write fd p.words)
  let _ ← call (.shutdown fd 1)
  return { p with stage := .hearing fd }

def hear (p : Peer) (bytes : List UInt8) : Peer :=
  { p with heard := some (p.heard.getD [] ++ bytes) }

def step (p : Peer) : StateM State (Option Peer) := do
  match p.stage with
  | .listening fd =>
    match ← call (.accept fd 0) with
    | .ok connection => return some (← (p.hear []).speak connection)
    | .error _ => return none
  | .seeking =>
    return (← p.reach).map fun fd => { p.hear [] with stage := .polite fd 16 }
  | .polite fd missing =>
    match ← call (.read fd missing) with
    | .ok [] => return some (← p.speak fd)
    | .ok bytes =>
      let p := p.hear bytes
      if bytes.length < missing then
        return some { p with stage := .polite fd (missing - bytes.length) }
      else return some (← p.speak fd)
    | .error code => if code = Errno.again then return none else return some (← p.speak fd)
  | .hearing fd =>
    match ← call (.read fd 4096) with
    | .ok [] => return some { p with stage := .finished }
    | .ok bytes => return some (p.hear bytes)
    | .error code =>
      if code = Errno.again then return none else return some { p with stage := .finished }
  | .finished => return none

def advance : Nat → Peer → StateM State Peer
  | 0, p => pure p
  | n + 1, p => do
    match ← p.step with
    | some p => advance n p
    | none => return p

def settle (p : Peer) : StateM State Peer := fun s => p.advance (UnixDomain.supply s + 8) s

def seeker (place : Loopback.Place) (address : Address) (words : List UInt8) : Peer :=
  { place, address, words, stage := .seeking }

def listener (place : Loopback.Place) (name : String) (words : List UInt8) :
    StateM State Peer := fun s =>
  let address := Address.here name
  let setup : Native State Descriptor := do
    let fd ← Loopback.create UnixDomain.kernel 1 0
    Loopback.bind UnixDomain.kernel place fd address
    Native.listen UnixDomain.kernel fd Limits.listenBacklog
    return fd
  let answer := Native.answer setup { kernel := s }
  let stage := match answer.reply with
    | .ok fd => .listening fd
    | .error _ => .finished
  ({ place, address, words, stage }, answer.state.kernel)

end Peer

/-- A transport next to which a peer lives: it does what it can before each request. -/
def Peer.beside (T : Transport (Desk UnixDomain.State)) :
    Transport (Desk UnixDomain.State × Option Peer) where
  name := T.name
  handle r s :=
    let (peer, kernel) := s.2.elim (none, s.1.kernel) fun p =>
      let (p, kernel) := p.settle s.1.kernel
      (some p, kernel)
    let answer := T.handle r { s.1 with kernel }
    { answer with state := (answer.state, peer) }
  patience s := T.patience s.1
  elapsed s s' := T.elapsed s.1 s'.1

end ProcessorSockets.Echo
