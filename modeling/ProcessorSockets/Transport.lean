import ProcessorSockets.Address
import ProcessorSockets.Error.Native
import ProcessorSockets.Kernel.Syscall
import ProcessorSockets.Trace

/-! Transports: what carries the sockets.  The sockets do nothing to the system themselves;
each native step is a request to the transport, which answers it from a state of its own. -/

namespace ProcessorSockets

inductive Side
  | send
  | receive
  deriving DecidableEq, Repr

def Side.name : Side → String
  | .send => "Send"
  | .receive => "Receive"

inductive Half
  | read
  | write
  | both
  deriving DecidableEq, Repr

def Half.name : Half → String
  | .read => "Read"
  | .write => "Write"
  | .both => "Both"

inductive Request
  | create (type protocol : Int)
  | bind (fd : Descriptor) (address : Address)
  | connect (fd : Descriptor) (address : Address)
  | listen (fd : Descriptor) (backlog : Int)
  | accept (fd : Descriptor)
  | close (fd : Descriptor)
  | shutdown (fd : Descriptor) (half : Half)
  | getBuffer (fd : Descriptor) (side : Side)
  | setBuffer (fd : Descriptor) (side : Side) (value : Int)
  | getTimeout (fd : Descriptor) (side : Side)
  | setTimeout (fd : Descriptor) (side : Side) (value : Duration)
  | read (fd : Descriptor) (length : Nat)
  | write (fd : Descriptor) (bytes : List UInt8)
  | available (fd : Descriptor)
  deriving DecidableEq, Repr

inductive Method
  | create
  | bind
  | connect
  | listen
  | accept
  | close
  | shutdown
  | getBuffer
  | setBuffer
  | getTimeout
  | setTimeout
  | read
  | write
  | available
  deriving DecidableEq, Repr

namespace Method

def all : List Method := [
  .create, .bind, .connect, .listen, .accept, .close, .shutdown, .getBuffer, .setBuffer,
  .getTimeout, .setTimeout, .read, .write, .available]

def name : Method → String
  | .create => "create"
  | .bind => "bind"
  | .connect => "connect"
  | .listen => "listen"
  | .accept => "accept"
  | .close => "close"
  | .shutdown => "shutdown"
  | .getBuffer => "get_buffer"
  | .setBuffer => "set_buffer"
  | .getTimeout => "get_timeout"
  | .setTimeout => "set_timeout"
  | .read => "read"
  | .write => "write"
  | .available => "available"

def ofName? (s : String) : Option Method := all.find? (·.name == s)

end Method

namespace Request

def method : Request → Method
  | .create _ _ => .create
  | .bind _ _ => .bind
  | .connect _ _ => .connect
  | .listen _ _ => .listen
  | .accept _ => .accept
  | .close _ => .close
  | .shutdown _ _ => .shutdown
  | .getBuffer _ _ => .getBuffer
  | .setBuffer _ _ _ => .setBuffer
  | .getTimeout _ _ => .getTimeout
  | .setTimeout _ _ _ => .setTimeout
  | .read _ _ => .read
  | .write _ _ => .write
  | .available _ => .available

@[reducible] def Reply : Request → Type
  | .create _ _ => Descriptor
  | .bind _ _ => Unit
  | .connect _ _ => Unit
  | .listen _ _ => Unit
  | .accept _ => Descriptor
  | .close _ => Unit
  | .shutdown _ _ => Unit
  | .getBuffer _ _ => Int
  | .setBuffer _ _ _ => Unit
  | .getTimeout _ _ => Duration
  | .setTimeout _ _ _ => Unit
  | .read _ _ => List UInt8
  | .write _ _ => Nat
  | .available _ => Nat

def descriptor? : Request → Option Descriptor
  | .create _ _ => none
  | .bind fd _ => some fd
  | .connect fd _ => some fd
  | .listen fd _ => some fd
  | .accept fd => some fd
  | .close fd => some fd
  | .shutdown fd _ => some fd
  | .getBuffer fd _ => some fd
  | .setBuffer fd _ _ => some fd
  | .getTimeout fd _ => some fd
  | .setTimeout fd _ _ => some fd
  | .read fd _ => some fd
  | .write fd _ => some fd
  | .available fd => some fd

end Request

inductive Note
  | event (e : Event)
  | syscall (c : Syscall)
  deriving DecidableEq, Repr

structure Answer (α σ : Type) where
  reply : Except NativeError α
  notes : List Note := []
  state : σ

structure Transport (σ : Type) where
  name : String
  handle : (r : Request) → σ → Answer r.Reply σ
  /-- No more than so many requests will still be interrupted. -/
  patience : σ → Nat
  /-- How long it takes to come from one state to another. -/
  elapsed : σ → σ → Duration := fun _ _ => .zero

end ProcessorSockets
