import ProcessorSockets.Time

namespace ProcessorSockets

abbrev Descriptor := Int

inductive Syscall
  | socket (domain type protocol : Int)
  | bind (fd : Descriptor) (address : List UInt8)
  | connect (fd : Descriptor) (address : List UInt8)
  | listen (fd : Descriptor) (backlog : Int)
  | accept (fd : Descriptor) (flags : Int)
  | close (fd : Descriptor)
  | shutdown (fd : Descriptor) (how : Int)
  | getNumber (fd : Descriptor) (level option : Int)
  | getTime (fd : Descriptor) (level option : Int)
  | setNumber (fd : Descriptor) (level option : Int) (value : Int)
  | setTime (fd : Descriptor) (level option : Int) (value : Timeval)
  | read (fd : Descriptor) (length : Nat)
  | write (fd : Descriptor) (bytes : List UInt8)
  /-- How many bytes wait to be read. -/
  | pending (fd : Descriptor) (request : Int)
  | mkdir (path : String)
  | unlink (path : String)
  deriving DecidableEq, Repr

namespace Syscall

@[reducible] def Reply : Syscall → Type
  | .socket _ _ _ => Descriptor
  | .bind _ _ => Unit
  | .connect _ _ => Unit
  | .listen _ _ => Unit
  | .accept _ _ => Descriptor
  | .close _ => Unit
  | .shutdown _ _ => Unit
  | .getNumber _ _ _ => Int
  | .getTime _ _ _ => Timeval
  | .setNumber _ _ _ _ => Unit
  | .setTime _ _ _ _ => Unit
  | .read _ _ => List UInt8
  | .write _ _ => Nat
  | .pending _ _ => Int
  | .mkdir _ => Unit
  | .unlink _ => Unit

def localDomain : Int := 1

def closeOnExec : Int := 0x80000

def socketLevel : Int := 1

def sendBuffer : Int := 7

def receiveBuffer : Int := 8

def receiveTimeout : Int := 20

def sendTimeout : Int := 21

def pendingRequest : Int := 21531

end Syscall

end ProcessorSockets
