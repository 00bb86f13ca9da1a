import ProcessorSockets.Kernel
import ProcessorSockets.Text.Utf8
import ProcessorSockets.Transport.Sockaddr

namespace ProcessorSockets.ScriptedKernel

inductive Outcome
  | standard
  | failure (code : Int)
  | number (n : Int)
  | time (tv : Timeval)
  | bytes (bs : List UInt8)
  deriving DecidableEq, Repr

inductive Name
  | socket
  | bind
  | connect
  | listen
  | accept
  | close
  | shutdown
  | getsockopt
  | setsockopt
  | read
  | write
  | ioctl
  | mkdir
  | unlink
  deriving DecidableEq, Repr

namespace Name

def all : List Name := [
  .socket, .bind, .connect, .listen, .accept, .close, .shutdown, .getsockopt, .setsockopt,
  .read, .write, .ioctl, .mkdir, .unlink]

def text : Name → String
  | .socket => "socket"
  | .bind => "bind"
  | .connect => "connect"
  | .listen => "listen"
  | .accept => "accept"
  | .close => "close"
  | .shutdown => "shutdown"
  | .getsockopt => "getsockopt"
  | .setsockopt => "setsockopt"
  | .read => "read"
  | .write => "write"
  | .ioctl => "ioctl"
  | .mkdir => "mkdir"
  | .unlink => "unlink"

def ofText? (s : String) : Option Name := all.find? (·.text == s)

def of : Syscall → Name
  | .socket _ _ _ => .socket
  | .bind _ _ => .bind
  | .connect _ _ => .connect
  | .listen _ _ => .listen
  | .accept _ _ => .accept
  | .close _ => .close
  | .shutdown _ _ => .shutdown
  | .getNumber _ _ _ => .getsockopt
  | .getTime _ _ _ => .getsockopt
  | .setNumber _ _ _ _ => .setsockopt
  | .setTime _ _ _ _ => .setsockopt
  | .read _ _ => .read
  | .write _ _ => .write
  | .pending _ _ => .ioctl
  | .mkdir _ => .mkdir
  | .unlink _ => .unlink

end Name

structure State where
  outcomes : Name → List Outcome
  next : Descriptor := 100
  numbers : List ((Descriptor × Int) × Int) := []
  times : List ((Descriptor × Int) × Timeval) := []

def State.take (m : Name) (s : State) : Outcome × State :=
  match s.outcomes m with
  | [] => (.standard, s)
  | o :: rest => (o, { s with outcomes := fun n => if n = m then rest else s.outcomes n })

def State.produce (s : State) : Outcome → Except Int Descriptor × State
  | .failure code => (.error code, s)
  | .number n => (.ok n, s)
  | _ => (.ok s.next, { s with next := s.next + 1 })

def unit : Outcome → Except Int Unit
  | .failure code => .error code
  | _ => .ok ()

def call (c : Syscall) (s : State) : Except Int c.Reply × State :=
  let (o, s) := s.take (.of c)
  match c with
  | .socket _ _ _ => s.produce o
  | .accept _ _ => s.produce o
  | .bind _ _ => (unit o, s)
  | .connect _ _ => (unit o, s)
  | .listen _ _ => (unit o, s)
  | .close _ => (unit o, s)
  | .shutdown _ _ => (unit o, s)
  | .mkdir _ => (unit o, s)
  | .unlink _ => (unit o, s)
  | .getNumber fd _ option =>
    match o with
    | .failure code => (.error code, s)
    | .number n => (.ok n, s)
    | .time tv => (.ok tv.seconds, s)
    | _ => (.ok ((s.numbers.lookup (fd, option)).getD 0), s)
  | .getTime fd _ option =>
    match o with
    | .failure code => (.error code, s)
    | .number n => (.ok ⟨n, 0⟩, s)
    | .time tv => (.ok tv, s)
    | _ => (.ok ((s.times.lookup (fd, option)).getD .zero), s)
  | .setNumber fd _ option value =>
    match o with
    | .failure code => (.error code, s)
    | _ => (.ok (), { s with numbers := ((fd, option), value) :: s.numbers })
  | .setTime fd _ option value =>
    match o with
    | .failure code => (.error code, s)
    | _ => (.ok (), { s with times := ((fd, option), value) :: s.times })
  | .read _ length =>
    match o with
    | .failure code => (.error code, s)
    | .bytes bs => (.ok (bs.take length), s)
    | _ => (.ok [], s)
  | .write _ bs =>
    match o with
    | .failure code => (.error code, s)
    | .number n => (.ok n.toNat, s)
    | _ => (.ok bs.length, s)
  | .pending _ _ =>
    match o with
    | .failure code => (.error code, s)
    | .number n => (.ok n, s)
    | _ => (.ok 0, s)

def probe (path : String) (s : State) : List Syscall × Except Int Unit × State :=
  let create := Syscall.socket Syscall.localDomain (1 + Syscall.closeOnExec) 0
  match call create s with
  | (.error code, s) => ([create], .error code, s)
  | (.ok fd, s) =>
    let connect := Syscall.connect fd (Sockaddr.shortPath (bytesOf path))
    let (outcome, s) := call connect s
    let (_, s) := call (.close fd) s
    ([create, connect, .close fd], outcome, s)

def kernel : Kernel State where
  call
  isDirectory _ _ := false
  probe
  patience s := (Name.all.flatMap s.outcomes).length

end ProcessorSockets.ScriptedKernel
