import ProcessorSockets.Transport

namespace ProcessorSockets

namespace Scripted

inductive Outcome
  /-- Leaves the request to what happens without a script. -/
  | standard
  | failure (e : NativeError)
  | number (n : Int)
  | bytes (bs : List UInt8)
  | time (d : Duration)
  deriving DecidableEq, Repr

structure State where
  outcomes : Method → List Outcome
  /-- The next descriptor that no outcome decides. -/
  next : Descriptor := 3
  buffers : List ((Descriptor × Side) × Int) := []
  timeouts : List ((Descriptor × Side) × Duration) := []

def State.take (m : Method) (s : State) : Outcome × State :=
  match s.outcomes m with
  | [] => (.standard, s)
  | o :: rest => (o, { s with outcomes := fun n => if n = m then rest else s.outcomes n })

def State.produce (s : State) : Outcome → Except NativeError Descriptor × State
  | .failure e => (.error e, s)
  | .number n => (.ok n, s)
  | _ => (.ok s.next, { s with next := s.next + 1 })

def unit : Outcome → Except NativeError Unit
  | .failure e => .error e
  | _ => .ok ()

def handle (r : Request) (s : State) : Answer r.Reply State :=
  let (o, s) := s.take r.method
  match r with
  | .create _ _ =>
    let (reply, s) := s.produce o
    { reply, state := s }
  | .accept _ =>
    let (reply, s) := s.produce o
    { reply, state := s }
  | .bind _ _ => { reply := unit o, state := s }
  | .connect _ _ => { reply := unit o, state := s }
  | .listen _ _ => { reply := unit o, state := s }
  | .close _ => { reply := unit o, state := s }
  | .shutdown _ _ => { reply := unit o, state := s }
  | .getBuffer fd side =>
    match o with
    | .failure e => { reply := .error e, state := s }
    | .number n => { reply := .ok n, state := s }
    | _ => { reply := .ok ((s.buffers.lookup (fd, side)).getD 0), state := s }
  | .setBuffer fd side value =>
    match o with
    | .failure e => { reply := .error e, state := s }
    | _ => { reply := .ok (), state := { s with buffers := ((fd, side), value) :: s.buffers } }
  | .getTimeout fd side =>
    match o with
    | .failure e => { reply := .error e, state := s }
    | .time d => { reply := .ok d, state := s }
    | _ => { reply := .ok ((s.timeouts.lookup (fd, side)).getD .zero), state := s }
  | .setTimeout fd side value =>
    match o with
    | .failure e => { reply := .error e, state := s }
    | _ =>
      { reply := .ok (), state := { s with timeouts := ((fd, side), value) :: s.timeouts } }
  | .read _ length =>
    match o with
    | .failure e => { reply := .error e, state := s }
    | .bytes bs => { reply := .ok (bs.take length), state := s }
    | _ => { reply := .ok [], state := s }
  | .write _ bs =>
    match o with
    | .failure e => { reply := .error e, state := s }
    | .number n => { reply := .ok n.toNat, state := s }
    | _ => { reply := .ok bs.length, state := s }
  | .available _ =>
    match o with
    | .failure e => { reply := .error e, state := s }
    | .number n => { reply := .ok n.toNat, state := s }
    | _ => { reply := .ok 0, state := s }

def transport : Transport State where
  name := "mock"
  handle
  patience s := (Method.all.flatMap s.outcomes).length

end Scripted

end ProcessorSockets
