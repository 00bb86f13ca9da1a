import ProcessorSockets.Endpoint
import ProcessorSockets.Transfer

/-! The two streams of an endpoint.  A stream looks up the endpoint's descriptor for each
transfer, so it stops with the endpoint, and works again when the endpoint gets a new
descriptor. -/

namespace ProcessorSockets

variable {σ : Type} (L : Link σ)

namespace Endpoint

variable (ep : Endpoint)

def receive (length : Nat) : Action σ (List UInt8) := do
  let bytes ← ep.ask L "read" (.read (← ep.fd) length)
  Action.plain (World.emit .trace "read")
  return bytes

def transmit (bytes : List UInt8) : Action σ Nat := do
  let n ← ep.ask L "write" (.write (← ep.fd) bytes)
  Action.plain (World.emit .trace "write")
  return n

/-- Reads until so many bytes are there, and tells what came also when it fails. -/
def receiveAll (patience missing : Nat) : StateM (World σ) (List UInt8 × Except SocketError Unit) :=
  fun w =>
    if missing = 0 then (([], .ok ()), w)
    else
      match ep.receive L missing w with
      | (.ok [], w) =>
        (([], .error (.native "read" (.described .unexpectedEof "peer closed the stream"))), w)
      | (.ok (b :: bs), w) =>
        let ((rest, r), w) := receiveAll patience (missing - (bs.length + 1)) w
        ((b :: bs ++ rest, r), w)
      | (.error e, w) =>
        match patience with
        | 0 => (([], .error e), w)
        | patience + 1 =>
          if e.isInterrupted then receiveAll patience missing w else (([], .error e), w)
  termination_by (patience, missing)

def transmitAll (patience : Nat) (bytes : List UInt8) : Action σ Unit := fun w =>
  match bytes with
  | [] => (.ok (), w)
  | b :: bs =>
    match ep.transmit L (b :: bs) w with
    | (.ok 0, w) => (.error (.native "write" (.bare .writeZero)), w)
    | (.ok (n + 1), w) => transmitAll patience (bs.drop n) w
    | (.error e, w) =>
      match patience with
      | 0 => (.error e, w)
      | patience + 1 =>
        if e.isInterrupted then transmitAll patience (b :: bs) w else (.error e, w)
  termination_by (patience, bytes.length)

end Endpoint

def Action.native {α : Type} (a : Action σ α) : StateM (World σ) (Except NativeError α) :=
  fun w =>
    let (r, w) := a w
    (r.mapError SocketError.toNative, w)

namespace InputStream

variable (s : InputStream)

def available : Action σ Nat := do
  s.endpoint.ask L "available" (.available (← s.endpoint.fd))

def read (length : Nat) : Action σ (List UInt8) :=
  if length = 0 then pure [] else s.endpoint.receive L length

def readByte : Action σ (Option UInt8) := do
  return (← s.read L 1).head?

def readExact (length : Nat) : StateM (World σ) (List UInt8 × Except SocketError Unit) :=
  fun w => s.endpoint.receiveAll L (L.patience w) length w

def close : Action σ Unit := s.endpoint.release L

def description (w : World σ) : String :=
  "SocketInputStream \x7b fd: " ++ Endpoint.optional (w.handle s.endpoint).fd ++ " \x7d"

def readNative (length : Nat) : StateM (World σ) (Except NativeError (List UInt8)) :=
  (s.read L length).native

def nativeFailures : TransferFailures NativeError where
  isInterrupted := NativeError.isInterrupted
  ended := .described .unexpectedEof "failed to fill whole buffer"

def readExactNative (length : Nat) :
    StateM (World σ) (List UInt8 × Except NativeError Unit) := fun w =>
  Transfer.fill (s.readNative L) nativeFailures (L.patience w) length w

def readToEndNative : StateM (World σ) (List UInt8 × Except NativeError Unit) := fun w =>
  Transfer.toEnd (s.readNative L) NativeError.isInterrupted (L.patience w) {} w

end InputStream

namespace OutputStream

variable (s : OutputStream)

def write (bytes : List UInt8) : Action σ Nat :=
  if bytes = [] then pure 0 else s.endpoint.transmit L bytes

def writeAll (bytes : List UInt8) : Action σ Unit :=
  fun w => s.endpoint.transmitAll L (L.patience w) bytes w

def writeByte (byte : UInt8) : Action σ Unit := s.writeAll L [byte]

def flush : Action σ Unit := pure ()

def close : Action σ Unit := s.endpoint.release L

def description (w : World σ) : String :=
  "SocketOutputStream \x7b fd: " ++ Endpoint.optional (w.handle s.endpoint).fd ++ " \x7d"

def writeNative (bytes : List UInt8) : StateM (World σ) (Except NativeError Nat) :=
  (s.write L bytes).native

def nativeFailures : TransferFailures NativeError where
  isInterrupted := NativeError.isInterrupted
  ended := .described .writeZero "failed to write whole buffer"

def writeAllNative (bytes : List UInt8) : StateM (World σ) (Except NativeError Unit) :=
  fun w => Transfer.drain (s.writeNative L) nativeFailures (L.patience w) bytes w

def flushNative : StateM (World σ) (Except NativeError Unit) := pure (.ok ())

end OutputStream

end ProcessorSockets
