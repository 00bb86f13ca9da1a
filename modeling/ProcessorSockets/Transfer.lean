/-! Whole transfers by partial ones: how a reader that may deliver less than it is asked for
fills a buffer or is read to its end, and how a writer that may take less than it is offered
is made to take all.  An interrupted step is repeated, as long as the patience for that
lasts. -/

namespace ProcessorSockets

structure TransferFailures (ε : Type) where
  isInterrupted : ε → Bool
  ended : ε

/-- A buffer that grows while it is read into: from nothing by way of a short probe, then by
doubling, with a limit to the single read that doubles once reads exhaust it. -/
structure GrowingBuffer where
  bytes : List UInt8 := []
  capacity : Nat := 0
  limit : Nat := 8192
  deriving DecidableEq, Repr

namespace GrowingBuffer

def probeSize : Nat := 32

def grown (b : GrowingBuffer) : Nat :=
  if b.bytes.length = b.capacity then max (2 * b.capacity) (b.capacity + probeSize)
  else b.capacity

def room (b : GrowingBuffer) : Nat :=
  if b.capacity = 0 then probeSize else min (b.grown - b.bytes.length) b.limit

def append (b : GrowingBuffer) (chunk : List UInt8) : GrowingBuffer where
  bytes := b.bytes ++ chunk
  capacity := if b.capacity = 0 then max chunk.length 8 else b.grown
  limit := if b.limit ≤ b.room ∧ chunk.length = b.room then 2 * b.limit else b.limit

end GrowingBuffer

namespace Transfer

variable {m : Type → Type} [Monad m] {ε : Type}

/-- Reads until so many bytes are there.  The answer holds what came before a failure. -/
def fill (read : Nat → m (Except ε (List UInt8))) (failures : TransferFailures ε)
    (patience missing : Nat) : m (List UInt8 × Except ε Unit) := do
  if missing = 0 then return ([], .ok ())
  match ← read missing with
  | .ok [] => return ([], .error failures.ended)
  | .ok (b :: bs) =>
    let (rest, r) ← fill read failures patience (missing - (b :: bs).length)
    return (b :: bs ++ rest, r)
  | .error e =>
    match patience with
    | 0 => return ([], .error e)
    | patience + 1 =>
      if failures.isInterrupted e then fill read failures patience missing
      else return ([], .error e)
  termination_by (patience, missing)

def drain (write : List UInt8 → m (Except ε Nat)) (failures : TransferFailures ε)
    (patience : Nat) (bytes : List UInt8) : m (Except ε Unit) := do
  match bytes with
  | [] => return .ok ()
  | b :: bs =>
    match ← write (b :: bs) with
    | .ok 0 => return .error failures.ended
    | .ok (n + 1) => drain write failures patience (bs.drop n)
    | .error e =>
      match patience with
      | 0 => return .error e
      | patience + 1 =>
        if failures.isInterrupted e then drain write failures patience (b :: bs)
        else return .error e
  termination_by (patience, bytes.length)

/-- Reads until nothing more comes.  The patience is also for the reads that deliver. -/
def toEnd (read : Nat → m (Except ε (List UInt8))) (isInterrupted : ε → Bool) :
    Nat → GrowingBuffer → m (List UInt8 × Except ε Unit)
  | patience, buffer => do
    match ← read buffer.room with
    | .ok [] => return (buffer.bytes, .ok ())
    | .ok (b :: bs) =>
      match patience with
      | 0 => return (buffer.bytes ++ b :: bs, .ok ())
      | patience + 1 => toEnd read isInterrupted patience (buffer.append (b :: bs))
    | .error e =>
      match patience with
      | 0 => return (buffer.bytes, .error e)
      | patience + 1 =>
        if isInterrupted e then toEnd read isInterrupted patience buffer
        else return (buffer.bytes, .error e)

end Transfer

end ProcessorSockets
