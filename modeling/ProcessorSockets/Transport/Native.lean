import ProcessorSockets.Kernel
import ProcessorSockets.Transport
import ProcessorSockets.Word

namespace ProcessorSockets

structure Desk (κ : Type) where
  kernel : κ
  bound : List (Descriptor × String) := []

abbrev Native (κ α : Type) := ExceptT NativeError (StateM (Desk κ × List Note)) α

namespace Native

variable {κ : Type}

def note (n : Note) : Native κ Unit := modify fun (desk, notes) => (desk, notes ++ [n])

def emit (level : Level) (message : String) : Native κ Unit := note (.event ⟨level, message⟩)

def answer {α : Type} (step : Native κ α) (desk : Desk κ) : Answer α (Desk κ) :=
  let (reply, desk, notes) := step.run.run (desk, [])
  { reply, notes, state := desk }

def attempt {α : Type} (step : Native κ α) : Native κ (Except NativeError α) :=
  ExceptT.lift step.run

variable (K : Kernel κ)

def syscall (c : Syscall) : Native κ c.Reply := do
  note (.syscall c)
  let (desk, notes) ← get
  let (reply, kernel) := K.call c desk.kernel
  set ({ desk with kernel }, notes)
  match reply with
  | .ok r => return r
  | .error code => throw (.os code)

def socket (domain type protocol : Int) : Native κ Descriptor :=
  if 1 ≤ type ∧ type ≤ 5 then syscall K (.socket domain (type + Syscall.closeOnExec) protocol)
  else throw (.os Errno.invalid)

def listen (fd : Descriptor) (backlog : Int) : Native κ Unit :=
  if -1 ≤ backlog ∧ backlog ≤ 4095 then syscall K (.listen fd backlog)
  else throw (.os Errno.invalid)

def acceptWithin (fd : Descriptor) : Nat → Native κ Descriptor
  | 0 => syscall K (.accept fd Syscall.closeOnExec)
  | patience + 1 => do
    match ← attempt (syscall K (.accept fd Syscall.closeOnExec)) with
    | .ok peer => return peer
    | .error e => if e = .os Errno.interrupted then acceptWithin fd patience else throw e

def accept (fd : Descriptor) : Native κ Descriptor := do
  acceptWithin K fd (K.patience (← get).1.kernel)

def shutdown (fd : Descriptor) (half : Half) : Native κ Unit :=
  syscall K (.shutdown fd (match half with | .read => 0 | .write => 1 | .both => 2))

/-- A size that the system reports below zero counts as huge. -/
def getBuffer (fd : Descriptor) (side : Side) : Native κ Int := do
  let size ← syscall K (.getNumber fd Syscall.socketLevel
    (match side with | .send => Syscall.sendBuffer | .receive => Syscall.receiveBuffer))
  return if 0 ≤ size then size else Word.greatest

def setBuffer (fd : Descriptor) (side : Side) (value : Int) : Native κ Unit :=
  if value < 0 then throw (.described .invalidInput "negative buffer size")
  else syscall K (.setNumber fd Syscall.socketLevel
    (match side with | .send => Syscall.sendBuffer | .receive => Syscall.receiveBuffer) value)

def timeoutOption : Side → Int
  | .send => Syscall.sendTimeout
  | .receive => Syscall.receiveTimeout

def getTimeout (fd : Descriptor) (side : Side) : Native κ Duration := do
  return (← syscall K (.getTime fd Syscall.socketLevel (timeoutOption side))).toDuration

def setTimeout (fd : Descriptor) (side : Side) (value : Duration) : Native κ Unit :=
  syscall K (.setTime fd Syscall.socketLevel (timeoutOption side) (.ofDuration value))

def available (fd : Descriptor) : Native κ Nat := do
  return (← syscall K (.pending fd Syscall.pendingRequest)).toNat

structure Family (κ : Type) where
  name : String
  create : Int → Int → Native κ Descriptor
  bind : Descriptor → Address → Native κ Unit
  connect : Descriptor → Address → Native κ Unit
  close : Descriptor → Native κ Unit

def handle (family : Family κ) : (r : Request) → Native κ r.Reply
  | .create type protocol => family.create type protocol
  | .bind fd address => family.bind fd address
  | .connect fd address => family.connect fd address
  | .listen fd backlog => listen K fd backlog
  | .accept fd => accept K fd
  | .close fd => family.close fd
  | .shutdown fd half => shutdown K fd half
  | .getBuffer fd side => getBuffer K fd side
  | .setBuffer fd side value => setBuffer K fd side value
  | .getTimeout fd side => getTimeout K fd side
  | .setTimeout fd side value => setTimeout K fd side value
  | .read fd length => syscall K (.read fd length)
  | .write fd bytes => syscall K (.write fd bytes)
  | .available fd => available K fd

def transport (family : Family κ) : Transport (Desk κ) where
  name := family.name
  handle r := answer (handle K family r)
  patience desk := K.patience desk.kernel

end Native

end ProcessorSockets
