import ProcessorSockets.Transport.Native
import ProcessorSockets.Transport.Sockaddr
import ProcessorSockets.TransportKind

/-! The loopback transport: local sockets stand in for other processors.  An address is a
socket file in the transport's directory, named for processor and socket; the empty
processor is the local one.  A name is free again when the descriptor bound to it is
closed, and a file that a dead process left behind is taken over once nothing accepts
connections on it. -/

namespace ProcessorSockets.Loopback

structure Place where
  directory : String
  localCpu : String
  deriving DecidableEq, Repr

namespace Place

variable (place : Place)

def cpu (address : Address) : String :=
  if address.isLocal then place.localCpu else address.cpu

def join (directory entry : List Char) : List Char :=
  if directory = [] ∨ directory.getLast? = some '/' then directory ++ entry
  else directory ++ '/' :: entry

def separates (c : Char) : Bool := c == '/' || c == '\x00'

def pathFor (address : Address) : Except NativeError String :=
  let name := address.name.toList
  let cpu := place.cpu address
  if name = [] ∨ name.any separates then
    .error (.described .invalidInput ("invalid socket name '" ++ address.name ++ "'"))
  else if cpu.toList.any separates then
    .error (.described .invalidInput ("invalid cpu name '" ++ cpu ++ "'"))
  else
    .ok (String.ofList (join place.directory.toList (cpu.toList ++ ':' :: name)))

def sockaddr (address : Address) : Except NativeError (List UInt8) := do
  let path ← place.pathFor address
  let bytes := bytesOf path
  if bytes.length > Limits.pathSize then
    throw (.described .invalidInput ("socket path too long: " ++ path))
  return Sockaddr.path bytes

end Place

def dropTail : List Char → List Char
  | '/' :: rest => dropTail rest
  | '.' :: '/' :: rest => dropTail rest
  | rest => rest

def parent? (path : List Char) : Option (List Char) :=
  match dropTail path.reverse with
  | [] => none
  | entry =>
    match entry.dropWhile (· ≠ '/') with
    | [] => some []
    | rest =>
      match dropTail rest with
      | [] => some ['/']
      | above => some above.reverse

variable {κ : Type} (K : Kernel κ)

def makeDirectory (path : List Char) : Native κ Unit :=
  if path.contains '\x00' then
    throw (.described .invalidInput "file name contained an unexpected NUL byte")
  else Native.syscall K (.mkdir (String.ofList path))

def isDirectory (path : List Char) : Native κ Bool := do
  return K.isDirectory (← get).1.kernel (String.ofList path)

def makeDirectories : Nat → List Char → Native κ Unit
  | _, [] => pure ()
  | 0, _ => throw (.bare .uncategorized)
  | depth + 1, path => do
    match ← Native.attempt (makeDirectory K path) with
    | .ok () => return
    | .error e =>
      if e.kind = .notFound then
        match parent? path with
        | none => throw (.described .uncategorized "failed to create whole tree")
        | some above =>
          makeDirectories depth above
          match ← Native.attempt (makeDirectory K path) with
          | .ok () => return
          | .error e => if ← isDirectory K path then return else throw e
      else if ← isDirectory K path then return
      else throw e

def probe (path : String) : Native κ (Except Int Unit) := do
  let (desk, notes) ← get
  let (calls, outcome, kernel) := K.probe path desk.kernel
  set ({ desk with kernel }, notes ++ calls.map .syscall)
  return outcome

def reclaim (path : String) : Native κ Bool := do
  match ← probe K path with
  | .ok () => return false
  | .error code =>
    if Errno.kind code = .connectionRefused then
      match ← Native.attempt (Native.syscall K (.unlink path)) with
      | .ok () =>
        Native.emit .debug "Removed stale socket file"
        return true
      | .error _ =>
        Native.emit .warn "Failed to remove stale socket file"
        return false
    else return false

def create (type protocol : Int) : Native κ Descriptor := do
  let fd ← Native.socket K Syscall.localDomain type protocol
  Native.emit .trace "loopback socket allocated"
  return fd

def hold (fd : Descriptor) (path : String) : Native κ Unit :=
  modify fun (desk, notes) =>
    ({ desk with bound := (fd, path) :: desk.bound.filter (·.1 ≠ fd) }, notes)

def letGo (fd : Descriptor) : Native κ (Option String) := do
  let (desk, notes) ← get
  set ({ desk with bound := desk.bound.filter (·.1 ≠ fd) }, notes)
  return desk.bound.lookup fd

variable (place : Place)

def bind (fd : Descriptor) (address : Address) : Native κ Unit := do
  let path ← place.pathFor address
  let raw ← place.sockaddr address
  let directory := place.directory.toList
  makeDirectories K (directory.length + 1) directory
  match ← Native.attempt (Native.syscall K (.bind fd raw)) with
  | .ok () => pure ()
  | .error e =>
    if e = .os Errno.addressInUse then
      if ← reclaim K path then Native.syscall K (.bind fd raw) else throw e
    else throw e
  hold fd path

def connect (fd : Descriptor) (address : Address) : Native κ Unit := do
  Native.syscall K (.connect fd (← place.sockaddr address))

/-- Removes the socket file first: the number may be given out again once it is closed. -/
def close (fd : Descriptor) : Native κ Unit := do
  match ← letGo fd with
  | none => pure ()
  | some path =>
    match ← Native.attempt (Native.syscall K (.unlink path)) with
    | .ok () => Native.emit .trace "socket file removed"
    | .error e =>
      if e.kind = .notFound then pure ()
      else Native.emit .warn "Failed to remove socket file"
  Native.syscall K (.close fd)

def steps : Native.Family κ where
  name := TransportKind.unix.name
  create := create K
  bind := bind K place
  connect := connect K place
  close := close K

def transport : Transport (Desk κ) := Native.transport K (steps K place)

end ProcessorSockets.Loopback
