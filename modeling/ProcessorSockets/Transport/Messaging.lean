import ProcessorSockets.Transport.Native
import ProcessorSockets.Transport.Sockaddr
import ProcessorSockets.TransportKind

namespace ProcessorSockets.Messaging

variable {κ : Type} (K : Kernel κ) (family : Int)

def create (type protocol : Int) : Native κ Descriptor := do
  let fd ← Native.socket K family type protocol
  Native.emit .trace "rpmsg socket allocated"
  return fd

def bind (fd : Descriptor) (address : Address) : Native κ Unit :=
  Native.syscall K (.bind fd (Sockaddr.messaging family address))

def connect (fd : Descriptor) (address : Address) : Native κ Unit :=
  Native.syscall K (.connect fd (Sockaddr.messaging family address))

def steps : Native.Family κ where
  name := TransportKind.rpmsg.name
  create := create K family
  bind := bind K family
  connect := connect K family
  close fd := Native.syscall K (.close fd)

def transport : Transport (Desk κ) := Native.transport K (steps K family)

end ProcessorSockets.Messaging
