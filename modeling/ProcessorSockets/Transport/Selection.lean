import ProcessorSockets.Config
import ProcessorSockets.Transport.Loopback
import ProcessorSockets.Transport.Messaging

namespace ProcessorSockets.Config

variable {κ : Type} (K : Kernel κ)

def place (c : Config) : Loopback.Place := ⟨c.socketDirectory, c.localCpu⟩

def transport (c : Config) : Transport (Desk κ) :=
  match c.kind with
  | .rpmsg => Messaging.transport K c.addressFamily
  | .unix => Loopback.transport K c.place

def selected : Event := ⟨.info, "Default socket transport selected"⟩

end ProcessorSockets.Config
