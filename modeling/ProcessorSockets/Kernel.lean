import ProcessorSockets.Error.Native
import ProcessorSockets.Kernel.Syscall

/-! An operating system, as far as the sockets see one: it answers calls, one after another,
from a state of its own.  Failures are numbers. -/

namespace ProcessorSockets

structure Kernel (κ : Type) where
  call : (c : Syscall) → κ → Except Int c.Reply × κ
  /-- Tells whether a directory is there. -/
  isDirectory : κ → String → Bool
  /-- Connects a new stream socket to a path and closes it again: the calls that this
  takes, how the connection went, and the state after it. -/
  probe : String → κ → List Syscall × Except Int Unit × κ
  /-- No more than so many calls will still be interrupted. -/
  patience : κ → Nat

end ProcessorSockets
