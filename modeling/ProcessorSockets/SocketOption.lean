import ProcessorSockets.Error
import ProcessorSockets.Limits

namespace ProcessorSockets

inductive SocketOption
  | receiveBufferSize
  | sendBufferSize
  /-- In milliseconds, for both directions; zero blocks for ever. -/
  | timeout
  deriving DecidableEq, Repr

namespace SocketOption

def all : List SocketOption := [.receiveBufferSize, .sendBufferSize, .timeout]

def name : SocketOption → String
  | .receiveBufferSize => "ReceiveBufferSize"
  | .sendBufferSize => "SendBufferSize"
  | .timeout => "Timeout"

def id : SocketOption → Int
  | .receiveBufferSize => Limits.receiveBufferOption
  | .sendBufferSize => Limits.sendBufferOption
  | .timeout => Limits.timeoutOption

def ofId (id : Int) : Except SocketError SocketOption :=
  if id = Limits.receiveBufferOption then .ok .receiveBufferSize
  else if id = Limits.sendBufferOption then .ok .sendBufferSize
  else if id = Limits.timeoutOption then .ok .timeout
  else .error (.unsupportedOption id)

@[simp] theorem ofId_id (option : SocketOption) : ofId option.id = .ok option := by
  cases option <;> rfl

end SocketOption

end ProcessorSockets
