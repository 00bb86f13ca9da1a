import ProcessorSockets.Error.Native
import ProcessorSockets.Word

namespace ProcessorSockets

inductive SocketError
  | notCreated
  | alreadyExists
  | alreadyBound
  | alreadyConnected
  | invalidArgument (reason : String)
  | unsupportedOption (id : Int)
  /-- The system failed the operation named. -/
  | native (operation : String) (source : NativeError)
  | unsupported (operation : String)
  deriving DecidableEq, Repr

namespace SocketError

def message : SocketError → String
  | .notCreated => "socket not created"
  | .alreadyExists => "socket already has a descriptor"
  | .alreadyBound => "already bound"
  | .alreadyConnected => "already connected"
  | .invalidArgument reason => "invalid argument: " ++ reason
  | .unsupportedOption id =>
    "unknown socket option: 0x" ++ String.ofList (Text.Hex.ofNat (Word.bits id))
  | .native operation source => operation ++ " failed: " ++ source.message
  | .unsupported operation => "operation not supported: " ++ operation

def description : SocketError → String
  | .notCreated => "NotCreated"
  | .alreadyExists => "AlreadyExists"
  | .alreadyBound => "AlreadyBound"
  | .alreadyConnected => "AlreadyConnected"
  | .invalidArgument reason => "InvalidArgument(" ++ quoted reason ++ ")"
  | .unsupportedOption id => "UnsupportedOption(" ++ toString id ++ ")"
  | .native operation source =>
    "Io \x7b op: " ++ quoted operation ++ ", source: " ++ source.description ++ " \x7d"
  | .unsupported operation => "Unsupported(" ++ quoted operation ++ ")"

def code : SocketError → String
  | .notCreated => "socket::not_created"
  | .alreadyExists => "socket::already_exists"
  | .alreadyBound => "socket::already_bound"
  | .alreadyConnected => "socket::already_connected"
  | .invalidArgument _ => "socket::invalid_argument"
  | .unsupportedOption _ => "socket::unsupported_option"
  | .native _ _ => "socket::io"
  | .unsupported _ => "socket::unsupported"

def help? : SocketError → Option String
  | .notCreated => some "The descriptor was never created or has already been closed."
  | .alreadyExists =>
    some "create() may only run once per endpoint; close it before creating again."
  | .alreadyBound => some "bind() may only succeed once per socket."
  | .alreadyConnected =>
    some "connect() may only succeed once per socket. Open a new socket for another peer."
  | .unsupportedOption _ =>
    some "Supported options are the receive buffer size, send buffer size and timeout."
  | .invalidArgument _ => none
  | .native _ _ => none
  | .unsupported _ => none

def source? : SocketError → Option NativeError
  | .native _ source => some source
  | _ => none

def errno? (e : SocketError) : Option Int := e.source?.bind (·.errno?)

def isNative (e : SocketError) : Bool := e.source?.isSome

/-- The error as a failure of the system: a source keeps its identity, and any other error
becomes one of a fitting kind with the same message. -/
def toNative : SocketError → NativeError
  | .native _ source => source
  | .notCreated => .described .notConnected notCreated.message
  | .alreadyExists => .described .alreadyExists alreadyExists.message
  | .alreadyBound => .described .alreadyExists alreadyBound.message
  | .alreadyConnected => .described .alreadyExists alreadyConnected.message
  | .invalidArgument reason => .described .invalidInput (invalidArgument reason).message
  | .unsupportedOption id => .described .invalidInput (unsupportedOption id).message
  | .unsupported operation => .described .unsupported (unsupported operation).message

def isInterrupted : SocketError → Bool
  | .native _ source => source.isInterrupted
  | _ => false

theorem isInterrupted_toNative (e : SocketError) : e.toNative.isInterrupted = e.isInterrupted := by
  cases e <;> rfl

end SocketError

end ProcessorSockets
