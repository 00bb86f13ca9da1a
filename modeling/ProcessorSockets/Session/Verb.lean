import ProcessorSockets.SocketOption
import ProcessorSockets.World

namespace ProcessorSockets

inductive Object
  | endpoint (ep : Endpoint)
  | socket (s : Socket)
  | server (s : Server)
  | input (s : InputStream)
  | output (s : OutputStream)
  deriving DecidableEq, Repr

def Object.base : Object → Endpoint
  | .endpoint ep => ep
  | .socket s => s.endpoint
  | .server s => s.endpoint
  | .input s => s.endpoint
  | .output s => s.endpoint

namespace Session

inductive Contest
  | connect (address : Address)
  | bind (address : Address)
  | inputStream
  deriving DecidableEq, Repr

/-- What a step does.  What a verb means, and whether it means anything, depends on the
object that it is used on. -/
inductive Verb
  | newEndpoint
  | adoptEndpoint (fd : Descriptor)
  | newSocket (kind : SocketKind)
  | adoptSocket (fd : Descriptor)
  | bindServer (name : String)
  | adoptServer (fd : Descriptor)
  | same (a b : String)
  | fileExists (path : String)
  | boundPath (fd : Descriptor)
  | transportName
  /-- Asks the transport itself. -/
  | ask (r : Request)
  | drop
  | create (kind : SocketKind)
  | bind (address : Address)
  | listen (backlog : Int)
  | accept
  | acceptInto (name : String)
  | connect (address : Address) (timeout : Int)
  | connectTimeout (address : Address) (timeout : Int)
  | close
  | release
  | shutdown (half : Half)
  | getOption (option : SocketOption)
  | setOption (option : SocketOption) (value : Int)
  | getOptionById (id : Int)
  | setOptionById (id value : Int)
  | inputStream
  | outputStream
  | available
  | description
  | display
  | shutdownInput
  | shutdownOutput
  | receiveBufferSize
  | setReceiveBufferSize (value : Int)
  | sendBufferSize
  | setSendBufferSize (value : Int)
  | timeout
  | setTimeout (value : Int)
  | socketAddress
  | isClosed
  | isInputShutdown
  | isOutputShutdown
  | kind
  | race (contest : Contest) (callers : Nat)
  | localAddress
  | read (length : Nat)
  | readByte
  | readExact (length : Nat)
  | readNative (length : Nat)
  | readExactNative (length : Nat)
  | readToEndNative
  | write (bytes : List UInt8)
  | writeByte (byte : UInt8)
  | writeAll (bytes : List UInt8)
  | flush
  | writeNative (bytes : List UInt8)
  | writeAllNative (bytes : List UInt8)
  | flushNative
  deriving DecidableEq, Repr

inductive Value
  | done
  | failure (e : SocketError)
  | nativeFailure (e : NativeError)
  | number (n : Int)
  | truth (b : Bool)
  | text (s : String)
  | optionalText (s : Option String)
  | optionalByte (b : Option UInt8)
  | address (a : Address)
  | time (d : Duration)
  | bytes (bs : List UInt8)
  /-- A buffer after the attempt to fill it. -/
  | buffer (result : Except SocketError Unit) (bs : List UInt8)
  | nativeBuffer (result : Except NativeError Unit) (bs : List UInt8)
  | several (values : List Value)
  | noObject
  | incomparable
  /-- Whether a guard was active over the steps inside. -/
  | guarded (active : Bool)

inductive View
  | endpoint (handle : Handle)
  | socket (handle : Handle) (st : SocketState)
  | server (handle : Handle) (address? : Option Address)

end Session

end ProcessorSockets
