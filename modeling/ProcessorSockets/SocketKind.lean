import ProcessorSockets.Error

namespace ProcessorSockets

inductive SocketKind
  /-- Of a socket that wraps a descriptor made elsewhere. -/
  | unspecified
  | datagram
  | stream
  deriving DecidableEq, Repr

namespace SocketKind

def all : List SocketKind := [.unspecified, .datagram, .stream]

def standard : SocketKind := .stream

def name : SocketKind → String
  | .unspecified => "Unspecified"
  | .datagram => "Datagram"
  | .stream => "Stream"

def word : SocketKind → String
  | .unspecified => "unspecified"
  | .datagram => "datagram"
  | .stream => "stream"

def id : SocketKind → Int
  | .unspecified => 0
  | .datagram => 1
  | .stream => 2

def native : SocketKind → Except SocketError Int
  | .stream => .ok 1
  | .datagram => .ok 2
  | .unspecified => .error (.invalidArgument "unknown socket type")

def ofId (id : Int) : Except SocketError SocketKind :=
  if id = 0 then .ok .unspecified
  else if id = 1 then .ok .datagram
  else if id = 2 then .ok .stream
  else .error (.invalidArgument s!"unknown socket type {id}")

@[simp] theorem ofId_id (kind : SocketKind) : ofId kind.id = .ok kind := by cases kind <;> rfl

end SocketKind

end ProcessorSockets
