import ProcessorSockets.Text.WhiteSpace

namespace ProcessorSockets

inductive TransportKind
  /-- The messaging family between processors. -/
  | rpmsg
  /-- Local sockets of one machine, which stand in for other processors. -/
  | unix
  deriving DecidableEq, Repr

namespace TransportKind

def all : List TransportKind := [.rpmsg, .unix]

def name : TransportKind → String
  | .rpmsg => "rpmsg"
  | .unix => "unix"

def parse (s : String) : Except String TransportKind :=
  let word := Text.lowerAscii (Text.trim s.toList)
  if word = "rpmsg".toList then .ok .rpmsg
  else if word = "unix".toList ∨ word = "loopback".toList then .ok .unix
  else .error ("unknown transport '" ++ String.ofList word ++ "'")

end TransportKind

end ProcessorSockets
