import ProcessorSockets.Text.Quoted
import ProcessorSockets.Json.Printer

namespace ProcessorSockets

structure Address where
  cpu : String
  name : String
  deriving DecidableEq, Repr, Hashable

namespace Address

def here (name : String) : Address := ⟨"", name⟩

def isLocal (a : Address) : Bool := a.cpu = ""

def display (a : Address) : String :=
  if a.isLocal then "local:" ++ a.name else a.cpu ++ ":" ++ a.name

def description (a : Address) : String :=
  "RpmsgSocketAddress \x7b cpu: " ++ quoted a.cpu ++ ", name: " ++ quoted a.name ++ " \x7d"

def toJson (a : Address) : List Char :=
  Json.printObject
    [Json.printMember "cpu" (Json.printString a.cpu),
      Json.printMember "name" (Json.printString a.name)]

end Address

end ProcessorSockets
