import ProcessorSockets.Address
import ProcessorSockets.Config
import ProcessorSockets.Json.Record
import ProcessorSockets.SocketKind

namespace ProcessorSockets

namespace TransportKind

def ofWord? (s : String) : Option TransportKind := all.find? (·.name == s)

def reader : Json.Reader TransportKind := Json.Reader.choice ofWord?

def toJson (kind : TransportKind) : List Char := Json.printString kind.name

@[simp] theorem ofWord?_name (kind : TransportKind) : ofWord? kind.name = some kind := by
  cases kind <;> decide

end TransportKind

namespace SocketKind

def ofWord? (s : String) : Option SocketKind := all.find? (·.word == s)

def reader : Json.Reader SocketKind := Json.Reader.choice ofWord?

def toJson (kind : SocketKind) : List Char := Json.printString kind.word

@[simp] theorem ofWord?_word (kind : SocketKind) : ofWord? kind.word = some kind := by
  cases kind <;> decide

end SocketKind

namespace Address

structure Draft where
  cpu : Option String := none
  name : Option String := none

def Draft.finish (d : Draft) : Option Address := do
  return { cpu := ← d.cpu, name := ← d.name }

def fields : List (Json.Field Draft) := [
  .of "cpu" (·.cpu) (fun d s => { d with cpu := some s }) Json.Reader.stringValue,
  .of "name" (·.name) (fun d s => { d with name := some s }) Json.Reader.stringValue]

def reader : Json.Reader Address := Json.Reader.record fields {} Draft.finish

end Address

namespace Config

structure Draft where
  kind : Option TransportKind := none
  addressFamily : Option Int := none
  socketDirectory : Option String := none
  localCpu : Option String := none

def Draft.finish (d : Draft) : Option Config := do
  return {
    kind := ← d.kind
    addressFamily := ← d.addressFamily
    socketDirectory := ← d.socketDirectory
    localCpu := ← d.localCpu }

def fields : List (Json.Field Draft) := [
  .of "kind" (·.kind) (fun d k => { d with kind := some k }) TransportKind.reader,
  .of "address_family" (·.addressFamily) (fun d n => { d with addressFamily := some n })
    Json.Reader.wordValue,
  .of "socket_dir" (·.socketDirectory) (fun d s => { d with socketDirectory := some s })
    Json.Reader.stringValue,
  .of "local_cpu" (·.localCpu) (fun d s => { d with localCpu := some s })
    Json.Reader.stringValue]

def reader : Json.Reader Config := Json.Reader.record fields {} Draft.finish

end Config

end ProcessorSockets
