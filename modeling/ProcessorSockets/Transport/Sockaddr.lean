import ProcessorSockets.Address
import ProcessorSockets.Limits
import ProcessorSockets.Text.Utf8

namespace ProcessorSockets.Sockaddr

def overwrite : List UInt8 → List UInt8 → List UInt8
  | byte :: bytes, _ :: field => byte :: overwrite bytes field
  | _, field => field

/-- Copies bytes into a field: as many as leave room for a zero, and zeros after them.
Also tells how many were copied.  A field without room stays as it is. -/
def encodeField (bytes field : List UInt8) : Nat × List UInt8 :=
  if field = [] then (0, field)
  else
    let n := min bytes.length (field.length - 1)
    let copied := overwrite (bytes.take n) field
    (n, copied.take n ++ (copied.drop n).map fun _ => 0)

def word (n : Int) : List UInt8 :=
  let w := (n % 65536).toNat
  [UInt8.ofNat (w % 256), UInt8.ofNat (w / 256)]

def wordValue : List UInt8 → Nat
  | [low, high] => low.toNat + 256 * high.toNat
  | _ => 0

def terminated (field : List UInt8) : List UInt8 := field.takeWhile (· ≠ 0)

/-- The address of the messaging family: the low 16 bits of the family's number, the
processor and the name, each cut to its field. -/
def messaging (family : Int) (address : Address) : List UInt8 :=
  word family ++
    (encodeField (bytesOf address.cpu) (List.replicate Limits.cpuSize 0)).2 ++
    (encodeField (bytesOf address.name) (List.replicate Limits.nameSize 0)).2

def familyOf (raw : List UInt8) : Nat := wordValue (raw.take 2)

def cpuOf (raw : List UInt8) : List UInt8 := terminated ((raw.drop 2).take Limits.cpuSize)

def nameOf (raw : List UInt8) : List UInt8 :=
  terminated ((raw.drop (2 + Limits.cpuSize)).take Limits.nameSize)

def path (bytes : List UInt8) : List UInt8 :=
  word 1 ++ overwrite bytes (List.replicate (Limits.pathSize + 1) 0)

def shortPath (bytes : List UInt8) : List UInt8 := word 1 ++ bytes ++ [0]

def pathOf (raw : List UInt8) : List UInt8 := terminated (raw.drop 2)

end ProcessorSockets.Sockaddr
