import ProcessorSockets.Text.Decimal
import ProcessorSockets.Text.Hex

namespace ProcessorSockets.Json

def escape (c : Char) : List Char :=
  if c = '"' then ['\\', '"']
  else if c = '\\' then ['\\', '\\']
  else if c = '\x08' then ['\\', 'b']
  else if c = '\t' then ['\\', 't']
  else if c = '\n' then ['\\', 'n']
  else if c = '\x0c' then ['\\', 'f']
  else if c = '\r' then ['\\', 'r']
  else if c.toNat < 0x20 then
    ['\\', 'u', '0', '0', Text.Hex.digit (c.toNat / 16), Text.Hex.digit (c.toNat % 16)]
  else [c]

def printString (s : String) : List Char :=
  '"' :: s.toList.flatMap escape ++ ['"']

def printInt (n : Int) : List Char := Text.Decimal.ofInt n

def printMember (key : String) (value : List Char) : List Char :=
  printString key ++ ':' :: value

def printObject (members : List (List Char)) : List Char :=
  '\x7b' :: (members.intersperse [',']).flatten ++ ['\x7d']

end ProcessorSockets.Json
