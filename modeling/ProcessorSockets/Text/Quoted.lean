import ProcessorSockets.Text.Hex
import ProcessorSockets.Text.Printable

namespace ProcessorSockets.Text.Quoted

def escape (c : Char) : List Char :=
  if c = '"' then ['\\', '"']
  else if c = '\\' then ['\\', '\\']
  else if c = '\n' then ['\\', 'n']
  else if c = '\r' then ['\\', 'r']
  else if c = '\t' then ['\\', 't']
  else if c = '\x00' then ['\\', '0']
  else if isHidden c then ['\\', 'u', '\x7b'] ++ Hex.ofNat c.toNat ++ ['\x7d']
  else [c]

def encode (s : List Char) : List Char :=
  '"' :: s.flatMap escape ++ ['"']

end ProcessorSockets.Text.Quoted

namespace ProcessorSockets

def quoted (s : String) : String := String.ofList (Text.Quoted.encode s.toList)

end ProcessorSockets
