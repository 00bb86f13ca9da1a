import ProcessorSockets.Text.Hex

namespace ProcessorSockets.Trace

def marked (bytes : List UInt8) : List UInt8 :=
  (bytes.modify 6 fun b => (b &&& 0x0F) ||| 0x40).modify 8 fun b => (b &&& 0x3F) ||| 0x80

def identifier (random : List UInt8) : String :=
  let digits := Text.Hex.ofBytes (marked random)
  String.ofList <|
    digits.take 8 ++ '-' :: (digits.drop 8).take 4 ++ '-' :: (digits.drop 12).take 4 ++
      '-' :: (digits.drop 16).take 4 ++ '-' :: digits.drop 20

end ProcessorSockets.Trace
