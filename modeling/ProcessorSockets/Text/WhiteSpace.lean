namespace ProcessorSockets.Text

def isBlankCode (n : Nat) : Bool :=
  (9 ≤ n && n ≤ 13) || n == 0x20 || n == 0x85 || n == 0xA0 || n == 0x1680 ||
  (0x2000 ≤ n && n ≤ 0x200A) || n == 0x2028 || n == 0x2029 || n == 0x202F ||
  n == 0x205F || n == 0x3000

def isBlank (c : Char) : Bool := isBlankCode c.toNat

def trim (s : List Char) : List Char :=
  ((s.dropWhile isBlank).reverse.dropWhile isBlank).reverse

def collapse (s : List Char) : List Char :=
  let rec go : Bool → List Char → List Char
    | _, [] => []
    | pending, c :: rest =>
      if isBlank c then go true rest
      else if pending then ' ' :: c :: go false rest
      else c :: go false rest
  go false (s.dropWhile isBlank)

def lowerAscii (s : List Char) : List Char :=
  s.map Char.toLower

end ProcessorSockets.Text
