namespace ProcessorSockets

structure Environment where
  /-- Names with the bytes of their values. -/
  values : List (String × List UInt8) := []

namespace Environment

/-- The value of a variable; one that is no text counts as unset. -/
def text? (env : Environment) (name : String) : Option String :=
  (env.values.lookup name).bind fun bytes => String.fromUTF8? (ByteArray.mk bytes.toArray)

def nonempty? (env : Environment) (name : String) : Option String :=
  (env.text? name).filter (· ≠ "")

end Environment

end ProcessorSockets
