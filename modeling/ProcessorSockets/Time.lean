namespace ProcessorSockets

structure Duration where
  nanos : Nat
  deriving DecidableEq, Repr

namespace Duration

def zero : Duration := ⟨0⟩

def nanosPerSecond : Nat := 1_000_000_000

def nanosPerMilli : Nat := 1_000_000

def nanosPerMicro : Nat := 1_000

def ofParts (seconds nanos : Nat) : Duration := ⟨seconds * nanosPerSecond + nanos⟩

def ofMillis (millis : Nat) : Duration := ⟨millis * nanosPerMilli⟩

def seconds (d : Duration) : Nat := d.nanos / nanosPerSecond

def subsecondNanos (d : Duration) : Nat := d.nanos % nanosPerSecond

def millis (d : Duration) : Nat := d.nanos / nanosPerMilli

def micros (d : Duration) : Nat := d.nanos / nanosPerMicro

def isLong (d : Duration) : Bool := 100 < d.millis

end Duration

structure Timeval where
  seconds : Int
  micros : Int
  deriving DecidableEq, Repr

namespace Timeval

def zero : Timeval := ⟨0, 0⟩

/-- The length cut to whole microseconds; the seconds keep their low 64 bits. -/
def ofDuration (d : Duration) : Timeval where
  seconds := Int.bmod d.seconds 0x10000000000000000
  micros := d.subsecondNanos / Duration.nanosPerMicro

/-- The length that a pair stands for; a negative part counts as nothing. -/
def toDuration (tv : Timeval) : Duration :=
  ⟨tv.seconds.toNat * Duration.nanosPerSecond + tv.micros.toNat * Duration.nanosPerMicro⟩

end Timeval

end ProcessorSockets
