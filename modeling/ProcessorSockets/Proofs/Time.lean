import ProcessorSockets.Time
import ProcessorSockets.Word

namespace ProcessorSockets

namespace Duration

def ofMicros (n : Nat) : Duration := ofParts (n / 1_000_000) (n % 1_000_000 * nanosPerMicro)

def add? (d e : Duration) : Option Duration :=
  let seconds := d.seconds + e.seconds
  let nanos := d.subsecondNanos + e.subsecondNanos
  if 0x10000000000000000 ≤ seconds then none
  else if nanos < nanosPerSecond then some (ofParts seconds nanos)
  else if 0x10000000000000000 ≤ seconds + 1 then none
  else some (ofParts (seconds + 1) (nanos - nanosPerSecond))

def wholeMicros (d : Duration) : Duration := ⟨d.nanos / nanosPerMicro * nanosPerMicro⟩

theorem nanos_ofMicros (n : Nat) : (ofMicros n).nanos = n * nanosPerMicro := by
  simp only [ofMicros, ofParts, nanosPerSecond, nanosPerMicro]
  omega

theorem add?_eq (d e : Duration) : d.add? e =
    if 0x10000000000000000 ≤ seconds ⟨d.nanos + e.nanos⟩ then none
    else some ⟨d.nanos + e.nanos⟩ := by
  unfold add? seconds subsecondNanos ofParts nanosPerSecond
  dsimp only
  split
  · rw [if_pos (by omega)]
  · split
    · rw [if_neg (by omega), Option.some.injEq, Duration.mk.injEq]
      omega
    · split
      · rw [if_pos (by omega)]
      · rw [if_neg (by omega), Option.some.injEq, Duration.mk.injEq]
        omega

end Duration

namespace Timeval

structure Proper (tv : Timeval) : Prop where
  seconds : 0 ≤ tv.seconds
  word : tv.seconds < 0x8000000000000000
  micros : 0 ≤ tv.micros
  subsecond : tv.micros < 1_000_000

theorem ofDuration_of_word {d : Duration} (word : d.seconds < 0x8000000000000000) :
    ofDuration d = ⟨d.seconds, d.subsecondNanos / Duration.nanosPerMicro⟩ := by
  have fits : Int.bmod d.seconds 0x10000000000000000 = d.seconds :=
    Int.bmod_eq_of_le (by omega) (by omega)
  unfold ofDuration
  rw [fits]

theorem ofDuration_eq {s u : Nat} (word : s < 0x8000000000000000) (subsecond : u < 1_000_000) :
    ofDuration ⟨s * Duration.nanosPerSecond + u * Duration.nanosPerMicro⟩ = ⟨s, u⟩ := by
  have whole : Duration.seconds ⟨s * Duration.nanosPerSecond + u * Duration.nanosPerMicro⟩ = s := by
    simp only [Duration.seconds, Duration.nanosPerSecond, Duration.nanosPerMicro]
    omega
  have rest : Duration.subsecondNanos ⟨s * Duration.nanosPerSecond + u * Duration.nanosPerMicro⟩ /
      Duration.nanosPerMicro = u := by
    simp only [Duration.subsecondNanos, Duration.nanosPerSecond, Duration.nanosPerMicro]
    omega
  rw [ofDuration_of_word (by rw [whole]; exact word), whole, ← Int.natCast_ediv, rest]

theorem ofDuration_toDuration {tv : Timeval} (proper : tv.Proper) :
    ofDuration tv.toDuration = tv := by
  obtain ⟨s, u⟩ := tv
  obtain ⟨seconds, word, micros, subsecond⟩ := proper
  dsimp only at seconds word micros subsecond
  have word' : s.toNat < 0x8000000000000000 := by omega
  have subsecond' : u.toNat < 1_000_000 := by omega
  rw [toDuration, ofDuration_eq word' subsecond', Int.toNat_of_nonneg seconds,
    Int.toNat_of_nonneg micros]

def ofMillis (v : Int) : Timeval := ⟨v / 1_000, v % 1_000 * 1_000⟩

theorem ofMillis_proper {v : Int} (sensible : 0 ≤ v) (word : v ≤ Word.greatest) :
    (ofMillis v).Proper := by
  have word : v ≤ 0x7FFFFFFF := word
  constructor <;> dsimp only [ofMillis] <;> omega

theorem ofDuration_ofMillis {v : Int} (sensible : 0 ≤ v) (word : v ≤ Word.greatest) :
    ofDuration (.ofMillis v.toNat) = ofMillis v := by
  obtain ⟨n, rfl⟩ := Int.eq_ofNat_of_zero_le sensible
  have word : (n : Int) ≤ 0x7FFFFFFF := word
  have parts : Duration.ofMillis (Int.toNat n) =
      ⟨n / 1_000 * Duration.nanosPerSecond + n % 1_000 * 1_000 * Duration.nanosPerMicro⟩ := by
    simp only [Duration.ofMillis, Int.toNat_natCast, Duration.nanosPerMilli,
      Duration.nanosPerSecond, Duration.nanosPerMicro, Duration.mk.injEq]
    omega
  rw [parts, ofDuration_eq (by omega) (by omega)]
  rfl

theorem proper_millis {v : Int} (sensible : 0 ≤ v) (word : v ≤ Word.greatest) :
    (ofDuration (.ofMillis v.toNat)).Proper := by
  rw [ofDuration_ofMillis sensible word]
  exact ofMillis_proper sensible word

structure Words (tv : Timeval) : Prop where
  seconds : -0x8000000000000000 ≤ tv.seconds ∧ tv.seconds < 0x8000000000000000
  micros : -0x8000000000000000 ≤ tv.micros ∧ tv.micros < 0x8000000000000000

def toDuration? (tv : Timeval) : Option Duration :=
  (Duration.ofParts tv.seconds.toNat 0).add? (.ofMicros tv.micros.toNat)

theorem toDuration?_eq {tv : Timeval} (words : tv.Words) : tv.toDuration? = some tv.toDuration := by
  obtain ⟨_, seconds⟩ := words.seconds
  obtain ⟨_, micros⟩ := words.micros
  have sum : (Duration.ofParts tv.seconds.toNat 0).nanos +
      (Duration.ofMicros tv.micros.toNat).nanos = tv.toDuration.nanos := by
    simp only [Duration.nanos_ofMicros, Duration.ofParts, toDuration, Nat.add_zero]
  have fits : ¬0x10000000000000000 ≤ tv.toDuration.seconds := by
    simp only [Duration.seconds, toDuration, Duration.nanosPerSecond, Duration.nanosPerMicro]
    omega
  rw [toDuration?, Duration.add?_eq, sum, if_neg fits]

theorem toDuration_ofDuration {d : Duration} (word : d.seconds < 0x8000000000000000) :
    (ofDuration d).toDuration = d.wholeMicros := by
  rw [ofDuration_of_word word]
  simp only [toDuration, Duration.wholeMicros, Duration.seconds, Duration.subsecondNanos,
    Duration.nanosPerSecond, Duration.nanosPerMicro, Duration.mk.injEq]
  omega

theorem ofDuration_eq_zero {d : Duration} (word : d.seconds < 0x8000000000000000) :
    ofDuration d = zero ↔ d.nanos < Duration.nanosPerMicro := by
  rw [ofDuration_of_word word]
  simp only [zero, Timeval.mk.injEq, Duration.seconds, Duration.subsecondNanos,
    Duration.nanosPerSecond, Duration.nanosPerMicro]
  omega

end Timeval

end ProcessorSockets
