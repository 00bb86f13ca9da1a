import ProcessorSockets.Text.Decimal
import ProcessorSockets.Text.Hex
import ProcessorSockets.Text.Utf8
import ProcessorSockets.Word

/-! Reading JSON text from left to right.  A reader takes what it needs from the front of
the text; the first problem met decides which of three faults is reported: the text is no
JSON, it is JSON of another shape than asked for, or it ends too early. -/

namespace ProcessorSockets.Json

inductive Fault
  | malformed
  | mismatched
  | truncated
  deriving DecidableEq, Repr

abbrev Reader (α : Type) := StateT (List Char) (Except Fault) α

namespace Reader

open Text.Decimal (isDigit digitValue ofDigits)

def fail {α : Type} (f : Fault) : Reader α := throw f

def isBlank (c : Char) : Bool := c == ' ' || c == '\n' || c == '\t' || c == '\r'

def peek : Reader (Option Char) := fun s =>
  let rest := s.dropWhile isBlank
  .ok (rest.head?, rest)

def advance : Reader Unit := fun s => .ok ((), s.tail)

def word : List Char → Reader Unit
  | [] => pure ()
  | expected :: more => fun
    | [] => .error .truncated
    | c :: rest => if c = expected then word more rest else .error .malformed

/-- Four digits of a numbered character.  Less than four bytes of text are too few,
whatever they are. -/
def fourDigits (s : List Char) : Except Fault (Nat × List Char) :=
  match s with
  | a :: b :: c :: d :: rest =>
    match Text.Hex.value? a, Text.Hex.value? b, Text.Hex.value? c, Text.Hex.value? d with
    | some a, some b, some c, some d => .ok (4096 * a + 256 * b + 16 * c + d, rest)
    | _, _, _, _ => .error .malformed
  | short =>
    if (Text.utf8 short).length < 4 then .error .truncated else .error .malformed

def lowHalf (high : Nat) (s : List Char) : Except Fault (Char × List Char) :=
  match s with
  | [] => .error .truncated
  | '\\' :: [] => .error .truncated
  | '\\' :: 'u' :: rest => do
    let (low, rest) ← fourDigits rest
    if 0xDC00 ≤ low ∧ low ≤ 0xDFFF then
      return (Char.ofNat (0x10000 + 0x400 * (high - 0xD800) + (low - 0xDC00)), rest)
    else .error .malformed
  | _ => .error .malformed

def numbered (s : List Char) : Except Fault (Char × List Char) := do
  let (n, rest) ← fourDigits s
  if 0xDC00 ≤ n ∧ n ≤ 0xDFFF then .error .malformed
  else if 0xD800 ≤ n ∧ n ≤ 0xDBFF then lowHalf n rest
  else return (Char.ofNat n, rest)

def letterEscape? : Char → Option Char
  | '"' => some '"'
  | '\\' => some '\\'
  | '/' => some '/'
  | 'b' => some '\x08'
  | 'f' => some '\x0c'
  | 'n' => some '\n'
  | 'r' => some '\r'
  | 't' => some '\t'
  | _ => none

def escape (s : List Char) : Except Fault (Char × List Char) :=
  match s with
  | [] => .error .truncated
  | c :: rest =>
    if c = 'u' then numbered rest
    else match letterEscape? c with
      | some d => .ok (d, rest)
      | none => .error .malformed

theorem fourDigits_length {s : List Char} {n : Nat} {rest : List Char}
    (h : fourDigits s = .ok (n, rest)) : rest.length < s.length := by
  unfold fourDigits at h
  split at h
  · split at h
    · simp only [Except.ok.injEq, Prod.mk.injEq] at h
      obtain ⟨_, rfl⟩ := h
      simp only [List.length_cons]; omega
    · cases h
  · split at h <;> cases h

theorem lowHalf_length {high : Nat} {s : List Char} {c : Char} {rest : List Char}
    (h : lowHalf high s = .ok (c, rest)) : rest.length < s.length := by
  unfold lowHalf at h
  split at h
  · cases h
  · cases h
  · rename_i body
    cases hd : fourDigits body with
    | error f => simp [hd, bind, Except.bind] at h
    | ok p =>
      simp only [hd, bind, Except.bind] at h
      split at h
      · simp only [pure, Except.pure, Except.ok.injEq, Prod.mk.injEq] at h
        obtain ⟨_, rfl⟩ := h
        have := fourDigits_length hd
        simp only [List.length_cons]; omega
      · cases h
  · cases h

theorem numbered_length {s : List Char} {c : Char} {rest : List Char}
    (h : numbered s = .ok (c, rest)) : rest.length < s.length := by
  unfold numbered at h
  cases hd : fourDigits s with
  | error f => simp [hd, bind, Except.bind] at h
  | ok p =>
    simp only [hd, bind, Except.bind] at h
    have hp := fourDigits_length hd
    split at h
    · cases h
    split at h
    · have := lowHalf_length h
      omega
    · simp only [pure, Except.pure, Except.ok.injEq, Prod.mk.injEq] at h
      obtain ⟨_, rfl⟩ := h
      exact hp

theorem escape_length {s : List Char} {c : Char} {rest : List Char}
    (h : escape s = .ok (c, rest)) : rest.length < s.length := by
  unfold escape at h
  split at h
  · cases h
  split at h
  · have := numbered_length h
    simp only [List.length_cons]; omega
  · split at h
    · simp only [Except.ok.injEq, Prod.mk.injEq] at h
      obtain ⟨_, rfl⟩ := h
      simp
    · cases h

def stringBody (s : List Char) : Except Fault (List Char × List Char) :=
  match s with
  | [] => .error .truncated
  | c :: rest =>
    if c = '"' then .ok ([], rest)
    else if c = '\\' then
      match h : escape rest with
      | .error f => .error f
      | .ok (d, more) =>
        have := escape_length h
        (stringBody more).map fun (cs, left) => (d :: cs, left)
    else if c.toNat < 0x20 then .error .malformed
    else (stringBody rest).map fun (cs, left) => (c :: cs, left)
  termination_by s.length

def string : Reader String := fun s =>
  (stringBody s).map fun (cs, rest) => (String.ofList cs, rest)

inductive Number
  | integer (value : Int)
  | fraction
  deriving DecidableEq, Repr

def digits : Reader (List Char) := fun s => .ok (s.takeWhile isDigit, s.dropWhile isDigit)

/-- Rounds to a multiple of a power of two so that 53 bits remain, ties to even. -/
def roundBits (n : Nat) : Nat :=
  let unit := 1 <<< (Nat.log2 n + 1 - 53)
  let q := n / unit
  let r := n % unit
  if 2 * r > unit ∨ (2 * r = unit ∧ q % 2 = 1) then (q + 1) * unit else q * unit

/-- Too large for a binary floating-point number of 64 bits: the significand times the
power of ten, each rounded first, rounds to infinity. -/
def exceedsRange (significand : Nat) (exponent : Int) : Bool :=
  if significand = 0 ∨ exponent < 0 then false
  else if exponent > 308 then true
  else roundBits significand * roundBits (Nat.pow 10 exponent.toNat) ≥ 1 <<< 1024 - 1 <<< 970

def significand : Nat → List Char → Nat × Nat
  | n, [] => (n, 0)
  | n, c :: rest =>
    let next := 10 * n + digitValue c
    if next < 1 <<< 64 then significand next rest else (n, (c :: rest).length)

def fractionOf (significand : Nat) (exponent : Int) : Reader Number :=
  if exceedsRange significand exponent then Reader.fail .malformed else pure .fraction

def exponentPart (significand : Nat) (exponent : Int) : Reader Number := do
  let negative ← (fun
    | '+' :: rest => .ok (false, rest)
    | '-' :: rest => .ok (true, rest)
    | s => .ok (false, s) : Reader Bool)
  let s ← get
  match s with
  | [] => Reader.fail .truncated
  | c :: _ =>
    if isDigit c then
      let ds ← digits
      let e : Int := ofDigits ds
      if negative then fractionOf significand (exponent - e)
      else fractionOf significand (exponent + e)
    else Reader.fail .malformed

def afterDigits (significand : Nat) (exponent : Int) (whole : Reader Number) : Reader Number :=
  fun s => match s with
  | 'e' :: rest => exponentPart significand exponent rest
  | 'E' :: rest => exponentPart significand exponent rest
  | _ => whole s

def fractionPart (n : Nat) (exponent : Int) : Reader Number := do
  let ds ← digits
  if ds.isEmpty then
    match ← get with
    | [] => Reader.fail .truncated
    | _ :: _ => Reader.fail .malformed
  else
    let (n, dropped) := significand n ds
    let e := exponent - (ds.length - dropped : Nat)
    afterDigits n e (fractionOf n e)

def number (negative : Bool) : Reader Number := do
  let s ← get
  match s with
  | [] => Reader.fail .truncated
  | c :: _ =>
    if isDigit c then
      let ds ← digits
      if c = '0' ∧ ds.length > 1 then Reader.fail .malformed
      else
        let (n, dropped) := significand 0 ds
        let whole : Reader Number :=
          if dropped > 0 then fractionOf n dropped
          else if !negative then pure (.integer n)
          else if n = 0 ∨ n > 1 <<< 63 then pure .fraction
          else pure (.integer (-n))
        fun s => match s with
          | '.' :: rest => fractionPart n dropped rest
          | _ => afterDigits n dropped whole s
    else Reader.fail .malformed

/-- The fault of a value that cannot be what is wanted: a scalar is still read to its end,
and what is wrong with its text comes first. -/
def unwanted {α : Type} : Reader α := do
  match ← peek with
  | some 'n' => advance; word ['u', 'l', 'l']; fail .mismatched
  | some 't' => advance; word ['r', 'u', 'e']; fail .mismatched
  | some 'f' => advance; word ['a', 'l', 's', 'e']; fail .mismatched
  | some '-' => advance; discard (number true); fail .mismatched
  | some '"' => advance; discard string; fail .mismatched
  | some '[' => fail .mismatched
  | some '\x7b' => fail .mismatched
  | some c => if isDigit c then do discard (number false); fail .mismatched else fail .malformed
  | none => fail .malformed

def onFirst {α : Type} (read : Char → Reader α) : Reader α := do
  match ← peek with
  | none => fail .truncated
  | some c => read c

def stringValue : Reader String :=
  onFirst fun c => if c = '"' then do advance; string else unwanted

def wordValue : Reader Int :=
  onFirst fun c =>
    if c = '-' ∨ isDigit c then do
      if c = '-' then advance
      match ← number (c = '-') with
      | .integer n => if Word.holds n then pure n else fail .mismatched
      | .fraction => fail .mismatched
    else unwanted

def nullValue : Reader Unit :=
  onFirst fun c => if c = 'n' then do advance; word ['u', 'l', 'l'] else unwanted

def skipString (s : List Char) : Except Fault (Unit × List Char) :=
  match s with
  | [] => .error .truncated
  | c :: rest =>
    if c = '"' then .ok ((), rest)
    else if c = '\\' then
      match rest with
      | [] => .error .truncated
      | d :: more =>
        if d = 'u' then
          match h : fourDigits more with
          | .error f => .error f
          | .ok (_, left) =>
            have := fourDigits_length h
            skipString left
        else if (letterEscape? d).isSome then skipString more
        else .error .malformed
    else if c.toNat < 0x20 then .error .malformed
    else skipString rest
  termination_by s.length

def skipDigits : Reader Unit := do
  if (← digits).isEmpty then fail .malformed

def skipExponent : Reader Unit := fun
  | '+' :: rest => skipDigits rest
  | '-' :: rest => skipDigits rest
  | s => skipDigits s

def skipTail : Reader Unit := fun
  | 'e' :: rest => skipExponent rest
  | 'E' :: rest => skipExponent rest
  | s => .ok ((), s)

def skipNumber : Reader Unit := do
  let ds ← digits
  if ds.isEmpty ∨ (ds.head? = some '0' ∧ ds.length > 1) then fail .malformed
  else fun
    | '.' :: rest => (do skipDigits; skipTail : Reader Unit) rest
    | s => skipTail s

def skipKey : Reader Unit :=
  onFirst fun c =>
    if c = '"' then do
      advance
      skipString
      onFirst fun c => if c = ':' then advance else fail .malformed
    else fail .malformed

mutual

/-- One value of any shape; the number bounds the depth and the count of values, and the
length of the text is always enough. -/
def skipValue : Nat → Reader Unit
  | 0 => fail .malformed
  | n + 1 => onFirst fun c =>
    match c with
    | 'n' => do advance; word ['u', 'l', 'l']
    | 't' => do advance; word ['r', 'u', 'e']
    | 'f' => do advance; word ['a', 'l', 's', 'e']
    | '-' => do advance; skipNumber
    | '"' => do advance; skipString
    | '[' => do
      advance
      onFirst fun c => if c = ']' then advance else do skipValue n; skipElements n
    | '\x7b' => do
      advance
      onFirst fun c => if c = '\x7d' then advance else do skipKey; skipValue n; skipMembers n
    | c => if isDigit c then skipNumber else fail .malformed

def skipElements : Nat → Reader Unit
  | 0 => fail .malformed
  | n + 1 => onFirst fun c =>
    if c = ']' then advance
    else if c = ',' then do advance; skipValue n; skipElements n
    else fail .malformed

def skipMembers : Nat → Reader Unit
  | 0 => fail .malformed
  | n + 1 => onFirst fun c =>
    if c = '\x7d' then advance
    else if c = ',' then do advance; skipKey; skipValue n; skipMembers n
    else fail .malformed

end

def skip : Reader Unit := fun s => skipValue (s.length + 1) s

end Reader

end ProcessorSockets.Json
