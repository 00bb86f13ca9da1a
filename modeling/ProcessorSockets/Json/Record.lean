import ProcessorSockets.Json.Reader

/-! Reading records and choices.  A record is an object that holds each of its fields once,
in any order, among members that do not matter; or it is the array of just its fields in
their order.  A choice is a word out of a set, as a string or as the only key of an object
with the value null. -/

namespace ProcessorSockets.Json

structure Field (δ : Type) where
  name : String
  isSet : δ → Bool
  read : δ → Reader δ

def Field.of {δ α : Type} (name : String) (get : δ → Option α) (set : δ → α → δ)
    (value : Reader α) : Field δ where
  name
  isSet d := (get d).isSome
  read d := do return set d (← value)

namespace Reader

def colon : Reader Unit :=
  onFirst fun c => if c = ':' then advance else fail .malformed

def member {δ : Type} (fields : List (Field δ)) (d : δ) : Reader δ := do
  advance
  let key ← string
  match fields.find? (·.name == key) with
  | some field =>
    if field.isSet d then fail .mismatched
    else do
      colon
      field.read d
  | none =>
    colon
    skip
    return d

def moreMembers {δ : Type} (fields : List (Field δ)) : Nat → δ → Reader δ
  | 0, _ => fail .malformed
  | n + 1, d => onFirst fun c =>
    if c = '\x7d' then pure d
    else if c = ',' then do
      advance
      onFirst fun c =>
        if c = '"' then do
          let d ← member fields d
          moreMembers fields n d
        else fail .malformed
    else fail .malformed

def members {δ : Type} (fields : List (Field δ)) (d : δ) : Reader δ :=
  onFirst fun c =>
    if c = '\x7d' then pure d
    else if c = '"' then do
      let d ← member fields d
      fun s => moreMembers fields (s.length + 1) d s
    else fail .malformed

def elements {δ : Type} : Bool → List (Field δ) → δ → Reader δ
  | _, [], d => pure d
  | first, field :: rest, d => onFirst fun c =>
    if c = ']' then fail .mismatched
    else if first then do
      let d ← field.read d
      elements false rest d
    else if c = ',' then do
      advance
      onFirst fun c =>
        if c = ']' then fail .malformed
        else do
          let d ← field.read d
          elements false rest d
    else fail .malformed

def close (bracket : Char) : Reader Unit :=
  onFirst fun c => if c = bracket then advance else fail .malformed

def record {δ α : Type} (fields : List (Field δ)) (blank : δ) (finish : δ → Option α) :
    Reader α :=
  onFirst fun c =>
    if c = '[' then do
      advance
      let d ← elements true fields blank
      match finish d with
      | some a => do close ']'; pure a
      | none => fail .mismatched
    else if c = '\x7b' then do
      advance
      let d ← members fields blank
      match finish d with
      | some a => do close '\x7d'; pure a
      | none => fail .mismatched
    else unwanted

def wordOf {α : Type} (ofWord? : String → Option α) : Reader α := do
  match ofWord? (← stringValue) with
  | some a => pure a
  | none => fail .mismatched

def choice {α : Type} (ofWord? : String → Option α) : Reader α :=
  onFirst fun c =>
    if c = '\x7b' then do
      advance
      let a ← wordOf ofWord?
      colon
      nullValue
      close '\x7d'
      pure a
    else if c = '"' then wordOf ofWord?
    else fail .malformed

end Reader

def decode {α : Type} (read : Reader α) (s : List Char) : Except Fault α := do
  let (a, rest) ← read s
  if rest.all Reader.isBlank then return a else throw .malformed

end ProcessorSockets.Json
