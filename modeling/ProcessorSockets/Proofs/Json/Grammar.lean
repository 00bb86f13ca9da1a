import ProcessorSockets.Json.Reader
import ProcessorSockets.Proofs.Text.Decimal

/-! The grammar of JSON text: which texts stand for strings, numbers and values of any shape, and
which for objects and arrays of given members. -/

namespace ProcessorSockets.Json.Grammar

open Text.Decimal (Digits Whole value)

def Blanks (s : List Char) : Prop := ∀ c ∈ s, c ∈ [' ', '\t', '\n', '\r']

instance : DecidablePred Blanks := List.decidableBAll _

theorem blanks_nil : Blanks [] := nofun

def letters : List (Char × Char) := [
  ('"', '"'), ('\\', '\\'), ('/', '/'), ('b', '\x08'), ('f', '\x0c'), ('n', '\n'), ('r', '\r'),
  ('t', '\t')]

structure Plain (c : Char) : Prop where
  printed : 0x20 ≤ c.toNat
  quote : c ≠ '"'
  backslash : c ≠ '\\'

inductive Quad : Nat → List Char → Prop
  | mk {a b c d : Char} {i j k l : Nat} :
    Text.Hex.value? a = some i → Text.Hex.value? b = some j → Text.Hex.value? c = some k →
      Text.Hex.value? d = some l → Quad (4096 * i + 256 * j + 16 * k + l) [a, b, c, d]

def High (n : Nat) : Prop := 0xD800 ≤ n ∧ n ≤ 0xDBFF

def Low (n : Nat) : Prop := 0xDC00 ≤ n ∧ n ≤ 0xDFFF

inductive Spelling : List Char → List Char → Prop
  | nil : Spelling [] []
  | plain {c cs t} : Plain c → Spelling cs t → Spelling (c :: cs) (c :: t)
  | letter {e c cs t} : (e, c) ∈ letters → Spelling cs t → Spelling (c :: cs) ('\\' :: e :: t)
  | number {n q cs t} : Quad n q → ¬High n → ¬Low n → Spelling cs t →
    Spelling (Char.ofNat n :: cs) ('\\' :: 'u' :: (q ++ t))
  | pair {m n q r cs t} : Quad m q → Quad n r → High m → Low n → Spelling cs t →
    Spelling (Char.ofNat (0x10000 + 0x400 * (m - 0xD800) + (n - 0xDC00)) :: cs)
      ('\\' :: 'u' :: (q ++ '\\' :: 'u' :: (r ++ t)))

inductive Raw : List Char → Prop
  | nil : Raw []
  | plain {c t} : Plain c → Raw t → Raw (c :: t)
  | letter {e c t} : (e, c) ∈ letters → Raw t → Raw ('\\' :: e :: t)
  | number {n q t} : Quad n q → Raw t → Raw ('\\' :: 'u' :: (q ++ t))

inductive Quoted (inner : List Char → Prop) : List Char → Prop
  | mk {t} : inner t → Quoted inner ('"' :: (t ++ ['"']))

abbrev StringText (s : String) : List Char → Prop := Quoted (Spelling s.toList)

inductive Fraction : List Char → Prop
  | none : Fraction []
  | some {ds} : Digits ds → Fraction ('.' :: ds)

inductive Exponent : List Char → Prop
  | none : Exponent []
  | some {e sign ds} : e ∈ ['e', 'E'] → sign ∈ [[], ['+'], ['-']] → Digits ds →
    Exponent (e :: (sign ++ ds))

inductive NumberText : List Char → Prop
  | bare {ds f e} : Whole ds → Fraction f → Exponent e → NumberText (ds ++ (f ++ e))
  | minus {ds f e} : Whole ds → Fraction f → Exponent e → NumberText ('-' :: (ds ++ (f ++ e)))

inductive IntegerText : Int → List Char → Prop
  | bare {ds} : Whole ds → IntegerText (value ds) ds
  | minus {ds} : Whole ds → ds ≠ ['0'] → IntegerText (-value ds) ('-' :: ds)

inductive Further : List (List Char) → List Char → Prop
  | none {b} : Blanks b → Further [] b
  | some {b b' v vs t} : Blanks b → Blanks b' → Further vs t →
    Further (v :: vs) (b ++ ',' :: (b' ++ (v ++ t)))

inductive Listed : List (List Char) → List Char → Prop
  | none {b} : Blanks b → Listed [] b
  | some {b v vs t} : Blanks b → Further vs t → Listed (v :: vs) (b ++ (v ++ t))

inductive Key (inner : List Char → Prop) : List Char → Prop
  | mk {t b b'} : inner t → Blanks b → Blanks b' →
    Key inner ('"' :: (t ++ '"' :: (b ++ ':' :: b')))

inductive Value : List Char → Prop
  | null : Value ['n', 'u', 'l', 'l']
  | true : Value ['t', 'r', 'u', 'e']
  | false : Value ['f', 'a', 'l', 's', 'e']
  | number {t} : NumberText t → Value t
  | string {t} : Quoted Raw t → Value t
  | array {vs t} : Listed vs t → (∀ v ∈ vs, Value v) → Value ('[' :: (t ++ [']']))
  | object {ms : List (List Char × List Char)} {t} : Listed (ms.map fun m => m.1 ++ m.2) t →
    (∀ m ∈ ms, Key Raw m.1) → (∀ m ∈ ms, Value m.2) → Value ('\x7b' :: (t ++ ['\x7d']))

inductive Member : String × List Char → List Char → Prop
  | mk {name k v} : Key (Spelling name.toList) k → Member (name, v) (k ++ v)

inductive ObjectText : List (String × List Char) → List Char → Prop
  | mk {members texts t b b'} : Blanks b → Blanks b' → List.Forall₂ Member members texts →
    Listed texts t → ObjectText members (b ++ '\x7b' :: (t ++ '\x7d' :: b'))

inductive ArrayText : List (List Char) → List Char → Prop
  | mk {texts t b b'} : Blanks b → Blanks b' → Listed texts t →
    ArrayText texts (b ++ '[' :: (t ++ ']' :: b'))

inductive ChoiceText (word : String) : List Char → Prop
  | word {t} : StringText word t → ChoiceText word t
  | object {t a b c d} : StringText word t → Blanks a → Blanks b → Blanks c → Blanks d →
    ChoiceText word
      ('\x7b' :: (a ++ (t ++ (b ++ ':' :: (c ++
        'n' :: 'u' :: 'l' :: 'l' :: (d ++ ['\x7d']))))))

end ProcessorSockets.Json.Grammar
