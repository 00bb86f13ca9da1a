import ProcessorSockets.Json.Printer
import ProcessorSockets.Proofs.Json.Grammar

namespace ProcessorSockets.Json.Grammar

open Text.Decimal (whole_ofNat value_ofNat)

variable {c : Char} {cs t : List Char}

theorem quad_control (control : c.toNat < 0x20) : Quad c.toNat
    ['0', '0', Text.Hex.digit (c.toNat / 16), Text.Hex.digit (c.toNat % 16)] := by
  have digits : ∀ n < 16, Text.Hex.value? (Text.Hex.digit n) = some n := by decide
  have quad := Quad.mk (digits 0 (by decide)) (digits 0 (by decide))
    (digits (c.toNat / 16) (by omega)) (digits (c.toNat % 16) (by omega))
  rwa [show 4096 * 0 + 256 * 0 + 16 * (c.toNat / 16) + c.toNat % 16 = c.toNat by omega] at quad

theorem spelling_escape (h : Spelling cs t) : Spelling (c :: cs) (escape c ++ t) := by
  unfold escape
  split_ifs with quote backslash backspace tab line feed back control
  · exact .letter (by simp [letters, quote]) h
  · exact .letter (by simp [letters, backslash]) h
  · exact .letter (by simp [letters, backspace]) h
  · exact .letter (by simp [letters, tab]) h
  · exact .letter (by simp [letters, line]) h
  · exact .letter (by simp [letters, feed]) h
  · exact .letter (by simp [letters, back]) h
  · have high : ¬High c.toNat := fun high => absurd (high.1.trans_lt control) (by decide)
    have low : ¬Low c.toNat := fun low => absurd (low.1.trans_lt control) (by decide)
    have spelling := Spelling.number (quad_control control) high low h
    rwa [Char.ofNat_toNat] at spelling
  · exact .plain ⟨Nat.not_lt.mp control, quote, backslash⟩ h

theorem spelling_flatMap (cs : List Char) : Spelling cs (cs.flatMap escape) := by
  induction cs with
  | nil => exact .nil
  | cons c cs ih => exact spelling_escape ih

theorem stringText_printString (s : String) : StringText s (printString s) :=
  .mk (spelling_flatMap s.toList)

theorem integerText_printInt (n : Int) : IntegerText n (printInt n) := by
  cases n with
  | ofNat n =>
    have bare := IntegerText.bare (whole_ofNat n)
    rwa [value_ofNat] at bare
  | negSucc n =>
    have zero : Text.Decimal.ofNat (n + 1) ≠ ['0'] := by
      intro zero
      have first := Text.Decimal.head_ofNat n.succ_pos
      exact first (by rw [zero]; rfl)
    have minus := IntegerText.minus (whole_ofNat (n + 1)) zero
    rwa [value_ofNat] at minus

theorem printMember_eq (name : String) (v : List Char) :
    printMember name v = (printString name ++ [':']) ++ v := by
  simp [printMember]

theorem key_printString (name : String) :
    Key (Spelling name.toList) (printString name ++ [':']) := by
  have key := Key.mk (spelling_flatMap name.toList) blanks_nil blanks_nil
  simpa [printString] using key

theorem member_printMember (name : String) (v : List Char) :
    Member (name, v) (printMember name v) := by
  rw [printMember_eq]
  exact .mk (key_printString name)

def further (ts : List (List Char)) : List Char := ts.flatMap (',' :: ·)

theorem further_further (ts : List (List Char)) : Further ts (further ts) := by
  induction ts with
  | nil => exact .none blanks_nil
  | cons t ts ih => exact .some blanks_nil blanks_nil ih

theorem flatten_intersperse (t : List Char) (ts : List (List Char)) :
    ((t :: ts).intersperse [',']).flatten = t ++ further ts := by
  induction ts generalizing t with
  | nil => rfl
  | cons t' ts ih =>
    rw [List.intersperse_cons_cons, List.flatten_cons, List.flatten_cons, ih]
    rfl

theorem listed_intersperse (ts : List (List Char)) : Listed ts (ts.intersperse [',']).flatten := by
  cases ts with
  | nil => exact .none blanks_nil
  | cons t ts =>
    rw [flatten_intersperse]
    exact .some blanks_nil (further_further ts)

def printMembers (ms : List (String × List Char)) : List (List Char) :=
  ms.map fun m => printMember m.1 m.2

theorem members_printMembers (ms : List (String × List Char)) :
    List.Forall₂ Member ms (printMembers ms) := by
  induction ms with
  | nil => exact .nil
  | cons m ms ih => exact .cons (member_printMember m.1 m.2) ih

theorem objectText_printObject (ms : List (String × List Char)) :
    ObjectText ms (printObject (printMembers ms)) :=
  .mk blanks_nil blanks_nil (members_printMembers ms) (listed_intersperse _)

end ProcessorSockets.Json.Grammar
