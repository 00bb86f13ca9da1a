import ProcessorSockets.Proofs.Json.Reading

namespace ProcessorSockets.Json.Reader

open Grammar
open Text.Decimal (isDigit digitValue Whole value value_le)

variable {p t rest : List Char} {c : Char}

theorem isBlank_digit (digit : isDigit c = true) : isBlank c = false := by
  rw [Bool.eq_false_iff]
  intro blank
  have mem := isBlank_iff.mp blank
  simp only [List.mem_cons, List.not_mem_nil, or_false] at mem
  rcases mem with rfl | rfl | rfl | rfl <;> exact absurd digit (by decide)

theorem run_digits {ds : List Char} (all : ∀ c ∈ ds, isDigit c = true)
    (stops : ∀ c ∈ rest.head?, isDigit c = false) : digits (ds ++ rest) = .ok (ds, rest) := by
  have none : rest.takeWhile isDigit = [] ∧ rest.dropWhile isDigit = rest := by
    cases rest with
    | nil => exact ⟨rfl, rfl⟩
    | cons c rest => simp [stops c rfl]
  rw [digits, List.takeWhile_append_of_pos all, List.dropWhile_append_of_pos all, none.1, none.2,
    List.append_nil]

theorem significand_eq {n : Nat} {ds : List Char} (fits : Nat.ofDigitChars 10 ds n < 1 <<< 64) :
    significand n ds = (Nat.ofDigitChars 10 ds n, 0) := by
  induction ds generalizing n with
  | nil => rfl
  | cons c ds ih =>
    rw [Nat.ofDigitChars_cons] at fits ⊢
    have grows : 10 * n + digitValue c ≤ Nat.ofDigitChars 10 ds (10 * n + digitValue c) := by
      rw [Nat.ofDigitChars_eq_ofDigitChars_zero]
      exact Nat.le_add_right_of_le (Nat.le_mul_of_pos_left _ (by positivity))
    rw [significand, if_pos (grows.trans_lt fits)]
    exact ih fits

theorem run_afterDigits {n : Nat} {exponent : Int} {whole : Reader Number} (stops : Stops rest) :
    afterDigits n exponent whole rest = whole rest := by
  unfold afterDigits
  split
  · exact absurd rfl (stops 'e' rfl).2.2.1
  · exact absurd rfl (stops 'E' rfl).2.2.2
  · rfl

theorem run_number {ds : List Char} (h : Whole ds) (stops : Stops rest) (negative : Bool)
    (fits : value ds ≤ 1 <<< 63) (zero : negative = true → 0 < value ds) :
    number negative (ds ++ rest) =
      .ok (.integer (if negative then -value ds else value ds), rest) := by
  obtain ⟨c, more, rfl⟩ := List.exists_cons_of_ne_nil h.some
  have lead : ¬(c = '0' ∧ (c :: more).length > 1) := by
    rintro ⟨rfl, long⟩
    rw [h.lead rfl] at long
    exact absurd long (by decide)
  have size : significand 0 (c :: more) = (value (c :: more), 0) := by
    rw [← Text.Decimal.ofDigits_eq_value, Text.Decimal.ofDigits_eq] at fits ⊢
    exact significand_eq (fits.trans_lt (by decide))
  have read := run_digits h.all fun d mem => (stops d mem).1
  have seen : (get : Reader (List Char)) (c :: more ++ rest) =
    .ok (c :: more ++ rest, c :: more ++ rest) := rfl
  unfold number
  rw [run_bind_ok seen]
  dsimp only [List.cons_append]
  rw [if_pos (h.all c List.mem_cons_self), ← List.cons_append, run_bind_ok read, if_neg lead, size]
  dsimp only
  rw [if_neg (Nat.lt_irrefl 0)]
  split
  · exact absurd rfl (stops '.' rfl).2.1
  · rw [run_afterDigits stops]
    cases negative with
    | false => rfl
    | true =>
      have small : ¬(value (c :: more) = 0 ∨ value (c :: more) > 1 <<< 63) := by
        have := zero rfl
        omega
      rw [if_neg (by decide), if_neg small]
      rfl

theorem run_wordValue {n : Int} (h : IntegerText n t) (word : Word.holds n = true)
    (stops : Stops rest) : wordValue (t ++ rest) = .ok (n, rest) := by
  have range := Word.holds_iff.mp word
  cases h with
  | @bare ds whole =>
    have number := run_number whole stops false (by omega) nofun
    obtain ⟨c, more, rfl⟩ := List.exists_cons_of_ne_nil whole.some
    have digit : isDigit c = true := whole.all c List.mem_cons_self
    have sign : c ≠ '-' := by rintro rfl; exact absurd digit (by decide)
    rw [wordValue, List.cons_append, run_onFirst _ (isBlank_digit digit), if_pos (.inr digit),
      if_neg sign, decide_eq_false sign, ← List.cons_append]
    refine (run_bind_ok number _).trans ?_
    rw [if_neg (by decide)]
    exact congrFun (if_pos word) rest
  | @minus ds whole more =>
    have number := run_number whole stops true (by omega) fun _ => whole.value_pos more
    rw [wordValue, List.cons_append, run_onFirst _ (by decide), if_pos (.inl rfl), if_pos rfl,
      run_advance]
    refine (run_bind_ok number _).trans ?_
    rw [if_pos rfl]
    exact congrFun (if_pos word) rest

theorem reads_wordValue {n : Int} (h : IntegerText n t) (word : Word.holds n = true) :
    Reads wordValue t n := by
  intro b rest blanks stops
  rw [wordValue, run_onFirst_blanks blanks]
  exact run_wordValue h word stops

theorem cuts_wordValue {n : Int} (h : IntegerText n t) (word : Word.holds n = true) :
    Cuts wordValue t := by
  have range := Word.holds_iff.mp word
  intro p front short
  have shorter {n' : Int} (h' : IntegerText n' p) (least : -0x80000000 ≤ n')
      (greatest : n' ≤ 0x7FFFFFFF) : ∃ a, wordValue p = .ok (a, []) := by
    have read := run_wordValue h' (Word.holds_iff.mpr ⟨least, greatest⟩) stops_nil
    rw [List.append_nil] at read
    exact ⟨n', read⟩
  cases h with
  | @bare ds whole =>
    by_cases none : p = []
    · exact .inl (by rw [none]; rfl)
    · have smaller := value_le front
      exact .inr (shorter (.bare (whole.front front none)) (by omega) (by omega))
  | @minus ds whole more =>
    obtain rfl | ⟨q, rfl, inside⟩ := List.prefix_cons_iff.mp front
    · exact .inl rfl
    by_cases none : q = []
    · exact .inl (by rw [none]; rfl)
    · have smaller := value_le inside
      have lead : q ≠ ['0'] := by
        rintro rfl
        obtain ⟨ds, rfl⟩ := inside
        exact more (whole.lead rfl)
      exact .inr (shorter (.minus (whole.front inside none) lead) (by omega) (by omega))

end ProcessorSockets.Json.Reader
