import Mathlib.Data.List.Induction
import Mathlib.Data.Nat.Digits.Defs
import ProcessorSockets.Text.Decimal

namespace ProcessorSockets.Text.Decimal

structure Digits (s : List Char) : Prop where
  some : s ≠ []
  all : ∀ c ∈ s, isDigit c = true

structure Whole (s : List Char) : Prop extends Digits s where
  lead : s.head? = Option.some '0' → s = ['0']

def value (digits : List Char) : Nat := Nat.ofDigits 10 (digits.reverse.map digitValue)

inductive Numeral : List Char → Int → Prop
  | bare {ds} : Digits ds → Numeral ds (value ds)
  | plus {ds} : Digits ds → Numeral ('+' :: ds) (value ds)
  | minus {ds} : Digits ds → Numeral ('-' :: ds) (-value ds)

variable {s ds : List Char} {n : Int} {c : Char}

theorem isDigit_iff : isDigit c = true ↔ 48 ≤ c.toNat ∧ c.toNat ≤ 57 := by
  rw [isDigit, Bool.and_eq_true, decide_eq_true_eq, decide_eq_true_eq]
  rfl

theorem ofDigits_eq (ds : List Char) : ofDigits ds = Nat.ofDigitChars 10 ds 0 := by
  rw [Nat.ofDigitChars_eq_foldl]
  rfl

theorem ofDigits_eq_value (ds : List Char) : ofDigits ds = value ds := by
  rw [ofDigits_eq]
  unfold value
  induction ds using List.reverseRecOn with
  | nil => rfl
  | append_singleton ds c ih =>
    rw [Nat.ofDigitChars_append, ih, List.reverse_append, List.reverse_singleton,
      List.singleton_append, List.map_cons, Nat.ofDigits_cons, Nat.ofDigitChars_cons,
      Nat.ofDigitChars_nil, digitValue, Nat.add_comm]

theorem value_le (front : ds <+: s) : value ds ≤ value s := by
  obtain ⟨more, rfl⟩ := front
  rw [← ofDigits_eq_value, ← ofDigits_eq_value, ofDigits_eq, ofDigits_eq, Nat.ofDigitChars_append,
    Nat.ofDigitChars_eq_ofDigitChars_zero (l := more)]
  exact Nat.le_add_right_of_le (Nat.le_mul_of_pos_left _ (by positivity))

namespace Digits

theorem sign (h : Digits s) : s.head? ≠ Option.some '-' ∧ s.head? ≠ Option.some '+' := by
  constructor <;> intro first <;> exact absurd (h.all _ (List.mem_of_head? first)) (by decide)

end Digits

namespace Whole

theorem front (h : Whole s) (front : ds <+: s) (some : ds ≠ []) : Whole ds where
  some := some
  all c mem := h.all c (front.subset mem)
  lead first := by
    obtain ⟨c, more, rfl⟩ := List.exists_cons_of_ne_nil some
    obtain ⟨rest, rfl⟩ := front
    have zero := List.cons.inj (h.lead first)
    rw [zero.1, (List.append_eq_nil_iff.mp zero.2).1]

theorem value_pos (h : Whole s) (more : s ≠ ['0']) : 0 < value s := by
  obtain ⟨c, ds, rfl⟩ := List.exists_cons_of_ne_nil h.some
  have digit : isDigit c = true := h.all c List.mem_cons_self
  have first : c ≠ '0' := fun zero => more (h.lead (by rw [zero]; rfl))
  have pos : 0 < value [c] := by
    have range := isDigit_iff.mp digit
    have other : c.toNat ≠ 48 := fun same => first (Char.toNat_inj.mp same)
    rw [← ofDigits_eq_value]
    change 0 < 10 * 0 + (c.toNat - 48)
    omega
  exact pos.trans_le (value_le (List.prefix_append [c] ds))

end Whole

theorem digits_ofNat (n : Nat) : Digits (ofNat n) :=
  ⟨Nat.toDigits_ne_nil, fun _ mem => Nat.isDigit_of_mem_toDigits (by decide) (by decide) mem⟩

theorem value_ofNat (n : Nat) : value (ofNat n) = n := by
  rw [← ofDigits_eq_value, ofDigits_eq]
  exact Nat.ofDigitChars_ten_toDigits

theorem head_ofNat {n : Nat} (pos : 0 < n) : (ofNat n).head? ≠ some '0' := by
  induction n using Nat.strongRecOn with
  | ind n ih =>
    rw [ofNat, Nat.toDigits_eq_if (by decide)]
    split
    · rename_i small
      have other : ∀ d < 10, 0 < d → Nat.digitChar d ≠ '0' := by decide
      exact fun first => other n small pos (Option.some.inj first)
    · have front := ih (n / 10) (by omega) (by omega)
      obtain ⟨c, ds, is⟩ := List.exists_cons_of_ne_nil (Nat.toDigits_ne_nil (n := n / 10) (b := 10))
      rw [ofNat, is] at front
      rwa [is]

theorem whole_ofNat (n : Nat) : Whole (ofNat n) where
  toDigits := digits_ofNat n
  lead first := by
    cases n with
    | zero => rfl
    | succ n => exact absurd first (head_ofNat n.succ_pos)

theorem map_natural?_eq_some {f : Nat → Int} :
    (natural? s).map f = some n ↔ Digits s ∧ f (value s) = n := by
  unfold natural?
  split
  · rename_i digits
    rw [Option.map_some, Option.some.injEq, ofDigits_eq_value, List.all_eq_true] at *
    exact ⟨fun is => ⟨⟨digits.1, digits.2⟩, is⟩, fun h => h.2⟩
  · rename_i other
    rw [List.all_eq_true] at other
    exact ⟨nofun, fun h => absurd ⟨h.1.some, h.1.all⟩ other⟩

theorem integer?_minus (s : List Char) :
    integer? ('-' :: s) = (natural? s).map fun n : Nat => -(n : Int) := by
  cases reads : natural? s <;> simp [integer?, reads]

theorem integer?_plus (s : List Char) :
    integer? ('+' :: s) = (natural? s).map fun n : Nat => (n : Int) := by
  cases reads : natural? s <;> simp [integer?, reads]

theorem integer?_bare (sign : s.head? ≠ some '-' ∧ s.head? ≠ some '+') :
    integer? s = (natural? s).map fun n : Nat => (n : Int) := by
  unfold integer?
  split
  · exact absurd rfl sign.1
  · exact absurd rfl sign.2
  · cases natural? s <;> rfl

theorem integer?_eq_some : integer? s = some n ↔ Numeral s n := by
  constructor
  · intro reads
    by_cases minus : s.head? = some '-'
    · obtain ⟨ds, rfl⟩ := List.head?_eq_some_iff.mp minus
      rw [integer?_minus] at reads
      obtain ⟨digits, rfl⟩ := map_natural?_eq_some.mp reads
      exact .minus digits
    by_cases plus : s.head? = some '+'
    · obtain ⟨ds, rfl⟩ := List.head?_eq_some_iff.mp plus
      rw [integer?_plus] at reads
      obtain ⟨digits, rfl⟩ := map_natural?_eq_some.mp reads
      exact .plus digits
    · rw [integer?_bare ⟨minus, plus⟩] at reads
      obtain ⟨digits, rfl⟩ := map_natural?_eq_some.mp reads
      exact .bare digits
  · intro numeral
    cases numeral with
    | bare digits => rw [integer?_bare digits.sign, map_natural?_eq_some.mpr ⟨digits, rfl⟩]
    | plus digits => rw [integer?_plus, map_natural?_eq_some.mpr ⟨digits, rfl⟩]
    | minus digits => rw [integer?_minus, map_natural?_eq_some.mpr ⟨digits, rfl⟩]

theorem word?_eq_some : word? s = some n ↔ Numeral s n ∧ Word.holds n = true := by
  rw [word?, Option.filter_eq_some_iff, integer?_eq_some]

end ProcessorSockets.Text.Decimal
