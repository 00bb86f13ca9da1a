import Mathlib.Data.List.TakeWhile
import ProcessorSockets.Text.WhiteSpace

namespace ProcessorSockets.Text

inductive Padded : List Char → List Char → Prop
  | mk {t b b'} : (∀ c ∈ b, isBlank c = true) → (∀ c ∈ b', isBlank c = true) →
    Padded (b ++ (t ++ b')) t

variable {s t : List Char}

theorem printed_ascii {c : Char} (least : 33 ≤ c.toNat) (greatest : c.toNat ≤ 126) :
    isBlank c = false := by
  simp only [isBlank, isBlankCode, Bool.or_eq_false_iff, Bool.and_eq_false_iff,
    decide_eq_false_iff_not, beq_eq_false_iff_ne]
  omega

theorem padded_trim (s : List Char) : Padded s (trim s) := by
  have left := List.takeWhile_append_dropWhile (p := isBlank) (l := s)
  have right := List.takeWhile_append_dropWhile (p := isBlank) (l := (s.dropWhile isBlank).reverse)
  have split : s = s.takeWhile isBlank ++ (trim s ++
      ((s.dropWhile isBlank).reverse.takeWhile isBlank).reverse) := by
    rw [trim, ← List.reverse_append, right, List.reverse_reverse, left]
  have padded : Padded (s.takeWhile isBlank ++ (trim s ++
      ((s.dropWhile isBlank).reverse.takeWhile isBlank).reverse)) (trim s) :=
    .mk (fun c mem => List.mem_takeWhile_imp mem)
      (fun c mem => List.mem_takeWhile_imp (List.mem_reverse.mp mem))
  rwa [← split] at padded

theorem dropWhile_printed (printed : ∀ c ∈ t, isBlank c = false) : t.dropWhile isBlank = t := by
  cases t with
  | nil => rfl
  | cons c t => exact List.dropWhile_cons_of_neg (by simp [printed c List.mem_cons_self])

theorem Padded.trim_eq (h : Padded s t) (printed : ∀ c ∈ t, isBlank c = false) : trim s = t := by
  cases h with
  | @mk _ b b' blanks blanks' =>
    have back : ((t ++ b').reverse.dropWhile isBlank).reverse = t := by
      rw [List.reverse_append, List.dropWhile_append_of_pos fun c mem =>
        blanks' c (List.mem_reverse.mp mem), dropWhile_printed fun c mem =>
        printed c (List.mem_reverse.mp mem), List.reverse_reverse]
    rw [trim, List.dropWhile_append_of_pos blanks]
    cases t with
    | nil => rw [List.nil_append, List.dropWhile_eq_nil_iff.mpr blanks']; rfl
    | cons c t =>
      have front : isBlank c = false := printed c List.mem_cons_self
      rw [List.cons_append, List.dropWhile_cons_of_neg (by simp [front])]
      exact back

end ProcessorSockets.Text
