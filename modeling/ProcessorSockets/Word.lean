namespace ProcessorSockets.Word

def least : Int := -0x80000000

def greatest : Int := 0x7FFFFFFF

def holds (n : Int) : Bool := least ≤ n && n ≤ greatest

theorem holds_iff {n : Int} : holds n = true ↔ -0x80000000 ≤ n ∧ n ≤ 0x7FFFFFFF := by
  rw [holds, Bool.and_eq_true, decide_eq_true_eq, decide_eq_true_eq]
  exact Iff.rfl

def bits (n : Int) : Nat := (n % 0x100000000).toNat

end ProcessorSockets.Word
