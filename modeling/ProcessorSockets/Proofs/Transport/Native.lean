import ProcessorSockets.Transport.Native

namespace ProcessorSockets.Native

variable {κ α β : Type} {P : Desk κ → Prop}

section

variable {c : Native κ α} {f : α → Native κ β} {st st' : Desk κ × List Note}

theorem run_bind_ok {a : α} (run : c st = (.ok a, st')) : (c >>= f) st = f a st' := by
  change (ExceptT.bindCont f (c st).1) (c st).2 = _
  rw [run]
  rfl

theorem run_bind_error {e : NativeError} (run : c st = (.error e, st')) :
    (c >>= f) st = (.error e, st') := by
  change (ExceptT.bindCont f (c st).1) (c st).2 = _
  rw [run]
  rfl

theorem run_attempt (c : Native κ α) (st : Desk κ × List Note) :
    attempt c st = (.ok (c st).1, (c st).2) := rfl

end

def Keeps (P : Desk κ → Prop) (c : Native κ α) : Prop := ∀ st, P st.1 → P (c st).2.1

namespace Keeps

variable {c : Native κ α} {f : α → Native κ β}

theorem done (a : α) : Keeps P (pure a : Native κ α) := fun _ h => h

theorem fails (e : NativeError) : Keeps P (throw e : Native κ α) := fun _ h => h

theorem look : Keeps P (get : Native κ (Desk κ × List Note)) := fun _ h => h

theorem emit (level : Level) (message : String) : Keeps P (Native.emit level message) :=
    fun _ h => h

theorem lift (r : Except NativeError α) : Keeps P (liftM r : Native κ α) := by
  cases r with
  | ok a => exact .done a
  | error e => exact .fails e

theorem after {st : Desk κ × List Note} (first : P (c st).2.1) (next : ∀ a, Keeps P (f a)) :
    P ((c >>= f) st).2.1 := by
  cases run : c st with
  | mk r st' =>
    rw [run] at first
    cases r with
    | ok a =>
      rw [run_bind_ok run]
      exact next a st' first
    | error e =>
      rw [run_bind_error run]
      exact first

theorem andThen (first : Keeps P c) (next : ∀ a, Keeps P (f a)) : Keeps P (c >>= f) :=
  fun st h => after (first st h) next

theorem attempt (kept : Keeps P c) : Keeps P (Native.attempt c) := kept

end Keeps

variable {K : Kernel κ} {desk : Desk κ} {notes : List Note}

theorem run_syscall (K : Kernel κ) (c : Syscall) (desk : Desk κ) (notes : List Note) :
    syscall K c (desk, notes) = ((K.call c desk.kernel).1.mapError .os,
      ({ desk with kernel := (K.call c desk.kernel).2 }, notes ++ [.syscall c])) := by
  have noted : note (.syscall c) (desk, notes) = (.ok (), (desk, notes ++ [.syscall c])) := rfl
  have seen : (get : Native κ _) (desk, notes ++ [.syscall c]) =
      (.ok (desk, notes ++ [.syscall c]), (desk, notes ++ [.syscall c])) := rfl
  unfold syscall
  rw [run_bind_ok noted, run_bind_ok seen]
  rcases answers : K.call c desk.kernel with ⟨code | r, k⟩
  all_goals
    simp only [answers]
    rfl

theorem run_syscall_ok {c : Syscall} {r : c.Reply} {k : κ}
    (answers : K.call c desk.kernel = (.ok r, k)) :
    syscall K c (desk, notes) = (.ok r, ({ desk with kernel := k }, notes ++ [.syscall c])) := by
  rw [run_syscall, answers]
  rfl

theorem run_syscall_error {c : Syscall} {code : Int} {k : κ}
    (answers : K.call c desk.kernel = (.error code, k)) :
    syscall K c (desk, notes) =
      (.error (.os code), ({ desk with kernel := k }, notes ++ [.syscall c])) := by
  rw [run_syscall, answers]
  rfl

theorem desk_syscall (K : Kernel κ) (c : Syscall) (desk : Desk κ) (notes : List Note) :
    (syscall K c (desk, notes)).2.1 = { desk with kernel := (K.call c desk.kernel).2 } := by
  rw [run_syscall]

theorem keeps_syscall {c : Syscall}
    (kept : ∀ desk : Desk κ, P desk → P { desk with kernel := (K.call c desk.kernel).2 }) :
    Keeps P (syscall K c) := by
  intro st h
  rw [desk_syscall]
  exact kept st.1 h

theorem keeps_acceptWithin {fd : Descriptor}
    (kept : Keeps P (syscall K (.accept fd Syscall.closeOnExec)))
    (patience : Nat) : Keeps P (acceptWithin K fd patience) := by
  induction patience with
  | zero => exact kept
  | succ n ih =>
    rw [acceptWithin]
    refine .andThen kept.attempt fun r => ?_
    cases r with
    | ok peer => exact .done peer
    | error e =>
      change Keeps P (if e = .os Errno.interrupted then _ else _)
      split
      · exact ih
      · exact .fails e

end ProcessorSockets.Native
