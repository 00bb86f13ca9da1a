import ProcessorSockets.Proofs.Kernel.Descriptors
import ProcessorSockets.Proofs.Transport.Timekeeping

namespace ProcessorSockets.UnixDomain

open Native (timeoutOption)

namespace Sock

def timeout (k : Sock) : Side → Timeval
  | .send => k.sendTimeout
  | .receive => k.receiveTimeout

def withTimeout (k : Sock) (side : Side) (tv : Timeval) : Sock :=
  match side with
  | .send => { k with sendTimeout := tv }
  | .receive => { k with receiveTimeout := tv }

@[simp] theorem waiting_withTimeout (k : Sock) (side : Side) (tv : Timeval) :
    (k.withTimeout side tv).waiting = k.waiting := by
  cases side <;> rfl

theorem timeout_withTimeout (k : Sock) (side other : Side) (tv : Timeval) :
    (k.withTimeout side tv).timeout other = if other = side then tv else k.timeout other := by
  cases side <;> cases other <;> rfl

end Sock

def timeouts : TimeStore State Timeval where
  held s fd side := ((s.socketOf? fd).map fun id => (s.sock id).timeout side).getD .zero
  sound s := s.Whole

variable {s : State} {fd : Descriptor} {id : Nat} {side : Side} {tv : Timeval}

theorem run_getTime (has : s.socketOf? fd = some id) :
    kernel.call (.getTime fd Syscall.socketLevel (timeoutOption side)) s =
      (.ok ((s.sock id).timeout side), s) := by
  have seen : sock id s = (.ok (s.sock id), s) := rfl
  change getTime fd (timeoutOption side) s = _
  rw [getTime, Call.run_bind_ok (State.lookup_some has), Call.run_bind_ok seen]
  cases side <;> rfl

theorem run_getTime_none (has : s.socketOf? fd = none) :
    kernel.call (.getTime fd Syscall.socketLevel (timeoutOption side)) s =
      (.error Errno.badDescriptor, s) :=
  Call.run_bind_error (State.lookup_none has)

theorem run_setTime (has : s.socketOf? fd = some id) (proper : tv.Proper) :
    kernel.call (.setTime fd Syscall.socketLevel (timeoutOption side) tv) s =
      (.ok (), s.setSock id ((s.sock id).withTimeout side tv)) := by
  have sensible : ¬(tv.micros < 0 ∨ 1_000_000 ≤ tv.micros) := by
    have := proper.micros
    have := proper.subsecond
    omega
  have sensible' : ¬tv.seconds < 0 := Int.not_lt.mpr proper.seconds
  change setTime fd (timeoutOption side) tv s = _
  rw [setTime, Call.run_bind_ok (State.lookup_some has), if_neg sensible, if_neg sensible']
  cases side <;> rfl

theorem run_setTime_none (has : s.socketOf? fd = none) :
    kernel.call (.setTime fd Syscall.socketLevel (timeoutOption side) tv) s =
      (.error Errno.badDescriptor, s) :=
  Call.run_bind_error (State.lookup_none has)

theorem renewed (whole : s.Whole) (has : s.socketOf? fd = some id) :
    timeouts.Renewed fd side tv s (s.setSock id ((s.sock id).withTimeout side tv)) := by
  refine ⟨whole.setSock fun i mem => whole.queued (by simpa using mem), fun other => ?_⟩
  have has' : (s.setSock id ((s.sock id).withTimeout side tv)).socketOf? fd = some id := has
  simp [timeouts, has, has', State.sock_setSock, whole.known has, Sock.timeout_withTimeout]

theorem keepsTime : Native.KeepsTime kernel timeouts where
  get {s fd side} whole := by
    cases has : s.socketOf? fd with
    | none =>
      rw [run_getTime_none has]
      exact ⟨whole, fun _ => rfl⟩
    | some id =>
      rw [run_getTime has]
      exact ⟨whole, fun _ => rfl⟩
  told {s fd side tv} _ tells := by
    cases has : s.socketOf? fd with
    | none =>
      rw [run_getTime_none has] at tells
      cases tells
    | some id =>
      rw [run_getTime has] at tells
      cases tells
      simp [timeouts, has]
  set {s fd side tv} whole proper done := by
    cases has : s.socketOf? fd with
    | none =>
      rw [run_setTime_none has] at done
      cases done
    | some id =>
      rw [run_setTime has proper]
      exact renewed whole has
  failed {s fd side tv code} whole proper fails := by
    cases has : s.socketOf? fd with
    | none =>
      rw [run_setTime_none has]
      exact ⟨whole, fun _ => rfl⟩
    | some id =>
      rw [run_setTime has proper] at fails
      cases fails

theorem repeatsTime : Native.RepeatsTime kernel timeouts where
  toKeepsTime := keepsTime
  tells {s fd side tv} _ proper done := by
    cases has : s.socketOf? fd with
    | none =>
      rw [run_setTime_none has] at done
      cases done
    | some id =>
      rw [run_setTime has proper]
      have has' : (s.setSock id ((s.sock id).withTimeout side tv)).socketOf? fd = some id := has
      exact ⟨_, congrArg Prod.fst (run_getTime has')⟩

end ProcessorSockets.UnixDomain
