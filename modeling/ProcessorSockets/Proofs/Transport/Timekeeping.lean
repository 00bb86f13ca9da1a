import ProcessorSockets.Kernel.Scripted
import ProcessorSockets.Proofs.Time
import ProcessorSockets.Proofs.Transport.Native
import ProcessorSockets.Transport.Scripted

namespace ProcessorSockets

structure TimeForm (τ : Type) where
  told : τ → Duration
  kept : Duration → τ
  fits : Duration → Prop

namespace TimeForm

def plain : TimeForm Duration := ⟨id, id, fun _ => True⟩

def system : TimeForm Timeval :=
  ⟨Timeval.toDuration, .ofDuration, fun d => (Timeval.ofDuration d).Proper⟩

end TimeForm

structure TimeStore (σ τ : Type) where
  held : σ → Descriptor → Side → τ
  /-- Whether what is told of timeouts is what is held. -/
  sound : σ → Prop

namespace TimeStore

variable {σ τ : Type}

def Same (S : TimeStore σ τ) (fd : Descriptor) (s s' : σ) : Prop :=
  S.sound s' ∧ ∀ side, S.held s' fd side = S.held s fd side

def Renewed (S : TimeStore σ τ) (fd : Descriptor) (side : Side) (v : τ) (s s' : σ) : Prop :=
  S.sound s' ∧ ∀ other, S.held s' fd other = if other = side then v else S.held s fd other

end TimeStore

/-- A transport that keeps timeouts.  What it fails to do changes none. -/
structure Transport.KeepsTime {σ τ : Type} (T : Transport σ) (S : TimeStore σ τ)
    (form : TimeForm τ) : Prop where
  get : ∀ {t fd side}, S.sound t → S.Same fd t (T.handle (.getTimeout fd side) t).state
  told : ∀ {t fd side d}, S.sound t → (T.handle (.getTimeout fd side) t).reply = .ok d →
    d = form.told (S.held t fd side)
  set : ∀ {t fd side d}, S.sound t → form.fits d →
    (T.handle (.setTimeout fd side d) t).reply = .ok () →
      S.Renewed fd side (form.kept d) t (T.handle (.setTimeout fd side d) t).state
  failed : ∀ {t fd side d e}, S.sound t → form.fits d →
    (T.handle (.setTimeout fd side d) t).reply = .error e →
      S.Same fd t (T.handle (.setTimeout fd side d) t).state

/-- A transport from which timeouts are read as they were set.  Nothing is said of what fails. -/
structure Transport.RecallsTime {σ τ : Type} (T : Transport σ) (S : TimeStore σ τ)
    (form : TimeForm τ) : Prop where
  read : ∀ {t fd side d}, S.sound t → (T.handle (.getTimeout fd side) t).reply = .ok d →
    d = form.told (S.held t fd side) ∧ S.Same fd t (T.handle (.getTimeout fd side) t).state
  set : ∀ {t fd side d}, S.sound t → form.fits d →
    (T.handle (.setTimeout fd side d) t).reply = .ok () →
      S.Renewed fd side (form.kept d) t (T.handle (.setTimeout fd side d) t).state

theorem Transport.KeepsTime.recalls {σ τ : Type} {T : Transport σ} {S : TimeStore σ τ}
    {form : TimeForm τ} (keeps : T.KeepsTime S form) : T.RecallsTime S form where
  read sound tells := ⟨keeps.told sound tells, keeps.get sound⟩
  set := keeps.set

namespace Native

variable {κ : Type} {K : Kernel κ} {S : TimeStore κ Timeval}

theorem timeoutOption_inj {side other : Side} :
    timeoutOption side = timeoutOption other ↔ side = other := by
  cases side <;> cases other <;> decide

/-- A kernel that keeps the timeouts that it is given.  What it fails to do changes none. -/
structure KeepsTime (K : Kernel κ) (S : TimeStore κ Timeval) : Prop where
  get : ∀ {k fd side}, S.sound k →
    S.Same fd k (K.call (.getTime fd Syscall.socketLevel (timeoutOption side)) k).2
  told : ∀ {k fd side tv}, S.sound k →
    (K.call (.getTime fd Syscall.socketLevel (timeoutOption side)) k).1 = .ok tv →
      tv = S.held k fd side
  set : ∀ {k fd side tv}, S.sound k → tv.Proper →
    (K.call (.setTime fd Syscall.socketLevel (timeoutOption side) tv) k).1 = .ok () →
      S.Renewed fd side tv k
        (K.call (.setTime fd Syscall.socketLevel (timeoutOption side) tv) k).2
  failed : ∀ {k fd side tv code}, S.sound k → tv.Proper →
    (K.call (.setTime fd Syscall.socketLevel (timeoutOption side) tv) k).1 = .error code →
      S.Same fd k (K.call (.setTime fd Syscall.socketLevel (timeoutOption side) tv) k).2

structure RepeatsTime (K : Kernel κ) (S : TimeStore κ Timeval) : Prop extends KeepsTime K S where
  tells : ∀ {k fd side tv}, S.sound k → tv.Proper →
    (K.call (.setTime fd Syscall.socketLevel (timeoutOption side) tv) k).1 = .ok () →
      ∃ tv', (K.call (.getTime fd Syscall.socketLevel (timeoutOption side))
        (K.call (.setTime fd Syscall.socketLevel (timeoutOption side) tv) k).2).1 = .ok tv'

def timesOn (S : TimeStore κ Timeval) : TimeStore (Desk κ) Timeval where
  held desk := S.held desk.kernel
  sound desk := S.sound desk.kernel

theorem answer_of_run {α : Type} {step : Native κ α} {desk desk' : Desk κ} {notes : List Note}
    {reply : Except NativeError α} (run : step (desk, []) = (reply, (desk', notes))) :
    answer step desk = { reply, notes, state := desk' } := by
  have run : step.run.run (desk, []) = (reply, (desk', notes)) := run
  rw [answer, run]

theorem answer_setTimeout (fd : Descriptor) (side : Side) (d : Duration) (desk : Desk κ) :
    let call := Syscall.setTime fd Syscall.socketLevel (timeoutOption side) (.ofDuration d)
    answer (setTimeout K fd side d) desk =
      { reply := (K.call call desk.kernel).1.mapError .os
        notes := [.syscall call]
        state := { desk with kernel := (K.call call desk.kernel).2 } } := by
  intro call
  rcases calls : K.call call desk.kernel with ⟨code | _, k⟩
  · exact answer_of_run (run_syscall_error calls)
  · exact answer_of_run (run_syscall_ok calls)

theorem answer_getTimeout (fd : Descriptor) (side : Side) (desk : Desk κ) :
    let call := Syscall.getTime fd Syscall.socketLevel (timeoutOption side)
    answer (getTimeout K fd side) desk =
      { reply := ((K.call call desk.kernel).1.mapError .os).map Timeval.toDuration
        notes := [.syscall call]
        state := { desk with kernel := (K.call call desk.kernel).2 } } := by
  intro call
  rcases calls : K.call call desk.kernel with ⟨code | tv, k⟩
  · exact answer_of_run (run_bind_error (run_syscall_error calls))
  · exact answer_of_run (run_bind_ok (run_syscall_ok calls))

theorem keepsTime (keeps : KeepsTime K S) (family : Family κ) :
    (transport K family).KeepsTime (timesOn S) .system where
  get {desk fd side} sound := by
    change (timesOn S).Same fd desk (answer (getTimeout K fd side) desk).state
    rw [answer_getTimeout]
    exact keeps.get sound
  told {desk fd side d} sound tells := by
    change (answer (getTimeout K fd side) desk).reply = _ at tells
    rw [answer_getTimeout] at tells
    rcases asked : (K.call (.getTime fd Syscall.socketLevel (timeoutOption side)) desk.kernel).1
      with code | tv
    · rw [asked] at tells
      cases tells
    · rw [asked] at tells
      cases tells
      rw [keeps.told sound asked]
      rfl
  set {desk fd side d} sound fits done := by
    change (answer (setTimeout K fd side d) desk).reply = _ at done
    change (timesOn S).Renewed fd side _ desk (answer (setTimeout K fd side d) desk).state
    rw [answer_setTimeout] at done ⊢
    refine keeps.set sound fits ?_
    rcases asked : (K.call (.setTime fd Syscall.socketLevel (timeoutOption side) (.ofDuration d))
      desk.kernel).1 with code | _
    · rw [asked] at done
      cases done
    · rfl
  failed {desk fd side d e} sound fits fails := by
    change (answer (setTimeout K fd side d) desk).reply = _ at fails
    change (timesOn S).Same fd desk (answer (setTimeout K fd side d) desk).state
    rw [answer_setTimeout] at fails ⊢
    rcases asked : (K.call (.setTime fd Syscall.socketLevel (timeoutOption side) (.ofDuration d))
      desk.kernel).1 with code | _
    · exact keeps.failed sound fits asked
    · rw [asked] at fails
      cases fails

end Native

theorem getD_lookup_cons {α β : Type} [BEq α] [LawfulBEq α] [DecidableEq α] (key other : α)
    (new zero : β) (table : List (α × β)) :
    (((key, new) :: table).lookup other).getD zero =
      if other = key then new else (table.lookup other).getD zero := by
  rw [List.lookup_cons]
  by_cases same : other = key
  · simp [same]
  · simp [same, beq_eq_false_iff_ne.mpr same]

namespace Scripted

def times : TimeStore State Duration where
  held s fd side := (s.timeouts.lookup (fd, side)).getD .zero
  sound s := ∀ d, Outcome.time d ∉ s.outcomes .getTimeout

variable {s : State} {m n : Method}

@[simp] theorem timeouts_take : (s.take m).2.timeouts = s.timeouts := by
  unfold State.take
  split <;> rfl

theorem mem_take {o : Outcome} (mem : o ∈ (s.take m).2.outcomes n) : o ∈ s.outcomes n := by
  unfold State.take at mem
  split at mem
  case h_1 => exact mem
  case h_2 _ o' rest queue =>
    dsimp only at mem
    split at mem
    case isTrue same =>
      rw [same, queue]
      exact List.mem_cons_of_mem _ mem
    case isFalse => exact mem

theorem take_sound (sound : times.sound s) : times.sound (s.take m).2 :=
  fun d mem => sound d (mem_take mem)

theorem same_take (sound : times.sound s) (fd : Descriptor) : times.Same fd s (s.take m).2 :=
  ⟨take_sound sound, fun side => by simp [times]⟩

theorem take_ne_time (sound : times.sound s) (d : Duration) : (s.take .getTimeout).1 ≠ .time d := by
  intro is
  unfold State.take at is
  split at is
  case h_1 => cases is
  case h_2 _ o rest queue =>
    cases is
    exact sound d (by simp [queue])

theorem handle_getTimeout (fd : Descriptor) (side : Side) (sound : times.sound s) :
    let rest := (s.take .getTimeout).2
    (∃ e, handle (.getTimeout fd side) s = { reply := .error e, state := rest }) ∨
      handle (.getTimeout fd side) s = { reply := .ok (times.held s fd side), state := rest } := by
  have made := take_ne_time sound
  unfold handle
  dsimp only [Request.method]
  cases o : (s.take .getTimeout).1 with
  | failure e => exact .inl ⟨e, rfl⟩
  | time d => exact absurd o (made d)
  | _ => exact .inr (by simp [times])

theorem handle_setTimeout (fd : Descriptor) (side : Side) (d : Duration) (s : State) :
    let rest := (s.take .setTimeout).2
    (∃ e, handle (.setTimeout fd side d) s = { reply := .error e, state := rest }) ∨
      handle (.setTimeout fd side d) s =
        { reply := .ok ()
          state := { rest with timeouts := ((fd, side), d) :: rest.timeouts } } := by
  unfold handle
  dsimp only [Request.method]
  cases (s.take .setTimeout).1 with
  | failure e => exact .inl ⟨e, rfl⟩
  | _ => exact .inr rfl

theorem keepsTime : transport.KeepsTime times .plain where
  get {s fd side} sound := by
    change times.Same fd s (handle (.getTimeout fd side) s).state
    obtain ⟨e, run⟩ | run := handle_getTimeout fd side sound
    · rw [run]
      exact same_take sound fd
    · rw [run]
      exact same_take sound fd
  told {s fd side d} sound tells := by
    change (handle (.getTimeout fd side) s).reply = _ at tells
    obtain ⟨e, run⟩ | run := handle_getTimeout fd side sound
    · rw [run] at tells
      cases tells
    · rw [run] at tells
      exact (Except.ok.inj tells).symm
  set {s fd side d} sound _ done := by
    change (handle (.setTimeout fd side d) s).reply = _ at done
    change times.Renewed fd side d s (handle (.setTimeout fd side d) s).state
    obtain ⟨e, run⟩ | run := handle_setTimeout fd side d s
    · rw [run] at done
      cases done
    · rw [run]
      exact ⟨take_sound sound, fun other => by simp [times, getD_lookup_cons]⟩
  failed {s fd side d e} sound _ fails := by
    change (handle (.setTimeout fd side d) s).reply = _ at fails
    change times.Same fd s (handle (.setTimeout fd side d) s).state
    obtain ⟨e, run⟩ | run := handle_setTimeout fd side d s
    · rw [run]
      exact same_take sound fd
    · rw [run] at fails
      cases fails

end Scripted

namespace ScriptedKernel

open Native (timeoutOption)

def timeouts : TimeStore State Timeval where
  held k fd side := (k.times.lookup (fd, timeoutOption side)).getD .zero
  sound k := ∀ o ∈ k.outcomes .getsockopt, o = .standard ∨ ∃ code, o = .failure code

variable {k : State} {m n : Name}

@[simp] theorem times_take : (k.take m).2.times = k.times := by
  unfold State.take
  split <;> rfl

theorem mem_take {o : Outcome} (mem : o ∈ (k.take m).2.outcomes n) : o ∈ k.outcomes n := by
  unfold State.take at mem
  split at mem
  case h_1 => exact mem
  case h_2 _ o' rest queue =>
    dsimp only at mem
    split at mem
    case isTrue same =>
      rw [same, queue]
      exact List.mem_cons_of_mem _ mem
    case isFalse => exact mem

theorem take_sound (sound : timeouts.sound k) : timeouts.sound (k.take m).2 :=
  fun o mem => sound o (mem_take mem)

theorem same_take (sound : timeouts.sound k) (fd : Descriptor) : timeouts.Same fd k (k.take m).2 :=
  ⟨take_sound sound, fun side => by simp [timeouts]⟩

theorem take_standard (sound : timeouts.sound k) :
    (k.take .getsockopt).1 = .standard ∨ ∃ code, (k.take .getsockopt).1 = .failure code := by
  unfold State.take
  split
  case h_1 => exact .inl rfl
  case h_2 _ o rest queue => exact sound o (by simp [queue])

theorem run_getTime (fd : Descriptor) (side : Side) (sound : timeouts.sound k) :
    let rest := (k.take .getsockopt).2
    (∃ code, call (.getTime fd Syscall.socketLevel (timeoutOption side)) k = (.error code, rest)) ∨
      call (.getTime fd Syscall.socketLevel (timeoutOption side)) k =
        (.ok (timeouts.held k fd side), rest) := by
  unfold call
  dsimp only [Name.of]
  obtain standard | ⟨code, failure⟩ := take_standard sound
  · rw [standard]
    exact .inr (by simp [timeouts])
  · rw [failure]
    exact .inl ⟨code, rfl⟩

theorem run_setTime (fd : Descriptor) (side : Side) (tv : Timeval) (k : State) :
    let rest := (k.take .setsockopt).2
    (∃ code, call (.setTime fd Syscall.socketLevel (timeoutOption side) tv) k =
      (.error code, rest)) ∨
    call (.setTime fd Syscall.socketLevel (timeoutOption side) tv) k =
      (.ok (), { rest with times := ((fd, timeoutOption side), tv) :: rest.times }) := by
  unfold call
  dsimp only [Name.of]
  cases (k.take .setsockopt).1 with
  | failure code => exact .inl ⟨code, rfl⟩
  | _ => exact .inr rfl

theorem keepsTime : Native.KeepsTime kernel timeouts where
  get {k fd side} sound := by
    change timeouts.Same fd k (call _ k).2
    obtain ⟨code, run⟩ | run := run_getTime fd side sound
    · rw [run]
      exact same_take sound fd
    · rw [run]
      exact same_take sound fd
  told {k fd side tv} sound tells := by
    change (call _ k).1 = _ at tells
    obtain ⟨code, run⟩ | run := run_getTime fd side sound
    · rw [run] at tells
      cases tells
    · rw [run] at tells
      exact (Except.ok.inj tells).symm
  set {k fd side tv} sound _ done := by
    change (call _ k).1 = _ at done
    change timeouts.Renewed fd side tv k (call _ k).2
    obtain ⟨code, run⟩ | run := run_setTime fd side tv k
    · rw [run] at done
      cases done
    · rw [run]
      refine ⟨take_sound sound, fun other => ?_⟩
      simp [timeouts, getD_lookup_cons, Native.timeoutOption_inj]
  failed {k fd side tv code} sound _ fails := by
    change (call _ k).1 = _ at fails
    change timeouts.Same fd k (call _ k).2
    obtain ⟨code, run⟩ | run := run_setTime fd side tv k
    · rw [run]
      exact same_take sound fd
    · rw [run] at fails
      cases fails

end ScriptedKernel

end ProcessorSockets
