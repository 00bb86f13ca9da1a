import ProcessorSockets.Proofs.Kernel.Timekeeping
import ProcessorSockets.Proofs.Timeouts
import ProcessorSockets.Transport.Loopback

namespace ProcessorSockets

open Call (Sets)

variable {σ κ : Type} {fd : Descriptor}

theorem Link.run_quiet {T : Transport σ} (caller : Option Endpoint) (r : Request) {w : World σ}
    (quiet : w.disturbances = []) :
    ((Link.disturbed T).send caller r w).1 = (T.handle r w.transport).reply := by
  rw [run_disturbed, World.interrupt_quiet T _ (w := w.add [.request caller r]) quiet,
    T.run_respond]
  rfl

namespace Endpoint

variable {ep : Endpoint} {d : Duration} {tv : Timeval} {v : Int}

theorem timeoutValue_toDuration (tv : Timeval) : timeoutValue tv.toDuration =
    min Word.greatest ((max tv.seconds 0 * 1_000_000 + max tv.micros 0) / 1_000) := by
  simp only [timeoutValue, Duration.millis, Timeval.toDuration, Duration.nanosPerSecond,
    Duration.nanosPerMicro, Duration.nanosPerMilli]
  omega

theorem timeoutValue_ofMillis (sensible : 0 ≤ v) (word : v ≤ Word.greatest) :
    timeoutValue (Timeval.ofMillis v).toDuration = v := by
  rw [timeoutValue_toDuration]
  simp only [Timeval.ofMillis]
  omega

theorem timeoutValue_eq_zero : timeoutValue d = 0 ↔ d.nanos < Duration.nanosPerMilli := by
  simp only [timeoutValue, Duration.millis, Duration.nanosPerMilli, Word.greatest]
  omega

theorem getOption_timeout {L : Link σ} {w w' : World σ} (has : (w.handle ep).fd = some fd)
    (asked : L.send (some ep) (.getTimeout fd .send) w = (.ok d, w')) :
    ep.getOption L .timeout w = (.ok (timeoutValue d), w') := by
  rw [getOption, Action.run_bind, run_fd, has]
  dsimp only
  rw [Action.run_bind, run_ask_ok L ep asked]
  rfl

theorem getOption_quiet {T : Transport σ} {w : World σ} (quiet : w.disturbances = [])
    (has : (w.handle ep).fd = some fd)
    (answers : (T.handle (.getTimeout fd .send) w.transport).reply = .ok d) :
    (ep.getOption (.disturbed T) .timeout w).1 = .ok (timeoutValue d) := by
  rw [← Link.run_quiet (some ep) (.getTimeout fd .send) quiet] at answers
  rw [getOption_timeout has (Prod.ext answers rfl)]

end Endpoint

namespace Call.Sets

variable {τ : Type} {T : Transport σ} {S : TimeStore σ τ} {form : TimeForm τ} {t t' : σ}
  {d : Duration} {calls : List Call}

theorem last (recalls : T.RecallsTime S form) (sound : S.sound t) (fits : form.fits d)
    (sets : Sets fd d calls (.ok ())) (serves : T.Serves t calls t') :
    ∃ t₂, S.sound t₂ ∧ (T.handle (.setTimeout fd .send d) t₂).reply = .ok () ∧
      t' = (T.handle (.setTimeout fd .send d) t₂).state := by
  cases sets with
  | done =>
    simp only [Transport.serves_cons, Transport.serves_nil] at serves
    obtain ⟨read, first, second, rfl⟩ := serves
    obtain ⟨_, sound₁, _⟩ := recalls.read sound read
    obtain ⟨sound₂, _⟩ := recalls.set sound₁ fits first
    exact ⟨_, sound₂, second, rfl⟩

theorem held (recalls : T.RecallsTime S form) (sound : S.sound t) (fits : form.fits d)
    (sets : Sets fd d calls (.ok ())) (serves : T.Serves t calls t') :
    S.sound t' ∧ S.held t' fd .send = form.kept d := by
  obtain ⟨t₂, sound₂, second, rfl⟩ := sets.last recalls sound fits serves
  obtain ⟨sound₃, send⟩ := recalls.set sound₂ fits second
  exact ⟨sound₃, (send .send).trans (if_pos rfl)⟩

end Call.Sets

namespace Endpoint

variable {ep : Endpoint} {v : Int}

def reread (ep : Endpoint) (T : Transport σ) (w : World σ) (v : Int) : Except SocketError Int :=
  (ep.getOption (.disturbed T) .timeout (ep.setOption (.disturbed T) .timeout v w).2).1

theorem served_setOption {T : Transport σ} {w : World σ} (quiet : w.disturbances = [])
    (has : (w.handle ep).fd = some fd) (sensible : 0 ≤ v)
    (done : (ep.setOption (.disturbed T) .timeout v w).1 = .ok ()) :
    ∃ calls, w.Called (some ep) calls (ep.setOption (.disturbed T) .timeout v w).2 ∧
      Sets fd (.ofMillis v.toNat) calls (.ok ()) ∧
        T.Serves w.transport calls (ep.setOption (.disturbed T) .timeout v w).2.transport := by
  obtain ⟨calls, called, sets⟩ := sets_setOption (Link.straight_disturbed T) quiet has sensible
  rw [done] at sets
  have kept := (Service.admits (T := T) ep).setOption .timeout v w trivial
  exact ⟨calls, called, sets, called.serves kept⟩

theorem reread_eq {T : Transport σ} {S : TimeStore σ Timeval} (recalls : T.RecallsTime S .system)
    {w : World σ} (quiet : w.disturbances = []) (sound : S.sound w.transport)
    (has : (w.handle ep).fd = some fd) (sensible : 0 ≤ v) (word : v ≤ Word.greatest)
    (done : (ep.setOption (.disturbed T) .timeout v w).1 = .ok ()) {d : Duration}
    (answers : (T.handle (.getTimeout fd .send)
      (ep.setOption (.disturbed T) .timeout v w).2.transport).reply = .ok d) :
    ep.reread T w v = .ok v := by
  obtain ⟨calls, called, sets, serves⟩ := served_setOption quiet has sensible done
  obtain ⟨sound', held⟩ := sets.held recalls sound (Timeval.proper_millis sensible word) serves
  obtain ⟨rfl, _⟩ := recalls.read sound' answers
  have has' := (congrArg Handle.fd (called.handle ep)).trans has
  rw [reread, getOption_quiet (called.quiet quiet) has' answers, held]
  change Except.ok (timeoutValue (Timeval.ofDuration _).toDuration) = _
  rw [Timeval.ofDuration_ofMillis sensible word, timeoutValue_ofMillis sensible word]

end Endpoint

namespace Native

variable {K : Kernel κ} {family : Family κ} {desk : Desk κ} {side : Side}

theorem notes_setTimeout (fd : Descriptor) (side : Side) (d : Duration) (desk : Desk κ) :
    ((transport K family).handle (.setTimeout fd side d) desk).notes =
      [.syscall (.setTime fd Syscall.socketLevel (timeoutOption side) (.ofDuration d))] := by
  change (answer (setTimeout K fd side d) desk).notes = _
  rw [answer_setTimeout]

theorem reply_getTimeout {tv : Timeval} (reports : (K.call
      (.getTime fd Syscall.socketLevel (timeoutOption side)) desk.kernel).1 = .ok tv) :
    ((transport K family).handle (.getTimeout fd side) desk).reply = .ok tv.toDuration := by
  change (answer (getTimeout K fd side) desk).reply = _
  rw [answer_getTimeout]
  dsimp only
  rw [reports]
  rfl

theorem tells_of_set {S : TimeStore κ Timeval} (repeats : RepeatsTime K S)
    (sound : S.sound desk.kernel) {d : Duration} (proper : (Timeval.ofDuration d).Proper)
    (done : ((transport K family).handle (.setTimeout fd side d) desk).reply = .ok ()) :
    ∃ d', ((transport K family).handle (.getTimeout fd side)
      ((transport K family).handle (.setTimeout fd side d) desk).state).reply = .ok d' := by
  change (answer (setTimeout K fd side d) desk).reply = _ at done
  change ∃ d', ((transport K family).handle (.getTimeout fd side)
    (answer (setTimeout K fd side d) desk).state).reply = .ok d'
  rw [answer_setTimeout] at done ⊢
  rcases set : (K.call (.setTime fd Syscall.socketLevel (timeoutOption side) (.ofDuration d))
    desk.kernel).1 with code | _
  · rw [set] at done
    cases done
  · obtain ⟨tv, tells⟩ := repeats.tells sound proper set
    exact ⟨_, reply_getTimeout tells⟩

end Native

namespace Endpoint

variable {ep : Endpoint} {v : Int}

theorem reread_repeats {K : Kernel κ} {S : TimeStore κ Timeval} (repeats : Native.RepeatsTime K S)
    {family : Native.Family κ} {w : World (Desk κ)} (quiet : w.disturbances = [])
    (sound : S.sound w.transport.kernel) (sensible : 0 ≤ v) (word : v ≤ Word.greatest)
    (done : (ep.setOption (.disturbed (Native.transport K family)) .timeout v w).1 = .ok ()) :
    ep.reread (Native.transport K family) w v = .ok v := by
  cases has : (w.handle ep).fd with
  | none =>
    rw [(fails_setOption has .timeout v).1] at done
    cases done
  | some fd =>
    have recalls := (Native.keepsTime repeats.toKeepsTime family).recalls
    have proper := Timeval.proper_millis sensible word
    obtain ⟨calls, called, sets, serves⟩ := served_setOption quiet has sensible done
    obtain ⟨desk, sound', set, rest⟩ := sets.last recalls sound proper serves
    obtain ⟨d, tells⟩ := Native.tells_of_set repeats sound' proper set
    rw [← rest] at tells
    exact reread_eq recalls quiet sound has sensible word done tells

/-- A timeout is read as it was set, and over a kernel that tells what it was given reading does not
fail.  Whatever else the system reports of it is no failure, but is
cut to milliseconds and to what a word can hold; and all that is lost of any length of time on the
way to the system is what is finer than microseconds. -/
theorem timeouts_read_back {T : Transport σ} {S : TimeStore σ Timeval}
    (recalls : T.RecallsTime S .system) (ep : Endpoint) :
    (∀ v, 0 ≤ v → v ≤ Word.greatest →
      (∀ (w : World σ) fd d, w.disturbances = [] → S.sound w.transport →
        (w.handle ep).fd = some fd → (ep.setOption (.disturbed T) .timeout v w).1 = .ok () →
          (T.handle (.getTimeout fd .send)
            (ep.setOption (.disturbed T) .timeout v w).2.transport).reply = .ok d →
              ep.reread T w v = .ok v) ∧
      (∀ (K : Kernel κ) (S : TimeStore κ Timeval) (family : Native.Family κ) w,
        Native.RepeatsTime K S → w.disturbances = [] → S.sound w.transport.kernel →
          (ep.setOption (.disturbed (Native.transport K family)) .timeout v w).1 = .ok () →
            ep.reread (Native.transport K family) w v = .ok v)) ∧
    (∀ tv : Timeval, tv.Words → tv.toDuration? = some tv.toDuration ∧
      ∀ (K : Kernel κ) (family : Native.Family κ) (w : World (Desk κ)) fd, w.disturbances = [] →
        (w.handle ep).fd = some fd → (K.call
          (.getTime fd Syscall.socketLevel Syscall.sendTimeout) w.transport.kernel).1 = .ok tv →
            (ep.getOption (.disturbed (Native.transport K family)) .timeout w).1 =
              .ok (min Word.greatest ((max tv.seconds 0 * 1_000_000 + max tv.micros 0) / 1_000))) ∧
    (∀ d : Duration, d.seconds < 0x8000000000000000 →
      (Timeval.ofDuration d).toDuration = d.wholeMicros) := by
  refine ⟨fun v sensible word => ⟨?_, ?_⟩, fun tv words => ⟨Timeval.toDuration?_eq words, ?_⟩,
    fun d => Timeval.toDuration_ofDuration⟩
  · intro w fd d quiet sound has done answers
    exact reread_eq recalls quiet sound has sensible word done answers
  · intro K S family w repeats quiet sound done
    exact reread_repeats repeats quiet sound sensible word done
  · intro K family w fd quiet has reports
    have answers : ((Native.transport K family).handle (.getTimeout fd .send) w.transport).reply =
      .ok tv.toDuration := Native.reply_getTimeout reports
    rw [getOption_quiet quiet has answers, timeoutValue_toDuration]

theorem timeouts_read_back_longest :
    let ep : Endpoint := ⟨0⟩
    let messaging := Messaging.transport ScriptedKernel.kernel 45
    let socket : World (Desk UnixDomain.State) := {
      transport := { kernel := { sockets := [{ style := .stream }], descriptors := [(3, 0)] } }
      endpoints := [{ handle := .owning 3 }] }
    let scripted (o : List ScriptedKernel.Outcome) : World (Desk ScriptedKernel.State) := {
      transport := { kernel := { outcomes := fun | .getsockopt => o | _ => [] } }
      endpoints := [{ handle := .owning 3 }] }
    ep.reread (Loopback.transport UnixDomain.kernel ⟨"s", "ap"⟩) socket 2_000 = .ok 2_000 ∧
      ep.reread messaging (scripted []) Word.greatest = .ok Word.greatest ∧
      Timeval.toDuration? ⟨0x7FFFFFFFFFFFFFFF, 0x7FFFFFFFFFFFFFFF⟩ =
        some (Timeval.toDuration ⟨0x7FFFFFFFFFFFFFFF, 0x7FFFFFFFFFFFFFFF⟩) ∧
      (ep.getOption (.disturbed messaging) .timeout
        (scripted [.time ⟨0x7FFFFFFFFFFFFFFF, 0x7FFFFFFFFFFFFFFF⟩])).1 = .ok Word.greatest ∧
      (ep.getOption (.disturbed messaging) .timeout (scripted [.time ⟨-1, 1_999_999⟩])).1 =
        .ok 1_999 ∧
      (Timeval.ofDuration ⟨1_234_567_890⟩).toDuration = ⟨1_234_567_000⟩ := by
  intro ep messaging socket scripted
  have recalls :=
    (Native.keepsTime ScriptedKernel.keepsTime (Messaging.steps ScriptedKernel.kernel 45)).recalls
  have reads := timeouts_read_back (κ := ScriptedKernel.State) recalls ep
  have repeated := timeouts_read_back (κ := UnixDomain.State) recalls ep
  have whole : socket.transport.kernel.Whole := by
    refine ⟨fun {fd id} has => ?_, fun {k id} mem => ?_, fun _ mem => by cases mem⟩
    · obtain ⟨_, _, table, _⟩ := List.lookup_eq_some_iff.mp has
      have mem : (fd, id) ∈ socket.transport.kernel.descriptors := by
        rw [table]
        simp
      cases List.mem_singleton.mp mem
      decide
    · cases k with
      | zero => cases mem
      | succ k => cases mem
  have extreme := reads.2.1 ⟨0x7FFFFFFFFFFFFFFF, 0x7FFFFFFFFFFFFFFF⟩
    ⟨by decide +kernel, by decide +kernel⟩
  refine ⟨?_, ?_, extreme.1, ?_, ?_, ?_⟩
  · exact (repeated.1 2_000 (by decide) (by decide)).2 _ _ _ socket UnixDomain.repeatsTime rfl
      whole rfl
  · have sound : (Native.timesOn ScriptedKernel.timeouts).sound (scripted []).transport :=
      fun _ mem => by cases mem
    have answers : (messaging.handle (.getTimeout 3 .send) (ep.setOption (.disturbed messaging)
        .timeout Word.greatest (scripted [])).2.transport).reply =
          .ok ⟨2_147_483_647_000_000⟩ := by decide +kernel
    exact (reads.1 Word.greatest (by decide) (by decide)).1 (scripted []) 3 _ rfl sound rfl rfl
      answers
  · exact extreme.2 _ _ (scripted [.time _]) 3 rfl rfl rfl
  · have early := reads.2.1 ⟨-1, 1_999_999⟩ ⟨by decide, by decide⟩
    exact early.2 _ _ (scripted [.time ⟨-1, 1_999_999⟩]) 3 rfl rfl rfl
  · exact reads.2.2 ⟨1_234_567_890⟩ (by decide)

/-- A timeout is taken for none when it is too short for the unit that it is counted in: in the
system when there is no microsecond of it, and where it is read when there is no millisecond.  The
milliseconds that can be set are long enough. -/
theorem timeouts_vanish_iff (ep : Endpoint) :
    (∀ (K : Kernel κ) (family : Native.Family κ) fd side (d : Duration) (desk : Desk κ),
      d.seconds < 0x8000000000000000 → ∃ tv,
        ((Native.transport K family).handle (.setTimeout fd side d) desk).notes =
          [.syscall (.setTime fd Syscall.socketLevel (Native.timeoutOption side) tv)] ∧
        (tv = .zero ↔ d.nanos < Duration.nanosPerMicro)) ∧
    (∀ (L : Link σ) (w w' : World σ) fd (d : Duration), (w.handle ep).fd = some fd →
      L.send (some ep) (.getTimeout fd .send) w = (.ok d, w') → ∃ n,
        ep.getOption L .timeout w = (.ok n, w') ∧ (n = 0 ↔ d.nanos < Duration.nanosPerMilli)) ∧
    (∀ v, 0 ≤ v → v ≤ Word.greatest →
      (Timeval.ofDuration (.ofMillis v.toNat) = .zero ↔ v = 0)) := by
  refine ⟨fun K family fd side d desk word => ?_, fun L w w' fd d has asked => ?_,
    fun v sensible word => ?_⟩
  · exact ⟨_, Native.notes_setTimeout fd side d desk, Timeval.ofDuration_eq_zero word⟩
  · exact ⟨_, getOption_timeout has asked, timeoutValue_eq_zero⟩
  · rw [Timeval.ofDuration_ofMillis sensible word]
    simp only [Timeval.ofMillis, Timeval.zero, Timeval.mk.injEq]
    omega

theorem timeouts_vanish_iff_micro :
    let ep : Endpoint := ⟨0⟩
    let messaging := Messaging.transport ScriptedKernel.kernel 45
    let world : World (Desk ScriptedKernel.State) := {
      transport := { kernel := { outcomes := fun | .getsockopt => [.time ⟨0, 1⟩] | _ => [] } }
      endpoints := [{ handle := .owning 3 }] }
    (∃ tv, (messaging.handle (.setTimeout 3 .receive ⟨1_000⟩) world.transport).notes =
        [.syscall (.setTime 3 Syscall.socketLevel Syscall.receiveTimeout tv)] ∧ tv ≠ .zero) ∧
      (ep.getOption (.disturbed messaging) .timeout world).1 = .ok 0 ∧
      Timeval.ofDuration (.ofMillis 1) ≠ .zero := by
  intro ep messaging world
  obtain ⟨set, get, option⟩ := timeouts_vanish_iff (κ := ScriptedKernel.State)
    (σ := Desk ScriptedKernel.State) ep
  obtain ⟨tv, noted, vanishes⟩ := set ScriptedKernel.kernel (Messaging.steps _ 45) 3 .receive
    ⟨1_000⟩ world.transport (by decide)
  obtain ⟨n, read, lost⟩ := get (.disturbed messaging) world _ 3 ⟨1_000⟩ rfl rfl
  refine ⟨⟨tv, noted, fun zero => absurd (vanishes.mp zero) (by decide)⟩, ?_, fun zero => ?_⟩
  · rw [read, lost.mpr (by decide)]
  · exact absurd ((option 1 (by decide) (by decide)).mp zero) (by decide)

/-- Half a microsecond is none in the system, and half a millisecond is none where it is read. -/
theorem short_timeouts_vanish :
    let messaging := Messaging.transport ScriptedKernel.kernel 46
    let world : World (Desk ScriptedKernel.State) := {
      transport := { kernel := { outcomes := fun | .getsockopt => [.time ⟨0, 500⟩] | _ => [] } }
      endpoints := [{ handle := .owning 100 }] }
    (∃ d : Duration, d ≠ .zero ∧
        (messaging.handle (.setTimeout 100 .send d) world.transport).notes =
          [.syscall (.setTime 100 Syscall.socketLevel Syscall.sendTimeout .zero)]) ∧
      ∃ d : Duration, d ≠ .zero ∧
        (messaging.handle (.getTimeout 100 .send) world.transport).reply = .ok d ∧
          (Endpoint.getOption (.disturbed messaging) ⟨0⟩ .timeout world).1 = .ok 0 := by
  refine ⟨⟨⟨500⟩, by decide, ?_⟩, ⟨500_000⟩, by decide, rfl, rfl⟩
  decide +kernel

end Endpoint

end ProcessorSockets
