import ProcessorSockets.Proofs.Bare
import ProcessorSockets.Proofs.Conduct.Timeout
import ProcessorSockets.Proofs.Law.Service
import ProcessorSockets.Proofs.Transport.Timekeeping
import ProcessorSockets.Transport.Messaging

namespace ProcessorSockets

open Call (Sets)
open World (Called)

variable {σ τ : Type}

namespace Call

def wayBack? (calls : List Call) : Option NativeError := calls[3]?.bind error?

/-- What becomes of the timeouts of a descriptor that were to be set. -/
structure Decided (new : τ) (calls : List Call) (r : Except SocketError Unit)
    (was now : Side → τ) : Prop where
  done : r = .ok () → ∀ side, now side = new
  send : ∀ e, r = .error e → now .send = was .send
  receive : ∀ e, r = .error e →
    now .receive = if (wayBack? calls).isSome then new else was .receive

namespace Decided

variable {new : τ} {calls : List Call} {was now : Side → τ}

theorem ofOk (done : ∀ side, now side = new) : Decided new calls (.ok ()) was now where
  done _ := done
  send _ fails := by cases fails
  receive _ fails := by cases fails

theorem ofError {e : SocketError} (send : now .send = was .send)
    (receive : now .receive = if (wayBack? calls).isSome then new else was .receive) :
    Decided new calls (.error e) was now where
  done done := by cases done
  send _ _ := send
  receive _ _ := receive

end Decided

end Call

namespace Transport.KeepsTime

variable {T : Transport σ} {S : TimeStore σ τ} {form : TimeForm τ} {fd : Descriptor}
  {d : Duration} {calls : List Call} {r : Except SocketError Unit} {t t' : σ}

theorem decides (keeps : T.KeepsTime S form) (sound : S.sound t) (fits : form.fits d)
    (back : form.fits (form.told (S.held t fd .receive)))
    (same : form.kept (form.told (S.held t fd .receive)) = S.held t fd .receive)
    (sets : Sets fd d calls r) (serves : T.Serves t calls t') :
    Call.Decided (form.kept d) calls r (S.held t fd) (S.held t' fd) := by
  obtain ⟨sound₁, read⟩ : S.Same fd t (T.handle (.getTimeout fd .receive) t).state :=
    keeps.get sound
  cases sets with
  | unread =>
    simp only [serves_cons, serves_nil] at serves
    obtain ⟨_, rfl⟩ := serves
    exact .ofError (read _) (read _)
  | refused =>
    simp only [serves_cons, serves_nil] at serves
    obtain ⟨_, fails, rfl⟩ := serves
    obtain ⟨_, still⟩ := keeps.failed sound₁ fits fails
    exact .ofError ((still _).trans (read _)) ((still _).trans (read _))
  | done =>
    simp only [serves_cons, serves_nil] at serves
    obtain ⟨_, first, second, rfl⟩ := serves
    obtain ⟨sound₂, receive⟩ := keeps.set sound₁ fits first
    obtain ⟨_, send⟩ := keeps.set sound₂ fits second
    refine .ofOk fun side => ?_
    cases side with
    | send => simp [send]
    | receive => simp [send, receive]
  | back =>
    simp only [serves_cons, serves_nil] at serves
    obtain ⟨tells, first, fails, answers, rfl⟩ := serves
    obtain rfl := keeps.told sound tells
    obtain ⟨sound₂, receive⟩ := keeps.set sound₁ fits first
    obtain ⟨sound₃, still⟩ := keeps.failed sound₂ fits fails
    rename_i e answer
    cases answer with
    | error e' =>
      obtain ⟨_, stuck⟩ := keeps.failed sound₃ back answers
      refine .ofError ?_ ?_
      · simp [stuck, still, receive, read]
      · simp [stuck, still, receive, Call.wayBack?, Call.error?]
    | ok _ =>
      obtain ⟨_, restored⟩ := keeps.set sound₃ back answers
      refine .ofError ?_ ?_
      · simp [restored, still, receive, read]
      · simp [restored, same, Call.wayBack?, Call.error?]

end Transport.KeepsTime

namespace Endpoint

variable {ep : Endpoint} {fd : Descriptor} {v : Int}

theorem sets_setOption {L : Link σ} (straight : L.Straight) {w : World σ}
    (quiet : w.disturbances = []) (has : (w.handle ep).fd = some fd) (sensible : 0 ≤ v) :
    ∃ calls, w.Called (some ep) calls (ep.setOption L .timeout v w).2 ∧
      Sets fd (.ofMillis v.toNat) calls (ep.setOption L .timeout v w).1 := by
  have opened : w.Noted (w.add (Entry.opening "set_option")) := .opening w _
  obtain ⟨calls, called, sets⟩ := sets_setTimeout straight ep (.ofMillis v.toNat)
    (opened.quiet quiet)
  unfold setOption
  simp only [run_traced, Int.not_lt.mpr sensible, if_false, Traced.run_bind, Traced.run_finish,
    run_fd, World.handle_add, has, Traced.run_note]
  exact ⟨calls, (called.after (.closing ..)).before opened, sets⟩

def DecidesTimeouts (ep : Endpoint) (T : Transport σ) (S : TimeStore σ τ) (v : Int) (new : τ)
    (w : World σ) : Prop :=
  let set := ep.setOption (.disturbed T) .timeout v w
  ∃ fd calls, (w.handle ep).fd = some fd ∧ w.Called (some ep) calls set.2 ∧
    Sets fd (.ofMillis v.toNat) calls set.1 ∧
      Call.Decided new calls set.1 (S.held w.transport fd) (S.held set.2.transport fd)

theorem decidesTimeouts {T : Transport σ} {S : TimeStore σ τ} {form : TimeForm τ}
    (keeps : T.KeepsTime S form) {w : World σ} (quiet : w.disturbances = [])
    (sound : S.sound w.transport) (has : (w.handle ep).fd = some fd) (sensible : 0 ≤ v)
    (fits : form.fits (.ofMillis v.toNat))
    (back : form.fits (form.told (S.held w.transport fd .receive)))
    (same : form.kept (form.told (S.held w.transport fd .receive)) =
      S.held w.transport fd .receive) :
    ep.DecidesTimeouts T S v (form.kept (.ofMillis v.toNat)) w := by
  obtain ⟨calls, called, sets⟩ := sets_setOption (Link.straight_disturbed T) quiet has sensible
  have kept := (Service.admits (T := T) ep).setOption .timeout v w trivial
  exact ⟨fd, calls, has, called, sets, keeps.decides sound fits back same sets (called.serves kept)⟩

variable {κ : Type} {K : Kernel κ} {S : TimeStore σ Duration} {S' : TimeStore κ Timeval}

/-- A timeout is set for both directions or for neither, and only where the way back fails for
one, whatever else fails; over a kernel the way back leads to the very timeout that was there.
Values below zero are refused before anything is asked. -/
theorem timeouts_set_together {T : Transport σ} (keeps : T.KeepsTime S .plain)
    (keeps' : Native.KeepsTime K S') (family : Native.Family κ) (ep : Endpoint) (v : Int) :
    (0 ≤ v →
      (∀ (w : World σ) fd, w.disturbances = [] → S.sound w.transport →
        (w.handle ep).fd = some fd → ep.DecidesTimeouts T S v (.ofMillis v.toNat) w) ∧
      (v ≤ Word.greatest → ∀ (w : World (Desk κ)) fd, w.disturbances = [] →
        S'.sound w.transport.kernel → (w.handle ep).fd = some fd →
          (S'.held w.transport.kernel fd .receive).Proper →
            ep.DecidesTimeouts (Native.transport K family) (Native.timesOn S') v (.ofMillis v) w)) ∧
    (∀ tv : Timeval, tv.Proper → .ofDuration tv.toDuration = tv) ∧
    (v < 0 → ∀ (L : Link σ) (w : World σ),
      (ep.setOption L .timeout v).Fails (SocketOption.timeout.objection v) w) := by
  refine ⟨fun sensible => ⟨?_, ?_⟩, fun tv => Timeval.ofDuration_toDuration,
    fun negative L w => fails_setOption_negative _ negative⟩
  · intro w fd quiet sound has
    exact decidesTimeouts keeps quiet sound has sensible trivial trivial rfl
  · intro word w fd quiet sound has proper
    have new := Timeval.ofDuration_ofMillis sensible word
    have old : Timeval.ofDuration (S'.held w.transport.kernel fd .receive).toDuration =
        S'.held w.transport.kernel fd .receive := Timeval.ofDuration_toDuration proper
    rw [← new]
    refine decidesTimeouts (Native.keepsTime keeps' family) quiet sound has sensible ?_ ?_ old
    · change (Timeval.ofDuration _).Proper
      rw [new]
      exact Timeval.ofMillis_proper sensible word
    · change (Timeval.ofDuration (S'.held _ _ _).toDuration).Proper
      rw [old]
      exact proper

theorem timeouts_set_together_failing :
    let stuck : World Scripted.State := {
      transport := {
        outcomes := fun | .setTimeout => [.standard, .failure (.os 105), .failure (.os 5)] | _ => []
        timeouts := [((3, .receive), .ofMillis 5), ((3, .send), .ofMillis 7)] }
      endpoints := [{ handle := .owning 3 }] }
    let back : World (Desk ScriptedKernel.State) := {
      transport := { kernel := {
        outcomes := fun | .setsockopt => [.standard, .failure 105] | _ => []
        times := [((3, Syscall.receiveTimeout), ⟨1, 234_567⟩)] } }
      endpoints := [{ handle := .owning 3 }] }
    let transport := Messaging.transport ScriptedKernel.kernel 45
    let ep : Endpoint := ⟨0⟩
    ep.DecidesTimeouts Scripted.transport Scripted.times 250 (.ofMillis 250) stuck ∧
      ep.DecidesTimeouts transport (Native.timesOn ScriptedKernel.timeouts) 250 ⟨0, 250_000⟩ back ∧
      Timeval.ofDuration (Timeval.toDuration ⟨1, 234_567⟩) = ⟨1, 234_567⟩ ∧
      (ep.setOption (.disturbed Scripted.transport) .timeout (-1)).Fails
        (.invalidArgument "negative value -1 for Timeout") stuck := by
  intro stuck back transport ep
  have proper : (⟨1, 234_567⟩ : Timeval).Proper := by constructor <;> decide
  have sets (v : Int) := timeouts_set_together Scripted.keepsTime ScriptedKernel.keepsTime
    (Messaging.steps ScriptedKernel.kernel 45) ep v
  obtain ⟨first, second⟩ := (sets 250).1 (by decide)
  refine ⟨?_, ?_, (sets 250).2.1 _ proper, ?_⟩
  · exact first stuck 3 rfl (by simp [Scripted.times, stuck]) rfl
  · exact second (by decide) back 3 rfl (by simp [ScriptedKernel.timeouts, back]) rfl proper
  · exact (sets (-1)).2.2 (by decide) _ stuck

end Endpoint

end ProcessorSockets
