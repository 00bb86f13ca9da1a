import ProcessorSockets.Proofs.Law
import ProcessorSockets.Session.Outcome

namespace ProcessorSockets

variable {σ α : Type}

def Method.isPlain : Method → Bool
  | .create => false
  | .bind => false
  | .connect => false
  | .accept => false
  | .close => false
  | .listen => true
  | .shutdown => true
  | .getBuffer => true
  | .setBuffer => true
  | .getTimeout => true
  | .setTimeout => true
  | .read => true
  | .write => true
  | .available => true

/-- Whether an endpoint can have a descriptor under a law.  If not it makes no requests. -/
def Law.Opens (law : Law σ) (ep : Endpoint) : Prop :=
  ∃ w fd, law.holds w ∧ (w.handle ep).fd = some fd

structure Law.Permits (law : Law σ) (L : Link σ) (ep : Endpoint) : Prop where
  send : law.Opens ep → ∀ r, r.method.isPlain = true → law.Keeps (L.send (some ep) r)
  stream : ∀ w st n, st.handle = w.handle ep → st.creating = (w.endpoint ep).creating →
    law.keeps w { w.setEndpoint ep st with nextStream := n }

variable {law : Law σ} {L : Link σ} {ep : Endpoint}

namespace Law

namespace Keeps

theorem handle : law.Keeps ep.handle := look _

theorem withFd {body : Descriptor → Action σ α}
    (h : law.Opens ep → ∀ fd, law.Keeps (body fd)) : law.Keeps (ep.fd >>= body) := by
  intro w hw
  rw [Action.run_bind, Endpoint.run_fd]
  cases has : (w.handle ep).fd with
  | none => exact law.refl w
  | some fd => exact h ⟨w, fd, hw, has⟩ fd w hw

theorem ask {operation : String} {r : Request} (send : law.Keeps (L.send (some ep) r)) :
    law.Keeps (ep.ask L operation r) := send.mapped

end Keeps

theorem KeepsTraced.withDescriptor {body : Descriptor → Traced σ α}
    (h : law.Opens ep → ∀ fd, law.KeepsTraced (body fd)) :
    law.KeepsTraced (do
      let fd ← Traced.finish ep.fd
      Traced.note (·.recordDescriptor fd)
      body fd) := by
  intro span w hw
  rw [Traced.run_bind, Traced.run_finish, Endpoint.run_fd]
  cases has : (w.handle ep).fd with
  | none => exact law.refl w
  | some fd => exact KeepsTraced.andThen (.note _) (fun _ => h ⟨w, fd, hw, has⟩ fd) _ w hw

namespace Keeps

theorem bindEndpoint {a : Address}
    (send : law.Opens ep → ∀ fd, law.Keeps (L.send (some ep) (.bind fd a))) :
    law.Keeps (ep.bind L a) :=
  .ofTraced (.andThen (.note _) fun _ =>
    .withDescriptor fun opens fd => .finish (ask (send opens fd)))

theorem connectEndpoint {a : Address} {timeout : Int}
    (send : law.Opens ep → ∀ fd, law.Keeps (L.send (some ep) (.connect fd a))) :
    law.Keeps (ep.connect L a timeout) := by
  apply ofTraced
  apply KeepsTraced.andThen (.note _)
  intro _
  apply KeepsTraced.withDescriptor
  intro opens fd
  have asks : law.KeepsTraced (Traced.finish (ep.ask L "connect" (.connect fd a))) :=
    .finish (ask (send opens fd))
  split
  · exact .andThen (.plain (.emit _ _)) fun _ => asks
  · exact asks

end Keeps

namespace Permits

section

variable (h : law.Permits L ep)

include h

theorem ask (opens : law.Opens ep) (operation : String) {r : Request}
    (plain : r.method.isPlain = true) : law.Keeps (ep.ask L operation r) :=
  .ask (h.send opens r plain)

theorem listen (backlog : Int) : law.Keeps (ep.listen L backlog) :=
  .ofTraced (.withDescriptor fun opens _ => .finish (h.ask opens _ rfl))

theorem shutdown (half : Half) : law.Keeps (ep.shutdown L half) :=
  .withFd fun opens _ => h.ask opens _ rfl

theorem getOption (option : SocketOption) : law.Keeps (ep.getOption L option) := by
  apply Keeps.withFd
  intro opens fd
  cases option with
  | receiveBufferSize => exact h.ask opens _ rfl
  | sendBufferSize => exact h.ask opens _ rfl
  | timeout => exact .andThen (h.ask opens _ rfl) fun _ => .return' _

theorem setTimeout (opens : law.Opens ep) (fd : Descriptor) (timeout : Duration) :
    law.Keeps (ep.setTimeout L fd timeout) := by
  apply Keeps.andThen (h.ask opens _ rfl)
  intro previous
  apply Keeps.andThen (h.ask opens _ rfl)
  intro _
  apply Keeps.andThen (.attempt (h.ask opens _ rfl))
  intro r
  cases r with
  | ok _ => exact .return' ()
  | error e =>
    apply Keeps.andThen (.plain (h.send opens _ rfl))
    intro restored
    cases restored with
    | ok _ => exact .andThen (.return' ()) fun _ => .throw' e
    | error _ => exact .andThen (.plain (.emit _ _)) fun _ => .throw' e

theorem setOption (option : SocketOption) (value : Int) :
    law.Keeps (ep.setOption L option value) := by
  apply Keeps.ofTraced
  apply KeepsTraced.refuseIf
  apply KeepsTraced.withDescriptor
  intro opens fd
  apply KeepsTraced.finish
  cases option with
  | receiveBufferSize => exact h.ask opens _ rfl
  | sendBufferSize => exact h.ask opens _ rfl
  | timeout => exact h.setTimeout opens fd _

theorem inputStream : law.Keeps (Endpoint.inputStream (σ := σ) ep) := by
  apply Keeps.withFd
  intro _ _
  apply Keeps.consult
  intro w hw
  cases (w.endpoint ep).input with
  | some serial => exact law.refl w
  | none => exact h.stream w _ _ rfl rfl

theorem outputStream : law.Keeps (Endpoint.outputStream (σ := σ) ep) := by
  apply Keeps.withFd
  intro _ _
  apply Keeps.consult
  intro w hw
  cases (w.endpoint ep).output with
  | some serial => exact law.refl w
  | none => exact h.stream w _ _ rfl rfl

theorem receive (length : Nat) : law.Keeps (ep.receive L length) := by
  apply Keeps.withFd
  intro opens fd
  apply Keeps.andThen (h.ask opens _ rfl)
  intro bytes
  exact .andThen (.plain (.emit _ _)) fun _ => .return' bytes

theorem transmit (bytes : List UInt8) : law.Keeps (ep.transmit L bytes) := by
  apply Keeps.withFd
  intro opens fd
  apply Keeps.andThen (h.ask opens _ rfl)
  intro n
  exact .andThen (.plain (.emit _ _)) fun _ => .return' n

end

end Permits

end Law

end ProcessorSockets
