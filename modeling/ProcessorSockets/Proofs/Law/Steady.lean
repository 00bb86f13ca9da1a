import ProcessorSockets.Proofs.Law.Link

namespace ProcessorSockets

variable {σ : Type}

def Law.steady : Law σ where
  holds _ := True
  keeps w w' := w'.endpoints.length = w.endpoints.length ∧ w.sockets.length ≤ w'.sockets.length
  refl _ := ⟨rfl, Nat.le_refl _⟩
  trans first second := ⟨second.1.trans first.1, Nat.le_trans first.2 second.2⟩
  stable _ _ := trivial
  note _ _ _ := ⟨rfl, Nat.le_refl _⟩

namespace Steady

variable {T : Transport σ} {meanwhile : Method → StateM (World σ) Unit}

theorem send (between : ∀ m, Law.steady.Keeps (meanwhile m)) (caller : Option Endpoint)
    (r : Request) : Law.steady.Keeps ((Link.via T meanwhile).send caller r) :=
  .send (between _) (fun _ => ⟨rfl, Nat.le_refl _⟩) (fun _ _ => ⟨rfl, Nat.le_refl _⟩)
    fun _ _ => ⟨rfl, Nat.le_refl _⟩

theorem admits (between : ∀ m, Law.steady.Keeps (meanwhile m)) (ep : Endpoint) :
    Law.steady.Admits (.via T meanwhile) ep :=
  Law.Ignores.admits
    { send := send between _
      state := fun w st _ => ⟨World.length_endpoints_setEndpoint w ep st, Nat.le_refl _⟩ }
    { accept := fun _ _ _ => send between _ _
      turnAway := fun _ _ _ => send between _ _ }

theorem setSocket (w : World σ) (s : Socket) (st : SocketState) :
    Law.steady.keeps w (w.setSocket s st) := ⟨rfl, by simp [World.setSocket]⟩

theorem interrupt (m : Method) : Law.steady.Keeps (World.interrupt T m) := by
  refine .interrupt (fun between depth m => .disturb fun w _ => ?_) m
  refine ⟨⟨rfl, Nat.le_refl _⟩, .steady, trivial, fun _ _ kept => kept, fun d _ _ => ?_⟩
  exact (admits between _).toBears.perform fun s w st _ => setSocket w s st

theorem disturbed (ep : Endpoint) : Law.steady.Admits (.disturbed T) ep :=
  admits interrupt ep

end Steady

end ProcessorSockets
