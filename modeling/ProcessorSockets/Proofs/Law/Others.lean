import ProcessorSockets.Proofs.Law.Founding
import ProcessorSockets.Proofs.Law.Link

namespace ProcessorSockets

variable {σ : Type}

structure Law.Leaves (law : Law σ) (ep : Endpoint) : Prop where
  entry : ∀ w e, e.caller? ≠ some ep → law.keeps w (w.add [e])
  transport : ∀ w t, law.keeps w { w with transport := t }
  state : ∀ w other st n, other ≠ ep →
    law.keeps w { w.setEndpoint other st with nextStream := n }

namespace Law.Leaves

variable {law : Law σ} {ep : Endpoint} {T : Transport σ}
  {meanwhile : Method → StateM (World σ) Unit}

section

variable (h : law.Leaves ep) (between : ∀ m, law.Keeps (meanwhile m))

include h between

theorem send {caller : Option Endpoint} (other : caller ≠ some ep) (r : Request) :
    law.Keeps ((Link.via T meanwhile).send caller r) :=
  .send (between _) (fun w => h.entry w _ other) h.transport fun w _ => h.entry w _ other

theorem ignores {other : Endpoint} (ne : other ≠ ep) : law.Ignores (.via T meanwhile) other where
  send := h.send between (by simpa using ne)
  state w st n := h.state w other st n ne

variable (own : law.Opens ep → ∀ fd,
  law.Keeps ((Link.via T meanwhile).send (some ep) (.accept fd)) ∧
    law.Keeps ((Link.via T meanwhile).send (some ep) (.close fd)))

include own

theorem listens : law.Listens (.via T meanwhile) where
  accept listener opens fd := by
    by_cases same : listener = ep
    · subst same
      exact (own opens fd).1
    · exact h.send between (by simpa using same) _
  turnAway listener opens fd := by
    by_cases same : listener = ep
    · subst same
      exact (own opens fd).2
    · exact h.send between (by simpa using same) _

theorem admits {other : Endpoint} (ne : other ≠ ep) : law.Admits (.via T meanwhile) other :=
  (h.ignores between ne).admits (h.listens between own)

theorem hosts (inside : ∀ w, law.holds w → ep.index < w.endpoints.length)
    (make : ∀ hd, law.Keeps (Endpoint.make hd)) (founds : law.Founds) :
    law.Hosts (.via T meanwhile) where
  make hd _ := make hd
  guest w hd holds _ := by
    refine ⟨law, law.stable holds (make hd w holds), fun _ _ kept => kept, ?_, founds⟩
    apply h.admits between own
    rintro rfl
    exact Nat.lt_irrefl _ (inside w holds)

end

end Law.Leaves

end ProcessorSockets
