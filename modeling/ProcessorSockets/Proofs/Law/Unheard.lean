import ProcessorSockets.Proofs.Law.Elsewhere

namespace ProcessorSockets

variable {σ : Type}

structure World.Unheard (ep : Endpoint) (w w' : World σ) : Prop where
  talk : w'.talk ep = w.talk ep
  creating : (w'.endpoint ep).creating = (w.endpoint ep).creating
  deeds : ∀ d ∈ w'.disturbances, ∃ d₀ ∈ w.disturbances, d.deed = d₀.deed

namespace World.Unheard

variable {ep : Endpoint} {w w' w'' : World σ}

theorem refl (w : World σ) : w.Unheard ep w := ⟨rfl, rfl, fun d mem => ⟨d, mem, rfl⟩⟩

theorem trans (first : w.Unheard ep w') (second : w'.Unheard ep w'') : w.Unheard ep w'' where
  talk := second.talk.trans first.talk
  creating := second.creating.trans first.creating
  deeds d mem := by
    obtain ⟨d', mem', same'⟩ := second.deeds d mem
    obtain ⟨d₀, mem₀, same⟩ := first.deeds d' mem'
    exact ⟨d₀, mem₀, same'.trans same⟩

theorem add (w : World σ) {es : List Entry} (others : ∀ e ∈ es, e.caller? ≠ some ep) :
    w.Unheard ep (w.add es) :=
  { refl w with
    talk := by
      rw [talk_add, List.filter_eq_nil_iff.mpr fun e mem => by simpa using others e mem,
        List.append_nil] }

theorem notes (w : World σ) {es : List Entry} (notes : ∀ e ∈ es, e.isNote = true) :
    w.Unheard ep (w.add es) :=
  add w fun e mem => by simp [Entry.caller?_of_isNote (notes e mem)]

theorem setEndpoint (w : World σ) (other : Endpoint) (st : EndpointState) (n : Nat)
    (same : other = ep → st.creating = (w.endpoint ep).creating) :
    w.Unheard ep { w.setEndpoint other st with nextStream := n } :=
  { refl w with
    creating := by
      change ((w.setEndpoint other st).endpoint ep).creating = _
      rw [endpoint_setEndpoint]
      split
      case isTrue is => exact same is.1.symm
      case isFalse => rfl }

end World.Unheard

def Law.unheard (ep : Endpoint) : Law σ where
  holds w := ∀ d ∈ w.disturbances, d.deed.target ≠ ep
  keeps := World.Unheard ep
  refl := .refl
  trans := .trans
  stable := by
    intro w w' spared kept d mem
    obtain ⟨d₀, mem₀, same⟩ := kept.deeds d mem
    rw [same]
    exact spared d₀ mem₀
  note _ _ := .notes _

namespace Unheard

open World (Unheard)

variable {ep : Endpoint} {T : Transport σ}

theorem leaves : (Law.unheard (σ := σ) ep).Leaves ep where
  entry w e other := .add w (by simpa using other)
  transport w t := { World.Unheard.refl w with }
  state w other st n ne := .setEndpoint w other st n fun same => absurd same ne

theorem interrupt (m : Method) : (Law.unheard ep).Keeps (World.interrupt T m) := by
  refine .interrupt (fun between depth m => .disturb fun w spared => ?_) m
  have waits : w.Unheard ep (w.waiting depth m) :=
    { World.Unheard.refl w with deeds := fun _ mem => World.deed_waiting mem }
  refine ⟨waits, Law.unheard ep, (Law.unheard ep).stable spared waits, fun _ _ kept => kept,
    fun d mem _ => ?_⟩
  apply (leaves.ignores between (spared d mem)).bears.perform
  exact fun s w st _ => { World.Unheard.refl w with }

theorem accept {listener : Endpoint} (ne : listener ≠ ep) :
    (Law.unheard ep).Keeps (listener.accept (.disturbed T) ep) := by
  apply Law.Keeps.acceptInto
  · exact fun _ _ => leaves.send interrupt (by simpa using ne) _
  · exact fun _ _ => leaves.send interrupt (by simpa using ne) _
  · exact fun hd w _ =>
    .setEndpoint w ep { w.endpoint ep with handle := hd } w.nextStream fun _ => rfl

end Unheard

end ProcessorSockets
