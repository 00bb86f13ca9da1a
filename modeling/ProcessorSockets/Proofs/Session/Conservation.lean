import ProcessorSockets.Proofs.Session.Orderly
import ProcessorSockets.Transport.Scripted

namespace ProcessorSockets

namespace Session

variable {σ : Type}

/-- How many of the endpoints that something refers to own a descriptor. -/
def holders (s : Session σ) (fd : Descriptor) : Nat :=
  (List.range s.world.endpoints.length).countP fun i =>
    s.refers ⟨i⟩ && s.world.handle ⟨i⟩ = .owning fd

theorem owners_eq_countP_range (w : World σ) (fd : Descriptor) :
    w.owners fd =
      (List.range w.endpoints.length).countP fun i => w.handle ⟨i⟩ = .owning fd := by
  have states : w.endpoints = (List.range w.endpoints.length).map fun i => w.endpoint ⟨i⟩ := by
    apply List.ext_getElem (by simp)
    intro i inside _
    simp [World.endpoint, inside]
  have counted := congrArg (List.countP (·.handle = Handle.owning fd)) states
  rw [List.countP_map] at counted
  exact counted

/-- Nothing but what something refers to owns a descriptor. -/
theorem Orderly.holders_eq_owners {s : Session σ} (h : s.Orderly) (fd : Descriptor) :
    s.holders fd = s.world.owners fd := by
  rw [owners_eq_countP_range, holders]
  apply List.countP_congr
  intro i _
  cases refers : s.refers ⟨i⟩ with
  | true => simp
  | false => simp [h.bare ⟨i⟩ refers, Handle.owning]

theorem holders_eq_zero {s : Session σ} (names : s.names = []) (held : s.held = [])
    (fd : Descriptor) : s.holders fd = 0 := by
  simp [holders, refers, names, held]

/-- Each descriptor that endpoints got from the transport was closed or is owned, at every
point where a session rests.  So none is closed that was not theirs, and when nothing is left
that refers to an endpoint each was closed as often as it was got. -/
theorem descriptors_conserved (T : Transport σ) (around : Surroundings σ) (t : σ)
    (fd : Descriptor) :
    (∀ m, Reach (.disturbed T) around (start t) m →
      m.world.produced fd = m.world.closings fd + m.holders fd ∧
        (m.world.produced fd = 0 → m.world.closings fd = 0)) ∧
    ∀ steps, (run T around steps (start t)).2.holders fd = 0 ∧
      (run T around steps (start t)).2.world.produced fd =
        (run T around steps (start t)).2.world.closings fd := by
  -- The balance is that of endpoints; at rest those that own something are referred to.
  have balance (m : Session σ) (reached : Reach (.disturbed T) around (start t) m) :
      m.world.produced fd = m.world.closings fd + m.holders fd := by
    have orderly := (Orderly.start t).reach reached
    have balanced := orderly.balanced fd
    rw [World.surplus, ← orderly.holders_eq_owners] at balanced
    omega
  constructor
  · intro m reached
    have balanced := balance m reached
    exact ⟨balanced, fun none => by omega⟩
  · intro steps
    obtain ⟨reached, names, held⟩ := reach_run T around steps (start t)
    have none := holders_eq_zero names held fd
    have balanced := balance _ reached
    rw [none] at balanced
    exact ⟨none, balanced⟩

theorem descriptors_conserved_closing :
    let L := Link.disturbed Scripted.transport
    let around : Surroundings Scripted.State := {}
    let made := (runStep L around (.act .newEndpoint none (some "a") [])
      (start { outcomes := fun _ => [] })).2
    let created := (runStep L around (.act (.create .stream) (some "a") none []) made).2
    let closed := (runStep L around (.act .close (some "a") none
      [{ during := .shutdown, on := "a", interference := .close }]) created).2
    (created.world.produced 3 = 1 ∧ created.holders 3 = 1) ∧
      closed.world.closings 3 = 1 ∧
      closed.world.produced 3 = closed.world.closings 3 + closed.holders 3 := by
  intro L around made created closed
  have reached : Reach L around (start { outcomes := fun _ => [] }) closed :=
    .act _ _ _ _ (.act _ _ _ _ (.act _ _ _ _ .refl))
  refine ⟨⟨?_, ?_⟩, ?_, ((descriptors_conserved Scripted.transport around _ 3).1 closed reached).1⟩
  · decide
  · decide
  · decide

end Session

end ProcessorSockets
