import ProcessorSockets.Proofs.Session.Once
import ProcessorSockets.Proofs.Session.Undisturbed

namespace ProcessorSockets

open World (Begins Conduct)

variable {σ : Type}

namespace Session

theorem kept_of_error {L : Link σ} {around : Surroundings σ} {s : Session σ} {verb : Verb}
    {on as : Option String} {e : SocketError}
    (fails : (runStep L around (.act verb on as []) s).1.value.error? = some e) :
    verb ≠ .drop ∨ on = none := by
  cases on with
  | none => exact .inr rfl
  | some n =>
    left
    rintro rfl
    rw [runStep] at fails
    cases fails

/-- An operation that fails makes no object, and leaves all names as they are.  Where its error is
not that of a request, it has called nothing and changed nothing.  Otherwise the error is that of
the first of its calls that failed for good, or what a transfer makes of its last one, and nothing
is left but a handle that a failed close cleared, or the descriptor that a socket has made. -/
theorem errors_report_first_failure (T : Transport σ) (around : Surroundings σ) (t : σ)
    {m : Session σ} (run : Undisturbed (.disturbed T) around anyStep (start t) m) (verb : Verb)
    (on as : Option String) {e : SocketError}
    (fails : (runStep (.disturbed T) around (.act verb on as []) m).1.value.error? = some e) :
    let m' := (runStep (.disturbed T) around (.act verb on as []) m).2
    m'.names = m.names ∧ m'.held = m.held ∧ ∃ ep calls, m.Carrier m.world (some ep) on ∧
      m'.world.said = m.world.said ++ calls.flatMap (·.entries (some ep)) ∧
      m.world.Failure ep e calls m'.world := by
  intro m'
  have orderly := (Orderly.start t).reach run.reach
  have chronicled := (Chronicled.start t).reach (Orderly.start t) run.reach
  obtain ⟨value, after⟩ := run_step (.disturbed T) around m (kept_of_error fails) as []
  obtain ⟨caller, carrier, w₀, place, calls, begins, operation, ends⟩ :=
    carries (T := T) around orderly chronicled verb on
  change _ = (outcome (.disturbed T) around m verb on m.world).1.1 at value
  change m' = (Session.place (.disturbed T) as (outcome (.disturbed T) around m verb on m.world).1.2
    { m with world := (outcome (.disturbed T) around m verb on m.world).2 }).2 at after
  rw [value] at fails
  obtain ⟨nothing, ep, rfl, failure⟩ := ends e fails
  rw [nothing] at after
  rw [after]
  refine ⟨rfl, rfl, ep, calls, carrier, ?_, failure⟩
  rw [← begins.said]
  exact operation.said

theorem errors_report_first_failure_server :
    let transport : Scripted.State := { outcomes := fun
      | .bind => [.failure (.os 98)]
      | .shutdown => [.failure (.os 107)]
      | .close => [.failure (.os 5)]
      | _ => [] }
    let step := runStep (.disturbed Scripted.transport) {}
      (.act (.bindServer "svc") none (some "server") []) (start transport)
    step.1.value.error? = some (.native "bind" (.os 98)) ∧ step.2.names = [] ∧
      step.2.world.closings 3 = 1 ∧ ∃ ep calls,
        step.2.world.said = calls.flatMap (Call.entries (some ep)) ∧
          Call.source calls = some (.os 98) ∧ World.Leaves ep (.native "bind" (.os 98)) calls
            (start transport).world step.2.world := by
  intro transport step
  have fails : step.1.value.error? = some (.native "bind" (.os 98)) := by decide +kernel
  obtain ⟨names, _, ep, calls, _, said, failure⟩ :=
    errors_report_first_failure Scripted.transport {} transport (.refl _) _ _ _ fails
  exact ⟨fails, names, by decide +kernel, ep, calls, said, failure.late _ rfl, failure.leaves⟩

end Session

end ProcessorSockets
