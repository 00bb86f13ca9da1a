import ProcessorSockets.Proofs.Law.Verb
import ProcessorSockets.Disturbance

/-! Requests under a law.  All links make a request, let something happen meanwhile, and have
the transport answer; they differ in what happens meanwhile. -/

namespace ProcessorSockets

variable {σ : Type}

theorem Transport.run_respond (T : Transport σ) (caller : Option Endpoint) (r : Request)
    (w : World σ) : T.respond caller r w =
      ((T.handle r w.transport).reply,
        ({ w with transport := (T.handle r w.transport).state }.add
          ((T.handle r w.transport).notes.map Note.entry)).add
            [.reply caller r (T.handle r w.transport).reply]) := by
  simp [Transport.respond, World.add]

/-- The world after the disturbances were taken that are due in a request of a kind. -/
def World.waiting (w : World σ) (depth : Nat) (m : Method) : World σ :=
  { w with
    disturbances := (w.disturbances.filter (not ∘ Disturbance.due w depth m)).map
      (Disturbance.passed depth m) }

@[simp] theorem Disturbance.during_passed (depth : Nat) (m : Method) (d : Disturbance) :
    (d.passed depth m).during = d.during := by
  unfold passed
  split <;> rfl

@[simp] theorem Disturbance.deed_passed (depth : Nat) (m : Method) (d : Disturbance) :
    (d.passed depth m).deed = d.deed := by
  unfold passed
  split <;> rfl

@[simp] theorem Disturbance.depth_passed (depth : Nat) (m : Method) (d : Disturbance) :
    (d.passed depth m).depth = d.depth := by
  unfold passed
  split <;> rfl

theorem World.deed_waiting {w : World σ} {depth : Nat} {m : Method} {d : Disturbance}
    (mem : d ∈ (w.waiting depth m).disturbances) : ∃ d₀ ∈ w.disturbances, d.deed = d₀.deed := by
  obtain ⟨d₀, kept, rfl⟩ := List.mem_map.mp mem
  exact ⟨d₀, (List.mem_filter.mp kept).1, d₀.deed_passed depth m⟩

theorem World.run_disturb (L : Link σ) (depth : Nat) (m : Method) (w : World σ) :
    (World.disturb L depth m w).2 =
      (forIn (w.disturbances.filter (Disturbance.due w depth m)) PUnit.unit
        (fun d _ => do
          let result ← (d.deed.perform L).run
          World.record [.disturbed result]
          pure (ForInStep.yield PUnit.unit) : _ → _ → StateM (World σ) _)
        (w.waiting depth m)).2 := by
  simp only [World.disturb, List.partition_eq_filter_filter]
  rfl

/-- A request on a disturbed link: others act in it, and then there is an answer. -/
theorem Link.run_disturbed (T : Transport σ) (caller : Option Endpoint) (r : Request)
    (w : World σ) : (Link.disturbed T).send caller r w =
      T.respond caller r (World.interrupt T r.method (w.add [.request caller r])).2 := rfl

theorem World.interrupt_quiet (T : Transport σ) (m : Method) {w : World σ}
    (quiet : w.disturbances = []) : World.interrupt T m w = ((), w) := by
  cases w
  cases quiet
  rfl

/-- There are always levels enough below the first one. -/
theorem World.interrupt_eq (T : Transport σ) (m : Method) (w : World σ) :
    ∃ levels, World.interrupt T m w =
      World.disturb (.via T (World.amidst T 1 levels)) 0 m w := by
  cases length : w.disturbances.length with
  | zero =>
    have quiet := List.length_eq_zero_iff.mp length
    refine ⟨0, (interrupt_quiet T m quiet).trans ?_⟩
    cases w
    cases quiet
    rfl
  | succ levels => exact ⟨levels, by rw [interrupt, length, amidst]⟩

namespace Law

variable {law : Law σ} {T : Transport σ}

theorem Keeps.respond {caller : Option Endpoint} {r : Request}
    (serve : ∀ w t, law.keeps w { w with transport := t })
    (reply : ∀ w answer, law.keeps w (w.add [.reply caller r answer])) :
    law.Keeps (T.respond caller r) := by
  intro w _
  rw [T.run_respond]
  exact law.trans (serve w _) (law.trans (law.note _ _ (by simp)) (reply _ _))

theorem Keeps.send {meanwhile : Method → StateM (World σ) Unit} {caller : Option Endpoint}
    {r : Request} (between : law.Keeps (meanwhile r.method))
    (request : ∀ w, law.keeps w (w.add [.request caller r]))
    (serve : ∀ w t, law.keeps w { w with transport := t })
    (reply : ∀ w answer, law.keeps w (w.add [.reply caller r answer])) :
    law.Keeps ((Link.via T meanwhile).send caller r) := by
  have requested : law.Keeps (World.record (σ := σ) [.request caller r]) := fun w _ => request w
  exact .bind requested fun _ => .bind between fun _ => .respond serve reply

theorem Bears.perform {L : Link σ} {d : Deed} (h : law.Bears L d.target)
    (update : ∀ s w st, d = .closeSocket s → law.keeps w (w.setSocket s st)) :
    law.Keeps (d.perform L) := by
  cases d with
  | create ep kind => exact h.create kind
  | close ep => exact h.close
  | release ep => exact .release h.close
  | closeSocket s => exact .closeSocket h.close fun w st => update s w st rfl

theorem Keeps.disturb {L : Link σ} {depth : Nat} {m : Method}
    (deeds : ∀ w, law.holds w → law.keeps w (w.waiting depth m) ∧
      ∃ law' : Law σ, law'.holds (w.waiting depth m) ∧ (∀ a b, law'.keeps a b → law.keeps a b) ∧
        ∀ d ∈ w.disturbances, d.due w depth m = true → law'.Keeps (d.deed.perform L)) :
    law.Keeps (World.disturb L depth m) := by
  intro w hw
  obtain ⟨waits, law', holds, weaker, each⟩ := deeds w hw
  apply law.trans waits
  apply weaker
  rw [World.run_disturb]
  refine Keeps.loop (fun d hd u => ?_) _ _ holds
  have due := List.mem_filter.mp hd
  exact .bind (each d due.1 due.2) fun _ =>
    .bind (.record (by simp [Entry.isNote])) fun _ => .look _

/-- What others do is kept a law by at every depth, if it is at one where it is one level
further down. -/
theorem Keeps.amidst
    (each : ∀ levels, (∀ depth m, law.Keeps (World.amidst T depth levels m)) → ∀ depth m,
      law.Keeps (World.disturb (.via T (World.amidst T (depth + 1) levels)) depth m))
    (levels depth : Nat) (m : Method) : law.Keeps (World.amidst T depth levels m) := by
  induction levels generalizing depth m with
  | zero => exact .look _
  | succ levels ih => exact each levels ih depth m

theorem Keeps.interrupt
    (each : ∀ {meanwhile : Method → StateM (World σ) Unit}, (∀ m, law.Keeps (meanwhile m)) →
      ∀ depth m, law.Keeps (World.disturb (.via T meanwhile) depth m))
    (m : Method) : law.Keeps (World.interrupt T m) := fun w =>
  Keeps.amidst (fun _ between depth => each (between (depth + 1)) depth) w.disturbances.length 0 m w

end Law

end ProcessorSockets
