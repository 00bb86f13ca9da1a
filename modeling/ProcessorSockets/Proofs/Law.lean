import ProcessorSockets.Proofs.Run

/-! Laws of worlds.  A law says what a step may do to the world, whatever the transport
answers.  Whether a step keeps a law is decided by the few things that it is made of, so the
same steps are gone through once for all laws. -/

namespace ProcessorSockets

variable {σ α β : Type}

structure Law (σ : Type) where
  /-- Holds where the steps start, and keeps holding. -/
  holds : World σ → Prop
  keeps : World σ → World σ → Prop
  refl : ∀ w, keeps w w
  trans : ∀ {a b c}, keeps a b → keeps b c → keeps a c
  stable : ∀ {w w'}, holds w → keeps w w' → holds w'
  note : ∀ w es, (∀ e ∈ es, e.isNote = true) → keeps w (w.add es)

theorem Law.noted (law : Law σ) {w w' : World σ} (h : w.Noted w') : law.keeps w w' := by
  obtain ⟨es, notes, rfl⟩ := h
  exact law.note w es notes

def Law.Keeps (law : Law σ) (step : World σ → α × World σ) : Prop :=
  ∀ w, law.holds w → law.keeps w (step w).2

def Law.KeepsTraced (law : Law σ) (step : Traced σ α) : Prop := ∀ span, law.Keeps (step span)

namespace Law

variable {law : Law σ}

namespace Keeps

theorem look (f : World σ → α) : law.Keeps fun w => (f w, w) := fun w _ => law.refl w

theorem bind {step : StateM (World σ) α} {next : α → StateM (World σ) β}
    (first : law.Keeps step) (rest : ∀ a, law.Keeps (next a)) : law.Keeps (step >>= next) := by
  intro w hw
  have kept := first w hw
  exact law.trans kept (rest _ _ (law.stable hw kept))

theorem record {es : List Entry} (notes : ∀ e ∈ es, e.isNote = true) :
    law.Keeps (World.record (σ := σ) es) := fun w _ => law.note w es notes

theorem emit (level : Level) (message : String) :
    law.Keeps (World.emit (σ := σ) level message) := record (by simp [Entry.isNote])

theorem loop {l : List β} {f : β → PUnit → StateM (World σ) (ForInStep PUnit)}
    (each : ∀ b ∈ l, ∀ u, law.Keeps (f b u)) (u : PUnit) : law.Keeps (forIn l u f) := by
  induction l generalizing u with
  | nil => exact look _
  | cons b l ih =>
    rw [List.forIn_cons]
    apply bind (each b (by simp) u)
    intro r
    cases r with
    | done v => exact look _
    | yield v => exact ih (fun c hc => each c (by simp [hc])) v

end Keeps

namespace Keeps

theorem return' (a : α) : law.Keeps (pure a : Action σ α) := look _

theorem throw' (e : SocketError) : law.Keeps (throw e : Action σ α) := look _

theorem ofExcept (r : Except SocketError α) : law.Keeps (Action.ofExcept (σ := σ) r) := look _

theorem andThenOf {step : Action σ α} {next : α → Action σ β} {given : α → Prop}
    (first : law.Keeps step) (gives : ∀ w a, law.holds w → (step w).1 = .ok a → given a)
    (rest : ∀ a, given a → law.Keeps (next a)) : law.Keeps (step >>= next) := by
  intro w hw
  have kept := first w hw
  have known := fun a => gives w a hw
  change law.keeps w (ExceptT.bindCont next (step w).1 (step w).2).2
  cases e : (step w).1 with
  | ok a => exact law.trans kept (rest a (known a e) _ (law.stable hw kept))
  | error e => exact kept

theorem andThen {step : Action σ α} {next : α → Action σ β} (first : law.Keeps step)
    (rest : ∀ a, law.Keeps (next a)) : law.Keeps (step >>= next) :=
  andThenOf first (fun _ _ _ _ => trivial) fun a _ => rest a

theorem consult {next : World σ → Action σ α}
    (h : ∀ w, law.holds w → law.keeps w (next w w).2) :
    law.Keeps (Action.plain get >>= next) := h

theorem attempt {step : Action σ α} (h : law.Keeps step) : law.Keeps step.attempt := h

theorem plain {step : StateM (World σ) α} (h : law.Keeps step) :
    law.Keeps (Action.plain step) := h

theorem native {step : Action σ α} (h : law.Keeps step) : law.Keeps step.native := h

theorem mapped {step : World σ → α × World σ} {f : α → β} (h : law.Keeps step) :
    law.Keeps fun w => (f (step w).1, (step w).2) := h

end Keeps

namespace KeepsTraced

theorem look (f : Span → Except SocketError α × Span) :
    law.KeepsTraced fun span w => (f span, w) := fun _ => Keeps.look _

theorem return' (a : α) : law.KeepsTraced (pure a : Traced σ α) := look _

theorem note (f : Span → Span) : law.KeepsTraced (Traced.note (σ := σ) f) := look _

theorem finish {step : Action σ α} (h : law.Keeps step) :
    law.KeepsTraced (Traced.finish step) := fun _ => h

theorem plain {step : StateM (World σ) α} (h : law.Keeps step) :
    law.KeepsTraced (Traced.plain step) := fun _ => h

theorem refuse (e : SocketError) : law.KeepsTraced (Traced.finish (throw e : Action σ α)) :=
  finish (.throw' e)

theorem andThen {step : Traced σ α} {next : α → Traced σ β} (first : law.KeepsTraced step)
    (rest : ∀ a, law.KeepsTraced (next a)) : law.KeepsTraced (step >>= next) := by
  intro span w hw
  have kept := first span w hw
  change law.keeps w
    (ExceptT.bindCont next (step span w).1.1 (step span w).1.2 (step span w).2).2
  cases (step span w).1.1 with
  | ok a => exact law.trans kept (rest a _ _ (law.stable hw kept))
  | error e => exact kept

theorem refuseIf {c : Prop} [Decidable c] {e : SocketError} {next : Unit → Traced σ α}
    (h : law.KeepsTraced (next ())) :
    law.KeepsTraced (if c then Traced.finish (throw e) >>= next else next ()) := by
  split
  · exact andThen (refuse e) fun _ => h
  · exact h

end KeepsTraced

theorem Keeps.ofTraced {L : Link σ} {operation : String} {body : Traced σ α}
    (h : law.KeepsTraced body) : law.Keeps (traced L operation body) := by
  intro w hw
  have opened := law.noted (.opening w operation)
  have kept := h (.opened operation) _ (law.stable hw opened)
  exact law.trans opened (law.trans kept (law.noted (.closing ..)))

end Law

end ProcessorSockets
