import Mathlib.Logic.Relation
import ProcessorSockets.Proofs.Conduct.Outcome
import ProcessorSockets.Proofs.Session.Chronicle

namespace ProcessorSockets

open World (Begins Conduct)

variable {σ : Type}

structure World.Turn (adopts : Option Descriptor) (caller : Option Endpoint) (calls : List Call)
    (w mid : World σ) (gone : Endpoint) (last : List Call) (w' : World σ) : Prop where
  operation : ∃ w₀ on, w.Begins adopts w₀ ∧ w₀.Conduct caller on calls mid
  ending : mid.Conduct (some gone) gone last w'
  closing : ∀ c ∈ last, ∃ fd, (mid.handle gone).fd = some fd ∧ c.request = .close fd

namespace Session

variable {L : Link σ} {T : Transport σ} {around : Surroundings σ}

inductive Advance (L : Link σ) (around : Surroundings σ) (s : Session σ) : Session σ → Prop
  | act (verb : Verb) (on as : Option String) :
      Advance L around s (runStep L around (.act verb on as []) s).2
  | enter {name : String} {ep : Endpoint} (found : s.find? name = some (.endpoint ep)) :
      Advance L around s { s with held := ep :: s.held }
  | leave {g : Guard} (held : g.endpoint ∈ s.held) : Advance L around s (letGo L g s).2

/-- What comes of a session by steps that nobody disturbs, each of which is as allowed. -/
def Undisturbed (L : Link σ) (around : Surroundings σ)
    (allowed : Session σ → Session σ → Prop) : Session σ → Session σ → Prop :=
  Relation.ReflTransGen fun s s' => Advance L around s s' ∧ allowed s s'

def anyStep (_ _ : Session σ) : Prop := True

theorem Advance.reach {s s' : Session σ} (step : Advance L around s s') : Reach L around s s' := by
  cases step with
  | act verb on as => exact .act verb on as [] .refl
  | enter found => exact .enter .refl found
  | leave held => exact .leave .refl held

namespace Undisturbed

variable {allowed more : Session σ → Session σ → Prop} {s m : Session σ}

theorem refl (s : Session σ) : Undisturbed L around allowed s s := Relation.ReflTransGen.refl

theorem one (step : Advance L around s m) : Undisturbed L around anyStep s m :=
  .single ⟨step, trivial⟩

theorem trans {m' : Session σ} (first : Undisturbed L around allowed s m)
    (second : Undisturbed L around allowed m m') : Undisturbed L around allowed s m' :=
  Relation.ReflTransGen.trans first second

theorem reach (h : Undisturbed L around allowed s m) : Reach L around s m := by
  induction h with
  | refl => exact .refl
  | tail _ step ih => exact ih.trans step.1.reach

end Undisturbed

mutual

def Step.alone : Step → Bool
  | .act _ _ _ meanwhile => meanwhile.isEmpty
  | .guarded _ _ steps => Step.allAlone steps

def Step.allAlone : List Step → Bool
  | [] => true
  | step :: rest => step.alone && Step.allAlone rest

end

mutual

theorem undisturbed_runStep (L : Link σ) (around : Surroundings σ) (step : Step)
    (alone : step.alone = true) (s : Session σ) :
    Undisturbed L around anyStep s (runStep L around step s).2 := by
  cases step with
  | act verb on as meanwhile =>
    rw [Step.alone, List.isEmpty_iff] at alone
    subst alone
    exact .one (.act verb on as)
  | guarded on commit steps =>
    rw [Step.alone] at alone
    rw [runStep]
    change Undisturbed L around anyStep s ((match s.find? on with
        | some (.endpoint ep) => _
        | _ => _ : StateM (Session σ) Answer) s).2
    match found : s.find? on with
    | some (.endpoint ep) =>
      have inner := undisturbed_runSteps L around steps alone { s with held := ep :: s.held }
      have held := (reach_runSteps L around steps { s with held := ep :: s.held }).2
      have inside : ep ∈ (runSteps L around steps { s with held := ep :: s.held }).2.held := by
        rw [held]
        simp
      have entered := (Undisturbed.one (.enter found)).trans inner
      cases commit with
      | true => exact entered.trans (.one (.leave inside))
      | false => exact entered.trans (.one (.leave inside))
    | some (.socket _) => exact .refl _
    | some (.server _) => exact .refl _
    | some (.input _) => exact .refl _
    | some (.output _) => exact .refl _
    | none => exact .refl _

theorem undisturbed_runSteps (L : Link σ) (around : Surroundings σ) (steps : List Step)
    (alone : Step.allAlone steps = true) (s : Session σ) :
    Undisturbed L around anyStep s (runSteps L around steps s).2 := by
  cases steps with
  | nil =>
    rw [runSteps]
    exact .refl _
  | cons step rest =>
    rw [Step.allAlone, Bool.and_eq_true] at alone
    rw [runSteps]
    exact (undisturbed_runStep L around step alone.1 s).trans
      (undisturbed_runSteps L around rest alone.2 (runStep L around step s).2)

end

theorem undisturbed_forgetAll (L : Link σ) (around : Surroundings σ) (ns : List String)
    (s : Session σ) : Undisturbed L around anyStep s (forgetAll L ns s).2 := by
  induction ns generalizing s with
  | nil => exact .refl _
  | cons n ns ih =>
    have dropped : Undisturbed L around anyStep s
        (runStep L around (.act .drop (some n) none []) s).2 := .one (.act _ _ _)
    rw [run_perform] at dropped
    have forgot : Undisturbed L around anyStep s (forget L n s).2 := by
      simpa [among, run_drop] using dropped
    exact forgot.trans (ih _)

theorem undisturbed_run (T : Transport σ) (around : Surroundings σ) {steps : List Step}
    (alone : Step.allAlone steps = true) (s : Session σ) :
    Undisturbed (.disturbed T) around anyStep s (run T around steps s).2 :=
  (undisturbed_runSteps (.disturbed T) around steps alone s).trans
    (undisturbed_forgetAll (.disturbed T) around _ _)

section

variable (straight : L.Straight) {s : Session σ} (quiet : s.world.disturbances = [])

include straight quiet

theorem conduct_settle (ep : Endpoint) : ∃ last,
    s.world.Conduct (some ep) ep last (settle L ep s).2.world ∧
      ∀ c ∈ last, ∃ fd, (s.world.handle ep).fd = some fd ∧ c.request = .close fd := by
  rw [run_settle]
  split
  · exact ⟨[], .refl _, by simp⟩
  · obtain ⟨last, conduct, about, _⟩ := ep.conduct_discard straight quiet
    exact ⟨last, conduct, about⟩

theorem conduct_abandon (old : Option Object) : ∃ gone last,
    s.world.Conduct (some gone) gone last (abandon L old s).2.world ∧
      ∀ c ∈ last, ∃ fd, (s.world.handle gone).fd = some fd ∧ c.request = .close fd := by
  cases old with
  | none => exact ⟨⟨0⟩, [], .refl _, by simp⟩
  | some o => exact ⟨o.base, conduct_settle straight quiet o.base⟩

theorem conduct_place (as : Option String) (object : Option Object) : ∃ gone last,
    s.world.Conduct (some gone) gone last (place L as object s).2.world ∧
      ∀ c ∈ last, ∃ fd, (s.world.handle gone).fd = some fd ∧ c.request = .close fd := by
  cases object with
  | none => exact ⟨⟨0⟩, [], .refl _, by simp⟩
  | some o =>
    cases as with
    | none => exact ⟨o.base, conduct_settle straight quiet o.base⟩
    | some n => exact conduct_abandon straight (s := s.naming n o) quiet (s.find? n)

end

theorem carries (around : Surroundings σ) {s : Session σ} (orderly : s.Orderly)
    (chronicled : s.Chronicled) (verb : Verb) (on : Option String) :
    ∃ caller, s.Carrier s.world caller on ∧
      Carries verb.adopts? caller s.world (outcome (.disturbed T) around s verb on s.world) :=
  carries_outcome (Link.straight_disturbed T) orderly.quiet around s verb on
    (fun _ _ found => orderly.inside _ (refers_of_find? found))
    fun _ k found =>
      ⟨(chronicled _ (mem_of_find? found) k rfl).2, fun c => Chronicle.socket.compete c⟩

theorem turn_act (around : Surroundings σ) {s : Session σ} (orderly : s.Orderly)
    (chronicled : s.Chronicled) (verb : Verb) (on as : Option String) :
    ∃ caller calls mid gone last, s.Carrier s.world caller on ∧
      s.world.Turn verb.adopts? caller calls mid gone last
        (runStep (.disturbed T) around (.act verb on as []) s).2.world := by
  have straight := Link.straight_disturbed T
  rw [run_perform]
  change ∃ caller calls mid gone last, _ ∧ s.world.Turn _ _ _ _ _ _
    (act (.disturbed T) around verb on as s).2.world
  obtain kept | ⟨n, rfl, rfl⟩ := kept_or_drops verb on
  · obtain ⟨caller, carrier, w₀, place, calls, begins, operation, _⟩ :=
      carries (T := T) around orderly chronicled verb on
    have quiet := (operation.disturbances.trans begins.disturbances).trans orderly.quiet
    rw [run_act verb on as kept]
    dsimp only
    generalize outcome (.disturbed T) around s verb on s.world = r at operation quiet ⊢
    obtain ⟨gone, last, ending, closing⟩ :=
      conduct_place straight (s := { s with world := r.2 }) quiet as r.1.2
    exact ⟨caller, calls, r.2, gone, last, carrier, ⟨w₀, place, begins, operation⟩, ending, closing⟩
  · obtain ⟨gone, last, ending, closing⟩ :=
      conduct_abandon straight (s := s.without n) orderly.quiet (s.find? n)
    rw [run_drop, run_forget]
    exact ⟨_, [], s.world, gone, last, rfl, ⟨s.world, gone, .there, .refl _⟩, ending, closing⟩

theorem turn_leave {s : Session σ} (quiet : s.world.disturbances = []) (g : Guard) :
    ∃ calls mid last, s.world.Turn none (some g.endpoint) calls mid g.endpoint last
      (letGo (.disturbed T) g s).2.world := by
  have straight := Link.straight_disturbed T
  obtain ⟨calls, operation, _⟩ := Endpoint.conduct_guard straight g quiet
  obtain ⟨last, ending, closing⟩ := conduct_settle straight (s := { s with
    world := (g.discard (.disturbed T) s.world).2, held := s.held.erase g.endpoint })
    (operation.disturbances.trans quiet) g.endpoint
  rw [run_letGo]
  exact ⟨calls, _, last, ⟨s.world, g.endpoint, .there, operation⟩, ending, closing⟩

end Session

end ProcessorSockets
