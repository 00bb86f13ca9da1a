import ProcessorSockets.Proofs.Session.Name

namespace ProcessorSockets

namespace Session

variable {σ α : Type}

inductive Reach (L : Link σ) (around : Surroundings σ) (s : Session σ) : Session σ → Prop
  | refl : Reach L around s s
  | act {m : Session σ} (verb : Verb) (on as : Option String) (meanwhile : List Meanwhile) :
      Reach L around s m → Reach L around s (runStep L around (.act verb on as meanwhile) m).2
  /-- A guard is put around a named endpoint. -/
  | enter {m : Session σ} {name : String} {ep : Endpoint} :
      Reach L around s m → m.find? name = some (.endpoint ep) →
        Reach L around s { m with held := ep :: m.held }
  | leave {m : Session σ} {g : Guard} :
      Reach L around s m → g.endpoint ∈ m.held → Reach L around s (letGo L g m).2

variable {L : Link σ} {around : Surroundings σ}

theorem Reach.trans {s m m' : Session σ} (first : Reach L around s m)
    (second : Reach L around m m') : Reach L around s m' := by
  induction second with
  | refl => exact first
  | act verb on as meanwhile _ ih => exact .act verb on as meanwhile ih
  | enter _ found ih => exact .enter ih found
  | leave _ held ih => exact .leave ih held

theorem run_settle (ep : Endpoint) (s : Session σ) : (settle L ep s).2 =
    if s.refers ep then s else { s with world := (ep.discard L s.world).2 } := by
  change ((if (!s.refers ep) = true then within (ep.discard L) else pure () :
    StateM (Session σ) Unit) s).2 = _
  cases s.refers ep <;> rfl

theorem run_forget (n : String) (s : Session σ) :
    (forget L n s).2 = (abandon L (s.find? n) (s.without n)).2 := rfl

theorem run_name (n : String) (o : Object) (s : Session σ) :
    (name L n o s).2 = (abandon L (s.find? n) (s.naming n o)).2 := rfl

theorem run_letGo (g : Guard) (s : Session σ) : (letGo L g s).2 =
    (settle L g.endpoint { s with
      world := (g.discard L s.world).2
      held := s.held.erase g.endpoint }).2 := rfl

theorem run_drop (n : String) (as : Option String) (s : Session σ) :
    (act L around .drop (some n) as s).2 = (forget L n s).2 := rfl

theorem run_act (verb : Verb) (on as : Option String) (kept : verb ≠ .drop ∨ on = none)
    (s : Session σ) : act L around verb on as s =
      let r := outcome L around s verb on s.world
      (r.1.1, (place L as r.1.2 { s with world := r.2 }).2) := by
  cases verb with
  | drop =>
    cases on with
    | none => rfl
    | some n =>
      cases kept with
      | inl not => exact absurd rfl not
      | inr without => cases without
  | _ => rfl

theorem kept_or_drops (verb : Verb) (on : Option String) :
    (verb ≠ .drop ∨ on = none) ∨ ∃ n, verb = .drop ∧ on = some n := by
  cases on with
  | none => exact .inl (.inr rfl)
  | some n => exact (Decidable.em (verb = .drop)).symm.imp .inl fun drops => ⟨n, drops, rfl⟩

def amid (s : Session σ) (ms : List Meanwhile) : World σ :=
  if ms = [] then s.world else { s.world with disturbances := s.disturbances ms }

def past (s : Session σ) (ms : List Meanwhile) (w : World σ) : World σ :=
  if ms = [] then w else { w with disturbances := s.world.disturbances }

section

variable (s : Session σ) (ms : List Meanwhile) (w : World σ)

@[simp] theorem endpoints_amid : (s.amid ms).endpoints = s.world.endpoints := by
  unfold amid
  split <;> rfl

@[simp] theorem sockets_amid : (s.amid ms).sockets = s.world.sockets := by
  unfold amid
  split <;> rfl

@[simp] theorem transport_amid : (s.amid ms).transport = s.world.transport := by
  unfold amid
  split <;> rfl

@[simp] theorem log_amid : (s.amid ms).log = s.world.log := by
  unfold amid
  split <;> rfl

@[simp] theorem endpoints_past : (s.past ms w).endpoints = w.endpoints := by
  unfold past
  split <;> rfl

@[simp] theorem log_past : (s.past ms w).log = w.log := by
  unfold past
  split <;> rfl

@[simp] theorem transport_past : (s.past ms w).transport = w.transport := by
  unfold past
  split <;> rfl

@[simp] theorem handle_amid (ep : Endpoint) : (s.amid ms).handle ep = s.world.handle ep := by
  simp [World.handle, World.endpoint]

@[simp] theorem handle_past (ep : Endpoint) : (s.past ms w).handle ep = w.handle ep := by
  simp [World.handle, World.endpoint]

theorem target_of_mem_amid {s : Session σ} (quiet : s.world.disturbances = [])
    {ms : List Meanwhile} {d : Disturbance} (mem : d ∈ (s.amid ms).disturbances) :
    ∃ m ∈ ms, ∃ o, s.find? m.on = some o ∧ m.interference.deed? o = some d.deed := by
  unfold amid at mem
  split at mem
  · simp [quiet] at mem
  · exact target_of_mem_disturbances mem

@[simp] theorem past_amid : s.past ms (s.amid ms) = s.world := by
  unfold past amid
  split <;> rfl

end

theorem run_among (ms : List Meanwhile) (step : StateM (Session σ) α) (s : Session σ) :
    among ms step s =
      let r := step { s with world := s.amid ms }
      (r.1, { r.2 with world := s.past ms r.2.world }) := by
  unfold among amid past
  split <;> rfl

theorem run_perform (verb : Verb) (on as : Option String) (meanwhile : List Meanwhile)
    (s : Session σ) : (runStep L around (.act verb on as meanwhile) s).2 =
      (among meanwhile (act L around verb on as) s).2 := by
  rw [runStep]
  rfl

theorem settle_world (ep : Endpoint) (s : Session σ) :
    ∃ w, (settle L ep s).2 = { s with world := w } := by
  rw [run_settle]
  split
  · exact ⟨s.world, rfl⟩
  · exact ⟨_, rfl⟩

theorem abandon_world (old : Option Object) (s : Session σ) :
    ∃ w, (abandon L old s).2 = { s with world := w } := by
  cases old with
  | none => exact ⟨s.world, rfl⟩
  | some o => exact settle_world o.base s

theorem names_place {s : Session σ} (as : Option String) (object : Option Object) :
    ∀ p ∈ (place L as object s).2.names, p ∈ s.names ∨ object = some p.2 := by
  intro p mem
  cases object with
  | none => exact .inl mem
  | some o =>
    cases as with
    | none =>
      obtain ⟨w, run⟩ := settle_world (L := L) o.base s
      change p ∈ (settle L o.base s).2.names at mem
      rw [run] at mem
      exact .inl mem
    | some n =>
      obtain ⟨w, run⟩ := abandon_world (L := L) (s.find? n) (s.naming n o)
      change p ∈ (name L n o s).2.names at mem
      rw [run_name, run] at mem
      cases mem with
      | head => exact .inr rfl
      | tail _ kept => exact .inl (List.mem_filter.mp kept).1

theorem find?_place (s : Session σ) (n : String) (o : Object) :
    (place L (some n) (some o) s).2.find? n = some o := by
  obtain ⟨w, run⟩ := abandon_world (L := L) (s.find? n) (s.naming n o)
  change (name L n o s).2.find? n = _
  rw [run_name, run]
  exact find?_naming s n o

theorem names_act (verb : Verb) (on as : Option String) (s : Session σ) :
    ∀ p ∈ (act L around verb on as s).2.names,
      p ∈ s.names ∨ (verb ≠ .drop ∨ on = none) ∧
        (outcome L around s verb on s.world).1.2 = some p.2 := by
  intro p mem
  obtain kept | ⟨n, rfl, rfl⟩ := kept_or_drops verb on
  · rw [run_act verb on as kept] at mem
    have placed := names_place as _ p mem
    exact placed.imp id fun made => ⟨kept, made⟩
  · obtain ⟨w, run⟩ := abandon_world (L := L) (s.find? n) (s.without n)
    rw [run_drop, run_forget, run] at mem
    exact .inl (List.mem_filter.mp mem).1

theorem held_settle (ep : Endpoint) (s : Session σ) : (settle L ep s).2.held = s.held := by
  obtain ⟨w, run⟩ := settle_world (L := L) ep s
  rw [run]

theorem held_abandon (old : Option Object) (s : Session σ) :
    (abandon L old s).2.held = s.held := by
  obtain ⟨w, run⟩ := abandon_world (L := L) old s
  rw [run]

theorem held_place (as : Option String) (object : Option Object) (s : Session σ) :
    (place L as object s).2.held = s.held := by
  cases object with
  | none => rfl
  | some o =>
    cases as with
    | none => exact held_settle o.base s
    | some n => exact held_abandon _ _

theorem held_act (verb : Verb) (on as : Option String) (s : Session σ) :
    (act L around verb on as s).2.held = s.held := by
  obtain kept | ⟨n, rfl, rfl⟩ := kept_or_drops verb on
  · rw [run_act verb on as kept]
    exact held_place as _ _
  · rw [run_drop, run_forget]
    exact held_abandon _ _

theorem held_among (ms : List Meanwhile) (step : StateM (Session σ) α)
    (same : ∀ s, (step s).2.held = s.held) (s : Session σ) :
    (among ms step s).2.held = s.held := by
  rw [run_among]
  exact same _

theorem held_letGo (g : Guard) (s : Session σ) :
    (letGo L g s).2.held = s.held.erase g.endpoint := by
  rw [run_letGo, held_settle]

mutual

theorem reach_runStep (L : Link σ) (around : Surroundings σ) (step : Step) (s : Session σ) :
    Reach L around s (runStep L around step s).2 ∧ (runStep L around step s).2.held = s.held := by
  cases step with
  | act verb on as meanwhile =>
    refine ⟨.act verb on as meanwhile .refl, ?_⟩
    rw [run_perform]
    exact held_among meanwhile _ (held_act verb on as) s
  | guarded on commit steps =>
    rw [runStep]
    change Reach L around s ((match s.find? on with
        | some (.endpoint ep) => _
        | _ => _ : StateM (Session σ) Answer) s).2 ∧ ((match s.find? on with
        | some (.endpoint ep) => _
        | _ => _ : StateM (Session σ) Answer) s).2.held = _
    match found : s.find? on with
    | some (.endpoint ep) =>
      have inner := reach_runSteps L around steps { s with held := ep :: s.held }
      have inside : ep ∈ (runSteps L around steps { s with held := ep :: s.held }).2.held := by
        rw [inner.2]
        simp
      have entered := (Reach.refl.enter found).trans inner.1
      cases commit with
      | true =>
        refine ⟨entered.leave (g := (Guard.around ep).commit) inside, ?_⟩
        exact (held_letGo _ _).trans (by rw [inner.2]; simp [Guard.around, Guard.commit])
      | false =>
        refine ⟨entered.leave (g := Guard.around ep) inside, ?_⟩
        exact (held_letGo _ _).trans (by rw [inner.2]; simp [Guard.around])
    | some (.socket _) => exact ⟨.refl, rfl⟩
    | some (.server _) => exact ⟨.refl, rfl⟩
    | some (.input _) => exact ⟨.refl, rfl⟩
    | some (.output _) => exact ⟨.refl, rfl⟩
    | none => exact ⟨.refl, rfl⟩

theorem reach_runSteps (L : Link σ) (around : Surroundings σ) (steps : List Step) (s : Session σ) :
    Reach L around s (runSteps L around steps s).2 ∧
      (runSteps L around steps s).2.held = s.held := by
  cases steps with
  | nil =>
    rw [runSteps]
    exact ⟨.refl, rfl⟩
  | cons step rest =>
    rw [runSteps]
    have first := reach_runStep L around step s
    have then' := reach_runSteps L around rest (runStep L around step s).2
    exact ⟨first.1.trans then'.1, then'.2.trans first.2⟩

end

theorem names_forget (n : String) (s : Session σ) :
    (forget L n s).2.names = s.names.filter (·.1 ≠ n) := by
  obtain ⟨w, run⟩ := abandon_world (L := L) (s.find? n) (s.without n)
  rw [run_forget, run]
  rfl

theorem reach_forget (n : String) (s : Session σ) : Reach L around s (forget L n s).2 := by
  have dropped : Reach L around s (runStep L around (.act .drop (some n) none []) s).2 :=
    .act _ _ _ _ .refl
  rw [run_perform] at dropped
  simpa [among, run_drop] using dropped

theorem held_forget (n : String) (s : Session σ) : (forget L n s).2.held = s.held := by
  rw [run_forget]
  exact held_abandon _ _

theorem reach_forgetAll (L : Link σ) (around : Surroundings σ) (ns : List String) (s : Session σ) :
    Reach L around s (forgetAll L ns s).2 ∧
      (forgetAll L ns s).2.names = s.names.filter (·.1 ∉ ns) ∧
      (forgetAll L ns s).2.held = s.held := by
  induction ns generalizing s with
  | nil => exact ⟨.refl, (List.filter_eq_self.mpr (by simp)).symm, rfl⟩
  | cons n ns ih =>
    obtain ⟨reached, names, held⟩ := ih (forget L n s).2
    refine ⟨(reach_forget n s).trans reached, names.trans ?_, held.trans (held_forget n s)⟩
    rw [names_forget, List.filter_filter]
    apply List.filter_congr
    intro p _
    simp [Bool.and_comm]

theorem reach_close (L : Link σ) (around : Surroundings σ) (s : Session σ) :
    Reach L around s (close L s).2 ∧ (close L s).2.names = [] ∧ (close L s).2.held = s.held := by
  have all := reach_forgetAll L around
    ((s.names.map (·.1)).mergeSort (· ≤ ·)) s
  refine ⟨all.1, all.2.1.trans ?_, all.2.2⟩
  rw [List.filter_eq_nil_iff]
  intro p mem
  simpa using ⟨p.2, mem⟩

theorem reach_run (T : Transport σ) (around : Surroundings σ) (steps : List Step) (s : Session σ) :
    Reach (.disturbed T) around s (run T around steps s).2 ∧
      (run T around steps s).2.names = [] ∧ (run T around steps s).2.held = s.held :=
  have stepped := reach_runSteps (.disturbed T) around steps s
  have closed := reach_close (.disturbed T) around (runSteps (.disturbed T) around steps s).2
  ⟨stepped.1.trans closed.1, closed.2.1, closed.2.2.trans stepped.2⟩

end Session

end ProcessorSockets
