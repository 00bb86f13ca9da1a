import ProcessorSockets.Proofs.Conduct.Endpoint
import ProcessorSockets.Proofs.Law.Retained
import ProcessorSockets.Proofs.Session.Orderly

namespace ProcessorSockets

variable {σ : Type}

/-- What becomes of an endpoint when it is given up.  A descriptor that it owns is closed by one
request, and nothing else is asked for; alone, if nobody acts meanwhile.  For another there is no
request at all. -/
structure World.GivenUp (alone : Prop) (ep : Endpoint) (w w' : World σ) : Prop where
  bare : w'.handle ep = {}
  closed : ∀ fd, w.handle ep = .owning fd → ∃ answer,
    w'.talk ep = w.talk ep ++ Call.entries (some ep) ⟨.close fd, answer⟩ ∧
      (alone → w'.said = w.said ++ Call.entries (some ep) ⟨.close fd, answer⟩)
  silent : (∀ fd, w.handle ep ≠ .owning fd) → w'.log = w.log ∧ w'.transport = w.transport

theorem Endpoint.givesUp (T : Transport σ) {ep : Endpoint} {w : World σ}
    (inside : ep.index < w.endpoints.length) :
    w.GivenUp (w.disturbances = []) ep (ep.discard (.disturbed T) w).2 := by
  have run := discarding (.disturbed T) ep w
  generalize (ep.discard (.disturbed T) w).2 = w' at run
  cases run with
  | @owned fd _ has noted =>
    have there : ep.index < (w.setHandle ep {}).endpoints.length := by
      rwa [World.length_endpoints_setHandle]
    have gone := World.handle_setHandle w ep {} inside
    obtain ⟨kept, talk⟩ := Aloof.exclusively (T := T) there gone (.close fd)
    refine ⟨?_, fun fd' owns => ?_, fun unowned => absurd has (unowned fd)⟩
    · rw [noted.handle, kept, gone]
    · cases has.symm.trans owns
      have heard : w'.talk ep = _ := (World.Aloof.noted noted).talk.trans talk
      refine ⟨_, heard, fun quiet => ?_⟩
      have called := called_exclusively ep (Link.straight_disturbed T) (r := .close fd)
        (w := w.setHandle ep {}) quiet rfl
      exact (called.after noted).said.trans (congrArg _ (List.append_nil _))
  | other unowned =>
    exact ⟨World.handle_setHandle_bare w ep, fun fd owns => absurd owns (unowned fd),
      fun _ => ⟨rfl, rfl⟩⟩

namespace Session

variable {L : Link σ} {T : Transport σ} {around : Surroundings σ} {s : Session σ} {ep : Endpoint}

/-- A reference to an endpoint goes, in some world.  If another is left, the world stays as it is,
and if it was the last the endpoint is given up. -/
structure Drops (alone : Prop) (ep : Endpoint) (w : World σ) (s' : Session σ) : Prop where
  others : s'.refers ep = true → s'.world = w
  last : s'.refers ep = false → w.GivenUp alone ep s'.world

def placing (s : Session σ) : Option Object → Option String → Session σ × Option Object
  | some o, some n => (s.naming n o, s.find? n)
  | object, _ => (s, object)

/-- A step but for giving up what loses a reference, and what that is. -/
def performed (L : Link σ) (around : Surroundings σ) (s : Session σ) (verb : Verb)
    (on as : Option String) : Session σ × Option Object :=
  match verb, on with
  | .drop, some n => (s.without n, s.find? n)
  | _, _ =>
    let (made, world) := outcome L around s verb on s.world
    placing { s with world } made.2 as

def worked (L : Link σ) (around : Surroundings σ) (s : Session σ) (verb : Verb)
    (on as : Option String) (ms : List Meanwhile) : World σ × Option Object :=
  let (s', lost) := performed L around { s with world := s.amid ms } verb on as
  (s.past ms s'.world, lost)

theorem performed_kept {verb : Verb} {on : Option String} (kept : verb ≠ .drop ∨ on = none)
    (as : Option String) : performed L around s verb on as =
      placing { s with world := (outcome L around s verb on s.world).2 }
        (outcome L around s verb on s.world).1.2 as := by
  cases verb with
  | drop =>
    cases on with
    | none => rfl
    | some n => exact (kept.elim (absurd rfl) nofun)
  | _ => rfl

theorem run_place (as : Option String) (object : Option Object) (s : Session σ) :
    (place L as object s).2 = (abandon L (placing s object as).2 (placing s object as).1).2 := by
  cases object with
  | none => rfl
  | some o =>
    cases as with
    | none => rfl
    | some n => rfl

theorem act_performed (verb : Verb) (on as : Option String) (s : Session σ) :
    (act L around verb on as s).2 =
      (abandon L (performed L around s verb on as).2 (performed L around s verb on as).1).2 := by
  obtain kept | ⟨n, rfl, rfl⟩ := kept_or_drops verb on
  · rw [run_act verb on as kept, performed_kept kept]
    exact run_place as _ _
  · rfl

theorem step_performed (verb : Verb) (on as : Option String) (ms : List Meanwhile)
    (s : Session σ) :
    (runStep L around (.act verb on as ms) s).2 =
      let p := performed L around { s with world := s.amid ms } verb on as
      let s' := (abandon L p.2 p.1).2
      { s' with world := s.past ms s'.world } := by
  rw [run_perform, run_among]
  dsimp only
  rw [act_performed]

theorem worked_drop (n : String) (as : Option String) (ms : List Meanwhile) :
    s.worked L around .drop (some n) as ms = (s.world, s.find? n) := by
  simp only [worked, performed, without, past_amid]
  rfl

theorem world_placing (s : Session σ) (object : Option Object) (as : Option String) :
    (placing s object as).1.world = s.world := by
  cases object <;> cases as <;> rfl

theorem refers_placing {object : Option Object} {as : Option String}
    (refers : (placing s object as).1.refers ep = true) :
    s.refers ep = true ∨ ∃ o, object = some o ∧ ep = o.base := by
  cases object with
  | none => exact .inl refers
  | some o =>
    cases as with
    | none => exact .inl refers
    | some n => exact (refers_naming.mp refers).symm.imp refers_of_without fun own => ⟨o, rfl, own⟩

theorem lost_placing {object : Option Object} {as : Option String} {o : Object}
    (lost : (placing s object as).2 = some o) : s.refers o.base = true ∨ object = some o := by
  cases object with
  | none => cases lost
  | some made =>
    cases as with
    | none => exact .inr lost
    | some n => exact .inl (refers_of_find? lost)

theorem refers_abandon (old : Option Object) (s : Session σ) (ep : Endpoint) :
    (abandon L old s).2.refers ep = s.refers ep := by
  obtain ⟨w, run⟩ := abandon_world (L := L) old s
  rw [run]
  rfl

theorem base_made {verb : Verb} {on : Option String} {w : World σ} {o : Object}
    (made : (outcome (.disturbed T) around s verb on w).1.2 = some o) :
    s.refers o.base = true ∨ o.base = ⟨w.endpoints.length⟩ ∧
      w.endpoints.length < (outcome (.disturbed T) around s verb on w).2.endpoints.length := by
  have origin := lent_or_founded T around s verb on w
  dsimp only at origin
  rw [made] at origin
  cases origin with
  | inl lent =>
    obtain ⟨n, old, _, found, same⟩ := lent.base o rfl
    exact .inl (same ▸ refers_of_find? found)
  | inr founded => exact .inr ⟨founded.base, founded.size ▸ Nat.lt_succ_self _⟩

theorem size_outcome (verb : Verb) (on : Option String) (w : World σ) :
    w.endpoints.length ≤ (outcome (.disturbed T) around s verb on w).2.endpoints.length := by
  cases lent_or_founded T around s verb on w with
  | inl lent => exact Nat.le_of_eq lent.steady.1.symm
  | inr founded => exact founded.size ▸ Nat.le_succ _

theorem size_performed (around : Surroundings σ) (s : Session σ) (verb : Verb)
    (on as : Option String) :
    s.world.endpoints.length ≤
      (performed (.disturbed T) around s verb on as).1.world.endpoints.length := by
  obtain kept | ⟨n, rfl, rfl⟩ := kept_or_drops verb on
  · rw [performed_kept kept, world_placing]
    exact size_outcome verb on s.world
  · exact Nat.le_refl _

variable {verb : Verb} {on as : Option String}

theorem refers_performed (old : ep.index < s.world.endpoints.length)
    (refers : (performed (.disturbed T) around s verb on as).1.refers ep = true) :
    s.refers ep = true := by
  obtain kept | ⟨n, rfl, rfl⟩ := kept_or_drops verb on
  · rw [performed_kept kept] at refers
    cases refers_placing refers with
    | inl referred => exact referred
    | inr made =>
      obtain ⟨o, made, rfl⟩ := made
      exact (base_made made).elim id fun new => absurd (new.1 ▸ old) (Nat.lt_irrefl _)
  · exact refers_of_without refers

theorem base_lost {o : Object}
    (lost : (performed (.disturbed T) around s verb on as).2 = some o) :
    s.refers o.base = true ∨ o.base = ⟨s.world.endpoints.length⟩ ∧
      s.world.endpoints.length <
        (performed (.disturbed T) around s verb on as).1.world.endpoints.length := by
  obtain kept | ⟨n, rfl, rfl⟩ := kept_or_drops verb on
  · rw [performed_kept kept] at lost ⊢
    rw [world_placing]
    exact (lost_placing lost).elim .inl base_made
  · exact .inl (refers_of_find? lost)

theorem keeps_abandon (law : Law σ) (holds : law.holds s.world) (old : Option Object)
    (admits : ∀ o, old = some o → s.refers o.base = false → law.Admits L o.base) :
    law.keeps s.world (abandon L old s).2.world := by
  cases old with
  | none => exact law.refl _
  | some o =>
    change law.keeps _ (settle L o.base s).2.world
    rw [run_settle]
    split
    case isTrue => exact law.refl _
    case isFalse free => exact (admits o rfl (Bool.eq_false_iff.mpr free)).discard _ holds

theorem keeps_performed (law : Law σ) (verb : Verb) (on as : Option String)
    (kept : law.Keeps (outcome L around s verb on)) (holds : law.holds s.world) :
    law.keeps s.world (performed L around s verb on as).1.world := by
  obtain others | ⟨n, rfl, rfl⟩ := kept_or_drops verb on
  · rw [performed_kept others, world_placing]
    exact kept _ holds
  · exact law.refl _

section

variable {m : Session σ} {law : Law σ}

theorem keeps_amid (h : law.Pervades (.disturbed T)) (s : Session σ) (ms : List Meanwhile) :
    law.keeps s.world (s.amid ms) := by
  unfold amid
  split
  · exact law.refl _
  · exact h.among _ _

theorem keeps_past (h : law.Pervades (.disturbed T)) (s : Session σ) (ms : List Meanwhile)
    (w : World σ) : law.keeps w (s.past ms w) := by
  unfold past
  split
  · exact law.refl _
  · exact h.among _ _

theorem keeps_step (h : law.Pervades (.disturbed T)) (s : Session σ) (verb : Verb)
    (on as : Option String) (ms : List Meanwhile) :
    law.keeps s.world (runStep (.disturbed T) around (.act verb on as ms) s).2.world := by
  have works := keeps_performed (s := { s with world := s.amid ms }) law verb on as
    (h.hosts.outcome h.outside around _ (fun n o _ => (h.admits o.base).object
      fun k _ w st => h.setSocket w k st) verb on) (h.holds _)
  have ends := keeps_abandon (L := .disturbed T) (s := (performed (.disturbed T) around
    { s with world := s.amid ms } verb on as).1) law (h.holds _) (performed (.disturbed T) around
      { s with world := s.amid ms } verb on as).2 fun o _ _ => h.admits o.base
  rw [step_performed]
  exact law.trans (keeps_amid h s ms) (law.trans works (law.trans ends (keeps_past h s ms _)))

theorem Reach.keeps (h : law.Pervades (.disturbed T)) (reached : Reach (.disturbed T) around s m) :
    law.keeps s.world m.world := by
  induction reached with
  | refl => exact law.refl _
  | act verb on as ms _ ih => exact law.trans ih (keeps_step h _ verb on as ms)
  | enter _ _ ih => exact ih
  | @leave m g _ _ ih =>
    have first := (h.admits g.endpoint).dropGuard g rfl m.world (h.holds _)
    have ends := keeps_abandon (L := .disturbed T) (s := { m with
      world := (g.discard (.disturbed T) m.world).2, held := m.held.erase g.endpoint }) law
      (h.holds _) (some (.endpoint g.endpoint)) fun o _ _ => h.admits o.base
    rw [run_letGo]
    exact law.trans ih (law.trans first ends)

end

end Session

end ProcessorSockets
