import ProcessorSockets.Proofs.Law.Ledger
import ProcessorSockets.Proofs.Session.Object
import ProcessorSockets.Proofs.Session.Reach

/-! Order in a session at rest: what nothing refers to has no descriptor, and the account
balances.  In the middle of a step there is one endpoint at most to which the step itself
still refers; the step ends with settling it. -/

namespace ProcessorSockets

namespace Session

open World (Shift)

variable {σ : Type}

structure Orderly (s : Session σ) : Prop where
  distinct : s.Distinct
  inside : ∀ ep, s.refers ep = true → ep.index < s.world.endpoints.length
  quiet : s.world.disturbances = []
  idle : ∀ ep, (s.world.endpoint ep).creating = false
  bare : ∀ ep, s.refers ep = false → s.world.handle ep = {}
  known : s.world.Known
  balanced : ∀ fd, s.world.surplus fd = 0

/-- In the middle of a step that may dispose of some endpoints, and that others may disturb
by some deeds. -/
structure Nearly (meant : Deed → Prop) (disposes loose : Endpoint → Prop) (s : Session σ) :
    Prop where
  distinct : s.Distinct
  inside : ∀ ep, s.refers ep = true → ep.index < s.world.endpoints.length
  idle : ∀ ep, (s.world.endpoint ep).creating = false
  known : s.world.Known
  balanced : ∀ fd, s.world.surplus fd = 0
  meant : ∀ d ∈ s.world.disturbances, meant d.deed
  deeds : ∀ d ∈ s.world.disturbances,
    disposes d.deed.target ∧ d.deed.target.index < s.world.endpoints.length
  later : ∀ ep, s.world.endpoints.length ≤ ep.index → disposes ep
  foreign : ∀ ep, ¬disposes ep → s.world.handle ep = {}
  traced : ∀ ep, disposes ep → ep.index < s.world.endpoints.length → s.refers ep = true ∨ loose ep

def Disposes (s : Session σ) (ep : Endpoint) : Prop :=
  s.refers ep = true ∨ s.world.endpoints.length ≤ ep.index

theorem Orderly.nearly {s : Session σ} (h : s.Orderly) {ds : List Disturbance}
    (aimed : ∀ d ∈ ds, s.refers d.deed.target = true) {meant : Deed → Prop}
    (all : ∀ d ∈ ds, meant d.deed) :
    Nearly meant s.Disposes (fun _ => False)
      { s with world := { s.world with disturbances := ds } } where
  distinct := h.distinct
  inside := h.inside
  idle := h.idle
  known := h.known
  balanced := h.balanced
  meant := all
  deeds d mem := ⟨.inl (aimed d mem), h.inside _ (aimed d mem)⟩
  later _ out := .inr out
  foreign ep not := by
    apply h.bare
    cases refers : s.refers ep with
    | true => exact absurd (.inl refers) not
    | false => rfl
  traced ep mine inside := by
    cases mine with
    | inl refers => exact .inl refers
    | inr out => exact absurd inside (Nat.not_lt_of_le out)

namespace Nearly

variable {meant : Deed → Prop} {disposes loose loose' : Endpoint → Prop} {s : Session σ}

theorem handle_out {w : World σ} {ep : Endpoint} (out : w.endpoints.length ≤ ep.index) :
    w.handle ep = {} := by
  simp [World.handle, World.endpoint, List.getElem?_eq_none out]

/-- When nothing is loose but what has no descriptor, the session is in order again. -/
theorem orderly (h : s.Nearly meant disposes loose)
    (settled : ∀ ep, loose ep → s.refers ep = true ∨ s.world.handle ep = {})
    (ds : List Disturbance) (quiet : ds = []) :
    Orderly { s with world := { s.world with disturbances := ds } } where
  distinct := h.distinct
  inside := h.inside
  quiet := quiet
  idle := h.idle
  known := h.known
  balanced := h.balanced
  bare ep free := by
    change s.refers ep = false at free
    change s.world.handle ep = {}
    by_cases mine : disposes ep
    · by_cases inside : ep.index < s.world.endpoints.length
      · cases h.traced ep mine inside with
        | inl refers =>
          rw [refers] at free
          cases free
        | inr is =>
          cases settled ep is with
          | inl refers =>
            rw [refers] at free
            cases free
          | inr bare => exact bare
      · exact handle_out (Nat.le_of_not_lt inside)
    · exact h.foreign ep mine

theorem mono (h : s.Nearly meant disposes loose) (more : ∀ ep, loose ep → loose' ep) :
    s.Nearly meant disposes loose' :=
  { h with traced := fun ep mine inside => (h.traced ep mine inside).imp id (more ep) }

theorem ready (h : s.Nearly meant disposes loose) {uses : Endpoint → Prop}
    (usable : ∀ ep, uses ep → disposes ep ∧ ep.index < s.world.endpoints.length) :
    s.world.Ready disposes uses where
  usable ep used := ⟨(usable ep used).1, (usable ep used).2, h.idle ep⟩
  deeds := h.deeds
  later := h.later

theorem step (h : s.Nearly meant disposes loose) {w : World σ}
    (shift : Shift disposes (fun _ => 0) s.world w)
    (made : ∀ ep : Endpoint, s.world.endpoints.length ≤ ep.index → ep.index < w.endpoints.length →
      loose ep) :
    Nearly meant disposes loose { s with world := w } where
  distinct := h.distinct
  inside ep refers := Nat.lt_of_lt_of_le (h.inside ep refers) shift.size
  idle ep := (shift.creating ep).trans (h.idle ep)
  known := shift.known h.known
  balanced fd := by rw [shift.surplus, h.balanced]; rfl
  meant d mem := by
    obtain ⟨d₀, mem₀, same⟩ := shift.deeds d mem
    exact same ▸ h.meant d₀ mem₀
  deeds := by
    have ready : s.world.Ready disposes fun _ => False := h.ready fun _ never => never.elim
    exact (ready.after shift).deeds
  later ep out := h.later ep (Nat.le_trans shift.size out)
  foreign ep not := by
    rw [shift.handle ep fun mine => absurd mine not]
    exact h.foreign ep not
  traced ep mine inside := by
    by_cases old : ep.index < s.world.endpoints.length
    · exact h.traced ep mine old
    · exact .inr (made ep (Nat.le_of_not_lt old) inside)

end Nearly

def Settled (meant : Deed → Prop) (disposes : Endpoint → Prop) (s : Session σ) : Prop :=
  ∃ loose, s.Nearly meant disposes loose ∧
    ∀ ep, loose ep → s.refers ep = true ∨ s.world.handle ep = {}

namespace Nearly

variable {meant : Deed → Prop} {disposes loose : Endpoint → Prop} {s : Session σ} {T : Transport σ}
  {around : Surroundings σ}

theorem settled (h : s.Nearly meant disposes fun _ => False) : s.Settled meant disposes :=
  ⟨_, h, fun _ never => never.elim⟩

theorem settles {ep : Endpoint} (h : s.Nearly meant disposes (· = ep)) (mine : disposes ep)
    (inside : ep.index < s.world.endpoints.length) :
    (settle (.disturbed T) ep s).2.Settled meant disposes := by
  rw [run_settle]
  split
  · rename_i refers
    exact ⟨_, h, fun _ same => .inl (same ▸ refers)⟩
  · have ready : s.world.Ready disposes (· = ep) := h.ready fun _ same => same ▸ ⟨mine, inside⟩
    obtain ⟨shift, bare⟩ := Ledger.discardsDisturbed (T := T) ready rfl
    have steady := (Steady.disturbed (T := T) ep).discard s.world trivial
    refine ⟨_, h.step shift fun other out inside => ?_, fun _ same => .inr (same ▸ bare)⟩
    rw [steady.1] at inside
    exact absurd inside (Nat.not_lt_of_le out)

theorem without (h : s.Nearly meant disposes fun _ => False) (n : String) :
    (s.without n).Nearly meant disposes fun ep => ∃ old, s.find? n = some old ∧ ep = old.base :=
  { h with
    distinct := h.distinct.without n
    inside := fun ep refers => h.inside ep (refers_of_without refers)
    traced := fun ep mine inside => by
      cases h.traced ep mine inside with
      | inl refers => exact refers_without h.distinct n refers
      | inr never => exact never.elim }

theorem naming {o : Object} (h : s.Nearly meant disposes (· = o.base))
    (inside : o.base.index < s.world.endpoints.length) (n : String) :
    (s.naming n o).Nearly meant disposes fun ep => ∃ old, s.find? n = some old ∧ ep = old.base :=
  { h with
    distinct := h.distinct.naming n o
    inside := fun ep refers => by
      cases refers_naming.mp refers with
      | inl same => exact same ▸ inside
      | inr old => exact h.inside ep (refers_of_without old)
    traced := fun ep mine there => by
      cases h.traced ep mine there with
      | inl refers =>
        exact (refers_without h.distinct n refers).imp
          (fun kept => refers_naming.mpr (.inr kept)) id
      | inr same => exact .inl (refers_naming.mpr (.inl same)) }

theorem abandons {n : String} {s' : Session σ}
    (h : s'.Nearly meant disposes fun ep => ∃ old, s.find? n = some old ∧ ep = old.base)
    (mine : ∀ ep, s.refers ep = true → disposes ep ∧ ep.index < s'.world.endpoints.length) :
    (abandon (.disturbed T) (s.find? n) s').2.Settled meant disposes := by
  cases found : s.find? n with
  | none =>
    refine ⟨_, h, fun ep old => ?_⟩
    obtain ⟨old, named, _⟩ := old
    rw [found] at named
    cases named
  | some old =>
    have theirs := mine old.base (refers_of_find? found)
    apply settles _ theirs.1 theirs.2
    apply h.mono
    rintro ep ⟨o, named, same⟩
    rw [found] at named
    rw [same, Option.some.inj named]

theorem forgets (h : s.Nearly meant disposes fun _ => False)
    (mine : ∀ ep, s.refers ep = true → disposes ep) (n : String) :
    (forget (.disturbed T) n s).2.Settled meant disposes := by
  rw [run_forget]
  exact (h.without n).abandons fun ep refers => ⟨mine ep refers, h.inside ep refers⟩

theorem places {o : Object} (h : s.Nearly meant disposes (· = o.base)) (base : disposes o.base)
    (inside : o.base.index < s.world.endpoints.length)
    (mine : ∀ ep, s.refers ep = true → disposes ep) (as : Option String) :
    (place (.disturbed T) as (some o) s).2.Settled meant disposes := by
  cases as with
  | none => exact h.settles base inside
  | some n =>
    change (name (.disturbed T) n o s).2.Settled meant disposes
    rw [run_name]
    exact (h.naming inside n).abandons fun ep refers => ⟨mine ep refers, h.inside ep refers⟩

theorem places_lent {on : Option String} {w : World σ} {object : Option Object}
    (h : s.Nearly meant disposes fun _ => False) (mine : ∀ ep, s.refers ep = true → disposes ep)
    (shift : Shift disposes (fun _ => 0) s.world w) (lent : s.Lent on s.world w object)
    (as : Option String) :
    (place (.disturbed T) as object { s with world := w }).2.Settled meant disposes := by
  have stepped := h.step shift fun ep out inside => by
    rw [lent.steady.1] at inside
    exact absurd inside (Nat.not_lt_of_le out)
  cases object with
  | none => exact stepped.settled
  | some o =>
    obtain ⟨n, old, _, found, same⟩ := lent.base o rfl
    have refers : s.refers o.base = true := same ▸ refers_of_find? found
    exact (stepped.mono fun _ never => never.elim).places (mine _ refers)
      (stepped.inside _ refers) mine as

theorem places_founded {w : World σ} {object : Option Object}
    (h : s.Nearly meant disposes fun _ => False) (mine : ∀ ep, s.refers ep = true → disposes ep)
    (ready : s.world.Ready disposes (s.refers · = true))
    (shift : Shift disposes (fun _ => 0) s.world w)
    (founded : s.world.Founding (.disturbed T) object w) (as : Option String) :
    (place (.disturbed T) as object { s with world := w }).2.Settled meant disposes := by
  have new (ep : Endpoint) (out : s.world.endpoints.length ≤ ep.index)
      (inside : ep.index < w.endpoints.length) : ep = ⟨s.world.endpoints.length⟩ := by
    rw [founded.size] at inside
    cases ep with
    | mk i =>
      congr 1
      exact Nat.le_antisymm (Nat.le_of_lt_succ inside) out
  have expecting : s.Nearly meant disposes (· = ⟨s.world.endpoints.length⟩) :=
    h.mono fun _ never => never.elim
  have stepped := expecting.step shift new
  cases object with
  | none =>
    refine ⟨_, stepped, fun ep same => .inr ?_⟩
    -- The endpoint was given up before anything led to it.
    have admits : (Law.ledger disposes (· = ⟨s.world.endpoints.length⟩)).Admits (.disturbed T)
        ⟨s.world.endpoints.length⟩ := Ledger.disturbed rfl
    obtain ⟨w₁, ready₁, gone⟩ := founded.last admits fun hd w₁ unowned opened => by
      have ready₁ := Ledger.ready_make unowned (ready.after (.noted opened))
      rwa [opened.endpoints] at ready₁
    change w.handle ep = {}
    rw [gone.handle, same]
    exact (Ledger.discardsDisturbed ready₁ rfl).2
  | some o =>
    have base := founded.base
    have later := h.later ⟨s.world.endpoints.length⟩ (Nat.le_refl _)
    rw [← base] at stepped later
    apply stepped.places later _ mine as
    rw [base]
    change s.world.endpoints.length < w.endpoints.length
    rw [founded.size]
    exact Nat.lt_succ_self _

theorem usesReferred (h : s.Nearly meant disposes loose)
    (mine : ∀ ep, s.refers ep = true → disposes ep) :
    s.world.Ready disposes (s.refers · = true) :=
  h.ready fun ep refers => ⟨mine ep refers, h.inside ep refers⟩

theorem shifts (h : s.Nearly meant disposes loose)
    (mine : ∀ ep, s.refers ep = true → disposes ep) (around : Surroundings σ) (verb : Verb)
    (on : Option String) :
    Shift disposes (fun _ => 0) s.world (outcome (.disturbed T) around s verb on s.world).2 := by
  have admits (n : String) (o : Object) (found : s.find? n = some o) :
      (Law.ledger disposes (s.refers · = true)).AdmitsObject (.disturbed T) o :=
    (Ledger.disturbed (refers_of_find? found)).object fun k _ w st => Ledger.setSocket w k st
  exact Ledger.hostsDisturbed.outcome Ledger.outsideDisturbed around s admits verb on s.world
    (h.usesReferred mine)

theorem acts (h : s.Nearly meant disposes fun _ => False)
    (mine : ∀ ep, s.refers ep = true → disposes ep) (verb : Verb) (on as : Option String) :
    (act (.disturbed T) around verb on as s).2.Settled meant disposes := by
  obtain kept | ⟨n, rfl, rfl⟩ := kept_or_drops verb on
  · rw [run_act verb on as kept]
    have ready := h.usesReferred mine
    have shift := h.shifts (T := T) mine around verb on
    cases lent_or_founded T around s verb on s.world with
    | inl lent => exact h.places_lent mine shift lent as
    | inr founded => exact h.places_founded mine ready shift founded as
  · rw [run_drop]
    exact h.forgets mine n

end Nearly

theorem Settled.orderly {meant : Deed → Prop} {disposes : Endpoint → Prop} {s : Session σ}
    (h : s.Settled meant disposes) :
    Orderly { s with world := { s.world with disturbances := [] } } := by
  obtain ⟨loose, nearly, settled⟩ := h
  exact nearly.orderly settled [] rfl

theorem Settled.orderlyAlone {disposes : Endpoint → Prop} {s : Session σ}
    (h : s.Settled (fun _ => False) disposes) : s.Orderly := by
  have orderly := h.orderly
  obtain ⟨loose, nearly, _⟩ := h
  have quiet : s.world.disturbances = [] :=
    List.eq_nil_iff_forall_not_mem.mpr fun d mem => nearly.meant d mem
  exact { orderly with quiet }

namespace Orderly

variable {s : Session σ} {T : Transport σ} {around : Surroundings σ}

theorem alone (h : s.Orderly) : s.Nearly (fun _ => False) s.Disposes fun _ => False := by
  have none (d : Disturbance) (mem : d ∈ s.world.disturbances) : False := by
    simp [h.quiet] at mem
  exact h.nearly (fun d mem => (none d mem).elim) none

theorem quiet_outcome (h : s.Orderly) (verb : Verb) (on : Option String) :
    (outcome (.disturbed T) around s verb on s.world).2.disturbances = [] :=
  (h.alone.shifts (T := T) (fun _ refers => .inl refers) around verb on).quiet h.quiet

theorem shift_dropGuard (h : s.Orderly) {g : Guard} (held : g.endpoint ∈ s.held) :
    Shift s.Disposes (fun _ => 0) s.world (g.discard (.disturbed T) s.world).2 :=
  (Ledger.disturbed (T := T) (refers_iff.mpr (.inl held))).dropGuard g rfl s.world
    (h.alone.usesReferred fun _ refers => .inl refers)

theorem act (h : s.Orderly) (verb : Verb) (on as : Option String) (meanwhile : List Meanwhile) :
    (runStep (.disturbed T) around (.act verb on as meanwhile) s).2.Orderly := by
  rw [run_perform, among]
  split
  · exact (h.alone.acts (fun _ refers => .inl refers) verb on as).orderlyAlone
  · have aimed (d : Disturbance) (mem : d ∈ s.disturbances meanwhile) :
        s.refers d.deed.target = true := by
      obtain ⟨m, _, o, found, aims⟩ := target_of_mem_disturbances mem
      exact target_deed? aims ▸ refers_of_find? found
    have nearly : Nearly (fun _ => True) s.Disposes (fun _ => False)
        { s with world := { s.world with disturbances := s.disturbances meanwhile } } :=
      h.nearly aimed fun _ _ => trivial
    rw [h.quiet]
    exact (nearly.acts (fun _ refers => .inl refers) verb on as).orderly

theorem enter (h : s.Orderly) {n : String} {ep : Endpoint}
    (found : s.find? n = some (.endpoint ep)) :
    Orderly { s with held := ep :: s.held } := by
  have same (other : Endpoint) :
      refers { s with held := ep :: s.held } other = s.refers other := by
    rw [Bool.eq_iff_iff, refers_iff, refers_iff]
    have named := mem_of_find? found
    constructor
    · rintro (held | ⟨p, mem, base⟩)
      · cases held with
        | head => exact .inr ⟨_, named, rfl⟩
        | tail _ held => exact .inl held
      · exact .inr ⟨p, mem, base⟩
    · rintro (held | ⟨p, mem, base⟩)
      · exact .inl (List.mem_cons_of_mem _ held)
      · exact .inr ⟨p, mem, base⟩
  exact { h with
    inside := fun other refers => h.inside other (same other ▸ refers)
    bare := fun other free => h.bare other (same other ▸ free) }

theorem leave (h : s.Orderly) {g : Guard} (held : g.endpoint ∈ s.held) :
    (letGo (.disturbed T) g s).2.Orderly := by
  have nearly := h.alone
  have refers : s.refers g.endpoint = true := refers_iff.mpr (.inl held)
  have shift := h.shift_dropGuard (T := T) held
  have steady := (Steady.disturbed (T := T) g.endpoint).dropGuard g rfl s.world trivial
  have expecting : s.Nearly (fun _ => False) s.Disposes (· = g.endpoint) :=
    nearly.mono fun _ never => never.elim
  have stepped := expecting.step shift fun ep out inside => by
    rw [steady.1] at inside
    exact absurd inside (Nat.not_lt_of_le out)
  rw [run_letGo]
  apply Settled.orderlyAlone
  have let_go : Nearly (fun _ => False) s.Disposes (· = g.endpoint) { s with
      world := (g.discard (.disturbed T) s.world).2, held := s.held.erase g.endpoint } := {
    stepped with
    inside := fun ep refers => by
      apply stepped.inside ep
      rw [refers_iff] at refers ⊢
      exact refers.imp List.mem_of_mem_erase id
    traced := fun ep mine inside => by
      cases stepped.traced ep mine inside with
      | inl refers =>
        by_cases same : ep = g.endpoint
        · exact .inr same
        · apply Or.inl
          rw [refers_iff] at refers ⊢
          exact refers.imp (fun kept => (List.mem_erase_of_ne same).mpr kept) id
      | inr same => exact .inr same }
  exact let_go.settles (.inl refers) (Nat.lt_of_lt_of_le (h.inside _ refers) shift.size)

theorem start (t : σ) : (Session.start t).Orderly where
  distinct := List.nodup_nil
  inside ep refers := by simp [refers_iff, Session.start] at refers
  quiet := rfl
  idle ep := by simp [Session.start, World.endpoint]
  bare ep _ := by simp [Session.start, World.handle, World.endpoint]
  known e mem := by simp [Session.start] at mem
  balanced fd := by
    simp [Session.start, World.surplus, World.produced, World.closings, World.owners]

theorem reach {m : Session σ} (h : s.Orderly) (reached : Reach (.disturbed T) around s m) :
    m.Orderly := by
  induction reached with
  | refl => exact h
  | act verb on as meanwhile _ ih => exact ih.act verb on as meanwhile
  | enter _ found ih => exact ih.enter found
  | leave _ held ih => exact ih.leave held

end Orderly

end Session

end ProcessorSockets
