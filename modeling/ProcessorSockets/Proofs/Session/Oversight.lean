import ProcessorSockets.Proofs.Law.Elsewhere
import ProcessorSockets.Proofs.Session.Orderly

namespace ProcessorSockets

variable {σ : Type}

structure Law.Oversees (law : Law σ) (T : Transport σ) (k : Socket) : Prop where
  about : law.About k
  interrupt : ∀ m, law.Keeps (World.interrupt T m)
  own : law.Opens k.endpoint → ∀ fd,
    law.Keeps ((Link.disturbed T).send (some k.endpoint) (.accept fd)) ∧
      law.Keeps ((Link.disturbed T).send (some k.endpoint) (.close fd))
  socket : law.AdmitsSocket (.disturbed T) k
  release : law.Keeps (k.endpoint.release (.disturbed T))
  discard : law.Keeps (k.endpoint.discard (.disturbed T))
  created : ∀ {w w'}, law.keeps w w' → (w.socket k).created = true → (w'.socket k).created = true
  /-- Streams come from sockets that have been made. -/
  lends : ∀ {w verb o}, law.holds w → (Session.onSocket (.disturbed T) k verb w).1.2 = some o →
    ((Session.onSocket (.disturbed T) k verb w).2.socket k).created = true

/-- An object that leaves a socket its endpoint, but for streams. -/
structure World.Fits (w : World σ) (k : Socket) (o : Object) : Prop where
  base : o.base = k.endpoint →
    o = .socket k ∨ o.isStream = true ∧ (w.socket k).created = true
  index : ∀ s, o = .socket s → s.index = k.index → s = k

theorem World.Fits.mono {w w' : World σ} {k : Socket} {o : Object} (h : w.Fits k o)
    (created : (w.socket k).created = true → (w'.socket k).created = true) : w'.Fits k o where
  base same := (h.base same).imp id fun stream => ⟨stream.1, created stream.2⟩
  index := h.index

inductive World.Bears (w : World σ) (k : Socket) : Object → Prop
  | socket : Bears w k (.socket k)
  | input (serial : Nat) (created : (w.socket k).created = true) :
      Bears w k (.input ⟨k.endpoint, serial⟩)
  | output (serial : Nat) (created : (w.socket k).created = true) :
      Bears w k (.output ⟨k.endpoint, serial⟩)

theorem World.Fits.bears {w : World σ} {k : Socket} {o : Object} (h : w.Fits k o)
    (own : o.base = k.endpoint) : w.Bears k o := by
  obtain rfl | ⟨isStream, created⟩ := h.base own
  · exact .socket
  · cases o with
    | input i =>
      obtain ⟨ep, serial⟩ := i
      obtain rfl : ep = k.endpoint := own
      exact .input serial created
    | output o =>
      obtain ⟨ep, serial⟩ := o
      obtain rfl : ep = k.endpoint := own
      exact .output serial created
    | _ => cases isStream

namespace Session

structure Houses (s : Session σ) (k : Socket) : Prop where
  world : s.world.Houses k
  objects : ∀ p ∈ s.names, s.world.Fits k p.2
  unheld : k.endpoint ∉ s.held

theorem Houses.respects {s : Session σ} {k : Socket} (h : s.Houses k) {ms : List Meanwhile}
    {d : Disturbance} (mem : d ∈ s.disturbances ms) : d.deed.Respects k := by
  obtain ⟨m, _, o, found, aims⟩ := target_of_mem_disturbances mem
  have fits := h.objects _ (mem_of_find? found)
  constructor
  · intro own
    rw [target_deed? aims] at own
    generalize m.interference = interference at aims
    cases interference with
    | create kind => cases fits.bears own <;> cases aims
    | close =>
      cases fits.bears own with
      | socket => exact .inr (Option.some.inj aims).symm
      | input => exact .inl (Option.some.inj aims).symm
      | output => exact .inl (Option.some.inj aims).symm
  · intro s closes
    rw [closes] at aims
    exact fits.index s (deed?_closeSocket aims)

theorem told_amid {s : Session σ} {k : Socket} (houses : s.Houses k) (ms : List Meanwhile) :
    s.world.Told k [] (s.amid ms) := by
  unfold amid
  split
  · exact .refl _
  · exact .among _ fun d mem => houses.respects mem

theorem told_past {s : Session σ} {k : Socket} (quiet : s.world.disturbances = [])
    (ms : List Meanwhile) (w : World σ) : w.Told k [] (s.past ms w) := by
  unfold past
  split
  · exact .refl _
  · exact .among _ fun d mem => by simp [quiet] at mem

end Session

namespace Law.Oversees

open Session

variable {law : Law σ} {T : Transport σ} {k : Socket} {s : Session σ} (h : law.Oversees T k)

include h

theorem others {ep : Endpoint} (other : ep ≠ k.endpoint) : law.Admits (.disturbed T) ep :=
  h.about.admits h.interrupt h.own other

theorem discards (ep : Endpoint) : law.Keeps (ep.discard (.disturbed T)) := by
  by_cases own : ep = k.endpoint
  · exact own ▸ h.discard
  · exact (h.others own).discard

theorem object {w : World σ} {o : Object} (fits : w.Fits k o) :
    law.AdmitsObject (.disturbed T) o := by
  by_cases own : o.base = k.endpoint
  · cases fits.bears own with
    | socket => exact h.socket
    | input => exact ⟨h.socket.permits, h.release⟩
    | output => exact ⟨h.socket.permits, h.release⟩
  · apply (h.others own).object
    intro s is w st
    apply h.about.spares
    apply World.Told.setSocket
    intro same
    subst is
    rw [fits.index s rfl same] at own
    exact own rfl

theorem settle (holds : law.holds s.world) (ep : Endpoint) :
    law.keeps s.world (settle (.disturbed T) ep s).2.world := by
  rw [run_settle]
  split
  · exact law.refl _
  · exact h.discards ep _ holds

theorem abandon (holds : law.holds s.world) (old : Option Object) :
    law.keeps s.world (abandon (.disturbed T) old s).2.world := by
  cases old with
  | none => exact law.refl _
  | some o => exact h.settle holds o.base

theorem place (holds : law.holds s.world) (as : Option String) (object : Option Object) :
    law.keeps s.world (place (.disturbed T) as object s).2.world := by
  cases object with
  | none => exact law.refl _
  | some o =>
    cases as with
    | none => exact h.settle holds o.base
    | some n => exact h.abandon (s := s.naming n o) holds _

variable (around : Surroundings σ)

theorem outcome (houses : s.Houses k) (holds : law.holds s.world) (verb : Verb)
    (on : Option String) :
    law.keeps s.world (outcome (.disturbed T) around s verb on s.world).2 :=
  (h.about.hosts h.interrupt h.own).outcome (h.about.send h.interrupt nofun) around s
    (fun _ _ found => h.object (houses.objects _ (mem_of_find? found))) verb on s.world holds

theorem fits (houses : s.Houses k) (holds : law.holds s.world) (verb : Verb) (on : Option String)
    (o : Object)
    (made : (Session.outcome (.disturbed T) around s verb on s.world).1.2 = some o) :
    (Session.outcome (.disturbed T) around s verb on s.world).2.Fits k o := by
  have kept := h.outcome around houses holds verb on
  have origin := lent_or_founded T around s verb on s.world
  dsimp only at origin
  rw [made] at origin
  cases origin with
  | inr founded =>
    constructor
    · intro own
      have inside := houses.world.1
      rw [← own, founded.base] at inside
      exact absurd inside (Nat.lt_irrefl _)
    · intro s' is same
      subst is
      have index := founded.index.1
      rw [same] at index
      exact absurd houses.world.2 (Nat.not_lt_of_le index)
  | inl lent =>
    have isStream := lent.stream o rfl
    refine ⟨fun own => .inr ⟨isStream, ?_⟩, fun s' is => ?_⟩
    · obtain ⟨n, old, named, found, same⟩ := lent.base o rfl
      subst named
      have lends := houses.objects _ (mem_of_find? found)
      cases lends.bears (same.symm.trans own) with
      | socket =>
        simp only [Session.outcome, found] at made ⊢
        exact h.lends holds made
      | input _ created => exact h.created kept created
      | output _ created => exact h.created kept created
    · subst is
      cases isStream

theorem act (houses : s.Houses k) (holds : law.holds s.world) (verb : Verb)
    (on as : Option String) :
    law.keeps s.world (act (.disturbed T) around verb on as s).2.world ∧
      (Session.act (.disturbed T) around verb on as s).2.Houses k := by
  obtain kept | ⟨n, rfl, rfl⟩ := kept_or_drops verb on
  · have first := h.outcome around houses holds verb on
    have fits := h.fits around houses holds verb on
    rw [run_act verb on as kept]
    dsimp only
    generalize Session.outcome (.disturbed T) around s verb on s.world = r at first fits
    have holds' := law.stable holds first
    have second := h.place (s := { s with world := r.2 }) holds' as r.1.2
    refine ⟨law.trans first second, h.about.houses (law.stable holds' second), ?_, ?_⟩
    · intro p mem
      cases names_place as r.1.2 p mem with
      | inl old => exact (houses.objects p old).mono (h.created (law.trans first second))
      | inr new => exact (fits _ new).mono (h.created second)
    · rw [held_place]
      exact houses.unheld
  · rw [run_drop, run_forget]
    have kept := h.abandon (s := s.without n) holds (s.find? n)
    refine ⟨kept, h.about.houses (law.stable holds kept), ?_, ?_⟩
    · intro p mem
      obtain ⟨w, run⟩ := abandon_world (L := .disturbed T) (s.find? n) (s.without n)
      rw [run] at mem
      exact (houses.objects p (List.mem_filter.mp mem).1).mono (h.created kept)
    · rw [held_abandon]
      exact houses.unheld

theorem step (quiet : s.world.disturbances = []) (houses : s.Houses k)
    (holds : law.holds s.world) (verb : Verb) (on as : Option String) (ms : List Meanwhile) :
    law.keeps s.world (runStep (.disturbed T) around (.act verb on as ms) s).2.world ∧
      (runStep (.disturbed T) around (.act verb on as ms) s).2.Houses k := by
  have enters := h.about.spares (told_amid houses ms)
  have acted := h.act around (s := { s with world := s.amid ms })
    { houses with
      world := h.about.houses (law.stable holds enters)
      objects := fun p mem => (houses.objects p mem).mono (h.created enters) }
    (law.stable holds enters) verb on as
  rw [run_perform, run_among]
  dsimp only
  generalize Session.act (.disturbed T) around verb on as _ = r at acted
  have leaves := h.about.spares (told_past (k := k) quiet ms r.2.world)
  have kept := law.trans enters (law.trans acted.1 leaves)
  exact ⟨kept, { acted.2 with
    world := h.about.houses (law.stable holds kept)
    objects := fun p mem => (acted.2.objects p mem).mono (h.created leaves) }⟩

theorem leave (houses : s.Houses k) (holds : law.holds s.world) {g : Guard}
    (held : g.endpoint ∈ s.held) : law.keeps s.world (letGo (.disturbed T) g s).2.world ∧
      (letGo (.disturbed T) g s).2.Houses k := by
  have other : g.endpoint ≠ k.endpoint := fun same => houses.unheld (same ▸ held)
  have first := (h.others other).dropGuard g rfl s.world holds
  have second := h.settle (s := { s with
    world := (g.discard (.disturbed T) s.world).2
    held := s.held.erase g.endpoint }) (law.stable holds first) g.endpoint
  have kept := law.trans first second
  rw [run_letGo]
  refine ⟨kept, h.about.houses (law.stable holds kept), ?_, ?_⟩
  · intro p mem
    obtain ⟨w, run⟩ := settle_world (L := .disturbed T) g.endpoint { s with
      world := (g.discard (.disturbed T) s.world).2
      held := s.held.erase g.endpoint }
    rw [run] at mem
    exact (houses.objects p mem).mono (h.created kept)
  · rw [held_settle]
    exact fun mem => houses.unheld (List.mem_of_mem_erase mem)

omit h in
theorem enter (houses : s.Houses k) {n : String} {ep : Endpoint}
    (found : s.find? n = some (.endpoint ep)) :
    Session.Houses { s with held := ep :: s.held } k :=
  { houses with
    unheld := by
      intro mem
      cases mem with
      | tail _ mem => exact houses.unheld mem
      | head =>
        cases (houses.objects _ (mem_of_find? found)).bears rfl }

variable {around}

theorem reach {m : Session σ} (orderly : s.Orderly) (houses : s.Houses k)
    (holds : law.holds s.world) (reached : Reach (.disturbed T) around s m) :
    law.keeps s.world m.world ∧ m.Houses k := by
  induction reached with
  | refl => exact ⟨law.refl _, houses⟩
  | act verb on as ms before ih =>
    have next := h.step around (orderly.reach before).quiet ih.2
      (law.stable holds ih.1) verb on as ms
    exact ⟨law.trans ih.1 next.1, next.2⟩
  | enter before found ih => exact ⟨ih.1, enter ih.2 found⟩
  | leave before held ih =>
    have next := h.leave ih.2 (law.stable holds ih.1) held
    exact ⟨law.trans ih.1 next.1, next.2⟩

end Law.Oversees

end ProcessorSockets
