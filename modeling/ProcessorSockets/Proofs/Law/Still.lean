import ProcessorSockets.Proofs.Bare
import ProcessorSockets.Proofs.Law.Elsewhere

namespace ProcessorSockets

variable {σ : Type}

theorem World.Shut.told {w w' : World σ} {k : Socket} {es : List Entry} (shut : w.Shut k)
    (told : w.Told k es w') : w'.Shut k where
  created := by
    rw [told.socket]
    exact shut.created
  bare := told.handle.trans shut.bare

namespace Law

def shut (k : Socket) : Law σ where
  holds w := w.Houses k ∧ w.Respects k ∧ w.Shut k
  keeps := World.Told k []
  refl := .refl
  trans := .trans
  stable := by
    intro w w' ⟨houses, respects, shut⟩ told
    exact ⟨told.houses houses, told.respects respects, shut.told told⟩
  note _ _ := .notes _

def still (k : Socket) : Law σ where
  holds w := w.Houses k ∧ w.Respects k ∧ w.handle k.endpoint = {} ∧
    ((w.endpoint k.endpoint).creating = true ∨ (w.socket k).created = true)
  keeps := World.Told k []
  refl := .refl
  trans := .trans
  stable := by
    intro w w' ⟨houses, respects, bare, waits⟩ told
    refine ⟨told.houses houses, told.respects respects, told.handle.trans bare, ?_⟩
    rw [told.creating, told.socket]
    exact waits
  note _ _ := .notes _

end Law

namespace Shut

variable {k : Socket} {L : Link σ} {T : Transport σ}

theorem about : (Law.shut (σ := σ) k).About k := ⟨id, fun holds => holds.1⟩

theorem not_opens : ¬(Law.shut (σ := σ) k).Opens k.endpoint := by
  intro ⟨w, fd, ⟨_, _, shut⟩, has⟩
  rw [shut.bare] at has
  cases has

theorem permits : (Law.shut k).Permits L k.endpoint where
  send opens := (not_opens opens).elim
  stream w _ n handle creating := .stream w n handle creating

theorem failing {α : Type} {a : Action σ α} {e : World σ → SocketError}
    (fails : ∀ w, w.Shut k → a.Fails (e w) w) : (Law.shut k).Keeps a :=
  fun w holds => .noted (fails w holds.2.2).2

theorem release : (Law.shut k).Keeps (k.endpoint.release L) := by
  intro w holds
  rw [Endpoint.run_release_bare holds.2.2.bare]
  exact .refl w

theorem socket : (Law.shut k).AdmitsSocket L k where
  permits := permits
  ensureCreated w holds := by
    rw [Socket.run_ensureCreated holds.2.2.created]
    exact .refl w
  bind a := failing fun _ shut => Socket.fails_bind shut a
  connect a := failing fun _ shut => Socket.fails_connect shut a
  close w holds := by
    rw [Socket.run_close holds.2.2]
    exact .refl w

theorem perform (between : ∀ m, (Law.shut k).Keeps (meanwhile m)) {d : Deed}
    (respects : d.Respects k) : (Law.shut k).Keeps (d.perform (.via T meanwhile)) := by
  by_cases own : d.target = k.endpoint
  · cases respects.1 own with
    | inl releases =>
      subst releases
      exact release
    | inr closes =>
      subst closes
      exact socket.close
  · exact about.perform between respects own

theorem amidst (levels depth : Nat) (m : Method) :
    (Law.shut k).Keeps (World.amidst T depth levels m) := by
  refine .amidst (fun levels between depth m => .disturb fun w holds => ?_) levels depth m
  have waits : w.Told k [] (w.waiting depth m) := .waiting w depth m
  exact ⟨waits, Law.shut k, (Law.shut k).stable holds waits, fun _ _ kept => kept,
    fun d mem _ => perform (between (depth + 1)) (holds.2.1 d mem)⟩

theorem interrupt (m : Method) : (Law.shut k).Keeps (World.interrupt T m) := fun w =>
  amidst w.disturbances.length 0 m w

end Shut

namespace Still

variable {k : Socket} {T : Transport σ}

theorem about : (Law.still (σ := σ) k).About k := ⟨id, fun holds => holds.1⟩

theorem amidst (levels depth : Nat) (m : Method) :
    (Law.still k).Keeps (World.amidst T depth levels m) := by
  refine .amidst (fun levels between depth m => .disturb fun w holds => ?_) levels depth m
  have waits : w.Told k [] (w.waiting depth m) := .waiting w depth m
  refine ⟨waits, ?_⟩
  obtain ⟨houses, respects, bare, waiting | created⟩ := holds
  · refine ⟨Law.still k, (Law.still k).stable ⟨houses, respects, bare, .inl waiting⟩ waits,
      fun _ _ kept => kept, fun d mem due => ?_⟩
    apply about.perform (between (depth + 1)) (respects d mem)
    intro own
    simp [Disturbance.due, own, waiting] at due
  · exact ⟨Law.shut k, (Law.shut k).stable ⟨houses, respects, created, bare⟩ waits,
      fun _ _ kept => kept,
      fun d mem _ => Shut.perform (Shut.amidst levels (depth + 1)) (respects d mem)⟩

theorem interrupt (m : Method) : (Law.still k).Keeps (World.interrupt T m) := fun w =>
  amidst w.disturbances.length 0 m w

theorem exclusively {w : World σ} (houses : w.Houses k) (respects : w.Respects k)
    (bare : w.handle k.endpoint = {}) (idle : (w.endpoint k.endpoint).creating = false)
    (r : Request) :
    let run := k.endpoint.exclusively ((Link.disturbed T).send (some k.endpoint) r) w
    w.Told k [.request (some k.endpoint) r, .reply (some k.endpoint) r run.1] run.2 := by
  have closed : (Law.still k).holds ((w.setCreating k.endpoint true).add
      [.request (some k.endpoint) r]) := by
    refine ⟨⟨?_, houses.2⟩, respects, ?_, .inl ?_⟩
    · rw [World.endpoints_add, World.length_endpoints_setCreating]
      exact houses.1
    · rw [World.handle_add, World.handle_setCreating]
      exact bare
    · rw [World.endpoint_add, World.creating_setCreating, if_pos ⟨rfl, houses.1⟩]
  have request := World.Told.entry (k := k) (w.setCreating k.endpoint true)
    (e := .request (some k.endpoint) r) rfl
  have asked := (request.trans (interrupt (T := T) r.method _ closed)).trans (.respond T r _)
  rw [Endpoint.run_exclusively]
  exact {
    socket := asked.socket
    handle := by
      rw [World.handle_setCreating]
      exact asked.handle.trans (World.handle_setCreating ..)
    creating := by
      rw [World.creating_setCreating, if_pos ⟨rfl, (asked.houses closed.1).1⟩, idle]
    talk := asked.talk
    endpoints := by
      rw [World.length_endpoints_setCreating]
      exact Nat.le_trans (Nat.le_of_eq (World.length_endpoints_setCreating ..).symm) asked.endpoints
    sockets := asked.sockets
    respects := asked.respects }

end Still

end ProcessorSockets
