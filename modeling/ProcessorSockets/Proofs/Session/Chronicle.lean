import ProcessorSockets.Proofs.Law.Chronicle
import ProcessorSockets.Proofs.Law.Unheard
import ProcessorSockets.Proofs.Session.Oversight

namespace ProcessorSockets

open Session

variable {σ α : Type}

namespace Chronicle

variable {free : Prop} {k : Socket} {T : Transport σ} {w : World σ}

theorem created_of_ok (holds : (Law.chronicle True k).holds w) {rest : Unit → Action σ α}
    (kept : (Law.chronicle True k).Keeps (rest ())) {x : α} {w' : World σ}
    (gives : (k.ensureCreated (.disturbed T) >>= rest) w = (.ok x, w')) :
    (w'.socket k).created = true := by
  have ensured := ensured (T := T) holds
  rw [Action.run_bind] at gives
  generalize k.ensureCreated (.disturbed T) w = run at ensured gives
  cases ensured with
  | before created =>
    have kept := (kept w holds).keeps.created created
    change rest () w = _ at gives
    rwa [gives] at kept
  | failed => cases gives
  | @made w₁ _ _ continues _ created =>
    have kept := (kept w₁ ((Law.chronicle True k).stable holds continues.loosen)).keeps.created
      created
    change rest () w₁ = _ at gives
    rwa [gives] at kept

theorem lends {verb : Verb} {o : Object} (holds : (Law.chronicle True k).holds w)
    (made : (onSocket (.disturbed T) k verb w).1.2 = some o) :
    ((onSocket (.disturbed T) k verb w).2.socket k).created = true := by
  have permits : (Law.chronicle True k).Permits (.disturbed T) k.endpoint := permits interrupt
  cases object_onSocket made with
  | inl input =>
    obtain ⟨i, gives, _⟩ := input
    exact created_of_ok holds permits.inputStream gives
  | inr output =>
    obtain ⟨i, gives, _⟩ := output
    exact created_of_ok holds permits.outputStream gives

theorem oversees : (Law.chronicle True k).Oversees T k where
  about := about
  interrupt := interrupt
  own := own interrupt
  socket := socket
  release := release interrupt
  discard := discard
  created kept := kept.keeps.created
  lends := lends

end Chronicle

namespace World.Unheard

variable {w w' : World σ}

theorem noted {ep : Endpoint} (noted : w.Noted w') : w.Unheard ep w' := by
  obtain ⟨es, notes, rfl⟩ := noted
  exact .notes w notes

theorem make (w : World σ) (h : Handle) :
    w.Unheard ⟨w.endpoints.length⟩ (Endpoint.make h w).2 :=
  { refl w with creating := by simp [World.endpoint, Endpoint.make] }

end World.Unheard

namespace Chronicle

variable {T : Transport σ} {w w' : World σ}

structure Awaits (w : World σ) : Prop where
  known : w.Known
  aimed : ∀ d ∈ w.disturbances, d.deed.target.index < w.endpoints.length
  indexed : ∀ d ∈ w.disturbances, ∀ s, d.deed = .closeSocket s → s.index < w.sockets.length

theorem Awaits.unknown (h : Awaits w) : w.talk ⟨w.endpoints.length⟩ = [] := by
  apply List.filter_eq_nil_iff.mpr
  intro e mem mine
  exact absurd (h.known e mem _ (by simpa using mine)) (Nat.lt_irrefl _)

theorem begin_onto {st : SocketState} (h : Awaits w) (unheard : w.Unheard ⟨w.endpoints.length⟩ w')
    (endpoints : w'.endpoints.length = w.endpoints.length + 1)
    (sockets : w.sockets.length ≤ w'.sockets.length)
    (begins : Chronicle [] st (w'.handle ⟨w.endpoints.length⟩)) :
    (Law.chronicle True ⟨w'.sockets.length, ⟨w.endpoints.length⟩⟩).holds
      (Socket.onto ⟨w.endpoints.length⟩ st w').2 := by
  have idle : (w.endpoint ⟨w.endpoints.length⟩).creating = false := by simp [World.endpoint]
  have state : (Socket.onto ⟨w.endpoints.length⟩ st w').2.socket
      ⟨w'.sockets.length, ⟨w.endpoints.length⟩⟩ = st := by simp [World.socket, Socket.onto]
  refine ⟨⟨?_, ?_⟩, ?_, unheard.creating.trans idle, ?_⟩
  · exact Nat.lt_of_lt_of_eq (Nat.lt_succ_self _) endpoints.symm
  · simp [Socket.onto]
  · intro d mem
    obtain ⟨d₀, mem₀, same⟩ := unheard.deeds d mem
    rw [same]
    constructor
    · intro own
      have aimed := h.aimed d₀ mem₀
      rw [own] at aimed
      exact absurd aimed (Nat.lt_irrefl _)
    · intro s closes index
      have indexed := h.indexed d₀ mem₀ s closes
      rw [index] at indexed
      exact absurd sockets (Nat.not_le_of_lt indexed)
  · rw [World.Chronicled, state]
    have talk := unheard.talk.trans h.unknown
    change Chronicle (w'.talk ⟨w.endpoints.length⟩) st (w'.handle ⟨w.endpoints.length⟩)
    rw [talk]
    exact begins

theorem begin {k : Socket} (h : Awaits w)
    (founded : w.Founding (.disturbed T) (some (.socket k)) w') :
    (Law.chronicle True k).holds w' := by
  cases founded with
  | made _ _ _ _ _ other => exact absurd rfl (other k)
  | @socket hd w₁ st unowned opened begins =>
    have made := World.Unheard.make w₁ hd
    rw [opened.endpoints] at made
    have here : (Endpoint.make hd w₁).2.handle ⟨w.endpoints.length⟩ = hd := by
      simp [World.handle, World.endpoint, Endpoint.make, opened.endpoints]
    have sockets : (Endpoint.make hd w₁).2.sockets.length = w.sockets.length :=
      congrArg List.length opened.sockets
    rw [← sockets]
    apply begin_onto h ((World.Unheard.noted opened).trans made)
    · simp [Endpoint.make, opened.endpoints]
    · exact Nat.le_of_eq sockets.symm
    · rw [here]
      cases begins with
      | inl fresh =>
        obtain ⟨kind, rfl, rfl⟩ := fresh
        exact .fresh kind
      | inr established =>
        rw [established]
        exact .established hd
  | @accepted w₂ listener asked =>
    have made := World.Unheard.make w {}
    have bare : (Endpoint.make {} w).2.handle ⟨w.endpoints.length⟩ = {} := by
      simp [World.handle, World.endpoint, Endpoint.make]
    -- A listener without a descriptor accepts nothing, so it is not the new endpoint.
    have other : listener ≠ ⟨w.endpoints.length⟩ := by
      rintro rfl
      have fails := Endpoint.fails_accept (L := .disturbed T) (congrArg Handle.fd bare)
        ⟨w.endpoints.length⟩
      rw [Action.Fails, asked] at fails
      cases fails.1
    have spared : (Law.unheard ⟨w.endpoints.length⟩).holds (Endpoint.make {} w).2 := by
      intro d mem own
      have aimed := h.aimed d mem
      rw [own] at aimed
      exact Nat.lt_irrefl _ aimed
    have accepted := Unheard.accept (T := T) other _ spared
    rw [asked] at accepted
    have size := World.Founding.size_accepted asked
    exact begin_onto h (made.trans accepted) size.1 size.2 (.established _)

end Chronicle

namespace Session

open World (Continues Fits)

variable {T : Transport σ} {around : Surroundings σ} {s : Session σ}

def Chronicled (s : Session σ) : Prop :=
  ∀ p ∈ s.names, ∀ k, p.2 = .socket k → s.Houses k ∧ (Law.chronicle True k).holds s.world

theorem chronicled_new (around : Surroundings σ)
    (inside : ∀ ep, s.refers ep = true → ep.index < s.world.endpoints.length)
    (chronicled : s.Chronicled) (awaits : Chronicle.Awaits s.world) {verb : Verb}
    {on : Option String} (kept : verb ≠ .drop ∨ on = none) (as : Option String) {k : Socket}
    (made : (outcome (.disturbed T) around s verb on s.world).1.2 = some (.socket k)) :
    (outcome (.disturbed T) around s verb on s.world).2.Continues True k
        (act (.disturbed T) around verb on as s).2.world ∧
      (act (.disturbed T) around verb on as s).2.Houses k ∧
      (Law.chronicle True k).holds (act (.disturbed T) around verb on as s).2.world := by
  have origin := lent_or_founded T around s verb on s.world
  rw [run_act verb on as kept]
  dsimp only at origin ⊢
  generalize outcome (.disturbed T) around s verb on s.world = r at origin made
  rw [made] at origin ⊢
  cases origin with
  | inl lent => cases lent.stream _ rfl
  | inr founded =>
    have holds := Chronicle.begin awaits founded
    have continues := Chronicle.oversees.place (T := T) (s := { s with world := r.2 }) holds as
      (some (.socket k))
    have holds' := (Law.chronicle True k).stable holds continues
    have foreign (ep : Endpoint) (refers : s.refers ep = true) : ep ≠ k.endpoint := by
      rintro rfl
      have within := inside _ refers
      rw [show k.endpoint = _ from founded.base] at within
      exact Nat.lt_irrefl _ within
    refine ⟨continues, ⟨holds'.1, ?_, ?_⟩, holds'⟩
    · intro p mem
      cases names_place as _ p mem with
      | inl old =>
        constructor
        · intro own
          exact absurd own (foreign _ (refers_of_mem old))
        · intro k' is same
          have index := (chronicled p old k' is).1.world.2
          rw [same] at index
          exact absurd founded.index.1 (Nat.not_le_of_lt index)
      | inr new =>
        have is : Object.socket k = p.2 := Option.some.inj new
        rw [← is]
        exact ⟨fun _ => .inl rfl, fun k' is _ => by cases is; rfl⟩
    · rw [held_place]
      exact fun held => foreign _ (refers_iff.mpr (.inl held)) rfl

namespace Chronicled

theorem act (around : Surroundings σ)
    (inside : ∀ ep, s.refers ep = true → ep.index < s.world.endpoints.length)
    (chronicled : s.Chronicled) (awaits : Chronicle.Awaits s.world) (verb : Verb)
    (on as : Option String) :
    (Session.act (.disturbed T) around verb on as s).2.Chronicled := by
  intro p mem k is
  cases names_act verb on as s p mem with
  | inl old =>
    obtain ⟨houses, holds⟩ := chronicled p old k is
    have acted := Chronicle.oversees.act (T := T) around houses holds verb on as
    exact ⟨acted.2, (Law.chronicle True k).stable holds acted.1⟩
  | inr new =>
    rw [is] at new
    exact (chronicled_new around inside chronicled awaits new.1 as new.2).2

theorem told (chronicled : s.Chronicled) {w : World σ}
    (spared : ∀ k, s.Houses k → s.world.Told k [] w) :
    Chronicled { s with world := w } := by
  intro p mem k is
  obtain ⟨houses, holds⟩ := chronicled p mem k is
  have told := spared k houses
  have created (created : (s.world.socket k).created = true) : (w.socket k).created = true := by
    rwa [told.socket]
  exact ⟨{ houses with
    world := told.houses houses.world
    objects := fun q mem => (houses.objects q mem).mono created },
    (Law.chronicle True k).stable holds (.spared told)⟩

theorem inside_amid (orderly : s.Orderly) (ms : List Meanwhile) (ep : Endpoint)
    (refers : s.refers ep = true) : ep.index < (s.amid ms).endpoints.length := by
  rw [endpoints_amid]
  exact orderly.inside ep refers

theorem awaits (chronicled : s.Chronicled) (orderly : s.Orderly) (ms : List Meanwhile) :
    Chronicle.Awaits (s.amid ms) := by
  refine ⟨?_, fun d mem => ?_, fun d mem k closes => ?_⟩
  · simpa [World.Known] using orderly.known
  · obtain ⟨m, _, o, found, aims⟩ := target_of_mem_amid orderly.quiet mem
    rw [target_deed? aims]
    exact inside_amid orderly ms _ (refers_of_find? found)
  · obtain ⟨m, _, o, found, aims⟩ := target_of_mem_amid orderly.quiet mem
    rw [closes] at aims
    obtain rfl := deed?_closeSocket aims
    rw [sockets_amid]
    exact (chronicled _ (mem_of_find? found) k rfl).1.world.2

theorem step (chronicled : s.Chronicled) (orderly : s.Orderly) (verb : Verb)
    (on as : Option String) (ms : List Meanwhile) :
    (runStep (.disturbed T) around (.act verb on as ms) s).2.Chronicled := by
  have entered := chronicled.told fun k houses => told_amid houses ms
  have acted := Chronicled.act (T := T) (s := { s with world := s.amid ms }) around
    (inside_amid orderly ms) entered (chronicled.awaits orderly ms) verb on as
  rw [run_perform, run_among]
  exact acted.told fun k _ => told_past orderly.quiet ms _

theorem reach {m : Session σ} (chronicled : s.Chronicled) (orderly : s.Orderly)
    (reached : Reach (.disturbed T) around s m) : m.Chronicled := by
  induction reached with
  | refl => exact chronicled
  | act verb on as ms before ih => exact ih.step (orderly.reach before) verb on as ms
  | enter before found ih =>
    intro p mem k is
    obtain ⟨houses, holds⟩ := ih p mem k is
    exact ⟨Law.Oversees.enter houses found, holds⟩
  | @leave m g before held ih =>
    intro p mem k is
    have old : p ∈ m.names := by
      obtain ⟨w, run⟩ := settle_world (L := .disturbed T) g.endpoint { m with
        world := (g.discard (.disturbed T) m.world).2
        held := m.held.erase g.endpoint }
      rwa [run_letGo, run] at mem
    obtain ⟨houses, holds⟩ := ih p old k is
    have left := Chronicle.oversees.leave (T := T) houses holds held
    exact ⟨left.2, (Law.chronicle True k).stable holds left.1⟩

theorem start (t : σ) : (Session.start t).Chronicled := nofun

end Chronicled

end Session

end ProcessorSockets
