import ProcessorSockets.Proofs.Session.Lifetime
import ProcessorSockets.Proofs.Session.Refusal
import ProcessorSockets.Transport.Scripted

namespace ProcessorSockets

open World (Continues Told)

variable {σ : Type} {k : Socket} {w w' w'' : World σ}

namespace World.CreatesOnce

theorem before (told : w.Told k [] w') (once : w'.CreatesOnce k w'') : w.CreatesOnce k w'' := by
  obtain ⟨answers, creations, few, created, asked⟩ := once
  have same := Chronicle.creations_told told
  rw [told.socket] at created asked
  rw [same, List.filterMap_nil, List.append_nil] at creations
  exact ⟨answers, creations, few, created, asked⟩

theorem after (once : w.CreatesOnce k w') (told : w'.Told k [] w'') : w.CreatesOnce k w'' := by
  obtain ⟨answers, creations, few, created, asked⟩ := once
  have same := Chronicle.creations_told told
  rw [List.filterMap_nil, List.append_nil] at same
  refine ⟨answers, same.trans creations, few, ?_, asked⟩
  rw [told.socket]
  exact created

theorem onward (once : w.CreatesOnce k w') (created : (w'.socket k).created = true)
    (continues : w'.Continues True k w'') : w.CreatesOnce k w'' := by
  obtain ⟨answers, creations, few, iff, asked⟩ := once
  exact ⟨answers, (continues.creations created).trans creations, few,
    ⟨fun _ => iff.mp created, fun _ => continues.keeps.created created⟩, asked⟩

end World.CreatesOnce

namespace Session

variable {T : Transport σ} {around : Surroundings σ} {s : Session σ}

theorem createsOnce_step (orderly : s.Orderly) (houses : s.Houses k)
    (holds : (Law.chronicle True k).holds s.world) {n : String}
    (found : s.find? n = some (.socket k)) {verb : Verb} (creates : verb.Creates)
    (as : Option String) (ms : List Meanwhile) :
    s.world.CreatesOnce k (runStep (.disturbed T) around (.act verb (some n) as ms) s).2.world := by
  have kept : verb ≠ .drop ∨ some n = none := by
    cases creates <;> exact .inl nofun
  have before : s.world.Told k [] (s.amid ms) := told_amid houses ms
  have holds' := (Law.chronicle True k).stable holds (.spared before)
  have once := Chronicle.createsOnce_onSocket (T := T) holds' creates
  have lends (o : Object) (made : (onSocket (.disturbed T) k verb (s.amid ms)).1.2 = some o) :=
    Chronicle.lends holds' made
  have ended := (run_step (.disturbed T) around s kept as ms).2
  have stays := ((Chronicle.oversees (T := T)).socket.onSocket verb) (s.amid ms) holds'
  rw [outcome_onSocket found] at ended
  rw [ended]
  refine .before before (.after ?_ (told_past orderly.quiet ms _))
  generalize onSocket (.disturbed T) k verb (s.amid ms) = r at once lends stays
  cases made : r.1.2 with
  | none => exact once
  | some o =>
    have placed := Chronicle.oversees.place (T := T) (s := { s with world := r.2 })
      ((Law.chronicle True k).stable holds' stays) as (some o)
    exact once.onward (lends o made) placed

theorem shut_amid (houses : s.Houses k) (shut : s.world.Shut k) (ms : List Meanwhile) :
    (s.amid ms).Shut k := shut.told (told_amid houses ms)

theorem shut_step (orderly : s.Orderly) (houses : s.Houses k)
    (holds : (Law.chronicle True k).holds s.world)
    (proper : (s.world.handle k.endpoint).Proper) {n : String} {o : Object}
    (found : s.find? n = some o) (base : o.base = k.endpoint) (as : Option String)
    (ms : List Meanwhile) :
    (runStep (.disturbed T) around (.act .close (some n) as ms) s).2.world.Shut k := by
  have before : s.world.Told k [] (s.amid ms) := told_amid houses ms
  have holds' := (Law.chronicle True k).stable holds (.spared before)
  have proper' : ((s.amid ms).handle k.endpoint).Proper := before.handle ▸ proper
  have ended := (run_step (.disturbed T) around s (.inl nofun : Verb.close ≠ .drop ∨ some n = none)
    as ms).2
  have released (made : (s.world.socket k).created = true) :
      (k.endpoint.release (.disturbed T) (s.amid ms)).2.Shut k :=
    Chronicle.release_shut holds' (before.socket ▸ made) proper'
  have closed : (outcome (.disturbed T) around s .close (some n) (s.amid ms)).2.Shut k ∧
      (outcome (.disturbed T) around s .close (some n) (s.amid ms)).1.2 = none := by
    simp only [outcome, found]
    -- Only the socket and its streams are on its endpoint.
    cases (houses.objects _ (mem_of_find? found)).bears base with
    | socket =>
      refine ⟨?_, object_told ..⟩
      change (done (k.close (.disturbed T)) (s.amid ms)).2.Shut k
      rw [done, world_told]
      exact Chronicle.close_shut holds' proper'
    | input serial made =>
      refine ⟨?_, object_told ..⟩
      change (done (InputStream.close (.disturbed T) ⟨k.endpoint, serial⟩) (s.amid ms)).2.Shut k
      rw [done, world_told]
      exact released made
    | output serial made =>
      refine ⟨?_, object_told ..⟩
      change (done (OutputStream.close (.disturbed T) ⟨k.endpoint, serial⟩) (s.amid ms)).2.Shut k
      rw [done, world_told]
      exact released made
  rw [closed.2] at ended
  rw [ended]
  exact closed.1.told (told_past orderly.quiet ms _)

theorem refusal_kept {st : SocketState} {o : Object} {verb : Verb} {value : Value}
    (refuses : refusal st o verb = some value) : verb ≠ .drop := by
  rintro rfl
  cases o <;> cases refuses

theorem refusal_step (houses : s.Houses k) (shut : s.world.Shut k) {n : String} {o : Object}
    (found : s.find? n = some o) (base : o.base = k.endpoint) {verb : Verb} {value : Value}
    (refuses : refusal (s.world.socket k) o verb = some value) (as : Option String)
    (ms : List Meanwhile) :
    (runStep (.disturbed T) around (.act verb (some n) as ms) s).1.value = value := by
  have before : s.world.Told k [] (s.amid ms) := told_amid houses ms
  have still := shut_amid houses shut ms
  rw [(run_step (.disturbed T) around s
    (.inl (refusal_kept refuses) : verb ≠ .drop ∨ some n = none) as ms).1]
  simp only [outcome, found]
  cases (houses.objects _ (mem_of_find? found)).bears base with
  | socket =>
    rw [← before.socket] at refuses
    exact congrArg Prod.fst (refusal_onSocket still refuses)
  | input => exact congrArg Prod.fst (refusal_onInput still.bare refuses)
  | output => exact congrArg Prod.fst (refusal_onOutput still.bare refuses)

theorem fresh_step (around : Surroundings σ) (orderly : s.Orderly) (chronicled : s.Chronicled)
    (kind : SocketKind) (n : String) (ms : List Meanwhile) :
    let k : Socket := ⟨s.world.sockets.length, ⟨s.world.endpoints.length⟩⟩
    let s' := (runStep (.disturbed T) around (.act (.newSocket kind) none (some n) ms) s).2
    s'.find? n = some (.socket k) ∧ s'.Houses k ∧ (Law.chronicle True k).holds s'.world ∧
      (s'.world.handle k.endpoint).Proper := by
  intro k s'
  have makes : outcome (.disturbed T) around s (.newSocket kind) none (s.amid ms) =
      ((.done, some (.socket k)), (Socket.fresh kind (s.amid ms)).2) := by
    have next : Socket.mk (s.amid ms).sockets.length ⟨(s.amid ms).endpoints.length⟩ = k := by
      rw [sockets_amid, endpoints_amid]
    exact congrArg (fun k => ((_, some (Object.socket k)), _)) next
  have bare : (Socket.fresh kind (s.amid ms)).2.handle k.endpoint = {} := by
    change (Endpoint.make {} (s.amid ms)).2.handle ⟨s.world.endpoints.length⟩ = {}
    simp [World.handle, World.endpoint, Endpoint.make]
  have kept : Verb.newSocket kind ≠ .drop ∨ (none : Option String) = none := .inr rfl
  obtain ⟨continues, houses, holds⟩ := chronicled_new (T := T) around
    (s := { s with world := s.amid ms }) (k := k) (Chronicled.inside_amid orderly ms)
    (chronicled.told fun k houses => told_amid houses ms) (chronicled.awaits orderly ms) kept
    (some n) (congrArg (·.1.2) makes)
  have placed := (run_step (.disturbed T) around s kept (some n) ms).2
  rw [makes] at placed
  have left := told_past (k := k) orderly.quiet ms (act (.disturbed T) around (.newSocket kind)
    none (some n) { s with world := s.amid ms }).2.world
  have ended : s' = (among ms (act (.disturbed T) around (.newSocket kind) none (some n)) s).2 :=
    run_perform _ _ _ ms s
  refine ⟨?_, ?_⟩
  · exact (congrArg (·.find? n) placed).trans (find?_place (L := .disturbed T) _ n (.socket k))
  · rw [ended, run_among]
    exact ⟨{ houses with
        world := left.houses houses.world
        objects := fun p mem => (houses.objects p mem).mono fun created => by rwa [left.socket] },
      (Law.chronicle True k).stable holds (.spared left),
      left.handle ▸ continues.proper (.inl bare)⟩

structure Lifetime (T : Transport σ) (around : Surroundings σ) (k : Socket) (m : Session σ) :
    Prop where
  /-- It asks for its descriptor until it has it. -/
  creations : ∃ (failures : List NativeError) (made : Option Descriptor),
    m.world.creations k.endpoint = failures.map .error ++ made.toList.map .ok ∧
      ((m.world.socket k).created = false → made = none ∧ m.world.handle k.endpoint = {})
  creates : ∀ n, m.find? n = some (.socket k) → ∀ verb : Verb, verb.Creates → ∀ as ms,
    m.world.CreatesOnce k (runStep (.disturbed T) around (.act verb (some n) as ms) m).2.world
  closes : ∀ n o, m.find? n = some o → o.base = k.endpoint → ∀ as ms,
    (runStep (.disturbed T) around (.act .close (some n) as ms) m).2.world.Shut k
  /-- Once it is closed, the transport hears no more of it. -/
  final : m.world.Shut k → ∀ m', Reach (.disturbed T) around m m' →
    m'.world.Shut k ∧ m'.world.talk k.endpoint = m.world.talk k.endpoint ∧
      ∀ n o, m'.find? n = some o → o.base = k.endpoint → ∀ verb value,
        refusal (m'.world.socket k) o verb = some value → ∀ as ms,
          (runStep (.disturbed T) around (.act verb (some n) as ms) m').1.value = value

theorem lifetime (orderly : s.Orderly) (houses : s.Houses k)
    (holds : (Law.chronicle True k).holds s.world)
    (proper : (s.world.handle k.endpoint).Proper) : s.Lifetime T around k where
  creations := by
    obtain ⟨failures, made, creations, none⟩ := holds.2.2.2.creations
    exact ⟨failures, made, creations, fun fresh => ⟨none fresh, holds.2.2.2.bare fresh⟩⟩
  creates _ found _ creates as ms := createsOnce_step orderly houses holds found creates as ms
  closes _ _ found base as ms := shut_step orderly houses holds proper found base as ms
  final shut m' later := by
    have reached := Shut.oversees.reach (T := T) orderly houses
      ⟨houses.world, holds.2.1, shut⟩ later
    refine ⟨shut.told reached.1, reached.1.talk.trans (List.append_nil _), ?_⟩
    intro n o found base verb value refuses as ms
    exact refusal_step reached.2 (shut.told reached.1) found base refuses as ms

/-- A socket is made by the transport at most once, when it is first needed, and once it or one
of its streams was closed, in whatever state and with whatever outcome, nothing more comes of
it. -/
theorem sockets_live_once (T : Transport σ) (around : Surroundings σ) (t : σ) {m : Session σ}
    (reached : Reach (.disturbed T) around (start t) m) (kind : SocketKind) (n : String)
    (ms : List Meanwhile) :
    let k : Socket := ⟨m.world.sockets.length, ⟨m.world.endpoints.length⟩⟩
    let made := (runStep (.disturbed T) around (.act (.newSocket kind) none (some n) ms) m).2
    made.find? n = some (.socket k) ∧
      ∀ m', Reach (.disturbed T) around made m' → m'.Lifetime T around k := by
  intro k made
  have orderly := (Orderly.start t).reach reached
  have chronicled := (Chronicled.start t).reach (Orderly.start t) reached
  have reaches : Reach (.disturbed T) around m made := .act _ _ _ _ .refl
  obtain ⟨found, houses, holds, proper⟩ :=
    fresh_step (T := T) around orderly chronicled kind n ms
  refine ⟨found, fun m' later => ?_⟩
  have orderly' := orderly.reach reaches
  have after := Chronicle.oversees.reach (T := T) orderly' houses holds later
  exact lifetime (orderly'.reach later) after.2 ((Law.chronicle True k).stable holds after.1)
    (after.1.proper proper)

theorem sockets_live_once_unused :
    let L := Link.disturbed Scripted.transport
    let around : Surroundings Scripted.State := {}
    let made := (runStep L around (.act (.newSocket .stream) none (some "s") [])
      (start { outcomes := fun _ => [] })).2
    let closed := (runStep L around (.act .close (some "s") none []) made).2
    closed.world.Shut ⟨0, ⟨0⟩⟩ ∧ closed.world.talk ⟨0⟩ = [] ∧
      (runStep L around (.act .inputStream (some "s") (some "i") []) closed).1.value =
        .failure .notCreated := by
  intro L around made closed
  obtain ⟨found, life⟩ := sockets_live_once Scripted.transport around { outcomes := fun _ => [] }
    .refl .stream "s" []
  have shut := (life made .refl).closes "s" _ found rfl none []
  have later := (life closed (.act _ _ _ _ .refl)).final shut closed .refl
  exact ⟨shut, rfl, later.2.2 "s" _ rfl rfl .inputStream _ rfl (some "i") []⟩

end Session

end ProcessorSockets
