import ProcessorSockets.Proofs.Law.Gains
import ProcessorSockets.Proofs.Session.Chronicle
import ProcessorSockets.Proofs.Session.Moving
import ProcessorSockets.Proofs.Session.Reference
import ProcessorSockets.Transport.Scripted

namespace ProcessorSockets

namespace Session

variable {σ : Type} {L : Link σ} {T : Transport σ} {around : Surroundings σ} {s : Session σ}
  {ep : Endpoint} {fd : Descriptor}

/-- In a step nobody asks an endpoint to give its descriptor up, neither by the step itself nor
in the middle of it. -/
structure Spares (s : Session σ) (ep : Endpoint) (verb : Verb) (on : Option String)
    (ms : List Meanwhile) : Prop where
  step : verb.givesUp = true → ∀ n o, on = some n → s.find? n = some o → o.base ≠ ep
  meanwhile : ∀ m ∈ ms, m.interference = .close → ∀ o, s.find? m.on = some o → o.base ≠ ep

/-- What comes of a session while nobody asks an endpoint to give its descriptor up. -/
inductive Unclosed (L : Link σ) (around : Surroundings σ) (ep : Endpoint) (s : Session σ) :
    Session σ → Prop
  | refl : Unclosed L around ep s s
  | act {m : Session σ} {verb : Verb} {on : Option String} {ms : List Meanwhile}
      (before : Unclosed L around ep s m) (spares : m.Spares ep verb on ms) (as : Option String) :
      Unclosed L around ep s (runStep L around (.act verb on as ms) m).2
  | enter {m : Session σ} {name : String} {other : Endpoint} (before : Unclosed L around ep s m)
      (found : m.find? name = some (.endpoint other)) :
      Unclosed L around ep s { m with held := other :: m.held }
  /-- A guard goes that was committed, or one over another endpoint. -/
  | leave {m : Session σ} {g : Guard} (before : Unclosed L around ep s m)
      (held : g.endpoint ∈ m.held) (spares : g.endpoint = ep → g.active = false) :
      Unclosed L around ep s (letGo L g m).2

theorem Unclosed.reach {m : Session σ} (h : Unclosed L around ep s m) : Reach L around s m := by
  induction h with
  | refl => exact .refl
  | act _ _ as ih => exact .act _ _ as _ ih
  | enter _ found ih => exact .enter ih found
  | leave _ held _ ih => exact .leave ih held

theorem drops_settle (inside : ep.index < s.world.endpoints.length) :
    Drops (s.world.disturbances = []) ep s.world (settle (.disturbed T) ep s).2 := by
  rw [run_settle]
  split
  case isTrue refers => exact ⟨fun _ => rfl, fun free => nomatch refers.symm.trans free⟩
  case isFalse free => exact ⟨fun refers => absurd refers free, fun _ => Endpoint.givesUp T inside⟩

namespace Drops

variable {alone alone' : Prop} {w : World σ} {s' : Session σ}

theorem mono (h : Drops alone ep w s') (less : alone' → alone) : Drops alone' ep w s' where
  others := h.others
  last free := { h.last free with
    closed := fun fd owns => by
      obtain ⟨answer, talk, said⟩ := (h.last free).closed fd owns
      exact ⟨answer, talk, said ∘ less⟩ }

theorem past (h : Drops alone ep w s') (s : Session σ) (ms : List Meanwhile) :
    Drops alone ep (s.past ms w) { s' with world := s.past ms s'.world } where
  others refers := congrArg (s.past ms) (h.others refers)
  last free := by
    obtain ⟨bare, closed, silent⟩ := h.last free
    constructor
    · rw [handle_past]
      exact bare
    · simpa only [handle_past, World.talk, World.said, log_past] using closed
    · simpa using silent

end Drops

theorem drops_act (orderly : s.Orderly) {verb : Verb} {on as : Option String}
    {ms : List Meanwhile} {o : Object}
    (lost : (s.worked (.disturbed T) around verb on as ms).2 = some o) :
    Drops (ms = []) o.base (s.worked (.disturbed T) around verb on as ms).1
      (runStep (.disturbed T) around (.act verb on as ms) s).2 := by
  rw [step_performed]
  simp only [worked] at lost ⊢
  have base := base_lost lost
  have size := size_performed (T := T) around { s with world := s.amid ms } verb on as
  have quiet : ms = [] → (performed (.disturbed T) around { s with world := s.amid ms }
      verb on as).1.world.disturbances = [] := by
    rintro rfl
    obtain kept | ⟨n, rfl, rfl⟩ := kept_or_drops verb on
    · rw [performed_kept kept, world_placing]
      exact orderly.quiet_outcome verb on
    · exact orderly.quiet
  generalize performed (.disturbed T) around { s with world := s.amid ms } verb on as = p
    at lost base size quiet ⊢
  have inside : o.base.index < p.1.world.endpoints.length := by
    obtain refers | ⟨new, made⟩ := base
    · have old := orderly.inside _ refers
      rw [endpoints_amid] at size
      exact Nat.lt_of_lt_of_le old size
    · rw [new]
      exact made
  rw [lost]
  exact ((drops_settle inside).mono quiet).past s ms

theorem drops_leave (orderly : s.Orderly) {g : Guard} (held : g.endpoint ∈ s.held) :
    Drops True g.endpoint (g.discard (.disturbed T) s.world).2 (letGo (.disturbed T) g s).2 := by
  have refers : s.refers g.endpoint = true := refers_iff.mpr (.inl held)
  have shift := orderly.shift_dropGuard (T := T) held
  have inside := Nat.lt_of_lt_of_le (orderly.inside _ refers) shift.size
  have settled := drops_settle (T := T) (s := { s with
    world := (g.discard (.disturbed T) s.world).2, held := s.held.erase g.endpoint }) inside
  rw [run_letGo]
  exact settled.mono fun _ => shift.quiet orderly.quiet

theorem size_settle (other : Endpoint) (s : Session σ) :
    (settle (.disturbed T) other s).2.world.endpoints.length = s.world.endpoints.length := by
  rw [run_settle]
  split
  · rfl
  · exact ((Steady.disturbed (T := T) other).discard _ trivial).1

theorem Reach.size {m : Session σ} (reached : Reach (.disturbed T) around s m) :
    s.world.endpoints.length ≤ m.world.endpoints.length := by
  induction reached with
  | refl => exact Nat.le_refl _
  | @act m verb on as ms _ ih =>
    apply Nat.le_trans ih
    have size := size_performed (T := T) around { m with world := m.amid ms } verb on as
    rw [step_performed, endpoints_past]
    rw [endpoints_amid] at size
    cases lost : (performed (.disturbed T) around { m with world := m.amid ms } verb on as).2 with
    | none => exact size
    | some o => exact (size_settle o.base _).symm ▸ size
  | enter _ _ ih => exact ih
  | @leave m g _ _ ih =>
    apply Nat.le_trans ih
    rw [run_letGo, size_settle]
    exact Nat.le_of_eq ((Steady.disturbed (T := T) g.endpoint).dropGuard g rfl _ trivial).1.symm

theorem refers_act {verb : Verb} {on as : Option String} {ms : List Meanwhile}
    (old : ep.index < s.world.endpoints.length)
    (refers : (runStep (.disturbed T) around (.act verb on as ms) s).2.refers ep = true) :
    s.refers ep = true := by
  rw [step_performed] at refers
  have led := (refers_abandon ..).symm.trans refers
  exact refers_performed (s := { s with world := s.amid ms }) (by simpa using old) led

theorem refers_enter {name : String} {other : Endpoint}
    (found : s.find? name = some (.endpoint other))
    (refers : Session.refers { s with held := other :: s.held } ep = true) :
    s.refers ep = true := by
  obtain held | named := refers_iff.mp refers
  · cases held with
    | head => exact refers_of_find? found
    | tail _ held => exact refers_iff.mpr (.inl held)
  · exact refers_iff.mpr (.inr named)

theorem refers_leave {g : Guard} (refers : (letGo L g s).2.refers ep = true) :
    s.refers ep = true := by
  rw [run_letGo] at refers
  have led := (refers_abandon (some (.endpoint g.endpoint)) _ ep).symm.trans refers
  exact refers_iff.mpr ((refers_iff.mp led).imp List.mem_of_mem_erase id)

section

variable {verb : Verb} {on : Option String} {ms : List Meanwhile}

theorem retained_amid (quiet : s.world.disturbances = []) (owns : s.world.handle ep = .owning fd)
    (spares : s.Spares ep verb on ms) : (Law.retained ep).holds (s.amid ms) := by
  refine ⟨⟨fd, by simpa using owns⟩, fun d mem own => ?_⟩
  obtain ⟨m, mem, o, found, aims⟩ := target_of_mem_amid quiet mem
  have base : o.base = ep := (target_deed? aims).symm.trans own
  cases i : m.interference with
  | close => exact absurd base (spares.meanwhile m mem i o found)
  | create kind =>
    rw [i] at aims
    exact ⟨kind, base ▸ of_deed?_create aims⟩

theorem retained_performed (around : Surroundings σ) (holds : (Law.retained ep).holds s.world)
    (spares : verb.givesUp = true → ∀ n o, on = some n → s.find? n = some o → o.base ≠ ep)
    (as : Option String) :
    s.world.Retains ep (performed (.disturbed T) around s verb on as).1.world := by
  refine keeps_performed (.retained ep) verb on as ?_ holds
  have others (o : Object) (other : o.base ≠ ep) :
      (Law.retained ep).AdmitsObject (.disturbed T) o :=
    (Retained.admits other).object fun k _ w st => Retained.setSocket w k st
  refine Retained.hosts.retained (Retained.send none) around s (fun n o found => ?_)
    fun gives n o is found => (others o (spares gives n o is found)).closes
  by_cases own : o.base = ep
  · subst own
    exact Retained.retains.object fun k _ w st => Retained.setSocket w k st
  · exact (others o own).retains

theorem kept_worked (orderly : s.Orderly) (owns : s.world.handle ep = .owning fd)
    (spares : s.Spares ep verb on ms) (as : Option String) :
    (s.worked (.disturbed T) around verb on as ms).1.handle ep = .owning fd := by
  have kept := retained_performed (T := T) (s := { s with world := s.amid ms }) around
    (retained_amid orderly.quiet owns spares) spares.step as
  simp only [worked, handle_past]
  rw [kept.handle, handle_amid, owns]

theorem retained_abandon (holds : (Law.retained ep).holds s.world) (old : Option Object)
    (refers : (abandon (.disturbed T) old s).2.refers ep = true) :
    s.world.Retains ep (abandon (.disturbed T) old s).2.world := by
  rw [refers_abandon] at refers
  refine keeps_abandon (.retained ep) holds old fun o _ free => Retained.admits ?_
  rintro rfl
  exact nomatch refers.symm.trans free

theorem kept_act (orderly : s.Orderly) (owns : s.world.handle ep = .owning fd)
    (spares : s.Spares ep verb on ms) (as : Option String)
    (refers : (runStep (.disturbed T) around (.act verb on as ms) s).2.refers ep = true) :
    (runStep (.disturbed T) around (.act verb on as ms) s).2.world.handle ep = .owning fd := by
  have holds := retained_amid orderly.quiet owns spares
  have kept := retained_performed (T := T) (s := { s with world := s.amid ms }) around holds
    spares.step as
  rw [step_performed] at refers ⊢
  have ends := retained_abandon (T := T) ((Law.retained ep).stable holds kept) _ refers
  rw [handle_past]
  exact ends.handle.trans (kept.handle.trans (by simpa using owns))

theorem kept_leave (orderly : s.Orderly) (owns : s.world.handle ep = .owning fd) {g : Guard}
    (spares : g.endpoint = ep → g.active = false)
    (refers : (letGo (.disturbed T) g s).2.refers ep = true) :
    (letGo (.disturbed T) g s).2.world.handle ep = .owning fd := by
  have holds : (Law.retained ep).holds s.world :=
    ⟨⟨fd, owns⟩, fun d mem => by simp [orderly.quiet] at mem⟩
  have first : s.world.Retains ep (g.discard (.disturbed T) s.world).2 := by
    by_cases own : g.endpoint = ep
    · simp only [Guard.discard, spares own]
      exact .refl _
    · exact (Retained.admits own).dropGuard g rfl _ holds
  rw [run_letGo] at refers ⊢
  have ends := retained_abandon (T := T) (s := { s with
    world := (g.discard (.disturbed T) s.world).2, held := s.held.erase g.endpoint })
    ((Law.retained ep).stable holds first) (some (.endpoint g.endpoint)) refers
  exact ends.handle.trans (first.handle.trans owns)

end

/-- Until somebody asks for it, an endpoint in use gives nothing up. -/
theorem kept_unclosed (orderly : s.Orderly) (owns : s.world.handle ep = .owning fd)
    {m : Session σ} (run : Unclosed (.disturbed T) around ep s m) (refers : m.refers ep = true) :
    m.world.handle ep = .owning fd := by
  have inside := s.world.inside_of_handle (congrArg Handle.fd owns)
  -- What leads to the endpoint after a step led there before, so its last reference never went.
  induction run with
  | refl => exact owns
  | @act m verb on ms before spares as ih =>
    have there := Nat.lt_of_lt_of_le inside before.reach.size
    exact kept_act (orderly.reach before.reach) (ih (refers_act there refers)) spares as refers
  | enter before found ih => exact ih (refers_enter found refers)
  | leave before held spares ih =>
    exact kept_leave (orderly.reach before.reach) (ih (refers_leave refers)) spares refers

theorem silent_act (around : Surroundings σ) (orderly : s.Orderly)
    (inside : ep.index < s.world.endpoints.length) (free : s.refers ep = false) (verb : Verb)
    (on as : Option String) (ms : List Meanwhile) :
    (runStep (.disturbed T) around (.act verb on as ms) s).2.world.talk ep = s.world.talk ep := by
  have other {x : Endpoint} (refers : s.refers x = true) : x ≠ ep := by
    rintro rfl
    exact nomatch refers.symm.trans free
  have holds : (Law.aloof ep).holds (s.amid ms) := by
    refine ⟨by simpa using inside, by simpa using orderly.bare ep free, .inr fun d mem => ?_⟩
    obtain ⟨m, _, o, found, aims⟩ := target_of_mem_amid orderly.quiet mem
    rw [target_deed? aims]
    exact other (refers_of_find? found)
  have kept := keeps_performed (s := { s with world := s.amid ms }) (.aloof ep) verb on as
    (Aloof.hosts.outcome Aloof.outside around _
      (fun n o found => (Aloof.admits (T := T) (other (refers_of_find? found))).object
        fun k _ w st => Aloof.setSocket w k st) verb on) holds
  have lost (o : Object) (is : (performed (.disturbed T) around { s with world := s.amid ms }
      verb on as).2 = some o) := base_lost is
  rw [step_performed]
  generalize performed (.disturbed T) around { s with world := s.amid ms } verb on as = p
    at kept lost ⊢
  have ends := keeps_abandon (L := .disturbed T) (.aloof ep) ((Law.aloof ep).stable holds kept) p.2
    fun o is _ => Aloof.admits <| by
      obtain refers | ⟨new, _⟩ := lost o is
      · exact other refers
      · rintro rfl
        rw [new, endpoints_amid] at inside
        exact Nat.lt_irrefl _ inside
  have talk := ends.talk.trans kept.talk
  simpa only [World.talk, log_past, log_amid] using talk

theorem silent_leave (orderly : s.Orderly) (inside : ep.index < s.world.endpoints.length)
    (free : s.refers ep = false) {g : Guard} (held : g.endpoint ∈ s.held) :
    (letGo (.disturbed T) g s).2.world.talk ep = s.world.talk ep := by
  have other : g.endpoint ≠ ep := by
    rintro rfl
    exact nomatch (refers_iff.mpr (.inl held)).symm.trans free
  have holds : (Law.aloof ep).holds s.world :=
    ⟨inside, orderly.bare ep free, .inr fun d mem => by simp [orderly.quiet] at mem⟩
  have first := (Aloof.admits (T := T) other).dropGuard g rfl _ holds
  have ends := keeps_abandon (L := .disturbed T) (.aloof ep) (s := { s with
    world := (g.discard (.disturbed T) s.world).2, held := s.held.erase g.endpoint })
    ((Law.aloof ep).stable holds first) (some (.endpoint g.endpoint)) fun o is _ => by
      cases is
      exact Aloof.admits other
  rw [run_letGo]
  exact ends.talk.trans first.talk

theorem silent_reach (orderly : s.Orderly) (inside : ep.index < s.world.endpoints.length)
    (free : s.refers ep = false) {m : Session σ} (reached : Reach (.disturbed T) around s m) :
    m.refers ep = false ∧ m.world.talk ep = s.world.talk ep := by
  induction reached with
  | refl => exact ⟨free, rfl⟩
  | @act m verb on as ms before ih =>
    have there := Nat.lt_of_lt_of_le inside before.size
    have talk := silent_act (T := T) around (orderly.reach before) there ih.1 verb on
      as ms
    refine ⟨Bool.eq_false_iff.mpr fun refers => ?_, talk.trans ih.2⟩
    exact nomatch (refers_act there refers).symm.trans ih.1
  | enter _ found ih =>
    refine ⟨Bool.eq_false_iff.mpr fun refers => ?_, ih.2⟩
    exact nomatch (refers_enter found refers).symm.trans ih.1
  | leave before held ih =>
    have there := Nat.lt_of_lt_of_le inside before.size
    have talk := silent_leave (T := T) (orderly.reach before) there ih.1 held
    refine ⟨Bool.eq_false_iff.mpr fun refers => ?_, talk.trans ih.2⟩
    exact nomatch (refers_leave refers).symm.trans ih.1

inductive Verb.Closes : Verb → Object → Prop
  | close (o : Object) : Closes .close o
  | release (ep : Endpoint) : Closes .release (.endpoint ep)

theorem Verb.Closes.kept {verb : Verb} {o : Object} (closes : verb.Closes o) : verb ≠ .drop := by
  cases closes <;> nofun

theorem object_closes {n : String} {o : Object} (found : s.find? n = some o) {verb : Verb}
    (closes : verb.Closes o) (w : World σ) : (outcome L around s verb (some n) w).1.2 = none := by
  simp only [outcome, found]
  cases closes with
  | close => cases o <;> exact object_told ..
  | release ep => exact object_told ..

theorem unowned_outcome (around : Surroundings σ) {n : String} {o : Object}
    (found : s.find? n = some o) {verb : Verb} (closes : verb.Closes o) {w : World σ}
    (alone : ∀ d ∈ w.disturbances, ∀ kind, d.deed ≠ .create o.base kind)
    (unmade : ∀ k, o = .socket k → (w.socket k).created = false → w.handle k.endpoint = {})
    (fd : Descriptor) :
    (outcome (.disturbed T) around s verb (some n) w).2.handle o.base ≠ .owning fd := by
  simp only [outcome, found]
  cases closes with
  | release ep =>
    dsimp only [onEndpoint, done]
    rw [world_told]
    exact Unowned.release alone fd
  | close =>
    cases o with
    | endpoint ep =>
      dsimp only [onEndpoint, done]
      rw [world_told]
      exact Unowned.close alone fd
    | socket k =>
      dsimp only [onSocket, done]
      rw [world_told, Socket.close, Action.run_bind]
      cases created : (w.socket k).created with
      | true =>
        simp only [Socket.state, created]
        exact Unowned.release alone fd
      | false =>
        simp only [Socket.state, created]
        intro owns
        cases (unmade k rfl created).symm.trans owns
    | server k =>
      dsimp only [onServer, done]
      rw [world_told]
      exact Unowned.release alone fd
    | input i =>
      dsimp only [onInput, done]
      rw [world_told]
      exact Unowned.release alone fd
    | output i =>
      dsimp only [onOutput, done]
      rw [world_told]
      exact Unowned.release alone fd

theorem unowned_close (orderly : s.Orderly) (chronicled : s.Chronicled) {n : String}
    {o : Object} (found : s.find? n = some o) {verb : Verb} (closes : verb.Closes o)
    (as : Option String) {ms : List Meanwhile}
    (alone : ∀ m ∈ ms, ∀ kind, m.interference = .create kind →
      ∀ o', s.find? m.on = some o' → o'.base ≠ o.base) (fd : Descriptor) :
    (runStep (.disturbed T) around (.act verb (some n) as ms) s).2.world.handle o.base ≠
      .owning fd := by
  have spared : ∀ d ∈ (s.amid ms).disturbances, ∀ kind, d.deed ≠ .create o.base kind := by
    intro d mem kind creates
    obtain ⟨m, mem, o', found', aims⟩ := target_of_mem_amid orderly.quiet mem
    rw [creates] at aims
    obtain ⟨i, rfl⟩ := deed?_create aims
    exact alone m mem kind i _ found' rfl
  have unmade (k : Socket) (is : o = .socket k) (created : ((s.amid ms).socket k).created = false) :
      (s.amid ms).handle k.endpoint = {} := by
    obtain ⟨houses, holds⟩ := chronicled _ (mem_of_find? found) k is
    rw [(told_amid houses ms).socket] at created
    exact (handle_amid ..).trans (holds.2.2.2.bare created)
  have closed := unowned_outcome (T := T) around found closes spared unmade fd
  have kept : verb ≠ .drop ∨ some n = none := .inl closes.kept
  rw [(run_step (.disturbed T) around s kept as ms).2, handle_past, object_closes found closes]
  exact closed

/-- What goes for the references of a session at rest. -/
structure References (T : Transport σ) (around : Surroundings σ) (m : Session σ) : Prop where
  /-- However many references go meanwhile, an endpoint keeps what it owns while one is left. -/
  kept : ∀ ep fd, m.world.handle ep = .owning fd →
    ∀ m', Unclosed (.disturbed T) around ep m m' → m'.refers ep = true →
      m'.world.handle ep = .owning fd
  /-- An endpoint or a socket hands out streams of that endpoint. -/
  lends : ∀ n o fd, m.find? n = some o → m.world.handle o.base = .owning fd →
    ∀ verb stream, Verb.Lends o verb stream → ∀ as ms, ∃ serial,
      (runStep (.disturbed T) around (.act verb (some n) (some as) ms) m).2.find? as =
        some (stream serial)
  /-- A transfer over a stream asks about that descriptor at once, and tells the answer. -/
  moves : ∀ n o fd, m.find? n = some o → m.world.handle o.base = .owning fd →
    ∀ verb r tells, Verb.Moves fd o verb r tells → ∀ as ms,
      ∃ answer, m.world.Heard o.base r answer
          (runStep (.disturbed T) around (.act verb (some n) as ms) m).2.world ∧
        (runStep (.disturbed T) around (.act verb (some n) as ms) m).1.value = tells answer
  /-- Each transfer, also a whole one by many requests, asks about that descriptor at once; and
  unless somebody asks the endpoint to close meanwhile, all that it says is the transfer's calls,
  about that descriptor to the last, and what they came to is told. -/
  transfers : ∀ n o fd, m.find? n = some o → m.world.handle o.base = .owning fd →
    ∀ verb first tells,
      Verb.Transfers fd (T.patience m.world.transport) o verb first tells → ∀ as ms,
        (∃ answer, m.world.Heard o.base first answer
          (runStep (.disturbed T) around (.act verb (some n) as ms) m).2.world) ∧
        (m.Spares o.base verb (some n) ms → ∃ calls,
          (runStep (.disturbed T) around (.act verb (some n) as ms) m).2.world.talk o.base =
            m.world.talk o.base ++ calls.flatMap (·.entries (some o.base)) ∧
          tells calls (runStep (.disturbed T) around (.act verb (some n) as ms) m).1.value)
  /-- A name goes. -/
  drops : ∀ n o, m.find? n = some o → ∀ as ms,
    Drops (ms = []) o.base m.world
      (runStep (.disturbed T) around (.act .drop (some n) as ms) m).2
  /-- Any other step drops one reference at most, at its end: that of the object whose name it
  takes, or to what it made in vain.  Up to there an endpoint keeps what it owns, too. -/
  replaces : ∀ verb on as ms,
    (∀ o, (m.worked (.disturbed T) around verb on as ms).2 = some o →
      Drops (ms = []) o.base (m.worked (.disturbed T) around verb on as ms).1
        (runStep (.disturbed T) around (.act verb on as ms) m).2) ∧
    ∀ ep fd, m.world.handle ep = .owning fd → m.Spares ep verb on ms →
      (m.worked (.disturbed T) around verb on as ms).1.handle ep = .owning fd
  /-- A guard goes. -/
  leaves : ∀ g, g.endpoint ∈ m.held →
    Drops True g.endpoint (g.discard (.disturbed T) m.world).2 (letGo (.disturbed T) g m).2
  /-- Whoever is closed owns nothing then, unless somebody makes another descriptor meanwhile. -/
  closes : ∀ n o, m.find? n = some o → ∀ verb : Verb, verb.Closes o → ∀ as ms,
    (∀ d ∈ ms, ∀ kind, d.interference = .create kind →
      ∀ o', m.find? d.on = some o' → o'.base ≠ o.base) →
    ∀ fd, (runStep (.disturbed T) around (.act verb (some n) as ms) m).2.world.handle o.base ≠
      .owning fd
  /-- An endpoint that owns nothing, as it was closed, detached or adopted, or is not there yet,
  owns nothing until the transport gives a descriptor to it or to a listener. -/
  unowned : ∀ ep, (∀ fd, m.world.handle ep ≠ .owning fd) →
    ∀ m', Reach (.disturbed T) around m m' → ∀ fd, m'.world.handle ep = .owning fd →
      ∃ es, m'.world.log = m.world.log ++ es ∧ ∃ e ∈ es, e.Gives ep fd
  /-- After the last reference no other comes, and nothing more is asked for. -/
  gone : ∀ ep, ep.index < m.world.endpoints.length → m.refers ep = false →
    m.world.handle ep = {} ∧ ∀ m', Reach (.disturbed T) around m m' →
      m'.refers ep = false ∧ m'.world.talk ep = m.world.talk ep

/-- A descriptor lives as long as the last reference to its endpoint: until somebody asks to close
it, no drop does, in whatever order names, streams and guards go or are replaced, and all that is
left works on with it.  The last drop closes it, once and without shutting it; if the endpoint
owned nothing then, as it was closed, detached or adopted, the transport hears nothing. -/
theorem descriptors_live_as_referred (T : Transport σ) (around : Surroundings σ) (t : σ)
    {m : Session σ} (reached : Reach (.disturbed T) around (start t) m) :
    m.References T around := by
  have orderly := (Orderly.start t).reach reached
  have chronicled := (Chronicled.start t).reach (Orderly.start t) reached
  constructor
  case kept => exact fun ep fd owns m' run refers => kept_unclosed orderly owns run refers
  case lends =>
    intro n o fd found owns verb stream lends as ms
    exact lends_step around chronicled found owns lends as ms
  case moves =>
    intro n o fd found owns verb r tells moves as ms
    exact moves_step found (congrArg Handle.fd owns) moves as ms
  case transfers =>
    intro n o fd found owns verb first tells transfers as ms
    obtain ⟨heard, engaged⟩ := transfers_step around found owns transfers as ms
    exact ⟨heard, fun spares => engaged (retained_amid orderly.quiet owns spares)⟩
  case drops =>
    intro n o found as ms
    have lost : (m.worked (.disturbed T) around .drop (some n) as ms).2 = some o := by
      rw [worked_drop]
      exact found
    have drops := drops_act orderly lost
    rwa [worked_drop] at drops
  case replaces =>
    intro verb on as ms
    exact ⟨fun o lost => drops_act orderly lost, fun ep fd owns spares =>
      kept_worked orderly owns spares as⟩
  case leaves => exact fun g held => drops_leave orderly held
  case closes =>
    intro n o found verb closes as ms alone fd
    exact unowned_close orderly chronicled found closes as alone fd
  case unowned =>
    intro ep unowned m' later fd owns
    obtain ⟨es, log, gained⟩ : m.world.Gains ep m'.world := later.keeps Gains.pervades
    exact ⟨es, log, (gained fd owns).resolve_left (unowned fd)⟩
  case gone =>
    exact fun ep inside free => ⟨orderly.bare ep free, fun m' later =>
      silent_reach orderly inside free later⟩

theorem descriptors_live_as_referred_stream :
    let T := Scripted.transport
    let around : Surroundings Scripted.State := {}
    let made := (runStep (.disturbed T) around (.act .newEndpoint none (some "a") [])
      (start { outcomes := fun _ => [] })).2
    let created :=
      (runStep (.disturbed T) around (.act (.create .stream) (some "a") none []) made).2
    let lent :=
      (runStep (.disturbed T) around (.act .inputStream (some "a") (some "i") []) created).2
    let left := (runStep (.disturbed T) around (.act .drop (some "a") none []) lent).2
    let ended := (runStep (.disturbed T) around (.act .drop (some "i") none []) left).2
    left.world = lent.world ∧
      (∃ answer, left.world.Heard ⟨0⟩ (.read 3 4) answer
        (runStep (.disturbed T) around (.act (.read 4) (some "i") none []) left).2.world) ∧
      (∃ calls bytes r,
        (runStep (.disturbed T) around (.act (.readExact 4) (some "i") none [])
          left).2.world.talk ⟨0⟩ =
            left.world.talk ⟨0⟩ ++ calls.flatMap (·.entries (some ⟨0⟩)) ∧
        Call.Fills 3 (T.patience left.world.transport) 4 calls bytes r ∧
        (runStep (.disturbed T) around (.act (.readExact 4) (some "i") none [])
          left).1.value = .buffer r (filled 4 bytes)) ∧
      ∃ answer,
        ended.world.said = left.world.said ++ Call.entries (some ⟨0⟩) ⟨.close 3, answer⟩ := by
  intro T around made created lent left ended
  have before : Reach (.disturbed T) around (start { outcomes := fun _ => [] }) lent :=
    .act _ _ _ _ (.act _ _ _ _ (.act _ _ _ _ .refl))
  have after : Reach (.disturbed T) around (start { outcomes := fun _ => [] }) left :=
    .act _ _ _ _ before
  have found : lent.find? "a" = some (.endpoint ⟨0⟩) := by decide
  have found' : left.find? "i" = some (.input ⟨⟨0⟩, 0⟩) := by decide
  have owns : left.world.handle ⟨0⟩ = .owning 3 := by decide
  have rests := descriptors_live_as_referred T around _ before
  have goes : Drops ([] = []) ⟨0⟩ lent.world left := rests.drops "a" _ found none []
  have lives := descriptors_live_as_referred T around _ after
  have ends : Drops ([] = []) ⟨0⟩ left.world ended := lives.drops "i" _ found' none []
  obtain ⟨answer, heard, _⟩ :=
    lives.moves "i" _ _ found' owns (.read 4) _ _ (.read _ (by decide)) none []
  have whole : Verb.Transfers 3 (T.patience left.world.transport) (.input ⟨⟨0⟩, 0⟩) (.readExact 4)
      (.read 3 4) _ := .readExact _ (by decide)
  obtain ⟨calls, talk, bytes, r, fills, value⟩ :=
    (lives.transfers "i" _ _ found' owns (.readExact 4) _ _ whole none []).2 ⟨nofun, nofun⟩
  obtain ⟨answer', _, said⟩ := (ends.last (by decide)).closed 3 owns
  exact ⟨goes.others (by decide), ⟨answer, heard⟩, ⟨calls, bytes, r, talk, fills, value⟩, answer',
    said rfl⟩

end Session

end ProcessorSockets
