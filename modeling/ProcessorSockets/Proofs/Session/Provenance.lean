import ProcessorSockets.Proofs.Session.Undisturbed
import ProcessorSockets.Transport.Scripted

namespace ProcessorSockets

open World (Begins Conduct Turn)
open Call (Confined Give)

variable {σ : Type}

def Entry.handed? : Entry → Option Descriptor
  | .reply (some _) (.create _ _) (.ok fd) => some fd
  | .reply (some _) (.accept _) (.ok fd) => some fd
  | _ => none

namespace Call

variable {caller : Option Endpoint} {calls : List Call} {on ep : Endpoint} {fd : Descriptor}

theorem request_mem {r : Request} :
    Entry.request (some ep) r ∈ calls.flatMap (·.entries caller) ↔
      caller = some ep ∧ ∃ answer, ⟨r, answer⟩ ∈ calls := by
  rw [List.mem_flatMap]
  constructor
  · rintro ⟨⟨r', answer⟩, mem, told⟩
    simp only [entries, List.mem_cons, Entry.request.injEq, List.not_mem_nil, or_false,
      reduceCtorEq] at told
    obtain ⟨rfl, rfl⟩ := told
    exact ⟨rfl, answer, mem⟩
  · rintro ⟨rfl, answer, mem⟩
    exact ⟨_, mem, List.mem_cons_self⟩

theorem eq_of_created? {c : Call} (made : c.created? = some fd) :
    ∃ type protocol, c = ⟨.create type protocol, .ok fd⟩ := by
  unfold created? at made
  split at made
  · cases made
    exact ⟨_, _, rfl⟩
  · cases made

theorem eq_of_accepted? {c : Call} (made : c.accepted? = some fd) :
    ∃ listener, c = ⟨.accept listener, .ok fd⟩ := by
  unfold accepted? at made
  split at made
  · cases made
    exact ⟨_, rfl⟩
  · cases made

theorem Give.handed (give : Give caller calls on fd) :
    fd ∈ (calls.flatMap (·.entries caller)).filterMap Entry.handed? := by
  have told {c : Call} (mem : c ∈ calls) :
      Entry.reply caller c.request c.answer ∈ calls.flatMap (·.entries caller) :=
    List.mem_flatMap.mpr ⟨c, mem, List.mem_cons_of_mem _ List.mem_cons_self⟩
  cases give with
  | created own made =>
    obtain ⟨c, mem, gives⟩ := List.mem_filterMap.mp made
    obtain ⟨_, _, rfl⟩ := eq_of_created? gives
    exact List.mem_filterMap.mpr ⟨_, told mem, by simp [own, Entry.handed?]⟩
  | accepted own differ made =>
    obtain ⟨c, mem, gives⟩ := List.mem_filterMap.mp made
    obtain ⟨_, rfl⟩ := eq_of_accepted? gives
    exact List.mem_filterMap.mpr ⟨_, told mem, by simp [own, Entry.handed?]⟩

end Call

namespace World

/-- A descriptor that is in use: an endpoint got it and did not ask to close it since, or has
it without having got it. -/
def Open (w : World σ) (fd : Descriptor) : Prop :=
  w.closings fd < w.produced fd ∨ ∃ ep, w.handle ep = ⟨some fd, false⟩

def Spares (w w' : World σ) : Prop :=
  ∀ fd ∈ (w.news w').filterMap Entry.handed?, ¬w.Open fd

def Apart (w : World σ) (x y : Endpoint) : Prop :=
  ∀ fd, (w.handle x).fd = some fd → (w.handle y).fd ≠ some fd

variable {adopts : Option Descriptor} {caller : Option Endpoint} {calls last : List Call}
  {gone ep : Endpoint} {fd : Descriptor} {w mid w' : World σ}

namespace Turn

theorem said (turn : w.Turn adopts caller calls mid gone last w') :
    w'.said = w.said ++
      (calls.flatMap (·.entries caller) ++ last.flatMap (·.entries (some gone))) := by
  obtain ⟨_, _, begins, operation⟩ := turn.operation
  rw [turn.ending.said, operation.said, begins.said, List.append_assoc]

theorem news (turn : w.Turn adopts caller calls mid gone last w') :
    w.news w' = calls.flatMap (·.entries caller) ++ last.flatMap (·.entries (some gone)) :=
  news_of_said turn.said

theorem size (turn : w.Turn adopts caller calls mid gone last w') :
    w.endpoints.length ≤ w'.endpoints.length := by
  obtain ⟨_, _, begins, operation⟩ := turn.operation
  rw [turn.ending.size, operation.size]
  cases begins with
  | there => exact Nat.le_refl _
  | made opened =>
    obtain ⟨_, _, rfl⟩ := opened
    simp [Endpoint.make]

theorem ends (turn : w.Turn adopts caller calls mid gone last w') (ep : Endpoint) :
    w'.handle ep = mid.handle ep ∨ w'.handle ep = {} := by
  obtain same | ⟨rfl, comes⟩ := turn.ending.handle_cases ep
  · exact .inl same
  · generalize w'.handle ep = now at comes
    cases comes with
    | same => exact .inl rfl
    | bare => exact .inr rfl
    | given give =>
      cases give with
      | created _ made =>
        obtain ⟨⟨r, answer⟩, mem, gives⟩ := List.mem_filterMap.mp made
        obtain ⟨_, _, rfl⟩ := turn.closing _ mem
        cases gives
      | accepted own differ => exact absurd (Option.some.inj own).symm differ

theorem origin (turn : w.Turn adopts caller calls mid gone last w')
    (inside : ep.index < w.endpoints.length) (has : (mid.handle ep).fd = some fd) :
    (w.handle ep).fd = some fd ∨ Give caller calls ep fd ∧ mid.handle ep = .owning fd := by
  obtain ⟨w₀, on, begins, operation⟩ := turn.operation
  obtain same | ⟨rfl, comes⟩ := operation.handle_cases ep
  · rw [same, begins.handle inside] at has
    exact .inl has
  · rw [begins.handle inside] at comes
    generalize mid.handle ep = now at comes has
    cases comes with
    | same => exact .inl has
    | bare => cases has
    | given give =>
      cases has
      exact .inr ⟨give, rfl⟩

theorem about (turn : w.Turn adopts caller calls mid gone last w')
    (inside : ep.index < w.endpoints.length) {r : Request}
    (said : .request (some ep) r ∈ w.news w') (about : r.descriptor? = some fd) :
    (w.handle ep).fd = some fd ∨
      Give caller calls ep fd ∧ (caller = some ep ∨ mid.handle ep = .owning fd) := by
  rw [turn.news, List.mem_append, Call.request_mem, Call.request_mem] at said
  obtain ⟨own, answer, mem⟩ | ⟨own, answer, mem⟩ := said
  · obtain ⟨w₀, on, begins, operation⟩ := turn.operation
    have confined := operation.confined ep own
    rw [begins.handle inside] at confined
    obtain ⟨before, after, rfl⟩ := List.append_of_mem mem
    obtain known | ⟨made, earlier, gives⟩ := confined.split about
    · exact .inl (by simpa using known)
    · exact .inr ⟨.created own (List.mem_filterMap.mpr ⟨made, by simp [earlier], gives⟩), .inl own⟩
  · cases own
    obtain ⟨fd', has, closes⟩ := turn.closing _ mem
    cases closes
    cases about
    exact (turn.origin inside has).imp_right fun ⟨give, has⟩ => ⟨give, .inr has⟩

theorem before (turn : w.Turn adopts caller calls mid gone last w')
    (has : (w'.handle ep).fd = some fd) : (mid.handle ep).fd = some fd := by
  obtain same | bare := turn.ends ep
  · rwa [← same]
  · rw [bare] at has
    cases has

theorem silent (turn : w.Turn adopts caller calls mid gone last w')
    (inside : ep.index < w.endpoints.length) (bare : (w.handle ep).fd = none)
    (ungiven : ∀ fd, Give caller calls ep fd → ¬(caller = some ep ∨ mid.handle ep = .owning fd)) :
    (w'.handle ep).fd = none ∧ ∀ r, .request (some ep) r ∈ w.news w' → r.descriptor? = none := by
  constructor
  · apply Option.eq_none_iff_forall_ne_some.mpr
    intro fd has
    obtain had | ⟨give, owns⟩ := turn.origin inside (turn.before has)
    · simp [bare] at had
    · exact ungiven fd give (.inr owns)
  · intro r said
    apply Option.eq_none_iff_forall_ne_some.mpr
    intro fd about
    obtain had | ⟨give, got⟩ := turn.about inside said about
    · simp [bare] at had
    · exact ungiven fd give got

theorem unused (turn : w.Turn adopts caller calls mid gone last w') (spares : w.Spares w')
    (give : Give caller calls ep fd) : ¬w.Open fd := by
  apply spares fd
  rw [turn.news, List.filterMap_append]
  exact List.mem_append_left _ give.handed

section

variable {x y : Endpoint} (turn : w.Turn adopts caller calls mid gone last w')
  (spares : w.Spares w') (opens : ∀ ep fd, (w.handle ep).fd = some fd → w.Open fd)

include turn spares opens

theorem unshared (thereY : y.index < w.endpoints.length) (bare : (w.handle x).fd = none)
    (owns : w'.handle x = .owning fd) (ne : y ≠ x) : (w'.handle y).fd ≠ some fd := by
  intro has
  have given : mid.handle x = .owning fd := by
    obtain same | gone := turn.ends x
    · rw [← same, owns]
    · rw [gone] at owns
      cases owns
  obtain ⟨w₀, on, begins, operation⟩ := turn.operation
  have unowned := begins.unowned bare fd
  obtain same | ⟨rfl, comes⟩ := operation.handle_cases x
  · exact unowned (same.symm.trans given)
  · rw [given] at comes
    generalize w₀.handle x = was at comes unowned
    cases comes with
    | same => exact unowned rfl
    | given give =>
      have kept := (operation.others y ne).trans (begins.handle thereY)
      exact turn.unused spares give (opens y fd (kept ▸ turn.before has))

theorem about_apart (thereX : x.index < w.endpoints.length) (apart : w.Apart x y) {r : Request}
    (said : .request (some x) r ∈ w.news w') (about : r.descriptor? = some fd) :
    (w.handle y).fd ≠ some fd := by
  intro has
  obtain had | ⟨give, _⟩ := turn.about thereX said about
  · exact apart fd had has
  · exact turn.unused spares give (opens y fd has)

theorem apart (thereX : x.index < w.endpoints.length) (thereY : y.index < w.endpoints.length)
    (ne : x ≠ y) (apart : w.Apart x y) : w'.Apart x y := by
  intro fd hasX hasY
  obtain ⟨w₀, on, begins, operation⟩ := turn.operation
  -- At most one of the two is given a descriptor, and it is not what the other has.
  by_cases here : x = on
  · have kept := (operation.others y (here ▸ ne.symm)).trans (begins.handle thereY)
    have had : (w.handle y).fd = some fd := kept ▸ turn.before hasY
    obtain old | ⟨give, _⟩ := turn.origin thereX (turn.before hasX)
    · exact apart fd old had
    · exact turn.unused spares give (opens y fd had)
  · have kept := (operation.others x here).trans (begins.handle thereX)
    have had : (w.handle x).fd = some fd := kept ▸ turn.before hasX
    obtain old | ⟨give, _⟩ := turn.origin thereY (turn.before hasY)
    · exact apart fd had old
    · exact turn.unused spares give (opens x fd had)

end

end Turn

end World

namespace Session

variable {T : Transport σ} {around : Surroundings σ} {s s' m m' : Session σ}

def Receives (ep : Endpoint) (s s' : Session σ) : Prop :=
  ∃ adopts caller calls mid gone last fd, s.world.Turn adopts caller calls mid gone last s'.world ∧
    Give caller calls ep fd ∧ (caller = some ep ∨ mid.handle ep = .owning fd)

/-- A step in which the transport hands out no descriptor that is in use. -/
def Sparing (s s' : Session σ) : Prop := s.world.Spares s'.world

theorem Orderly.opens (orderly : s.Orderly) (ep : Endpoint) (fd : Descriptor)
    (has : (s.world.handle ep).fd = some fd) : s.world.Open fd := by
  match handle : s.world.handle ep with
  | ⟨none, _⟩ => simp [handle] at has
  | ⟨some mine, false⟩ =>
    rw [handle] at has
    cases has
    exact .inr ⟨ep, handle⟩
  | ⟨some mine, true⟩ =>
    rw [handle] at has
    cases has
    have inside := World.inside_of_handle s.world (congrArg Handle.fd handle)
    have owned : 0 < s.world.owners fd := by
      refine List.countP_pos_iff.mpr ⟨_, List.getElem_mem inside, decide_eq_true ?_⟩
      simpa [World.handle, World.endpoint, inside, Handle.owning] using handle
    have balanced := orderly.balanced fd
    rw [World.surplus] at balanced
    left
    omega

theorem Advance.turn (step : Advance (.disturbed T) around s s') (orderly : s.Orderly)
    (chronicled : s.Chronicled) :
    ∃ adopts caller calls mid gone last,
      s.world.Turn adopts caller calls mid gone last s'.world := by
  cases step with
  | act verb on as =>
    obtain ⟨caller, calls, mid, gone, last, _, turn⟩ :=
      turn_act (T := T) around orderly chronicled verb on as
    exact ⟨_, caller, calls, mid, gone, last, turn⟩
  | enter =>
    exact ⟨none, none, [], s.world, ⟨0⟩, [], ⟨s.world, ⟨0⟩, .there, .refl _⟩, .refl _, by simp⟩
  | leave =>
    obtain ⟨calls, mid, last, turn⟩ := turn_leave (T := T) orderly.quiet _
    exact ⟨_, _, calls, mid, _, last, turn⟩

section

variable (orderly : s.Orderly) (chronicled : s.Chronicled)

include orderly chronicled

theorem undisturbed_silent {ep : Endpoint} (inside : ep.index < s.world.endpoints.length)
    (bare : (s.world.handle ep).fd = none)
    (run : Undisturbed (.disturbed T) around (fun a b => ¬Receives ep a b) s m) :
    (m.world.handle ep).fd = none ∧ s.world.endpoints.length ≤ m.world.endpoints.length ∧
      ∃ es, m.world.said = s.world.said ++ es ∧
        ∀ r, .request (some ep) r ∈ es → r.descriptor? = none := by
  induction run with
  | refl => exact ⟨bare, Nat.le_refl _, [], (List.append_nil _).symm, nofun⟩
  | @tail m m' run step ih =>
    obtain ⟨bare, grows, es, said, silent⟩ := ih
    have reached := Undisturbed.reach run
    obtain ⟨adopts, caller, calls, mid, gone, last, turn⟩ :=
      step.1.turn (orderly.reach reached) (chronicled.reach orderly reached)
    obtain ⟨still, quiet⟩ := turn.silent (Nat.lt_of_lt_of_le inside grows) bare fun fd give got =>
      step.2 ⟨adopts, caller, calls, mid, gone, last, fd, turn, give, got⟩
    refine ⟨still, Nat.le_trans grows turn.size, es ++ m.world.news m'.world, ?_, fun r mem => ?_⟩
    · rw [turn.news, turn.said, said, List.append_assoc]
    · cases List.mem_append.mp mem with
      | inl old => exact silent r old
      | inr new => exact quiet r new

/-- Where no descriptor is handed out that is in use, those who share none come to share none. -/
theorem undisturbed_apart {x y : Endpoint} (thereX : x.index < s.world.endpoints.length)
    (thereY : y.index < s.world.endpoints.length) (ne : x ≠ y) (apart : s.world.Apart x y)
    (run : Undisturbed (.disturbed T) around Sparing s m) :
    m.world.Apart x y ∧ s.world.endpoints.length ≤ m.world.endpoints.length := by
  -- The invariant is that the two share nothing, and that what endpoints have is in use.
  induction run with
  | refl => exact ⟨apart, Nat.le_refl _⟩
  | @tail m m' run step ih =>
    obtain ⟨apart, grows⟩ := ih
    have reached := Undisturbed.reach run
    have orderly := orderly.reach reached
    obtain ⟨_, _, _, _, _, _, turn⟩ := step.1.turn orderly (chronicled.reach ‹s.Orderly› reached)
    exact ⟨turn.apart step.2 orderly.opens (Nat.lt_of_lt_of_le thereX grows)
      (Nat.lt_of_lt_of_le thereY grows) ne apart, Nat.le_trans grows turn.size⟩

end

/-- Descriptors are used by those who have them.  Where nobody acts in the middle of requests:

* each operation is carried out by the endpoint of its object, and then the endpoint goes to
  which nothing leads any more.  The calls of each are about what it had or created on the way;
* an endpoint without a descriptor calls about none until it is given one;
* where the transport hands out no descriptor that is in use, whoever is given one shares it
  with nobody who was there, those who share none never come to share one, and so none of them
  calls about what another has. -/
theorem calls_about_own_descriptors (T : Transport σ) (around : Surroundings σ) (t : σ)
    {m : Session σ} (run : Undisturbed (.disturbed T) around anyStep (start t) m) :
    (∀ verb on as, ∃ caller calls mid gone last, m.Carrier m.world caller on ∧
      m.world.Turn verb.adopts? caller calls mid gone last
        (runStep (.disturbed T) around (.act verb on as []) m).2.world) ∧
    (∀ g : Guard, ∃ calls mid last, m.world.Turn none (some g.endpoint) calls mid g.endpoint last
      (letGo (.disturbed T) g m).2.world) ∧
    (∀ ep, ep.index < m.world.endpoints.length → (m.world.handle ep).fd = none →
      ∀ m', Undisturbed (.disturbed T) around (fun a b => ¬Receives ep a b) m m' →
        (m'.world.handle ep).fd = none ∧
          ∀ r, .request (some ep) r ∈ m.world.news m'.world → r.descriptor? = none) ∧
    (∀ m' x fd, Advance (.disturbed T) around m m' → Sparing m m' →
      (m.world.handle x).fd = none → m'.world.handle x = .owning fd →
        ∀ y, y.index < m.world.endpoints.length → y ≠ x → (m'.world.handle y).fd ≠ some fd) ∧
    ∀ x y, x.index < m.world.endpoints.length → y.index < m.world.endpoints.length → x ≠ y →
      m.world.Apart x y → ∀ m', Undisturbed (.disturbed T) around Sparing m m' →
        m'.world.Apart x y ∧
          ∀ m'', Advance (.disturbed T) around m' m'' → Sparing m' m'' →
            ∀ r fd, .request (some x) r ∈ m'.world.news m''.world → r.descriptor? = some fd →
              (m'.world.handle y).fd ≠ some fd := by
  have orderly := (Orderly.start t).reach run.reach
  have chronicled := (Chronicled.start t).reach (Orderly.start t) run.reach
  refine ⟨turn_act around orderly chronicled, turn_leave orderly.quiet, ?_, ?_, ?_⟩
  · intro ep inside bare m' unreceived
    obtain ⟨still, _, es, said, silent⟩ :=
      undisturbed_silent orderly chronicled inside bare unreceived
    rw [World.news_of_said said]
    exact ⟨still, silent⟩
  · intro m' x fd step sparing bare owns y thereY ne
    obtain ⟨_, _, _, _, _, _, turn⟩ := step.turn orderly chronicled
    exact turn.unshared sparing orderly.opens thereY bare owns ne
  · intro x y thereX thereY ne apart m' sparing
    obtain ⟨apart, grows⟩ := undisturbed_apart orderly chronicled thereX thereY ne apart sparing
    refine ⟨apart, fun m'' step spares r fd said about => ?_⟩
    have reached := sparing.reach
    have later := orderly.reach reached
    obtain ⟨_, _, _, _, _, _, turn⟩ := step.turn later (chronicled.reach orderly reached)
    exact turn.about_apart spares later.opens (Nat.lt_of_lt_of_le thereX grows) apart said about

theorem calls_about_own_descriptors_accepted :
    let L := Link.disturbed Scripted.transport
    let around : Surroundings Scripted.State := {}
    let ready := (runSteps L around
      [.act .newEndpoint none (some "listener") [],
        .act (.create .stream) (some "listener") none [],
        .act .newEndpoint none (some "peer") []] (start { outcomes := fun _ => [] })).2
    let accepted := (runStep L around (.act (.acceptInto "peer") (some "listener") none []) ready).2
    ready.world.handle ⟨0⟩ = .owning 3 ∧ accepted.world.handle ⟨1⟩ = .owning 4 ∧
      (accepted.world.handle ⟨0⟩).fd ≠ some 4 := by
  intro L around ready accepted
  have run : Undisturbed L around anyStep (start { outcomes := fun _ => [] }) ready :=
    undisturbed_runSteps L around _ rfl _
  have sparing : Sparing ready accepted := by
    have handed : (ready.world.news accepted.world).filterMap Entry.handed? = [4] := by
      decide +kernel
    intro fd mem
    rw [handed, List.mem_singleton] at mem
    subst mem
    rintro (more | ⟨⟨i⟩, has⟩)
    · revert more
      decide +kernel
    · have inside := World.inside_of_handle ready.world (congrArg Handle.fd has)
      have two : ready.world.endpoints.length = 2 := by decide +kernel
      have owned : ∀ i < 2, ready.world.handle ⟨i⟩ ≠ ⟨some 4, false⟩ := by decide +kernel
      exact owned i (two ▸ inside) has
  have apart := (calls_about_own_descriptors Scripted.transport around _ run).2.2.2.1
  have has : accepted.world.handle ⟨1⟩ = .owning 4 := by decide +kernel
  exact ⟨by decide +kernel, has, apart accepted ⟨1⟩ 4 (.act _ _ _) sparing (by decide +kernel) has
    ⟨0⟩ (by decide +kernel) (by decide)⟩

end Session

end ProcessorSockets
