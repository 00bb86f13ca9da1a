import ProcessorSockets.Proofs.Law.Elsewhere

namespace ProcessorSockets

variable {σ : Type}

namespace World

/-- An endpoint keeps its handle, and nobody means to do more to it than before. -/
structure Retains (ep : Endpoint) (w w' : World σ) : Prop where
  handle : w'.handle ep = w.handle ep
  creating : (w'.endpoint ep).creating = (w.endpoint ep).creating
  size : w.endpoints.length ≤ w'.endpoints.length
  deeds : ∀ d ∈ w'.disturbances, ∃ d₀ ∈ w.disturbances, d.deed = d₀.deed

structure Forgoes (ep : Endpoint) (w w' : World σ) : Prop where
  handle : w'.handle ep = w.handle ep ∨ w'.handle ep = {}
  deeds : ∀ d ∈ w'.disturbances, ∃ d₀ ∈ w.disturbances, d.deed = d₀.deed

/-- An endpoint keeps its handle, and neither says nor hears anything. -/
structure Aloof (ep : Endpoint) (w w' : World σ) : Prop extends World.Retains ep w w' where
  talk : w'.talk ep = w.talk ep

variable {ep : Endpoint} {w w' w'' : World σ}

namespace Retains

theorem refl (w : World σ) : w.Retains ep w := ⟨rfl, rfl, Nat.le_refl _, fun d mem => ⟨d, mem, rfl⟩⟩

theorem trans (first : w.Retains ep w') (second : w'.Retains ep w'') : w.Retains ep w'' where
  handle := second.handle.trans first.handle
  creating := second.creating.trans first.creating
  size := Nat.le_trans first.size second.size
  deeds d mem := by
    obtain ⟨d', mem', same'⟩ := second.deeds d mem
    obtain ⟨d₀, mem₀, same⟩ := first.deeds d' mem'
    exact ⟨d₀, mem₀, same'.trans same⟩

end Retains

namespace Forgoes

theorem refl (w : World σ) : w.Forgoes ep w := ⟨.inl rfl, fun d mem => ⟨d, mem, rfl⟩⟩

theorem trans (first : w.Forgoes ep w') (second : w'.Forgoes ep w'') : w.Forgoes ep w'' where
  handle := by
    cases second.handle with
    | inl same => exact same ▸ first.handle
    | inr bare => exact .inr bare
  deeds d mem := by
    obtain ⟨d', mem', same'⟩ := second.deeds d mem
    obtain ⟨d₀, mem₀, same⟩ := first.deeds d' mem'
    exact ⟨d₀, mem₀, same'.trans same⟩

end Forgoes

theorem Retains.forgoes (h : w.Retains ep w') : w.Forgoes ep w' := ⟨.inl h.handle, h.deeds⟩

namespace Aloof

theorem refl (w : World σ) : w.Aloof ep w := ⟨.refl w, rfl⟩

theorem trans (first : w.Aloof ep w') (second : w'.Aloof ep w'') : w.Aloof ep w'' :=
  ⟨first.toRetains.trans second.toRetains, second.talk.trans first.talk⟩

theorem add (w : World σ) {es : List Entry} (others : ∀ e ∈ es, e.caller? ≠ some ep) :
    w.Aloof ep (w.add es) :=
  { refl w with
    talk := by
      rw [talk_add, List.filter_eq_nil_iff.mpr fun e mem => by simpa using others e mem,
        List.append_nil] }

theorem notes (w : World σ) {es : List Entry} (notes : ∀ e ∈ es, e.isNote = true) :
    w.Aloof ep (w.add es) :=
  add w fun e mem => by simp [Entry.caller?_of_isNote (notes e mem)]

theorem noted (noted : w.Noted w') : w.Aloof ep w' := by
  obtain ⟨es, all, rfl⟩ := noted
  exact notes w all

theorem setEndpoint (w : World σ) (other : Endpoint) (st : EndpointState) (n : Nat)
    (same : other = ep → st.handle = w.handle ep ∧ st.creating = (w.endpoint ep).creating) :
    w.Aloof ep { w.setEndpoint other st with nextStream := n } := by
  have state : ((w.setEndpoint other st).endpoint ep).handle = w.handle ep ∧
      ((w.setEndpoint other st).endpoint ep).creating = (w.endpoint ep).creating := by
    rw [endpoint_setEndpoint]
    split
    case isTrue is => exact same is.1.symm
    case isFalse => exact ⟨rfl, rfl⟩
  exact { refl w with
    handle := state.1
    creating := state.2
    size := Nat.le_of_eq (length_endpoints_setEndpoint w other st).symm }

theorem make (inside : ep.index < w.endpoints.length) (hd : Handle) :
    w.Aloof ep (Endpoint.make hd w).2 := by
  have same := endpoint_make_of_inside inside hd
  exact { refl w with
    handle := congrArg EndpointState.handle same
    creating := congrArg EndpointState.creating same
    size := by simp [Endpoint.make] }

theorem waiting (w : World σ) (depth : Nat) (m : Method) : w.Aloof ep (w.waiting depth m) :=
  { refl w with deeds := fun _ mem => deed_waiting mem }

end Aloof

end World

namespace Law

/-- Of an endpoint that owns a descriptor, and that others try to make one for at most. -/
def retained (ep : Endpoint) : Law σ where
  holds w := (∃ fd, w.handle ep = .owning fd) ∧
    ∀ d ∈ w.disturbances, d.deed.target = ep → ∃ kind, d.deed = .create ep kind
  keeps := World.Retains ep
  refl := .refl
  trans := .trans
  stable := by
    intro w w' ⟨owns, creates⟩ kept
    refine ⟨kept.handle ▸ owns, fun d mem own => ?_⟩
    obtain ⟨d₀, mem₀, same⟩ := kept.deeds d mem
    rw [same] at own ⊢
    exact creates d₀ mem₀ own
  note w _ notes := (World.Aloof.notes w notes).toRetains

def secure (ep : Endpoint) : Law σ where
  holds := (retained ep).holds
  keeps := World.Aloof ep
  refl := .refl
  trans := .trans
  stable holds kept := (retained ep).stable holds kept.toRetains
  note w _ notes := .notes w notes

def aloof (ep : Endpoint) : Law σ where
  holds w := ep.index < w.endpoints.length ∧ w.handle ep = {} ∧
    ((w.endpoint ep).creating = true ∨ ∀ d ∈ w.disturbances, d.deed.target ≠ ep)
  keeps := World.Aloof ep
  refl := .refl
  trans := .trans
  stable := by
    intro w w' ⟨inside, bare, spared⟩ kept
    refine ⟨Nat.lt_of_lt_of_le inside kept.size, kept.handle.trans bare, ?_⟩
    rw [kept.creating]
    refine spared.imp id fun spared d mem => ?_
    obtain ⟨d₀, mem₀, same⟩ := kept.deeds d mem
    rw [same]
    exact spared d₀ mem₀
  note w _ notes := .notes w notes

def unowned (ep : Endpoint) : Law σ where
  holds w := (∀ fd, w.handle ep ≠ .owning fd) ∧
    ∀ d ∈ w.disturbances, ∀ kind, d.deed ≠ .create ep kind
  keeps := World.Forgoes ep
  refl := .refl
  trans := .trans
  stable := by
    intro w w' ⟨unowned, spared⟩ kept
    constructor
    · intro fd owns
      cases kept.handle with
      | inl same => exact unowned fd (same.symm.trans owns)
      | inr bare => exact nomatch bare.symm.trans owns
    · intro d mem kind
      obtain ⟨d₀, mem₀, same⟩ := kept.deeds d mem
      rw [same]
      exact spared d₀ mem₀ kind
  note w _ notes := (World.Aloof.notes w notes).forgoes

end Law

namespace Retained

variable {ep : Endpoint} {w : World σ} {L : Link σ} {T : Transport σ}
  {meanwhile : Method → StateM (World σ) Unit}

theorem inside (holds : (Law.retained ep).holds w) : ep.index < w.endpoints.length := by
  obtain ⟨fd, has⟩ := holds.1
  exact w.inside_of_handle (congrArg Handle.fd has)

theorem not_bare (holds : (Law.retained ep).holds w) : (w.handle ep).fd ≠ none := by
  obtain ⟨fd, has⟩ := holds.1
  rw [has]
  nofun

theorem leaves : (Law.retained (σ := σ) ep).Leaves ep where
  entry w _ _ := { World.Retains.refl w with }
  transport w _ := { World.Retains.refl w with }
  state w other st n ne := (World.Aloof.setEndpoint w other st n fun is => absurd is ne).toRetains

theorem founds : (Law.retained (σ := σ) ep).Founds where
  socket _ _ w _ := { World.Retains.refl w with }

theorem setSocket (w : World σ) (s : Socket) (st : SocketState) : w.Retains ep (w.setSocket s st) :=
  { World.Retains.refl w with }

theorem aloof_create (kind : SocketKind) (holds : (Law.retained ep).holds w) :
    w.Aloof ep (ep.create L kind w).2 := by
  have creation := Endpoint.creation L ep kind w
  generalize ep.create L kind w = answer at creation
  cases creation with
  | taken _ noted => exact .noted noted
  | senseless bare _ _ => exact absurd bare (not_bare holds)
  | refused bare _ _ _ _ => exact absurd bare (not_bare holds)
  | made bare _ _ _ _ => exact absurd bare (not_bare holds)

theorem create (kind : SocketKind) : (Law.retained ep).Keeps (ep.create L kind) :=
  fun _ holds => (aloof_create kind holds).toRetains

theorem accepted (listener : Endpoint) : (Law.retained ep).Keeps (listener.accept L ep) := by
  intro w holds
  have acceptance := Endpoint.acceptance L listener ep w
  generalize listener.accept L ep w = answer at acceptance
  cases acceptance with
  | closed _ noted => exact (World.Aloof.noted noted).toRetains
  | taken _ _ noted => exact (World.Aloof.noted noted).toRetains
  | refused _ bare _ _ _ => exact absurd bare (not_bare holds)
  | overtaken _ bare _ _ _ _ => exact absurd bare (not_bare holds)
  | made _ bare _ _ _ _ => exact absurd bare (not_bare holds)

theorem secure_leaves : (Law.secure (σ := σ) ep).Leaves ep where
  entry w e other := .add w (by simpa using other)
  transport w t := { World.Aloof.refl w with }
  state w other st n ne := .setEndpoint w other st n fun is => absurd is ne

/-- Others do nothing to it, and say nothing for it. -/
theorem secure_interrupt (m : Method) : (Law.secure ep).Keeps (World.interrupt T m) := by
  refine .interrupt (fun between depth m => .disturb fun w holds => ?_) m
  have waits : w.Aloof ep (w.waiting depth m) := .waiting w depth m
  refine ⟨waits, Law.secure ep, (Law.secure ep).stable holds waits, fun _ _ kept => kept,
    fun d mem _ => ?_⟩
  -- To the endpoint itself others can at most try to give a descriptor, and it has one.
  by_cases own : d.deed.target = ep
  · obtain ⟨kind, creates⟩ := holds.2 d mem own
    rw [creates]
    exact fun _ holds => aloof_create kind holds
  · apply (secure_leaves.ignores between own).bears.perform
    exact fun s w st _ => { World.Aloof.refl w with }

theorem interrupt (m : Method) : (Law.retained ep).Keeps (World.interrupt T m) :=
  fun w holds => (secure_interrupt m w holds).toRetains

theorem send (caller : Option Endpoint) (r : Request) :
    (Law.retained ep).Keeps ((Link.disturbed T).send caller r) :=
  .send (interrupt _) (fun w => { World.Retains.refl w with })
    (fun w _ => { World.Retains.refl w with }) fun w _ => { World.Retains.refl w with }

/-- What an endpoint does that has a descriptor does not lose it, but for closing it. -/
theorem retains : (Law.retained ep).Retains (.disturbed T) ep where
  send _ r _ := send (some ep) r
  stream w st n handle creating :=
    (World.Aloof.setEndpoint w ep st n fun _ => ⟨handle, creating⟩).toRetains
  create := create
  bind _ _ _ := send _ _
  connect _ _ _ := send _ _
  accepted := accepted

theorem admits {other : Endpoint} (ne : other ≠ ep) :
    (Law.retained ep).Admits (.disturbed T) other :=
  leaves.admits interrupt (fun _ _ => ⟨send _ _, send _ _⟩) ne

theorem hosts : (Law.retained ep).Hosts (.disturbed T) :=
  leaves.hosts interrupt (fun _ _ => ⟨send _ _, send _ _⟩) (fun _ holds => inside holds)
    (fun hd _ holds => (World.Aloof.make (inside holds) hd).toRetains) founds

end Retained

namespace Aloof

variable {ep : Endpoint} {w : World σ} {T : Transport σ}

theorem not_opens : ¬(Law.aloof (σ := σ) ep).Opens ep := by
  intro ⟨w, fd, ⟨_, bare, _⟩, has⟩
  rw [bare] at has
  cases has

theorem leaves : (Law.aloof (σ := σ) ep).Leaves ep where
  entry := Retained.secure_leaves.entry
  transport := Retained.secure_leaves.transport
  state := Retained.secure_leaves.state

theorem founds : (Law.aloof (σ := σ) ep).Founds where
  socket _ _ w _ := { World.Aloof.refl w with }

theorem setSocket (w : World σ) (s : Socket) (st : SocketState) : w.Aloof ep (w.setSocket s st) :=
  { World.Aloof.refl w with }

theorem interrupt (m : Method) : (Law.aloof ep).Keeps (World.interrupt T m) := by
  refine .interrupt (fun between depth m => .disturb fun w holds => ?_) m
  have waits : w.Aloof ep (w.waiting depth m) := .waiting w depth m
  refine ⟨waits, Law.aloof ep, (Law.aloof ep).stable holds waits, fun _ _ kept => kept,
    fun d mem due => ?_⟩
  have other : d.deed.target ≠ ep := by
    intro own
    cases holds.2.2 with
    | inl waiting => simp [Disturbance.due, own, waiting] at due
    | inr spared => exact spared d mem own
  apply (leaves.ignores between other).bears.perform
  exact fun s w st _ => setSocket w s st

theorem outside (r : Request) : (Law.aloof ep).Keeps ((Link.disturbed T).send none r) :=
  leaves.send interrupt (Option.some_ne_none ep).symm r

theorem admits {other : Endpoint} (ne : other ≠ ep) : (Law.aloof ep).Admits (.disturbed T) other :=
  leaves.admits interrupt (fun opens => (not_opens opens).elim) ne

theorem hosts : (Law.aloof ep).Hosts (.disturbed T) :=
  leaves.hosts interrupt (fun opens => (not_opens opens).elim) (fun _ holds => holds.1)
    (fun hd _ holds => .make holds.1 hd) founds

theorem respond (ep : Endpoint) (r : Request) (w : World σ) :
    w.Retains ep (T.respond (some ep) r w).2 ∧ (T.respond (some ep) r w).2.talk ep =
      w.talk ep ++ [.reply (some ep) r (T.respond (some ep) r w).1] := by
  rw [T.run_respond]
  refine ⟨{ World.Retains.refl w with }, ?_⟩
  have noted (w : World σ) (ns : List Note) : w.Aloof ep (w.add (ns.map Note.entry)) :=
    .notes w (by simp)
  rw [World.talk_add, (noted ..).talk]
  simp [Entry.caller?, World.talk]

/-- What comes of a request during which nobody gets at the endpoint, whatever others do. -/
theorem exclusively (inside : ep.index < w.endpoints.length) (bare : w.handle ep = {})
    (r : Request) :
    let run := ep.exclusively ((Link.disturbed T).send (some ep) r) w
    run.2.handle ep = w.handle ep ∧
      run.2.talk ep = w.talk ep ++ [.request (some ep) r, .reply (some ep) r run.1] := by
  let asked := (w.setCreating ep true).add [.request (some ep) r]
  have closed : (Law.aloof ep).holds asked := by
    refine ⟨?_, (World.handle_setCreating ..).trans bare, .inl ?_⟩
    · rwa [World.endpoints_add, World.length_endpoints_setCreating]
    · rw [World.endpoint_add, World.creating_setCreating, if_pos ⟨rfl, inside⟩]
  have requested : asked.talk ep = w.talk ep ++ [.request (some ep) r] := by
    rw [World.talk_add]
    simp [Entry.caller?, World.talk, World.setCreating, World.setEndpoint]
  have met := interrupt (T := T) r.method asked closed
  have answered := respond (T := T) ep r (World.interrupt T r.method asked).2
  rw [Endpoint.run_exclusively]
  constructor
  · rw [World.handle_setCreating]
    exact (answered.1.handle.trans met.handle).trans (World.handle_setCreating ..)
  · refine answered.2.trans ?_
    rw [met.talk, requested, List.append_assoc]
    rfl

end Aloof

namespace Unowned

variable {ep : Endpoint} {w : World σ} {T : Transport σ}
  {meanwhile : Method → StateM (World σ) Unit}

theorem leaves : (Law.unowned (σ := σ) ep).Leaves ep where
  entry w _ _ := { World.Forgoes.refl w with }
  transport w _ := { World.Forgoes.refl w with }
  state w other st n ne := (World.Aloof.setEndpoint w other st n fun is => absurd is ne).forgoes

theorem setSocket (w : World σ) (s : Socket) (st : SocketState) :
    w.Forgoes ep (w.setSocket s st) := { World.Forgoes.refl w with }

theorem yields (between : ∀ m, (Law.unowned ep).Keeps (meanwhile m)) :
    (Law.unowned ep).Yields (.via T meanwhile) ep := by
  have send (r : Request) : (Law.unowned ep).Keeps ((Link.via T meanwhile).send (some ep) r) :=
    .send (between _) (fun w => { World.Forgoes.refl w with })
      (fun w _ => { World.Forgoes.refl w with }) fun w _ => { World.Forgoes.refl w with }
  refine ⟨fun _ _ => send _, fun _ => send _, fun w _ => ⟨.inr ?_, fun d mem => ⟨d, mem, rfl⟩⟩⟩
  exact World.handle_setHandle_bare w ep

theorem perform (between : ∀ m, (Law.unowned ep).Keeps (meanwhile m)) {d : Deed}
    (other : ∀ kind, d ≠ .create ep kind) :
    (Law.unowned ep).Keeps (d.perform (.via T meanwhile)) := by
  by_cases own : d.target = ep
  · subst own
    have closes : (Law.unowned d.target).Keeps (d.target.close (.via T meanwhile)) :=
      (yields between).closes
    cases d with
    | create ep kind => exact absurd rfl (other kind)
    | close ep => exact closes
    | release ep => exact .release closes
    | closeSocket s => exact .closeSocket closes fun w st => setSocket w s st
  · apply (leaves.ignores between own).bears.perform
    exact fun s w st _ => setSocket w s st

theorem interrupt (m : Method) : (Law.unowned ep).Keeps (World.interrupt T m) := by
  refine .interrupt (fun between depth m => .disturb fun w holds => ?_) m
  have waits : w.Forgoes ep (w.waiting depth m) := (World.Aloof.waiting w depth m).forgoes
  exact ⟨waits, Law.unowned ep, (Law.unowned ep).stable holds waits, fun _ _ kept => kept,
    fun d mem _ => perform between (holds.2 d mem)⟩

theorem close (spared : ∀ d ∈ w.disturbances, ∀ kind, d.deed ≠ .create ep kind)
    (fd : Descriptor) : (ep.close (.disturbed T) w).2.handle ep ≠ .owning fd := by
  have closing := Endpoint.closing (.disturbed T) ep w
  generalize ep.close (.disturbed T) w = answer at closing
  cases closing with
  | closed bare noted =>
    rw [noted.handle]
    exact fun owns => nomatch bare.symm.trans (congrArg Handle.fd owns)
  | @owned old w₁ w₂ _ r _ opened closed noted =>
    have bare := World.handle_setHandle_bare w₁ ep
    have holds : (Law.unowned ep).holds (w₁.setHandle ep {}) := by
      obtain ⟨_, _, rfl⟩ := opened
      exact ⟨fun fd owns => (nomatch bare.symm.trans owns), spared⟩
    have closes : (Law.unowned ep).Keeps (ep.closeOwned (.disturbed T) old) :=
      (yields interrupt).closeOwned old
    have after := ((Law.unowned ep).stable holds (closes _ holds)).1 fd
    rw [noted.handle]
    rwa [closed] at after
  | @detached _ w₁ _ _ _ noted =>
    rw [noted.handle, World.handle_setHandle_bare w₁ ep]
    nofun

theorem release (spared : ∀ d ∈ w.disturbances, ∀ kind, d.deed ≠ .create ep kind)
    (fd : Descriptor) : (ep.release (.disturbed T) w).2.handle ep ≠ .owning fd := by
  rw [Endpoint.world_release]
  split
  case isTrue => exact close spared fd
  case isFalse unowned =>
    intro owns
    exact unowned (congrArg Handle.owned owns)

end Unowned

end ProcessorSockets
