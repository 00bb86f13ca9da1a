import ProcessorSockets.Proofs.Conduct.Server
import ProcessorSockets.Proofs.Session.Orderly
import ProcessorSockets.Transport.Scripted

namespace ProcessorSockets

open World (Called)

variable {σ : Type} {L : Link σ} {w w' : World σ} {ep : Endpoint} {fd : Descriptor} {name : String}

namespace World

theorem setHandle_setHandle (inside : ep.index < w.endpoints.length) (h h' : Handle) :
    (w.setHandle ep h).setHandle ep h' = w.setHandle ep h' := by
  simp [setHandle, setEndpoint, endpoint, inside]

theorem Called.setHandle {caller : Option Endpoint} {calls : List Call}
    (called : w.Called caller calls w') (ep : Endpoint) (h : Handle) :
    (w.setHandle ep h).Called caller calls (w'.setHandle ep h) where
  said := called.said
  handle other := by
    by_cases same : other = ep
    · subst same
      by_cases inside : other.index < w.endpoints.length
      · rw [handle_setHandle _ _ _ inside, handle_setHandle _ _ _ (called.size ▸ inside)]
      · have out : ¬other.index < w'.endpoints.length := called.size ▸ inside
        simp [World.handle, endpoint, World.setHandle, inside, out]
    · rw [handle_setHandle_of_ne _ _ same, handle_setHandle_of_ne _ _ same, called.handle]
  size := by simp [called.size]
  sockets := called.sockets
  disturbances := called.disturbances

/-- What becomes of an endpoint when a guard over it goes: what it owns is shut and closed, and one
that owns nothing is left as it is. -/
inductive Released (ep : Endpoint) (w : World σ) : World σ → Prop
  | closed {fd : Descriptor} {shut reply : Except NativeError Unit} {w' : World σ}
      (owns : w.handle ep = .owning fd)
      (called : (w.setHandle ep {}).Called (some ep)
        [⟨.shutdown fd .both, shut⟩, ⟨.close fd, reply⟩] w') : Released ep w w'
  | left {w' : World σ} (unowned : ∀ fd, w.handle ep ≠ .owning fd) (noted : w.Noted w') :
      Released ep w w'

theorem Released.unowned (released : w.Released ep w') (fd : Descriptor) :
    w'.handle ep ≠ .owning fd := by
  cases released with
  | closed owns called =>
    rw [called.handle, handle_setHandle_bare]
    simp [Handle.owning]
  | left unowned noted =>
    rw [noted.handle]
    exact unowned fd

theorem Released.ofOwning (released : w.Released ep w') (owns : w.handle ep = .owning fd) :
    ∃ shut reply, (w.setHandle ep {}).Called (some ep)
      [⟨.shutdown fd .both, shut⟩, ⟨.close fd, reply⟩] w' := by
  cases released with
  | left unowned => exact absurd owns (unowned fd)
  | closed owns' called =>
    cases owns.symm.trans owns'
    exact ⟨_, _, called⟩

end World

theorem Guard.released (straight : L.Straight) (quiet : w.disturbances = []) (ep : Endpoint) :
    w.Released ep ((Guard.around ep).discard L w).2 := by
  have noted := Endpoint.noted_guard (L := L) (g := .around ep) rfl w
  rw [Endpoint.world_release] at noted
  split at noted
  case isFalse unowned =>
    refine .left (fun fd owns => unowned ?_) noted
    change (w.handle ep).owned = true
    rw [owns]
    rfl
  case isTrue owned =>
    change (w.handle ep).owned = true at owned
    change (ep.close L w).2.Noted _ at noted
    have run := Endpoint.closing L ep w
    generalize ep.close L w = result at run noted
    cases run with
    | closed bare opened =>
      refine .left (fun fd owns => ?_) (opened.trans noted)
      rw [owns] at bare
      cases bare
    | @owned fd w₁ w₂ w₃ r has opened closed ends =>
      obtain ⟨shut, reply, _, called⟩ :=
        ep.called_closeOwned straight (w := w₁.setHandle ep {}) fd (opened.quiet quiet)
      rw [closed] at called
      have all := ((Called.noted opened).setHandle ep {}).trans ((called.after ends).after noted)
      exact .closed has all
    | detached has =>
      rw [has] at owned
      cases owned

namespace Call

/-- How a server comes by a descriptor that listens on an address.  After the first failure no more
is tried, and what there is of a descriptor is shut and closed, however that goes. -/
inductive Founds (a : Address) : List Call → Except SocketError Descriptor → Prop
  | uncreated {e : NativeError} : Founds a [⟨.create 1 0, .error e⟩] (.error (.native "create" e))
  | failed {fd : Descriptor} {calls : List Call} {e : SocketError}
      {shut reply : Except NativeError Unit} (listens : Listens fd a calls (.error e)) :
      Founds a (⟨.create 1 0, .ok fd⟩ :: calls ++ [⟨.shutdown fd .both, shut⟩, ⟨.close fd, reply⟩])
        (.error e)
  | listening {fd : Descriptor} {calls : List Call} (listens : Listens fd a calls (.ok ())) :
      Founds a (⟨.create 1 0, .ok fd⟩ :: calls) (.ok fd)

end Call

def Handle.ofCreated : Except SocketError Descriptor → Handle
  | .ok fd => .owning fd
  | .error _ => {}

namespace Server

variable (straight : L.Straight) (quiet : w.disturbances = [])

include straight quiet

theorem founds_setUp (inside : ep.index < w.endpoints.length) (bare : w.handle ep = {})
    (a : Address) (span : Span) :
    ∃ calls r, Call.Founds a calls r ∧
      (setUp L ep a span w).1.1 = r.map (fun _ => ⟨ep, some a⟩) ∧
      (w.setHandle ep (.ofCreated r)).Called (some ep) calls (setUp L ep a span w).2 := by
  have creates := Endpoint.creation L ep .stream w
  generalize created : ep.create L .stream w = result at creates
  cases creates with
  | taken has =>
    rw [bare] at has
    cases has
  | senseless _ unknown => cases unknown
  | @refused native e w₁ w₂ w₃ _ known opened asked noted =>
    cases known
    have called := ((ep.called_exclusively straight (opened.quiet quiet) asked).after noted).before
      opened
    rw [setUp, Traced.run_bind, Traced.run_finish, created]
    refine ⟨_, _, .uncreated, rfl, ?_⟩
    rw [Handle.ofCreated, ← bare, World.setHandle_self]
    exact called
  | @made native fd w₁ w₂ w₃ _ known opened asked noted =>
    cases known
    have called := (((ep.called_exclusively straight (opened.quiet quiet) asked).before
      opened).setHandle ep (.owning fd)).after noted
    have has : w₃.handle ep = .owning fd := by
      rw [called.handle, World.handle_setHandle _ _ _ inside]
    have settled := settled_setUp straight a span created
      (called.quiet (w := w.setHandle ep (.owning fd)) quiet) (congrArg Handle.fd has)
    generalize setUp L ep a span w = run at settled ⊢
    cases settled with
    | listening called' listens announced =>
      exact ⟨_, .ok fd, .listening listens, rfl, (called.trans called').after announced⟩
    | guarded called' listens =>
      have all := called.trans called'
      have still := all.quiet (w := w.setHandle ep (.owning fd)) quiet
      obtain ⟨shut, reply, cleans⟩ :=
        (Guard.released straight still ep).ofOwning ((called'.handle ep).trans has)
      have cleaned := (all.setHandle ep {}).trans cleans
      rw [World.setHandle_setHandle inside] at cleaned
      exact ⟨_, .error _, .failed listens, rfl, cleaned⟩

theorem founds_bind (name : String) :
    ∃ calls r, Call.Founds (.here name) calls r ∧
      (Server.bind L name w).1 = r.map (fun _ => ⟨w.next, some (.here name)⟩) ∧
      (Server.bind L name w).2.said = w.said ++ calls.flatMap (·.entries (some w.next)) ∧
      ∀ x, (Server.bind L name w).2.handle x = if x = w.next then .ofCreated r else w.handle x := by
  let opened := w.add (Entry.opening "server_bind")
  let made := (Endpoint.make {} opened).2
  have inside : w.next.index < made.endpoints.length :=
    World.inside_make {} opened
  have bare : made.handle w.next = {} := by
    rw [World.handle_make]
    exact if_pos rfl
  obtain ⟨calls, r, founds, result, called⟩ := founds_setUp straight (w := made) quiet inside bare
    (.here name)
    ((Span.opened "server_bind").recordAddress (Address.here name).cpu (Address.here name).name)
  generalize sets : setUp L w.next (.here name) _ made = set at result called
  obtain ⟨⟨s, span⟩, w₁⟩ := set
  cases result
  have run : Server.bind L name w = (r.map fun _ => ⟨w.next, some (.here name)⟩,
      w₁.add (Entry.closing "server_bind" span (L.elapsed opened w₁))) := by
    rw [run_bind, sets]
    cases r with
    | ok fd => rfl
    | error e =>
      have none : w₁.handle w.next = {} :=
        (called.handle w.next).trans (World.handle_setHandle_bare made w.next)
      dsimp only [Except.map]
      rw [Endpoint.discard_bare none]
  have all := called.after (.closing w₁ "server_bind" span (L.elapsed opened w₁))
  rw [run]
  refine ⟨calls, r, founds, rfl, ?_, fun x => ?_⟩
  · refine all.said.trans (congrArg (· ++ _) ?_)
    exact World.said_notes w (by simp [Entry.opening, Entry.isNote])
  · refine (all.handle x).trans ?_
    split
    case isTrue new => rw [new, World.handle_setHandle _ _ _ inside]
    case isFalse old =>
      rw [World.handle_setHandle_of_ne _ _ old, World.handle_make]
      exact if_neg old

end Server

open Session (Reach runSteps start)

/-- A server that is made listens by three calls, and of one that is not made nothing is left: the
descriptor that it got is shut and closed, once.  A guard that was not committed does so with what
its endpoint owns, whatever was done meanwhile, and one that was committed does nothing. -/
theorem setup_all_or_nothing (T : Transport σ) :
    (∀ (w : World σ) (name : String), w.disturbances = [] →
      let bound := Server.bind (.disturbed T) name w
      ∃ calls r, Call.Founds (.here name) calls r ∧
        bound.1 = r.map (fun _ => ⟨w.next, some (.here name)⟩) ∧
        bound.2.said = w.said ++ calls.flatMap (·.entries (some w.next)) ∧
        ∀ x, bound.2.handle x = if x = w.next then .ofCreated r else w.handle x) ∧
    ∀ (around : Session.Surroundings σ) (t : σ) (m : Session σ) (on : String) (ep : Endpoint)
      (steps : List Session.Step), Reach (.disturbed T) around (start t) m →
        m.find? on = some (.endpoint ep) →
      let inside := (runSteps (.disturbed T) around steps { m with held := ep :: m.held }).2.world
      let gone := ((Guard.around ep).discard (.disturbed T) inside).2
      inside.Released ep gone ∧ (∀ fd, gone.handle ep ≠ .owning fd) ∧
        (Guard.around ep).commit.discard (.disturbed T) inside = ((), inside) := by
  constructor
  · intro w name quiet
    exact Server.founds_bind (Link.straight_disturbed T) quiet name
  · intro around t m on ep steps reached found inside gone
    have entered := (reached.enter found).trans
      (Session.reach_runSteps (.disturbed T) around steps { m with held := ep :: m.held }).1
    have released := Guard.released (Link.straight_disturbed T)
      ((Session.Orderly.start t).reach entered).quiet ep
    exact ⟨released, released.unowned, Guard.discard_commit (.disturbed T) (.around ep) inside⟩

theorem setup_all_or_nothing_reopened :
    let script : Scripted.State := { outcomes := fun
      | .bind => [.failure (.os 98)]
      | .shutdown => [.failure (.os 107)]
      | .close => [.failure (.os 5)]
      | _ => [] }
    let bound := Server.bind (.disturbed Scripted.transport) "svc" { transport := script }
    let m := (runSteps (.disturbed Scripted.transport) {} [.act .newEndpoint none (some "a") [],
      .act (.create .stream) (some "a") none []] (start { outcomes := fun _ => [] })).2
    let inside := (runSteps (.disturbed Scripted.transport) {} [.act .close (some "a") none [],
      .act (.create .stream) (some "a") none []] { m with held := ⟨0⟩ :: m.held }).2.world
    (∃ calls, Call.Founds (.here "svc") calls (.error (.native "bind" (.os 98))) ∧
      bound.2.said = calls.flatMap (·.entries (some ⟨0⟩))) ∧
    inside.handle ⟨0⟩ = .owning 4 ∧
      inside.Released ⟨0⟩
        ((Guard.around ⟨0⟩).discard (.disturbed Scripted.transport) inside).2 := by
  intro script bound m inside
  have claims := setup_all_or_nothing Scripted.transport
  have reached : Reach (.disturbed Scripted.transport) {} (start { outcomes := fun _ => [] }) m :=
    (Session.reach_runSteps (.disturbed Scripted.transport) {} _ _).1
  have found : m.find? "a" = some (.endpoint ⟨0⟩) := by decide +kernel
  refine ⟨?_, by decide +kernel, (claims.2 {} _ m "a" ⟨0⟩ _ reached found).1⟩
  obtain ⟨calls, r, founds, result, said, _⟩ := claims.1 { transport := script } "svc" rfl
  have fails : bound.1 = .error (.native "bind" (.os 98)) := rfl
  cases r with
  | ok fd => cases fails.symm.trans result
  | error e =>
    cases fails.symm.trans result
    exact ⟨calls, founds, said⟩

end ProcessorSockets
