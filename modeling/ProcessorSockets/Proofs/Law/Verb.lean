import ProcessorSockets.Proofs.Law.Stream

namespace ProcessorSockets

variable {σ α : Type}

structure Law.Bears (law : Law σ) (L : Link σ) (ep : Endpoint) : Prop where
  create : ∀ kind, law.Keeps (ep.create L kind)
  close : law.Keeps (ep.close L)

structure Law.Admits (law : Law σ) (L : Link σ) (ep : Endpoint) : Prop
    extends law.Permits L ep, law.Bears L ep where
  bind : law.Opens ep → ∀ fd a, law.Keeps (L.send (some ep) (.bind fd a))
  connect : law.Opens ep → ∀ fd a, law.Keeps (L.send (some ep) (.connect fd a))
  /-- The endpoint takes what a listener accepted. -/
  accepted : ∀ listener : Endpoint, law.Keeps (listener.accept L ep)
  discard : law.Keeps (ep.discard L)

structure Law.Retains (law : Law σ) (L : Link σ) (ep : Endpoint) : Prop
    extends law.Permits L ep where
  create : ∀ kind, law.Keeps (ep.create L kind)
  bind : law.Opens ep → ∀ fd a, law.Keeps (L.send (some ep) (.bind fd a))
  connect : law.Opens ep → ∀ fd a, law.Keeps (L.send (some ep) (.connect fd a))
  accepted : ∀ listener : Endpoint, law.Keeps (listener.accept L ep)

structure Law.Yields (law : Law σ) (L : Link σ) (ep : Endpoint) : Prop where
  shutdown : ∀ fd half, law.Keeps (L.send (some ep) (.shutdown fd half))
  close : ∀ fd, law.Keeps (L.send (some ep) (.close fd))
  bare : law.Keeps (ep.setHandle {})

structure Law.Ignores (law : Law σ) (L : Link σ) (ep : Endpoint) : Prop where
  send : ∀ r, law.Keeps (L.send (some ep) r)
  state : ∀ w st n, law.keeps w { w.setEndpoint ep st with nextStream := n }

structure Law.Listens (law : Law σ) (L : Link σ) : Prop where
  accept : ∀ listener : Endpoint, law.Opens listener → ∀ fd,
    law.Keeps (L.send (some listener) (.accept fd))
  turnAway : ∀ listener : Endpoint, law.Opens listener → ∀ fd,
    law.Keeps (L.send (some listener) (.close fd))

structure Law.AdmitsSocket (law : Law σ) (L : Link σ) (s : Socket) : Prop where
  permits : law.Permits L s.endpoint
  ensureCreated : law.Keeps (s.ensureCreated L)
  bind : ∀ a, law.Keeps (s.bind L a)
  connect : ∀ a, law.Keeps (s.connect L a)
  close : law.Keeps (s.close L)

structure Law.RetainsSocket (law : Law σ) (L : Link σ) (s : Socket) : Prop where
  permits : law.Permits L s.endpoint
  ensureCreated : law.Keeps (s.ensureCreated L)
  bind : ∀ a, law.Keeps (s.bind L a)
  connect : ∀ a, law.Keeps (s.connect L a)

structure Law.Founds (law : Law σ) : Prop where
  socket : ∀ ep st, law.Keeps (Socket.onto ep st)

/-- A law that can be kept with one endpoint more, if only as part of a stricter law. -/
structure Law.Hosts (law : Law σ) (L : Link σ) : Prop where
  make : ∀ h, h.owned = false → law.Keeps (Endpoint.make h)
  guest : ∀ w h, law.holds w → h.owned = false → ∃ law' : Law σ, law'.holds (Endpoint.make h w).2 ∧
    (∀ a b, law'.keeps a b → law.keeps a b) ∧ law'.Admits L ⟨w.endpoints.length⟩ ∧ law'.Founds

/-- A law that goes for all worlds, and that everything keeps. -/
structure Law.Pervades (law : Law σ) (L : Link σ) : Prop where
  holds : ∀ w, law.holds w
  admits : ∀ ep, law.Admits L ep
  hosts : law.Hosts L
  outside : ∀ r, law.Keeps (L.send none r)
  setSocket : ∀ w k st, law.keeps w (w.setSocket k st)
  among : ∀ w ds, law.keeps w { w with disturbances := ds }

namespace Law

variable {law : Law σ} {L : Link σ}

theorem Keeps.acceptInto {listener ep : Endpoint}
    (accept : law.Opens listener → ∀ fd, law.Keeps (L.send (some listener) (.accept fd)))
    (turnAway : law.Opens listener → ∀ fd, law.Keeps (L.send (some listener) (.close fd)))
    (setHandle : ∀ hd, law.Keeps (ep.setHandle hd)) : law.Keeps (listener.accept L ep) := by
  apply Keeps.ofTraced
  apply KeepsTraced.withDescriptor
  intro opens fd
  apply KeepsTraced.andThen (.plain .handle)
  intro _
  apply KeepsTraced.refuseIf
  apply KeepsTraced.andThen (.finish (.ask (accept opens fd)))
  intro peer
  apply KeepsTraced.andThen (.plain .handle)
  intro now
  split
  · apply KeepsTraced.andThen (.plain (.bind (turnAway opens peer) fun r => ?_))
    · exact fun _ => .refuse _
    · cases r with
      | ok _ => exact .look _
      | error _ => exact .emit _ _
  · apply KeepsTraced.andThen (.plain (setHandle _))
    intro _
    exact .andThen (.plain (.emit _ _)) fun _ => .note _

namespace Yields

variable {ep : Endpoint} (h : law.Yields L ep)

include h

theorem closeOwned (fd : Descriptor) : law.Keeps (ep.closeOwned L fd) := by
  have closes : law.Keeps (ep.ask L "close" (.close fd) >>= fun _ =>
      Action.plain (World.emit .debug "Closed descriptor")) :=
    .andThen (.ask (h.close fd)) fun _ => .plain (.emit _ _)
  apply Keeps.andThen (.plain (h.shutdown fd .both))
  intro r
  cases r with
  | ok _ => exact closes
  | error _ => exact .andThen (.plain (.emit _ _)) fun _ => closes

theorem closes : law.Keeps (ep.close L) := by
  apply Keeps.ofTraced
  apply KeepsTraced.andThen (.plain .handle)
  intro hd
  cases hd.fd with
  | none => exact .look _
  | some fd =>
    apply KeepsTraced.andThen (.plain h.bare)
    intro _
    apply KeepsTraced.andThen (.note _)
    intro _
    split
    · exact .finish (h.closeOwned fd)
    · exact .andThen (.plain (.emit _ _)) fun _ => .note _

end Yields

namespace Ignores

variable {ep : Endpoint} (h : law.Ignores L ep)

include h

theorem setHandle (hd : Handle) : law.Keeps (ep.setHandle hd) :=
  fun w _ => h.state w { w.endpoint ep with handle := hd } w.nextStream

theorem exclusively {step : StateM (World σ) α} (kept : law.Keeps step) :
    law.Keeps (ep.exclusively step) := by
  intro w hw
  have closed := h.state w { w.endpoint ep with creating := true } w.nextStream
  have during := kept _ (law.stable hw closed)
  exact law.trans closed (law.trans during (h.state _ _ _))

theorem create (kind : SocketKind) : law.Keeps (ep.create L kind) := by
  apply Keeps.ofTraced
  apply KeepsTraced.andThen (.plain .handle)
  intro _
  apply KeepsTraced.refuseIf
  apply KeepsTraced.andThen (.finish (.ofExcept _))
  intro native
  apply KeepsTraced.andThen (.finish (h.exclusively (.ask (h.send _))))
  intro fd
  apply KeepsTraced.andThen (.plain (h.setHandle _))
  intro _
  exact .andThen (.note _) fun _ => .plain (.emit _ _)

theorem yields : law.Yields L ep := ⟨fun _ _ => h.send _, fun _ => h.send _, h.setHandle {}⟩

theorem discard : law.Keeps (ep.discard L) := by
  apply Keeps.bind .handle
  intro hd
  match hd with
  | ⟨some fd, true⟩ =>
    apply Keeps.bind (h.setHandle {})
    intro _
    apply Keeps.bind (h.exclusively (h.send _))
    intro r
    cases r with
    | ok _ => exact .emit _ _
    | error _ => exact .emit _ _
  | ⟨some fd, false⟩ => exact h.setHandle {}
  | ⟨none, b⟩ => exact h.setHandle {}

theorem bears : law.Bears L ep := ⟨h.create, h.yields.closes⟩

/-- A law that minds nothing of an endpoint is kept by all that the endpoint does. -/
theorem admits (listens : law.Listens L) : law.Admits L ep where
  toBears := h.bears
  send _ r _ := h.send r
  stream w st n _ _ := h.state w st n
  bind _ _ _ := h.send _
  connect _ _ _ := h.send _
  accepted listener := .acceptInto (listens.accept listener) (listens.turnAway listener) h.setHandle
  discard := h.discard

end Ignores

theorem Keeps.release {ep : Endpoint} (close : law.Keeps (ep.close L)) :
    law.Keeps (ep.release L) := by
  apply Keeps.andThen (.plain .handle)
  intro hd
  split
  · apply Keeps.andThen (.attempt close)
    intro r
    split
    · exact .return' ()
    · exact .ofExcept r
  · exact .return' ()

theorem Keeps.closeSocket {s : Socket} (close : law.Keeps (s.endpoint.close L))
    (update : ∀ w st, law.keeps w (w.setSocket s st)) : law.Keeps (s.close L) := by
  apply Keeps.andThen (.look _)
  intro st
  split
  · exact .release close
  · exact .andThen (fun w _ => update w _) fun _ => .plain (.emit _ _)

namespace Admits

variable {ep : Endpoint} (h : law.Admits L ep)

include h

theorem release : law.Keeps (ep.release L) := .release h.close

theorem dropGuard (g : Guard) (on : g.endpoint = ep) : law.Keeps (g.discard L) := by
  subst on
  unfold Guard.discard
  split
  · apply Keeps.bind h.release
    intro r
    cases r with
    | ok _ => exact .emit _ _
    | error _ => exact .emit _ _
  · exact .look _

theorem guarded {setup : Traced σ α} (kept : law.KeepsTraced setup) :
    law.KeepsTraced (Server.guarded L ep setup) := by
  intro span w hw
  have kept := kept span w hw
  unfold Server.guarded
  generalize setup span w = answer at kept
  match answer, kept with
  | ((.ok _, _), _), kept => exact kept
  | ((.error _, _), _), kept =>
    exact law.trans kept (h.dropGuard (.around ep) rfl _ (law.stable hw kept))

theorem retains : law.Retains L ep where
  toPermits := h.toPermits
  create := h.create
  bind := h.bind
  connect := h.connect
  accepted := h.accepted

end Admits

namespace Retains

variable {ep : Endpoint} (h : law.Retains L ep)

include h

theorem socket {index : Nat}
    (update : ∀ w st, law.keeps w (w.setSocket ⟨index, ep⟩ st)) :
    law.RetainsSocket L ⟨index, ep⟩ := by
  have updates : ∀ f, law.Keeps (Socket.update (σ := σ) ⟨index, ep⟩ f) := fun f w _ => update w _
  have ensure : law.Keeps (Socket.ensureCreated L ⟨index, ep⟩) := by
    apply Keeps.andThen (.look _)
    intro st
    split
    · exact .andThen (h.create _) fun _ => updates _
    · exact .return' ()
  refine ⟨h.toPermits, ensure, ?_, ?_⟩
  · intro a
    apply Keeps.andThen ensure
    intro _
    apply Keeps.andThen (.look _)
    intro st
    have binds : law.Keeps (ep.bind L a >>= fun _ =>
        Socket.update ⟨index, ep⟩ fun st => { st with bound := true, localAddress := some a }) :=
      .andThen (.bindEndpoint fun opens fd => h.bind opens fd a) fun _ => updates _
    split
    · exact .andThen (.throw' _) fun _ => binds
    · exact binds
  · intro a
    apply Keeps.andThen (.look _)
    intro st
    have connects : law.Keeps (Socket.ensureCreated L ⟨index, ep⟩ >>= fun _ =>
        ep.connect L a 0 >>= fun _ => Socket.update ⟨index, ep⟩ fun st =>
          { st with connected := true, bound := true, remoteAddress := some a }) :=
      .andThen ensure fun _ =>
        .andThen (.connectEndpoint fun opens fd => h.connect opens fd a) fun _ => updates _
    split
    · exact .andThen (.throw' _) fun _ => connects
    · exact connects

end Retains

theorem Admits.socket {ep : Endpoint} (h : law.Admits L ep) {index : Nat}
    (update : ∀ w st, law.keeps w (w.setSocket ⟨index, ep⟩ st)) :
    law.AdmitsSocket L ⟨index, ep⟩ :=
  { h.retains.socket update with close := .closeSocket h.close update }

theorem AdmitsSocket.retains {s : Socket} (h : law.AdmitsSocket L s) : law.RetainsSocket L s :=
  { h with }

end Law

end ProcessorSockets
