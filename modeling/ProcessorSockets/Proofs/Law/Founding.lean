import ProcessorSockets.Proofs.Law.Verb
import ProcessorSockets.Session.Outcome

namespace ProcessorSockets

variable {σ α : Type}

def World.Admitted (L : Link σ) (ep : Endpoint) (w w' : World σ) : Prop :=
  ∀ law : Law σ, law.Admits L ep → law.holds w → law.keeps w w'

inductive World.Founding (L : Link σ) (w : World σ) : Option Object → World σ → Prop
  | made {h : Handle} {o : Object} {w₁ w₂ w' : World σ} (unowned : h.owned = false)
      (opened : w.Noted w₁)
      (admitted : World.Admitted L ⟨w.endpoints.length⟩ (Endpoint.make h w₁).2 w₂)
      (noted : w₂.Noted w') (base : o.base = ⟨w.endpoints.length⟩)
      (other : ∀ k, o ≠ .socket k) : Founding L w (some o) w'
  | socket {h : Handle} {w₁ : World σ} {st : SocketState} (unowned : h.owned = false)
      (opened : w.Noted w₁)
      (begins : (∃ kind, st = .fresh kind ∧ h = {}) ∨ st = .established) :
      Founding L w (some (.socket ⟨w.sockets.length, ⟨w.endpoints.length⟩⟩))
        (Socket.onto ⟨w.endpoints.length⟩ st (Endpoint.make h w₁).2).2
  | accepted {w₂ : World σ} (listener : Endpoint)
      (asked : listener.accept L ⟨w.endpoints.length⟩ (Endpoint.make {} w).2 = (.ok (), w₂)) :
      Founding L w (some (.socket ⟨w₂.sockets.length, ⟨w.endpoints.length⟩⟩))
        (Socket.onto ⟨w.endpoints.length⟩ .established w₂).2
  | failed {h : Handle} {w₁ w₂ w' : World σ} (unowned : h.owned = false) (opened : w.Noted w₁)
      (admitted : World.Admitted L ⟨w.endpoints.length⟩ (Endpoint.make h w₁).2 w₂)
      (noted : (Endpoint.discard L ⟨w.endpoints.length⟩ w₂).2.Noted w') : Founding L w none w'

variable {L : Link σ}

namespace Law

variable {law : Law σ}

theorem Admits.setUp {ep : Endpoint} (h : law.Admits L ep) (address : Address) :
    law.KeepsTraced (Server.setUp L ep address) := by
  apply KeepsTraced.andThen (.finish (h.create _))
  intro _
  apply KeepsTraced.andThen
  · apply h.guarded
    apply KeepsTraced.andThen (.finish (.bindEndpoint fun opens fd => h.bind opens fd _))
    exact fun _ => .finish (h.listen _)
  intro _
  apply KeepsTraced.andThen (.plain .handle)
  intro hd
  have ends : law.KeepsTraced (Traced.plain (World.emit .info "Server socket listening") >>=
      fun _ => pure (⟨ep, some address⟩ : Server)) :=
    .andThen (.plain (.emit _ _)) fun _ => .return' _
  split
  · exact .andThen (.note _) fun _ => ends
  · exact ends

theorem Hosts.founding (h : law.Hosts L) {object : Option Object}
    {w w' : World σ} (holds : law.holds w) (run : w.Founding L object w') : law.keeps w w' := by
  -- The law for the world with a guest is the stricter one, and says of the guest what it may do.
  have hosted {hd : Handle} {w₁ w₂ : World σ} (unowned : hd.owned = false) (opened : w.Noted w₁)
      (admitted : World.Admitted L ⟨w.endpoints.length⟩ (Endpoint.make hd w₁).2 w₂) :
      ∃ law' : Law σ, (∀ a b, law'.keeps a b → law.keeps a b) ∧
        law'.Admits L ⟨w.endpoints.length⟩ ∧ law'.Founds ∧ law'.holds w₂ ∧ law.keeps w w₂ := by
    have opens := law.noted opened
    have holds := law.stable holds opens
    obtain ⟨law', holds', weaker, admits, founds'⟩ := h.guest w₁ hd holds unowned
    have same : w₁.endpoints.length = w.endpoints.length := by
      obtain ⟨es, _, rfl⟩ := opened
      rfl
    rw [same] at admits
    have kept := admitted law' admits holds'
    exact ⟨law', weaker, admits, founds', law'.stable holds' kept,
      law.trans opens (law.trans (h.make hd unowned w₁ holds) (weaker _ _ kept))⟩
  cases run with
  | made unowned opened admitted noted base other =>
    obtain ⟨_, _, _, _, _, kept⟩ := hosted unowned opened admitted
    exact law.trans kept (law.noted noted)
  | @socket hd w₁ st unowned opened _ =>
    have nothing : World.Admitted L ⟨w.endpoints.length⟩ (Endpoint.make hd w₁).2
        (Endpoint.make hd w₁).2 := fun law _ _ => law.refl _
    obtain ⟨law', weaker, _, founds', holds', kept⟩ := hosted unowned opened nothing
    exact law.trans kept (weaker _ _ (founds'.socket ⟨w.endpoints.length⟩ st _ holds'))
  | @accepted w₂ listener asked =>
    have taken : World.Admitted L ⟨w.endpoints.length⟩ (Endpoint.make {} w).2 w₂ := by
      intro law admits holds
      have kept := admits.accepted listener _ holds
      rwa [asked] at kept
    obtain ⟨law', weaker, _, founds', holds', kept⟩ := hosted rfl (.refl w) taken
    exact law.trans kept (weaker _ _ (founds'.socket ⟨w.endpoints.length⟩ _ _ holds'))
  | failed unowned opened admitted noted =>
    obtain ⟨law', weaker, admits, _, holds', kept⟩ := hosted unowned opened admitted
    exact law.trans kept (law.trans (weaker _ _ (admits.discard _ holds')) (law.noted noted))

end Law

namespace Server

theorem endpoint_setUp (L : Link σ) (ep : Endpoint) (address : Address) :
    ∀ span w s, (setUp L ep address span w).1.1 = .ok s → s.endpoint = ep := by
  apply Traced.result_bind
  intro _
  apply Traced.result_bind
  intro _
  apply Traced.result_bind
  intro hd
  have ends : ∀ span w t, ((Traced.plain (World.emit .info "Server socket listening") >>=
      fun _ => pure (⟨ep, some address⟩ : Server) : Traced σ Server) span w).1.1 = .ok t →
      t.endpoint = ep := by
    apply Traced.result_bind
    intro _ _ _ _ ends
    cases ends
    rfl
  cases hd.fd with
  | some fd => exact Traced.result_bind fun _ => ends
  | none => exact ends

end Server

namespace Session

theorem world_made (object : α → Object) (a : Action σ α) (w : World σ) :
    (made object a w).2 = (a w).2 := by
  unfold made
  cases a w with
  | mk r w' => cases r <;> rfl

theorem run_made_ok {object : α → Object} {a : Action σ α} {w w' : World σ} {x : α}
    (h : a w = (.ok x, w')) : made object a w = ((.done, some (object x)), w') := by
  rw [made, h]

theorem run_made_error {object : α → Object} {a : Action σ α} {w w' : World σ} {e : SocketError}
    (h : a w = (.error e, w')) : made object a w = ((.failure e, none), w') := by
  rw [made, h]

end Session

namespace World.Founding

open Session (run_made_ok run_made_error)

variable (L)

theorem admitted_refl (ep : Endpoint) (w : World σ) : World.Admitted L ep w w :=
  fun law _ _ => law.refl w

theorem endpoint {h : Handle} (unowned : h.owned = false) (w : World σ) :
    w.Founding L (some (.endpoint (Endpoint.make h w).1)) (Endpoint.make h w).2 :=
  .made unowned (.refl w) (admitted_refl L _ _) (.refl _) rfl (by simp)

theorem freshSocket (kind : SocketKind) (w : World σ) :
    w.Founding L (some (.socket (Socket.fresh kind w).1)) (Socket.fresh kind w).2 :=
  Founding.socket rfl (.refl w) (.inl ⟨kind, rfl, rfl⟩)

theorem adoptSocket (fd : Descriptor) (w : World σ) :
    w.Founding L (some (.socket (Socket.adopt fd w).1)) (Socket.adopt fd w).2 :=
  Founding.socket (h := { fd := some fd }) rfl (.one w rfl) (.inr rfl)

theorem accept (s : Server) (w : World σ) :
    w.Founding L (Session.made .socket (s.accept L) w).1.2
      (Session.made .socket (s.accept L) w).2 := by
  have run := Server.run_accept L w s
  cases accepts : s.endpoint.accept L w.next (Endpoint.make {} w).2 with
  | mk r w₂ =>
    rw [accepts] at run
    have admitted : World.Admitted L w.next (Endpoint.make {} w).2 w₂ := by
      intro law admits holds
      have kept := admits.accepted s.endpoint _ holds
      rwa [accepts] at kept
    cases r with
    | ok _ =>
      rw [run_made_ok run]
      exact .accepted s.endpoint accepts
    | error e =>
      rw [run_made_error run]
      exact .failed rfl (.refl w) admitted (.refl _)

theorem adoptServer (fd : Descriptor) (w : World σ) :
    w.Founding L (Session.made .server (Server.adopt L fd) w).1.2
      (Session.made .server (Server.adopt L fd) w).2 := by
  have run := Server.run_adopt L w fd
  cases listens : w.next.listen L Limits.listenBacklog (Endpoint.make { fd := some fd } w).2 with
  | mk r w₂ =>
    rw [listens] at run
    have admitted : World.Admitted L w.next (Endpoint.make { fd := some fd } w).2 w₂ := by
      intro law admits holds
      have kept := admits.listen Limits.listenBacklog _ holds
      rwa [listens] at kept
    cases r with
    | ok _ =>
      rw [run_made_ok run]
      exact .made rfl (.refl w) admitted (.refl _) rfl (by simp)
    | error e =>
      rw [run_made_error run]
      exact .failed rfl (.refl w) admitted (.refl _)

theorem bindServer (name : String) (w : World σ) :
    w.Founding L (Session.made .server (Server.bind L name) w).1.2
      (Session.made .server (Server.bind L name) w).2 := by
  have opened : w.Noted (w.add (Entry.opening "server_bind")) := .opening w _
  let made := (Endpoint.make {} (w.add (Entry.opening "server_bind"))).2
  let span := (Span.opened "server_bind").recordAddress (Address.here name).cpu
    (Address.here name).name
  have run := Server.run_bind L w name
  cases sets : Server.setUp L w.next (.here name) span made with
  | mk r w₂ =>
    have admitted : World.Admitted L w.next made w₂ := by
      intro law admits holds
      have kept := admits.setUp (.here name) span made holds
      rwa [sets] at kept
    rw [sets] at run
    obtain ⟨r, span'⟩ := r
    cases r with
    | ok s =>
      have base := Server.endpoint_setUp L _ _ _ _ s (by rw [sets])
      rw [run_made_ok run]
      exact .made rfl opened admitted (.closing ..) base (by simp)
    | error e =>
      rw [run_made_error run]
      exact .failed rfl opened admitted (.closing ..)

end World.Founding

end ProcessorSockets
