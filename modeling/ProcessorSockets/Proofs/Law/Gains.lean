import ProcessorSockets.Proofs.Law.Growth
import ProcessorSockets.Proofs.Law.Retained

namespace ProcessorSockets

variable {σ : Type}

inductive Entry.Gives (ep : Endpoint) (fd : Descriptor) : Entry → Prop
  | created (type protocol : Int) : Gives ep fd (.reply (some ep) (.create type protocol) (.ok fd))
  | accepted (listener : Endpoint) (lfd : Descriptor) :
      Gives ep fd (.reply (some listener) (.accept lfd) (.ok fd))

def World.Gains (ep : Endpoint) (w w' : World σ) : Prop :=
  ∃ es, w'.log = w.log ++ es ∧ ∀ fd, w'.handle ep = .owning fd →
    w.handle ep = .owning fd ∨ ∃ e ∈ es, e.Gives ep fd

namespace World

variable {ep : Endpoint} {fd : Descriptor} {w w' w'' : World σ}

theorem Heard.gives {r : Request} {answer : Except NativeError r.Reply}
    (heard : w.Heard ep r answer w') : ∃ es, w'.log = w.log ++ es ∧
      .reply (some ep) r answer ∈ es := by
  obtain ⟨during, after, log⟩ := heard
  exact ⟨_, log.trans (List.append_assoc ..), by simp⟩

namespace Gains

theorem of_same (grows : w.log <+: w'.log) (same : w'.handle ep = w.handle ep) :
    w.Gains ep w' := by
  obtain ⟨es, log⟩ := grows
  exact ⟨es, log.symm, fun fd owns => .inl (same.symm.trans owns)⟩

theorem of_unowned (grows : w.log <+: w'.log) (unowned : ∀ fd, w'.handle ep ≠ .owning fd) :
    w.Gains ep w' := by
  obtain ⟨es, log⟩ := grows
  exact ⟨es, log.symm, fun fd owns => absurd owns (unowned fd)⟩

theorem grows (h : w.Gains ep w') : w.log <+: w'.log := by
  obtain ⟨es, log, _⟩ := h
  exact ⟨es, log.symm⟩

theorem refl (w : World σ) : w.Gains ep w := .of_same (List.prefix_refl _) rfl

theorem trans (first : w.Gains ep w') (second : w'.Gains ep w'') : w.Gains ep w'' := by
  obtain ⟨es, log, gained⟩ := first
  obtain ⟨es', log', gained'⟩ := second
  refine ⟨es ++ es', by rw [log', log, List.append_assoc], fun fd owns => ?_⟩
  obtain old | ⟨e, mem, gives⟩ := gained' fd owns
  · refine (gained fd old).imp id ?_
    exact fun ⟨e, mem, gives⟩ => ⟨e, List.mem_append_left _ mem, gives⟩
  · exact .inr ⟨e, List.mem_append_right _ mem, gives⟩

theorem add (w : World σ) (es : List Entry) : w.Gains ep (w.add es) :=
  .of_same (List.prefix_append ..) rfl

theorem noted (noted : w.Noted w') : w.Gains ep w' := by
  obtain ⟨es, _, rfl⟩ := noted
  exact add w es

theorem given {r : Request} {answer : Except NativeError r.Reply} {caller : Endpoint}
    (heard : w.Heard caller r answer w')
    (gives : (Entry.reply (some caller) r answer).Gives ep fd) :
    w.Gains ep (w'.setHandle ep (.owning fd)) := by
  obtain ⟨es, log, mem⟩ := heard.gives
  refine ⟨es, log, fun fd' owns => .inr ⟨_, mem, ?_⟩⟩
  have inside := World.inside_of_handle _ (congrArg Handle.fd owns)
  rw [World.length_endpoints_setHandle] at inside
  rw [World.handle_setHandle w' ep _ inside] at owns
  cases owns
  exact gives

theorem bare (w : World σ) : w.Gains ep (w.setHandle ep {}) := by
  refine .of_unowned (List.prefix_refl _) fun fd owns => ?_
  cases (World.handle_setHandle_bare w ep).symm.trans owns

theorem setCreating (w : World σ) (other : Endpoint) (b : Bool) :
    w.Gains ep (w.setCreating other b) :=
  .of_same (List.prefix_refl _) (World.handle_setCreating ..)

theorem make {hd : Handle} (unowned : hd.owned = false) (w : World σ) :
    w.Gains ep (Endpoint.make hd w).2 := by
  refine ⟨[], (List.append_nil _).symm, fun fd owns => .inl ?_⟩
  rw [World.handle, endpoint_make] at owns
  split at owns
  case isTrue =>
    change hd = .owning fd at owns
    rw [owns] at unowned
    cases unowned
  case isFalse => exact owns

end Gains

end World

def Law.gains (ep : Endpoint) : Law σ where
  holds _ := True
  keeps := World.Gains ep
  refl := .refl
  trans := .trans
  stable _ _ := trivial
  note w es _ := .add w es

namespace Gains

variable {ep : Endpoint} {T : Transport σ} {meanwhile : Method → StateM (World σ) Unit}

theorem leaves : (Law.gains (σ := σ) ep).Leaves ep where
  entry w e _ := .add w [e]
  transport _ _ := .of_same (List.prefix_refl _) rfl
  state w other st n ne := .of_same (List.prefix_refl _)
    (World.Aloof.setEndpoint w other st n fun is => absurd is ne).handle

theorem founds : (Law.gains (σ := σ) ep).Founds where
  socket _ _ _ _ := .of_same (List.prefix_refl _) rfl

theorem setSocket (w : World σ) (s : Socket) (st : SocketState) : w.Gains ep (w.setSocket s st) :=
  .of_same (List.prefix_refl _) rfl

section

variable (between : ∀ m, (Law.gains ep).Keeps (meanwhile m))

include between

theorem send (caller : Option Endpoint) (r : Request) :
    (Law.gains ep).Keeps ((Link.via T meanwhile).send caller r) :=
  .send (between _) (fun w => .add w _) (fun _ _ => .of_same (List.prefix_refl _) rfl)
    fun w _ => .add w _

theorem exclusively (other : Endpoint) (r : Request) :
    (Law.gains ep).Keeps (other.exclusively ((Link.via T meanwhile).send (some other) r)) :=
  fun w _ => (World.Gains.setCreating w other true).trans
    ((send between _ r _ trivial).trans (.setCreating _ other false))

theorem heard (caller : Endpoint) (r : Request) (w : World σ) :
    w.Heard caller r ((Link.via T meanwhile).send (some caller) r w).1
      ((Link.via T meanwhile).send (some caller) r w).2 :=
  Growth.heard_via (fun m w _ => (between m w trivial).grows) caller r w

theorem create (kind : SocketKind) : (Law.gains ep).Keeps (ep.create (.via T meanwhile) kind) := by
  intro w _
  have creation := Endpoint.creation (.via T meanwhile) ep kind w
  generalize ep.create (.via T meanwhile) kind w = answer at creation
  cases creation with
  | taken _ noted => exact .noted noted
  | senseless _ _ noted => exact .noted noted
  | @refused native _ w₁ _ _ _ _ opened asked noted =>
    have asks := exclusively (T := T) between ep (.create native 0) w₁ trivial
    rw [asked] at asks
    exact (World.Gains.noted opened).trans (asks.trans (.noted noted))
  | @made native fd w₁ w₂ _ _ _ opened asked noted =>
    have hears := heard (T := T) between ep (.create native 0) (w₁.setCreating ep true)
    rw [Endpoint.run_exclusively] at asked
    obtain ⟨ok, same⟩ := Prod.mk.inj asked
    rw [ok] at hears
    have made : w₁.Heard ep (.create native 0) (.ok fd) w₂ := by
      rw [← same]
      exact hears
    exact (World.Gains.noted opened).trans ((World.Gains.given made (.created native 0)).trans
      (.noted noted))

theorem accepted (listener : Endpoint) :
    (Law.gains ep).Keeps (listener.accept (.via T meanwhile) ep) := by
  intro w _
  have acceptance := Endpoint.acceptance (.via T meanwhile) listener ep w
  generalize listener.accept (.via T meanwhile) ep w = answer at acceptance
  cases acceptance with
  | closed _ noted => exact .noted noted
  | taken _ _ noted => exact .noted noted
  | @refused fd _ w₁ _ _ _ _ opened asked noted =>
    have asks := send (T := T) between (some listener) (.accept fd) w₁ trivial
    rw [asked] at asks
    exact (World.Gains.noted opened).trans (asks.trans (.noted noted))
  | @overtaken fd peer _ w₁ w₂ _ _ _ opened asked _ noted =>
    have asks := send (T := T) between (some listener) (.accept fd) w₁ trivial
    rw [asked] at asks
    have turns := send (T := T) between (some listener) (.close peer) w₂ trivial
    have turned := Endpoint.turningAway (.via T meanwhile) listener peer w₂
    exact (World.Gains.noted opened).trans
      (asks.trans (turns.trans ((World.Gains.noted turned).trans (.noted noted))))
  | @made fd peer w₁ _ _ _ _ opened asked _ noted =>
    have hears := heard (T := T) between listener (.accept fd) w₁
    rw [asked] at hears
    exact (World.Gains.noted opened).trans ((World.Gains.given hears (.accepted listener fd)).trans
      (.noted noted))

theorem yields : (Law.gains ep).Yields (.via T meanwhile) ep where
  shutdown _ _ := send between _ _
  close _ := send between _ _
  bare w _ := .bare w

theorem discard : (Law.gains ep).Keeps (ep.discard (.via T meanwhile)) := by
  intro w _
  have discarding := Endpoint.discarding (.via T meanwhile) ep w
  generalize (ep.discard (.via T meanwhile) w).2 = w' at discarding
  cases discarding with
  | @owned fd _ _ noted =>
    have closes := exclusively (T := T) between ep (.close fd) (w.setHandle ep {}) trivial
    exact (World.Gains.bare w).trans (closes.trans (.noted noted))
  | other _ => exact .bare w

theorem admits (other : Endpoint) : (Law.gains ep).Admits (.via T meanwhile) other := by
  by_cases own : other = ep
  · subst own
    exact
      { send := fun _ r _ => send between _ r
        stream := fun w st n handle creating => .of_same (List.prefix_refl _)
          (World.Aloof.setEndpoint w other st n fun _ => ⟨handle, creating⟩).handle
        create := create between
        close := (yields between).closes
        bind := fun _ _ _ => send between _ _
        connect := fun _ _ _ => send between _ _
        accepted := accepted between
        discard := discard between }
  · exact leaves.admits between (fun _ _ => ⟨send between _ _, send between _ _⟩) own

theorem hosts : (Law.gains ep).Hosts (.via T meanwhile) where
  make _ unowned w _ := .make unowned w
  guest _ _ _ _ := ⟨.gains ep, trivial, fun _ _ kept => kept, admits between _, founds⟩

end

theorem interrupt (m : Method) : (Law.gains ep).Keeps (World.interrupt T m) := by
  refine .interrupt (fun between depth m => .disturb fun w _ => ?_) m
  refine ⟨.of_same (List.prefix_refl _) rfl, .gains ep, trivial, fun _ _ kept => kept,
    fun d _ _ => ?_⟩
  exact (admits between _).toBears.perform fun s w st _ => setSocket w s st

theorem pervades : (Law.gains ep).Pervades (.disturbed T) where
  holds _ := trivial
  admits := admits interrupt
  hosts := hosts interrupt
  outside := send interrupt none
  setSocket := setSocket
  among _ _ := .of_same (List.prefix_refl _) rfl

end Gains

end ProcessorSockets
