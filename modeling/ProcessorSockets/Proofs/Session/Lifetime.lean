import ProcessorSockets.Proofs.Session.Once

namespace ProcessorSockets

open Session

variable {σ α : Type}

/-- The descriptor of a socket is asked for at most once, unless the socket has it; without
one the socket stays as new as it was. -/
def World.CreatesOnce (k : Socket) (w w' : World σ) : Prop :=
  ∃ answers : List (Except NativeError Descriptor),
    w'.creations k.endpoint = w.creations k.endpoint ++ answers ∧ answers.length ≤ 1 ∧
      ((w'.socket k).created = true ↔
        (w.socket k).created = true ∨ ∃ fd, .ok fd ∈ answers) ∧
      ((w.socket k).created = false →
        ∀ native, (w.socket k).kind.native = .ok native → answers.length = 1)

inductive Session.Verb.Creates : Verb → Prop
  | connect (a : Address) (timeout : Int) : Creates (.connect a timeout)
  | bind (a : Address) : Creates (.bind a)
  | inputStream : Creates .inputStream
  | outputStream : Creates .outputStream
  | shutdownInput : Creates .shutdownInput
  | shutdownOutput : Creates .shutdownOutput

namespace Chronicle

open World (Continues CreatesOnce)

variable {k : Socket} {T : Transport σ} {w : World σ}

theorem createsOnce_refl (created : (w.socket k).created = true) : w.CreatesOnce k w := by
  refine ⟨[], (List.append_nil _).symm, Nat.zero_le _, by simp, fun fresh => ?_⟩
  rw [created] at fresh
  cases fresh

theorem createsOnce (holds : (Law.chronicle True k).holds w) {rest : Unit → Action σ α}
    (kept : ∀ w₁, (Law.chronicle True k).holds w₁ → w.Continues False k w₁ →
      (w₁.socket k).created = true → w₁.Continues True k (rest () w₁).2) :
    w.CreatesOnce k ((k.ensureCreated (.disturbed T) >>= rest) w).2 := by
  have ensured := ensured (T := T) holds
  rw [Action.run_bind]
  generalize k.ensureCreated (.disturbed T) w = run at ensured
  cases ensured with
  | before created =>
    have continues := kept w holds (.refl w) created
    refine ⟨[], ?_, Nat.zero_le _, by simp [continues.keeps.created created, created], ?_⟩
    · exact (continues.creations created).trans (List.append_nil _).symm
    · intro fresh
      rw [created] at fresh
      cases fresh
  | failed fresh failures few asked _ creations still =>
    refine ⟨failures.map .error, creations, by simpa using few, ?_, fun _ native known => ?_⟩
    · simp [still, fresh]
    · simpa using asked native known
  | @made w₁ fresh fd before creations created =>
    have continues := kept w₁ ((Law.chronicle True k).stable holds before.loosen) before created
    refine ⟨[.ok fd], (continues.creations created).trans creations, Nat.le_refl _, ?_,
      fun _ _ _ => rfl⟩
    simp [continues.keeps.created created]

theorem createsOnce_connect (holds : (Law.chronicle True k).holds w) (a : Address) :
    w.CreatesOnce k (k.connect (.disturbed T) a w).2 := by
  rw [Socket.connect, Action.run_bind]
  simp only [Socket.state]
  cases free : (w.socket k).connected with
  | true =>
    have chronicled := holds.2.2.2
    exact createsOnce_refl (chronicled.created_of_bound (chronicled.bound_of_connected free))
  | false =>
    apply createsOnce (T := T) holds
    intro w₁ holds₁ before created
    have still := congrArg (·.2.1) (before.settled id)
    exact (connectCreated holds₁ created (still.trans free) a).continues

theorem createsOnce_onSocket (holds : (Law.chronicle True k).holds w) {verb : Verb}
    (creates : verb.Creates) : w.CreatesOnce k (onSocket (.disturbed T) k verb w).2 := by
  have permits : (Law.chronicle True k).Permits (.disturbed T) k.endpoint := permits interrupt
  cases creates with
  | connect a timeout =>
    rw [onSocket, done, world_told]
    exact createsOnce_connect holds a
  | bind a =>
    rw [onSocket, done, world_told]
    exact createsOnce holds fun w₁ holds₁ _ created => (bindCreated holds₁ created a).continues
  | inputStream =>
    rw [onSocket, world_made]
    exact createsOnce holds fun w₁ holds₁ _ _ => permits.inputStream w₁ holds₁
  | outputStream =>
    rw [onSocket, world_made]
    exact createsOnce holds fun w₁ holds₁ _ _ => permits.outputStream w₁ holds₁
  | shutdownInput =>
    rw [onSocket, done, world_told]
    exact createsOnce holds fun w₁ holds₁ _ _ => permits.shutdown .read w₁ holds₁
  | shutdownOutput =>
    rw [onSocket, done, world_told]
    exact createsOnce holds fun w₁ holds₁ _ _ => permits.shutdown .write w₁ holds₁

end Chronicle

namespace Chronicle

open World (Continues)

variable {k : Socket} {T : Transport σ} {w : World σ}

theorem release_shut (holds : (Law.chronicle True k).holds w)
    (created : (w.socket k).created = true) (proper : (w.handle k.endpoint).Proper) :
    (k.endpoint.release (.disturbed T) w).2.Shut k := by
  cases proper with
  | inl bare =>
    rw [Endpoint.run_release_bare bare]
    exact ⟨created, bare⟩
  | inr has =>
    obtain ⟨fd, has⟩ := has
    have run : (k.endpoint.release (.disturbed T) w).2 = (k.endpoint.close (.disturbed T) w).2 := by
      rw [Endpoint.world_release, has]
      rfl
    rw [run]
    have closing := Endpoint.closing (.disturbed T) k.endpoint w
    generalize k.endpoint.close (.disturbed T) w = r at closing
    cases closing with
    | closed bare _ =>
      rw [has] at bare
      cases bare
    | detached detached _ _ =>
      rw [has] at detached
      cases detached
    | @owned fd' w₁ w₂ w' r _ opened closed noted =>
      have before : w.Continues True k w₁ := .noted opened
      have holds₁ := (Law.chronicle True k).stable holds before
      have lost : w₁.Continues True k (w₁.setHandle k.endpoint {}) := .lost holds₁.1
      have yields : (Law.chronicle True k).Yields (.disturbed T) k.endpoint := yields interrupt
      have after := yields.closeOwned fd' _ ((Law.chronicle True k).stable holds₁ lost)
      rw [closed] at after
      have shut : (w₁.setHandle k.endpoint {}).Shut k :=
        ⟨before.keeps.created created, World.handle_setHandle _ _ _ holds₁.1.1⟩
      have later : w₂.Continues True k w' := .noted noted
      exact later.shut (after.shut shut)

theorem close_shut (holds : (Law.chronicle True k).holds w)
    (proper : (w.handle k.endpoint).Proper) :
    (k.close (.disturbed T) w).2.Shut k := by
  rw [Socket.close, Action.run_bind]
  simp only [Socket.state]
  cases created : (w.socket k).created with
  | true => exact release_shut holds created proper
  | false =>
    have state := World.socket_setSocket w k { w.socket k with created := true } holds.1.2
    exact ⟨congrArg SocketState.created state, holds.2.2.2.bare created⟩

end Chronicle

namespace Shut

variable {k : Socket} {T : Transport σ}

theorem discard : (Law.shut k).Keeps (k.endpoint.discard (.disturbed T)) := by
  intro w holds
  have bare := holds.2.2.bare
  have discarding := Endpoint.discarding (.disturbed T) k.endpoint w
  generalize (k.endpoint.discard (.disturbed T) w).2 = w' at discarding
  cases discarding with
  | owned has _ =>
    rw [bare] at has
    cases has
  | other _ => exact .stream w w.nextStream bare.symm rfl

theorem oversees : (Law.shut k).Oversees T k where
  about := about
  interrupt := interrupt
  own opens := (not_opens opens).elim
  socket := socket
  release := release
  discard := discard
  created kept created := by
    rw [kept.socket]
    exact created
  lends {w verb o} holds _ := by
    have kept := (socket (L := .disturbed T)).onSocket verb w holds
    rw [kept.socket]
    exact holds.2.2.created

end Shut

end ProcessorSockets
