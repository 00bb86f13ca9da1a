import ProcessorSockets.Proofs.Session.Chronicle
import ProcessorSockets.Transport.Scripted

namespace ProcessorSockets

namespace Session

open World (Continues)

variable {σ : Type} {L : Link σ} {T : Transport σ} {around : Surroundings σ}

def Answer.value : Answer → Value
  | .mk value _ _ _ => value

/-- How a step runs: with the world as it is amid the step, and then with what it made. -/
theorem run_step (L : Link σ) (around : Surroundings σ) (s : Session σ) {verb : Verb}
    {on : Option String} (kept : verb ≠ .drop ∨ on = none) (as : Option String)
    (ms : List Meanwhile) :
    let r := outcome L around s verb on (s.amid ms)
    let s' := (place L as r.1.2 { s with world := r.2 }).2
    (runStep L around (.act verb on as ms) s).1.value = r.1.1 ∧
      (runStep L around (.act verb on as ms) s).2 = { s' with world := s.past ms s'.world } := by
  have value : (runStep L around (.act verb on as ms) s).1.value =
      (among ms (act L around verb on as) s).1 := by
    rw [runStep]
    rfl
  rw [value, run_perform, run_among, run_act verb on as kept]
  exact ⟨rfl, rfl⟩

inductive Verb.Commits : Verb → Prop
  | bind (a : Address) : Commits (.bind a)
  | connect (a : Address) (timeout : Int) : Commits (.connect a timeout)
  | race (contest : Contest) (callers : Nat) : Commits (.race contest callers)

theorem Verb.Commits.kept {verb : Verb} (h : verb.Commits) : verb ≠ .drop := by
  cases h <;> nofun

theorem Verb.Commits.silent {verb : Verb} (h : verb.Commits) (k : Socket) (w : World σ) :
    (onSocket L k verb w).1.2 = none := by
  cases h with
  | bind a => exact object_told ..
  | connect a timeout => exact object_told ..
  | race contest callers => rfl

inductive Value.Refuses : Value → Prop
  | failure (e : SocketError) : Refuses (.failure e)
  | several {values : List Value} (all : ∀ v ∈ values, Refuses v) : Refuses (.several values)

end Session

namespace Chronicle

open Session World

variable {σ : Type} {T : Transport σ} {k : Socket} {w : World σ}

theorem refused_told {op : Action σ Unit} (attempted : k.Attempted w (op w))
    (refuses : (done op w).1.1.Refuses) : w.Continues False k (done op w).2 := by
  unfold done told at refuses ⊢
  generalize op w = run at attempted refuses
  cases attempted with
  | failed continues => exact continues
  | done continues => cases refuses

theorem inputStream (holds : (Law.chronicle False k).holds w) :
    w.Continues False k (k.inputStream (.disturbed T) w).2 := by
  have ensured := ensured (T := T) holds
  have permits : (Law.chronicle False k).Permits (.disturbed T) k.endpoint := permits interrupt
  rw [Socket.inputStream, Action.run_bind]
  generalize k.ensureCreated (.disturbed T) w = run at ensured
  cases ensured with
  | before _ => exact permits.inputStream w holds
  | failed _ _ _ _ continues _ _ => exact continues
  | made _ _ continues _ _ =>
    exact continues.trans (permits.inputStream _ ((Law.chronicle False k).stable holds continues))

theorem refused_compete (holds : (Law.chronicle False k).holds w) (c : Contest)
    (refuses : (compete (.disturbed T) k c w).1.1.Refuses) :
    w.Continues False k (compete (.disturbed T) k c w).2 := by
  cases c with
  | connect a => exact refused_told (connect holds a) refuses
  | bind a => exact refused_told (bind holds a) refuses
  | inputStream =>
    have kept : (Law.chronicle False k).Keeps (k.inputStream (.disturbed T)) :=
      fun _ holds => inputStream holds
    exact kept.told w holds

theorem refused_contend (c : Contest) (callers : Nat) (holds : (Law.chronicle False k).holds w)
    (refuses : ∀ v ∈ (contend (.disturbed T) k c callers w).1, v.Refuses) :
    w.Continues False k (contend (.disturbed T) k c callers w).2 := by
  induction callers generalizing w with
  | zero => exact .refl w
  | succ n ih =>
    have first := refused_compete holds c (refuses _ List.mem_cons_self)
    exact first.trans (ih ((Law.chronicle False k).stable holds first) fun v mem =>
      refuses v (List.mem_cons_of_mem _ mem))

theorem refused_onSocket {verb : Verb} (commits : verb.Commits)
    (holds : (Law.chronicle False k).holds w)
    (refuses : (onSocket (.disturbed T) k verb w).1.1.Refuses) :
    w.Continues False k (onSocket (.disturbed T) k verb w).2 := by
  cases commits with
  | bind a => exact refused_told (bind holds a) refuses
  | connect a timeout => exact refused_told (connect holds a) refuses
  | race contest callers =>
    cases refuses with
    | several all => exact refused_contend contest callers holds all

end Chronicle

namespace Socket

variable {σ : Type} {L : Link σ} {s : Socket} {w : World σ}

theorem run_bind_bound (created : (w.socket s).created = true) (bound : (w.socket s).bound = true)
    (a : Address) : s.bind L a w = (.error .alreadyBound, w) := by
  rw [bind, Action.run_bind, run_ensureCreated created]
  change s.bindCreated L a w = _
  rw [bindCreated, Action.run_bind]
  simp only [state, bound]
  rfl

theorem run_connect_connected (connected : (w.socket s).connected = true) (a : Address) :
    s.connect L a w = (.error .alreadyConnected, w) := by
  rw [connect, Action.run_bind]
  simp only [state, connected]
  rfl

end Socket

namespace Session

variable {σ : Type} {L : Link σ} {around : Surroundings σ} {s : Session σ} {k : Socket}

theorem outcome_onSocket {n : String} (found : s.find? n = some (.socket k)) (verb : Verb)
    (w : World σ) : outcome L around s verb (some n) w = onSocket L k verb w := by
  simp only [outcome, found]

theorem run_step_refused {n : String} (found : s.find? n = some (.socket k)) {verb : Verb}
    (kept : verb ≠ .drop) (as : Option String) (ms : List Meanwhile) {e : SocketError}
    (fails : onSocket L k verb (s.amid ms) = ((.failure e, none), s.amid ms)) :
    (runStep L around (.act verb (some n) as ms) s).1.value = .failure e ∧
      (runStep L around (.act verb (some n) as ms) s).2 = s := by
  have step := run_step L around s (.inl kept : verb ≠ .drop ∨ some n = none) as ms
  rw [outcome_onSocket found, fails] at step
  exact ⟨step.1, step.2.trans (congrArg (fun world => { s with world }) (past_amid s ms))⟩

/-- A socket is bound once at most and connected once at most: what it remembers of either
stays, and is what the transport did for it, once.  After that the transport is not asked
again; and what was refused changes nothing, so that it can be tried again. -/
theorem sockets_settle_once (T : Transport σ) (around : Surroundings σ) (t : σ) {m : Session σ}
    (reached : Reach (.disturbed T) around (start t) m) {n : String} {k : Socket}
    (found : m.find? n = some (.socket k)) :
    (∀ m', Reach (.disturbed T) around m m' →
      (m.world.socket k).Keeps (m'.world.socket k) ∧
      ((m'.world.socket k).connected = true → (m'.world.socket k).bound = true) ∧
      m'.world.bindings k.endpoint = (m'.world.socket k).localAddress.toList ∧
      m'.world.connections k.endpoint = (m'.world.socket k).remoteAddress.toList ∧
      (m'.world.talk k.endpoint).Pairwise Entry.Precedes) ∧
    (∀ a as ms, (m.world.socket k).bound = true →
      (runStep (.disturbed T) around (.act (.bind a) (some n) as ms) m).1.value =
          .failure .alreadyBound ∧
        (runStep (.disturbed T) around (.act (.bind a) (some n) as ms) m).2 = m) ∧
    (∀ a timeout as ms, (m.world.socket k).connected = true →
      (runStep (.disturbed T) around (.act (.connect a timeout) (some n) as ms) m).1.value =
          .failure .alreadyConnected ∧
        (runStep (.disturbed T) around (.act (.connect a timeout) (some n) as ms) m).2 = m) ∧
    ∀ verb, verb.Commits → ∀ as ms,
      (runStep (.disturbed T) around (.act verb (some n) as ms) m).1.value.Refuses →
        ((runStep (.disturbed T) around (.act verb (some n) as ms) m).2.world.socket k).settled =
          (m.world.socket k).settled := by
  have orderly := (Orderly.start t).reach reached
  obtain ⟨houses, holds⟩ :=
    (Chronicled.start t).reach (Orderly.start t) reached _ (mem_of_find? found) k rfl
  have before (ms : List Meanwhile) : m.world.Told k [] (m.amid ms) := told_amid houses ms
  have same (ms : List Meanwhile) : (m.amid ms).socket k = m.world.socket k := (before ms).socket
  refine ⟨fun m' later => ?_, fun a as ms bound => ?_, fun a timeout as ms connected => ?_,
    fun verb commits as ms refuses => ?_⟩
  · have kept := (Chronicle.oversees.reach orderly houses holds later).1
    have chronicle := kept.chronicled holds.2.2.2
    exact ⟨kept.keeps, chronicle.bound_of_connected, chronicle.bindings, chronicle.connections,
      chronicle.order⟩
  · apply run_step_refused found (by nofun)
    have created := holds.2.2.2.created_of_bound bound
    rw [← same ms] at created bound
    rw [onSocket, done, told, Socket.run_bind_bound created bound]
  · apply run_step_refused found (by nofun)
    rw [← same ms] at connected
    rw [onSocket, done, told, Socket.run_connect_connected connected]
  · have step := run_step (.disturbed T) around m
      (.inl commits.kept : verb ≠ .drop ∨ some n = none) as ms
    rw [outcome_onSocket found] at step
    dsimp only at step
    rw [commits.silent k _] at step
    rw [step.1] at refuses
    have continues := Chronicle.refused_onSocket commits
      ((Law.chronicle False k).stable holds (.spared (before ms))) refuses
    rw [step.2, ← same ms, ← continues.settled id]
    unfold past
    split <;> rfl

theorem sockets_settle_once_rebound :
    let L := Link.disturbed Scripted.transport
    let around : Surroundings Scripted.State := {}
    let made := (runStep L around (.act (.newSocket .stream) none (some "s") [])
      (start { outcomes := fun _ => [] })).2
    let bound := (runStep L around (.act (.bind ⟨"cp", "svc"⟩) (some "s") none []) made).2
    let again := runStep L around (.act (.bind ⟨"cp", "other"⟩) (some "s") none []) bound
    bound.world.bindings ⟨0⟩ = [⟨"cp", "svc"⟩] ∧
      again.1.value = .failure .alreadyBound ∧ again.2 = bound := by
  intro L around made bound again
  have reached : Reach L around (start { outcomes := fun _ => [] }) bound :=
    .act _ _ _ _ (.act _ _ _ _ .refl)
  obtain ⟨kept, binds, _, _⟩ :=
    sockets_settle_once Scripted.transport around { outcomes := fun _ => [] } reached
      (rfl : bound.find? "s" = some (.socket ⟨0, ⟨0⟩⟩))
  have once := binds ⟨"cp", "other"⟩ none [] rfl
  exact ⟨(kept bound .refl).2.2.1, once.1, once.2⟩

end Session

end ProcessorSockets
