import ProcessorSockets.Kernel.UnixDomain

namespace ProcessorSockets.UnixDomain

def anonymous : Syscall → Bool
  | .socket _ _ _ => true
  | .bind _ _ => false
  | .connect _ _ => true
  | .listen _ _ => true
  | .accept _ _ => true
  | .close _ => false
  | .shutdown _ _ => true
  | .getNumber _ _ _ => true
  | .getTime _ _ _ => true
  | .setNumber _ _ _ _ => true
  | .setTime _ _ _ _ => true
  | .read _ _ => true
  | .write _ _ => true
  | .pending _ _ => true
  | .mkdir _ => false
  | .unlink _ => false

def opens : Syscall → Bool
  | .socket _ _ _ => true
  | .accept _ _ => true
  | _ => false

structure Sock.Like (k k' : Sock) : Prop where
  waiting : k.waiting = k'.waiting
  closed : k.closed = k'.closed
  bound : k.bound = k'.bound

namespace Call

variable {α β : Type} {c : Call α} {f : α → Call β} {s s' : State}

theorem run_bind_ok {a : α} (run : c s = (.ok a, s')) : (c >>= f) s = f a s' := by
  change (ExceptT.bindCont f (c s).1) (c s).2 = _
  rw [run]
  rfl

theorem run_bind_error {code : Int} (run : c s = (.error code, s')) :
    (c >>= f) s = (.error code, s') := by
  change (ExceptT.bindCont f (c s).1) (c s).2 = _
  rw [run]
  rfl

def Keeps (P : State → Prop) (c : Call α) : Prop := ∀ s, P s → P (c s).2

namespace Keeps

variable {P : State → Prop}

theorem done (a : α) : Keeps P (pure a : Call α) := fun _ h => h

theorem fails (code : Int) : Keeps P (throw code : Call α) := fun _ h => h

theorem state : Keeps P (get : Call State) := fun _ h => h

theorem sock (id : Nat) : Keeps P (UnixDomain.sock id) := fun _ h => h

theorem after (first : P (c s).2) (next : ∀ a, Keeps P (f a)) : P ((c >>= f) s).2 := by
  cases run : c s with
  | mk r s' =>
    rw [run] at first
    cases r with
    | ok a =>
      rw [run_bind_ok run]
      exact next a s' first
    | error code =>
      rw [run_bind_error run]
      exact first

theorem andThen (first : Keeps P c) (next : ∀ a, Keeps P (f a)) : Keeps P (c >>= f) :=
  fun s h => after (first s h) next

theorem each {ids : List Nat} {body : Nat → Call Unit} (kept : ∀ id ∈ ids, Keeps P (body id)) :
    Keeps P (forIn ids PUnit.unit fun id _ => do
      body id
      pure (ForInStep.yield PUnit.unit)) := by
  induction ids with
  | nil => exact .done _
  | cons id rest ih =>
    rw [List.forIn_cons]
    apply andThen
    · exact .andThen (kept id List.mem_cons_self) fun _ => .done _
    · intro step
      cases step with
      | done _ => exact .done _
      | yield _ => exact ih fun id mem => kept id (List.mem_cons_of_mem _ mem)

theorem checkAt {b : Prop} [Decidable b] {code : Int} {next : Unit → Call β} (before : P s)
    (after : P (next () s).2) : P ((if b then throw code >>= next else next ()) s).2 := by
  split
  · exact before
  · exact after

theorem check {b : Prop} [Decidable b] {code : Int} {next : Unit → Call β}
    (kept : Keeps P (next ())) : Keeps P (if b then throw code >>= next else next ()) :=
  fun s h => checkAt h (kept s h)

theorem lookup (fd : Descriptor) : Keeps P (UnixDomain.lookup fd) := by
  unfold UnixDomain.lookup
  refine andThen state fun s => ?_
  cases s.socketOf? fd with
  | none => exact .fails _
  | some id => exact .done id

theorem target (style : Style) (path : List UInt8) :
    Keeps P (UnixDomain.target style path) := by
  unfold UnixDomain.target
  refine .andThen .state fun s => ?_
  split
  · exact .fails _
  · exact .check (.check (.done _))
  · exact .fails _

theorem pending (fd : Descriptor) : Keeps P (UnixDomain.pending fd) :=
  .andThen (.lookup fd) fun id => .andThen (.sock id) fun _ => .check (.done _)

theorem getTime (fd : Descriptor) (option : Int) : Keeps P (UnixDomain.getTime fd option) :=
  .andThen (.lookup fd) fun id => .andThen (.sock id) fun _ => .done _

end Keeps

structure Indifferent (P : State → Prop) : Prop where
  update : ∀ (id : Nat) {f : Sock → Sock}, (∀ k, (f k).Like k) → Keeps P (UnixDomain.update id f)
  /-- The far end of a connection is made and waits at the listener. -/
  dial : ∀ {k : Sock}, k.waiting = [] → k.closed = false → ∀ (listener : Nat)
    {rest : Nat → Call Unit}, (∀ id, Keeps P (rest id)) →
      Keeps P (newSocket k >>= fun serverEnd =>
        UnixDomain.update listener (fun k => { k with waiting := k.waiting ++ [serverEnd] })
          >>= fun _ => rest serverEnd)

namespace Indifferent

variable {P : State → Prop} (h : Indifferent P)

include h

theorem connectPaired (id listener : Nat) :
    Keeps P (UnixDomain.connectPaired id listener) := by
  unfold UnixDomain.connectPaired
  refine .andThen (.sock listener) fun far => ?_
  cases far.backlog with
  | none => exact .fails _
  | some backlog =>
    exact .check (.check (.andThen (.sock id) fun near => .check (.check
      (h.dial rfl rfl listener fun _ => h.update id fun _ => ⟨rfl, rfl, rfl⟩))))

theorem disconnect (id peer : Nat) : Keeps P (UnixDomain.disconnect id peer) := by
  unfold UnixDomain.disconnect
  refine .andThen (.sock id) fun k => ?_
  split
  · refine .andThen (h.update id fun _ => ⟨rfl, rfl, rfl⟩) fun _ =>
    .andThen (.sock peer) fun far => ?_
    split
    · exact h.update peer fun _ => ⟨rfl, rfl, rfl⟩
    · exact .done ()
  · exact .done ()

theorem connectMessages (id far : Nat) :
    Keeps P (UnixDomain.connectMessages id far) := by
  unfold UnixDomain.connectMessages
  refine .andThen (.sock far) fun k => .check (.andThen (.sock id) fun near =>
    .andThen (h.update id fun _ => ⟨rfl, rfl, rfl⟩) fun _ =>
      .andThen (h.update far fun _ => ⟨rfl, rfl, rfl⟩) fun _ => ?_)
  cases near.peer with
  | none => exact .done ()
  | some old =>
    change Keeps _ (if old ≠ far then UnixDomain.disconnect id old else pure ())
    split
    · exact h.disconnect id old
    · exact .done ()

theorem connectTo (id : Nat) (path : List UInt8) :
    Keeps P (UnixDomain.connectTo id path) := by
  unfold UnixDomain.connectTo
  refine .andThen (.sock id) fun near => .andThen (.target _ path) fun far => ?_
  split
  · exact h.connectPaired id far
  · exact h.connectMessages id far

theorem connect (fd : Descriptor) (raw : List UInt8) :
    Keeps P (UnixDomain.connect fd raw) :=
  .andThen (.lookup fd) fun id => h.connectTo id _

theorem listen (fd : Descriptor) (backlog : Int) : Keeps P (UnixDomain.listen fd backlog) :=
  .andThen (.lookup fd) fun id => .andThen (.sock id) fun _ =>
    .check (.check (h.update id fun _ => ⟨rfl, rfl, rfl⟩))

theorem shutdown (fd : Descriptor) (how : Int) : Keeps P (UnixDomain.shutdown fd how) := by
  unfold UnixDomain.shutdown
  refine .andThen (.lookup fd) fun id => .check (.andThen (.sock id) fun k =>
    .andThen (h.update id fun _ => ⟨rfl, rfl, rfl⟩) fun _ => ?_)
  cases k.peer with
  | none => exact .done ()
  | some far =>
    change Keeps _ (if k.style.paired then _ else _)
    split
    · exact h.update far fun _ => ⟨rfl, rfl, rfl⟩
    · exact .done ()

theorem takeReset (id : Nat) : Keeps P (UnixDomain.takeReset id) := by
  unfold UnixDomain.takeReset
  refine .andThen (.sock id) fun k => ?_
  split
  · exact .andThen (h.update id fun _ => ⟨rfl, rfl, rfl⟩) fun _ => .fails _
  · exact .done ()

theorem readStream (id length : Nat) : Keeps P (UnixDomain.readStream id length) := by
  unfold UnixDomain.readStream
  refine .andThen (.sock id) fun k => .check ?_
  change Keeps _ (if k.queue.flatten = [] then _ else _)
  split
  · refine .andThen (h.takeReset id) fun _ => ?_
    split
    · exact .done _
    · exact .fails _
  · exact .andThen (h.update id fun _ => ⟨rfl, rfl, rfl⟩) fun _ => .done _

theorem readMessage (id length : Nat) : Keeps P (UnixDomain.readMessage id length) := by
  unfold UnixDomain.readMessage
  refine .andThen (.sock id) fun k => .check (.andThen (h.takeReset id) fun _ => ?_)
  cases k.queue with
  | cons message rest => exact .andThen (h.update id fun _ => ⟨rfl, rfl, rfl⟩) fun _ => .done _
  | nil =>
    change Keeps _ (if k.readShut then _ else _)
    split
    · exact .done _
    · exact .fails _

theorem read (fd : Descriptor) (length : Nat) : Keeps P (UnixDomain.read fd length) := by
  unfold UnixDomain.read
  refine .andThen (.lookup fd) fun id => ?_
  split
  · exact .done _
  · refine .andThen (.sock id) fun k => ?_
    split
    · exact h.readStream id length
    · exact h.readMessage id length

theorem writePaired (id far : Nat) (bytes : List UInt8) :
    Keeps P (UnixDomain.writePaired id far bytes) := by
  unfold UnixDomain.writePaired
  refine .andThen (.sock id) fun k => .andThen (.sock far) fun f => .check ?_
  change Keeps _ (if bytes ≠ [] ∨ k.style = .packets then _ else _)
  split
  · exact .andThen (h.update far fun _ => ⟨rfl, rfl, rfl⟩) fun _ => .done _
  · exact .done _

theorem writeMessage (id far : Nat) (bytes : List UInt8) :
    Keeps P (UnixDomain.writeMessage id far bytes) := by
  unfold UnixDomain.writeMessage
  refine .andThen (.sock id) fun k => .check (.andThen (.sock far) fun f => .check ?_)
  change Keeps _ (if f.closed then _ else _)
  split
  · exact .andThen (h.update id fun _ => ⟨rfl, rfl, rfl⟩) fun _ =>
      .andThen (h.disconnect id far) fun _ => .andThen (.fails _) fun _ =>
        .check (.andThen (h.update far fun _ => ⟨rfl, rfl, rfl⟩) fun _ => .done _)
  · exact .check (.andThen (h.update far fun _ => ⟨rfl, rfl, rfl⟩) fun _ => .done _)

theorem write (fd : Descriptor) (bytes : List UInt8) :
    Keeps P (UnixDomain.write fd bytes) := by
  unfold UnixDomain.write
  refine .andThen (.lookup fd) fun id => .andThen (.sock id) fun k => ?_
  cases k.peer with
  | none => exact .fails _
  | some far =>
    change Keeps _ (if k.style.paired then _ else _)
    split
    · exact h.writePaired id far bytes
    · exact h.writeMessage id far bytes

theorem setTime (fd : Descriptor) (option : Int) (value : Timeval) :
    Keeps P (UnixDomain.setTime fd option value) := by
  unfold UnixDomain.setTime
  refine .andThen (.lookup fd) fun id => .check (h.update id fun k => ?_)
  split
  · exact ⟨rfl, rfl, rfl⟩
  · exact ⟨rfl, rfl, rfl⟩

theorem perform {c : Syscall} (about : anonymous c = true) (opens : opens c = false) :
    Keeps P (UnixDomain.perform c) := by
  cases c with
  | connect fd raw => exact h.connect fd raw
  | listen fd backlog => exact h.listen fd backlog
  | shutdown fd how => exact h.shutdown fd how
  | getNumber fd level option => exact .andThen (.lookup fd) fun _ => .done _
  | getTime fd level option => exact .getTime fd option
  | setNumber fd level option value => exact .andThen (.lookup fd) fun _ => .done _
  | setTime fd level option value => exact h.setTime fd option value
  | read fd length => exact h.read fd length
  | write fd bytes => exact h.write fd bytes
  | pending fd request => exact .pending fd
  | socket domain type protocol => cases opens
  | accept fd flags => cases opens
  | bind fd raw => cases about
  | close fd => cases about
  | mkdir path => cases about
  | unlink path => cases about

end Indifferent

end Call

end ProcessorSockets.UnixDomain
