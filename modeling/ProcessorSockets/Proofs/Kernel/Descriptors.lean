import ProcessorSockets.Proofs.Kernel.Probe

namespace ProcessorSockets.UnixDomain.State

open FileTree (Path Node Tree)
open Call (Keeps Indifferent)

/-- Descriptors and queues lead to sockets that are there. -/
structure Whole (s : State) : Prop where
  known : ∀ {fd id}, s.socketOf? fd = some id → id < s.sockets.length
  queued : ∀ {k id}, id ∈ (s.sock k).waiting → id < s.sockets.length
  named : s.tree.Named

structure Stands (t : Tree) (table : List (Descriptor × Nat)) (s : State) : Prop where
  whole : s.Whole
  tree : s.tree = t
  descriptors : s.descriptors = table

variable {s s' : State} {t : Tree} {table : List (Descriptor × Nat)} {id : Nat}
  {fd : Descriptor}

theorem whole_start (named : t.Named) : ({ tree := t } : State).Whole where
  known := nofun
  queued := nofun
  named := named

theorem Whole.stands (h : s.Whole) : s.Stands s.tree s.descriptors := ⟨h, rfl, rfl⟩

theorem Whole.setSock (h : s.Whole) {k : Sock} (queued : ∀ i ∈ k.waiting, i < s.sockets.length) :
    (s.setSock id k).Whole where
  known has := by
    rw [length_setSock]
    exact h.known has
  queued mem := by
    rw [sock_setSock] at mem
    rw [length_setSock]
    split at mem
    · exact queued _ mem
    · exact h.queued mem
  named := h.named

theorem Whole.newSocket (h : s.Whole) {k : Sock} (none : k.waiting = []) :
    ({ s with sockets := s.sockets ++ [k] } : State).Whole where
  known has := by
    have known := h.known has
    simpa using Nat.lt_succ_of_lt known
  queued mem := by
    rw [sock_new] at mem
    split at mem
    · simp [none] at mem
    · simpa using Nat.lt_succ_of_lt (h.queued mem)
  named := h.named

theorem Whole.withTree (h : s.Whole) (named : t.Named) : ({ s with tree := t } : State).Whole :=
  { h with named }

theorem Stands.newSocket (h : s.Stands t table) {k : Sock} (none : k.waiting = []) :
    ({ s with sockets := s.sockets ++ [k] } : State).Stands t table :=
  { h with whole := h.whole.newSocket none }

theorem stands_update {f : Sock → Sock} (id : Nat)
    (queued : ∀ s : State, s.Whole → ∀ i ∈ (f (s.sock id)).waiting, i < s.sockets.length) :
    Keeps (Stands t table) (update id f) :=
  fun s h => { h with whole := h.whole.setSock (queued s h.whole) }

theorem indifferent_stands : Indifferent (Stands t table) where
  update id _ same := stands_update id fun _ whole _ mem => whole.queued ((same _).waiting ▸ mem)
  dial {k} none alive listener rest kept s h := by
    apply kept s.sockets.length
    have made := h.newSocket none
    refine { made with whole := made.whole.setSock fun i mem => ?_ }
    cases List.mem_append.mp mem with
    | inl old => exact made.whole.queued old
    | inr new =>
      rw [List.mem_singleton.mp new]
      simp

theorem stands_hangUp (id : Nat) (lost : Bool) : Keeps (Stands t table) (hangUp id lost) := by
  unfold hangUp
  refine .andThen (.sock id) fun k => .andThen (stands_update id fun _ _ => nofun) fun _ => ?_
  cases k.peer with
  | none => exact .done ()
  | some far =>
    change Keeps _ (if k.style.paired then _ else _)
    split
    · exact indifferent_stands.update far fun _ => ⟨rfl, rfl, rfl⟩
    · exact .done ()

theorem stands_closeSocket (id : Nat) : Keeps (Stands t table) (closeSocket id) :=
  .andThen (.sock id) fun _ => .andThen (stands_hangUp id false) fun _ =>
    .andThen (.each fun id _ => stands_hangUp id true) fun _ => .done ()

theorem Stands.probe (h : s.Stands t table) (path : String) :
    (UnixDomain.probe path s).2.Stands t table := by
  have begun : s.withProbe.Stands t table := h.newSocket rfl
  have tried := indifferent_stands.connectTo s.sockets.length (bytesOf path) _ begun
  rw [run_probe]
  exact stands_closeSocket _ _ tried

inductive Opening (s : State) : Except Int Descriptor × State → Prop
  | refused (code : Int) : Opening s (.error code, s)
  | opened {s' : State} {id : Nat} (stands : s'.Stands s.tree (s.descriptors ++ [(s.next, id)])) :
      Opening s (.ok s.next, s')

theorem Opening.new (h : s.Whole) {s₀ : State} (same : s.tree = s₀.tree)
    (table : s.descriptors = s₀.descriptors) (next : s.next = s₀.next)
    (inside : id < s.sockets.length) : s₀.Opening (newDescriptor id s) := by
  change s₀.Opening (.ok s.next, { s with
    descriptors := s.descriptors ++ [(s.next, id)], next := s.next + 1 })
  rw [next]
  refine .opened ⟨⟨fun has => ?_, h.queued, h.named⟩, same, by rw [table]⟩
  have found := has
  rw [← next] at found
  cases socketOf?_add.mp found with
  | inl old => exact h.known old
  | inr new => exact new.2.2 ▸ inside

theorem opening_socket (h : s.Whole) (domain type protocol : Int) :
    s.Opening (socket domain type protocol s) := by
  unfold socket
  by_cases family : domain ≠ Syscall.localDomain
  · rw [if_pos family]
    exact .refused _
  rw [if_neg family]
  change s.Opening ((if protocol ≠ 0 ∧ protocol ≠ Syscall.localDomain then _ else _ :
    Call Descriptor) s)
  by_cases other : protocol ≠ 0 ∧ protocol ≠ Syscall.localDomain
  · rw [if_pos other]
    exact .refused _
  rw [if_neg other]
  cases Style.ofType? (type - Syscall.closeOnExec) with
  | none => exact .refused _
  | some style =>
    have made := h.newSocket (k := { style }) rfl
    exact .new made rfl rfl rfl (by simp)

theorem opening_accept (h : s.Whole) (fd : Descriptor) : s.Opening (accept fd s) := by
  unfold accept
  cases has : s.socketOf? fd with
  | none =>
    rw [Call.run_bind_error (lookup_none has)]
    exact .refused _
  | some id =>
    have run : UnixDomain.sock id s = (.ok (s.sock id), s) := rfl
    rw [Call.run_bind_ok (lookup_some has), Call.run_bind_ok run]
    change s.Opening ((if (!(s.sock id).style.paired) = true then _ else _ : Call Descriptor) s)
    split
    · exact .refused _
    change s.Opening ((if (s.sock id).backlog.isNone = true then _ else _ : Call Descriptor) s)
    split
    · exact .refused _
    cases first : (s.sock id).waiting with
    | nil => exact .refused _
    | cons serverEnd rest =>
      have waits (i : Nat) (mem : i ∈ serverEnd :: rest) : i < s.sockets.length :=
        h.queued (first ▸ mem)
      have popped : (s.setSock id { s.sock id with waiting := rest }).Whole :=
        h.setSock fun i mem => waits i (List.mem_cons_of_mem _ mem)
      refine .new popped rfl rfl rfl ?_
      rw [length_setSock]
      exact waits serverEnd List.mem_cons_self

theorem run_close (h : s.Whole) (has : s.socketOf? fd = some id) : ∃ s',
    close fd s = (.ok (), s') ∧ s'.Stands s.tree (s.descriptors.filter (·.1 ≠ fd)) := by
  have left : ({ s with descriptors := s.descriptors.filter (·.1 ≠ fd) } : State).Whole := by
    refine ⟨fun has => ?_, h.queued, h.named⟩
    rw [socketOf?_without] at has
    split at has
    · cases has
    · exact h.known has
  have closed := stands_closeSocket id _ left.stands
  obtain ⟨_, gives⟩ := Call.Succeeds.closeSocket id
    ({ s with descriptors := s.descriptors.filter (·.1 ≠ fd) } : State)
  refine ⟨_, ?_, closed⟩
  unfold close
  rw [Call.run_bind_ok (lookup_some has)]
  exact Prod.ext gives rfl

theorem run_close_none (has : s.socketOf? fd = none) :
    close fd s = (.error Errno.badDescriptor, s) := by
  unfold close
  rw [Call.run_bind_error (lookup_none has)]

theorem Whole.make (h : s.Whole) {bytes : List UInt8} (proper : 0 ∉ bytes) {node : Node}
    (made : s.tree.make bytes node = .ok t) : ({ s with tree := t } : State).Whole :=
  h.withTree (h.named.make proper made)

theorem Whole.remove (h : s.Whole) {bytes : List UInt8} (removed : s.tree.remove bytes = .ok t) :
    ({ s with tree := t } : State).Whole := h.withTree (h.named.remove removed)

theorem Binding.whole {bytes : List UInt8} {r : Except Int Unit × State} (b : s.Binding fd bytes r)
    (proper : 0 ∉ bytes) (h : s.Whole) : r.2.Whole := by
  cases b with
  | @bound id _ _ t made =>
    have named := h.make proper made
    exact named.setSock fun _ mem => named.queued mem
  | _ => exact h

theorem Binding.descriptors {bytes : List UInt8} {r : Except Int Unit × State}
    (b : s.Binding fd bytes r) : r.2.descriptors = s.descriptors := by
  cases b <;> rfl

end ProcessorSockets.UnixDomain.State
