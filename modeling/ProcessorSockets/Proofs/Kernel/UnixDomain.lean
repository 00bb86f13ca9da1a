import ProcessorSockets.Proofs.Kernel.Call
import ProcessorSockets.Proofs.Kernel.FileTree

namespace ProcessorSockets.UnixDomain

open FileTree (Path Node Tree)

namespace State

structure Orderly (s : State) : Prop where
  known : ∀ {fd id}, s.socketOf? fd = some id → id < s.sockets.length
  alive : ∀ {fd id}, s.socketOf? fd = some id → (s.sock id).closed = false
  alone : ∀ {fd fd' id}, s.socketOf? fd = some id → s.socketOf? fd' = some id → fd' = fd
  waiting : ∀ {k id}, id ∈ (s.sock k).waiting →
    id < s.sockets.length ∧ (s.sock id).closed = false ∧ ∀ fd, s.socketOf? fd ≠ some id
  once : ∀ {k k' id}, id ∈ (s.sock k).waiting → id ∈ (s.sock k').waiting → k' = k
  nodup : ∀ k, (s.sock k).waiting.Nodup
  named : s.tree.Named

/-- A path leads to the socket of a descriptor, which is bound. -/
structure Leads (s : State) (fd : Descriptor) (path : String) (id : Nat) (end_ : Path) : Prop where
  has : s.socketOf? fd = some id
  bound : (s.sock id).bound = true
  leads : s.tree.get (bytesOf path) = .ok (end_, .socket (some id))

def Holds (s : State) (fd : Descriptor) (path : String) : Prop := ∃ id end_, s.Leads fd path id end_

/-- A socket without a descriptor, for which nobody waits either. -/
structure Free (s : State) (id : Nat) : Prop where
  inside : id < s.sockets.length
  free : ∀ fd, s.socketOf? fd ≠ some id
  unmet : ∀ k, id ∉ (s.sock k).waiting

structure Serves (held : List (Descriptor × String)) (s : State) : Prop where
  orderly : s.Orderly
  holds : ∀ p ∈ held, s.Holds p.1 p.2

structure Spares (held : List (Descriptor × String)) (ids : List Nat) (s : State) : Prop where
  serves : s.Serves held
  free : ∀ id ∈ ids, s.Free id

variable {s s' : State} {held : List (Descriptor × String)} {id : Nat}

theorem sock_setSock (s : State) (id : Nat) (k : Sock) (id' : Nat) :
    (s.setSock id k).sock id' = if id' = id ∧ id < s.sockets.length then k else s.sock id' := by
  unfold setSock sock
  by_cases same : id' = id
  · subst same
    by_cases inside : id' < s.sockets.length
    · simp [inside]
    · simp [inside, List.getD]
  · simp [same, List.getD, List.getElem?_set_ne (Ne.symm same)]

theorem length_setSock (s : State) (id : Nat) (k : Sock) :
    (s.setSock id k).sockets.length = s.sockets.length := List.length_set

theorem sublist_setSock {k : Sock} (fewer : k.waiting.Sublist (s.sock id).waiting) (k' : Nat) :
    ((s.setSock id k).sock k').waiting.Sublist (s.sock k').waiting := by
  rw [sock_setSock]
  split
  · rename_i same
    exact same.1 ▸ fewer
  · exact .refl _

theorem inside_of_waiting {k : Nat} (mem : id ∈ (s.sock k).waiting) : k < s.sockets.length := by
  by_contra out
  simp [sock, List.getD, List.getElem?_eq_none_iff.mpr (Nat.le_of_not_lt out)] at mem

theorem Holds.setSock {fd : Descriptor} {path : String} (h : s.Holds fd path) {k : Sock}
    (bound : k.bound = (s.sock id).bound ∨ k.bound = true) : (s.setSock id k).Holds fd path := by
  obtain ⟨id', end_, leads⟩ := h
  refine ⟨id', end_, { leads with bound := ?_ }⟩
  rw [sock_setSock]
  split
  · rename_i here
    cases bound with
    | inl same => rw [same, ← here.1, leads.bound]
    | inr bound => exact bound
  · exact leads.bound

theorem Serves.setSock (h : s.Serves held) {k : Sock}
    (fewer : k.waiting.Sublist (s.sock id).waiting)
    (alive : s.Free id ∨ k.closed = (s.sock id).closed)
    (bound : k.bound = (s.sock id).bound ∨ k.bound = true) : (s.setSock id k).Serves held := by
  have sub := sublist_setSock fewer
  have lives {id' : Nat} (used : ¬s.Free id') (open_ : (s.sock id').closed = false) :
      ((s.setSock id k).sock id').closed = false := by
    rw [sock_setSock]
    split
    · rename_i here
      cases alive with
      | inl free => exact absurd (here.1 ▸ free) used
      | inr same => rw [same, ← here.1, open_]
    · exact open_
  refine ⟨{
    known := fun has => ?_
    alive := fun {fd id'} has => ?_
    alone := h.orderly.alone
    waiting := fun mem => ?_
    once := fun mem mem' => h.orderly.once ((sub _).subset mem) ((sub _).subset mem')
    nodup := fun k' => (h.orderly.nodup k').sublist (sub k')
    named := h.orderly.named }, fun p mem => (h.holds p mem).setSock bound⟩
  · rw [length_setSock]
    exact h.orderly.known has
  · exact lives (fun free => free.free fd has) (h.orderly.alive has)
  · rw [length_setSock]
    have waiting := h.orderly.waiting ((sub _).subset mem)
    exact ⟨waiting.1, lives (fun free => free.unmet _ ((sub _).subset mem)) waiting.2.1,
      waiting.2.2⟩

theorem sock_new (s : State) (k : Sock) (id : Nat) :
    ({ s with sockets := s.sockets ++ [k] } : State).sock id =
      if id = s.sockets.length then k else s.sock id := by
  unfold sock
  by_cases last : id = s.sockets.length
  · simp [last, List.getD]
  · by_cases inside : id < s.sockets.length
    · simp [last, List.getD, List.getElem?_append_left inside]
    · have out : s.sockets.length + 1 ≤ id := by omega
      simp [last, List.getD, List.getElem?_eq_none_iff.mpr (Nat.le_of_not_lt inside),
        List.getElem?_eq_none_iff.mpr (show (s.sockets ++ [k]).length ≤ id by simpa using out)]

theorem Serves.newSocket (h : s.Serves held) {k : Sock} (none : k.waiting = []) :
    ({ s with sockets := s.sockets ++ [k] } : State).Serves held := by
  have waits {id' id : Nat}
      (mem : id ∈ (({ s with sockets := s.sockets ++ [k] } : State).sock id').waiting) :
      id ∈ (s.sock id').waiting := by
    rw [sock_new] at mem
    split at mem
    · simp [none] at mem
    · exact mem
  refine ⟨{
    known := fun has => ?_
    alive := fun has => ?_
    alone := h.orderly.alone
    waiting := fun mem => ?_
    once := fun mem mem' => h.orderly.once (waits mem) (waits mem')
    nodup := fun k' => ?_
    named := h.orderly.named }, fun p mem => ?_⟩
  · simpa using Nat.lt_succ_of_lt (h.orderly.known has)
  · rw [sock_new, if_neg (Nat.ne_of_lt (h.orderly.known has))]
    exact h.orderly.alive has
  · have known := h.orderly.waiting (waits mem)
    rw [sock_new, if_neg (Nat.ne_of_lt known.1)]
    exact ⟨by simpa using Nat.lt_succ_of_lt known.1, known.2⟩
  · rw [sock_new]
    split
    · simp [none]
    · exact h.orderly.nodup k'
  · obtain ⟨id, end_, leads⟩ := h.holds p mem
    refine ⟨id, end_, { leads with bound := ?_ }⟩
    rw [sock_new, if_neg (Nat.ne_of_lt (h.orderly.known leads.has))]
    exact leads.bound

theorem socketOf?_add {fd fd' : Descriptor} {id' : Nat} :
    ({ s with
      descriptors := s.descriptors ++ [(fd', id)], next := s.next + 1 } : State).socketOf? fd
        = some id' ↔
      s.socketOf? fd = some id' ∨ s.socketOf? fd = none ∧ fd = fd' ∧ id = id' := by
  have last : [(fd', id)].lookup fd = if fd = fd' then some id else none := by
    by_cases same : fd = fd'
    · simp [same]
    · simp [same, List.lookup_cons, show (fd == fd') = false by simpa using same]
  unfold socketOf?
  rw [List.lookup_append, last]
  cases s.descriptors.lookup fd with
  | some i => simp
  | none => simp

theorem Serves.newDescriptor (h : s.Serves held) (free : s.Free id)
    (alive : (s.sock id).closed = false) : ({ s with
      descriptors := s.descriptors ++ [(s.next, id)], next := s.next + 1 } :
        State).Serves held := by
  refine ⟨{
    known := fun has => ?_
    alive := fun has => ?_
    alone := fun has has' => ?_
    waiting := fun mem => ?_
    once := h.orderly.once
    nodup := h.orderly.nodup
    named := h.orderly.named }, fun p mem => ?_⟩
  · cases socketOf?_add.mp has with
    | inl old => exact h.orderly.known old
    | inr new => exact new.2.2 ▸ free.inside
  · cases socketOf?_add.mp has with
    | inl old => exact h.orderly.alive old
    | inr new => exact new.2.2 ▸ alive
  · cases socketOf?_add.mp has with
    | inl old =>
      cases socketOf?_add.mp has' with
      | inl old' => exact h.orderly.alone old old'
      | inr new' => exact absurd (new'.2.2 ▸ old) (free.free _)
    | inr new =>
      cases socketOf?_add.mp has' with
      | inl old' => exact absurd (new.2.2 ▸ old') (free.free _)
      | inr new' => exact new'.2.1.trans new.2.1.symm
  · have known := h.orderly.waiting mem
    refine ⟨known.1, known.2.1, fun fd has => ?_⟩
    cases socketOf?_add.mp has with
    | inl old => exact known.2.2 fd old
    | inr new =>
      have is := new.2.2
      subst is
      exact free.unmet _ mem
  · obtain ⟨id', end_, leads⟩ := h.holds p mem
    exact ⟨id', end_, { leads with has := socketOf?_add.mpr (.inl leads.has) }⟩

theorem Serves.queue (h : s.Serves held) {k : Sock} {listener : Nat} (free : s.Free id)
    (alive : (s.sock id).closed = false) (more : k.waiting = (s.sock listener).waiting ++ [id])
    (same : k.closed = (s.sock listener).closed) (bound : k.bound = (s.sock listener).bound) :
    (s.setSock listener k).Serves held := by
  have waits {k' id' : Nat} (mem : id' ∈ ((s.setSock listener k).sock k').waiting) :
      id' ∈ (s.sock k').waiting ∨ id' = id ∧ k' = listener := by
    rw [sock_setSock] at mem
    split at mem
    · rename_i here
      rw [more, List.mem_append, List.mem_singleton] at mem
      rw [here.1]
      exact mem.imp_right fun is => ⟨is, rfl⟩
    · exact .inl mem
  have life (id' : Nat) : ((s.setSock listener k).sock id').closed = (s.sock id').closed := by
    rw [sock_setSock]
    split
    · rename_i here
      rw [same, here.1]
    · rfl
  -- The new one waits nowhere yet, so it waits at this listener only.
  refine ⟨{
    known := fun has => ?_
    alive := fun has => ?_
    alone := h.orderly.alone
    waiting := fun mem => ?_
    once := fun mem mem' => ?_
    nodup := fun k' => ?_
    named := h.orderly.named }, fun p mem => (h.holds p mem).setSock (.inl bound)⟩
  · rw [length_setSock]
    exact h.orderly.known has
  · exact (life _).trans (h.orderly.alive has)
  · rw [length_setSock, life]
    cases waits mem with
    | inl old => exact h.orderly.waiting old
    | inr new => exact new.1 ▸ ⟨free.inside, alive, free.free⟩
  · cases waits mem with
    | inl old =>
      cases waits mem' with
      | inl old' => exact h.orderly.once old old'
      | inr new' => exact absurd (new'.1 ▸ old) (free.unmet _)
    | inr new =>
      cases waits mem' with
      | inl old' => exact absurd (new.1 ▸ old') (free.unmet _)
      | inr new' => exact new'.2.trans new.2.symm
  · rw [sock_setSock]
    split
    · rw [more]
      exact List.nodup_append.mpr ⟨h.orderly.nodup _, by simp, fun a mem b is same => by
        rw [List.mem_singleton.mp is] at same
        exact free.unmet _ (same ▸ mem)⟩
    · exact h.orderly.nodup k'

theorem Serves.withTree (h : s.Serves held) {t : Tree} (named : t.Named)
    (leads : ∀ {p id end_}, p ∈ held → s.Leads p.1 p.2 id end_ →
      t.get (bytesOf p.2) = .ok (end_, .socket (some id))) :
    ({ s with tree := t } : State).Serves held :=
  ⟨{ h.orderly with named }, fun p mem => by
    obtain ⟨id, end_, led⟩ := h.holds p mem
    exact ⟨id, end_, { led with leads := leads mem led }⟩⟩

theorem socketOf?_without (s : State) (fd fd' : Descriptor) :
    ({ s with descriptors := s.descriptors.filter (·.1 ≠ fd) } : State).socketOf? fd' =
      if fd' = fd then none else s.socketOf? fd' := lookup_filter ..

theorem Serves.without (h : s.Serves held) (fd : Descriptor) :
    ({ s with descriptors := s.descriptors.filter (·.1 ≠ fd) } : State).Serves
      (held.filter (·.1 ≠ fd)) := by
  have old {fd' : Descriptor} {id : Nat} (has : ({ s with
      descriptors := s.descriptors.filter (·.1 ≠ fd) } : State).socketOf? fd' = some id) :
      s.socketOf? fd' = some id := by
    rw [socketOf?_without] at has
    split at has
    · cases has
    · exact has
  refine ⟨{
    known := fun has => h.orderly.known (old has)
    alive := fun has => h.orderly.alive (old has)
    alone := fun has has' => h.orderly.alone (old has) (old has')
    waiting := fun mem =>
      have waiting := h.orderly.waiting mem
      ⟨waiting.1, waiting.2.1, fun fd' has => waiting.2.2 fd' (old has)⟩
    once := h.orderly.once
    nodup := h.orderly.nodup
    named := h.orderly.named }, fun p mem => ?_⟩
  obtain ⟨mem, other⟩ := List.mem_filter.mp mem
  obtain ⟨id, end_, leads⟩ := h.holds p mem
  refine ⟨id, end_, { leads with has := ?_ }⟩
  rw [socketOf?_without, if_neg (by simpa using other)]
  exact leads.has

end State

namespace State

variable {held : List (Descriptor × String)} {ids : List Nat} {s : State} {id : Nat}

open Call (Keeps Indifferent)

theorem Free.setSock (free : s.Free id) {id' : Nat} {k : Sock}
    (fewer : k.waiting.Sublist (s.sock id').waiting) : (s.setSock id' k).Free id :=
  ⟨by rw [length_setSock]; exact free.inside, free.free,
    fun k' mem => free.unmet k' ((sublist_setSock fewer k').subset mem)⟩

theorem keeps_alter (far : Nat) {f : Sock → Sock} (same : ∀ k, (f k).Like k) :
    Keeps (Spares held ids) (update far f) := by
  intro s h
  have fewer : (f (s.sock far)).waiting.Sublist (s.sock far).waiting :=
    (same (s.sock far)).waiting ▸ .refl _
  exact ⟨h.serves.setSock fewer (.inr (same _).closed) (.inl (same _).bound),
    fun id mem => (h.free id mem).setSock fewer⟩

theorem Serves.free (h : s.Serves held) {k : Sock} (none : k.waiting = []) :
    ({ s with sockets := s.sockets ++ [k] } : State).Free s.sockets.length := by
  refine ⟨by simp, fun fd has => Nat.lt_irrefl _ (h.orderly.known has), fun k' mem => ?_⟩
  rw [sock_new] at mem
  split at mem
  · simp [none] at mem
  · exact Nat.lt_irrefl _ (h.orderly.waiting mem).1

theorem keeps_socket (domain type protocol : Int) :
    Keeps (Serves held) (socket domain type protocol) := by
  unfold socket
  refine .check (.check ?_)
  cases Style.ofType? (type - Syscall.closeOnExec) with
  | none => exact .fails _
  | some style =>
    intro s h
    have made := h.newSocket (k := { style }) rfl
    apply made.newDescriptor (h.free rfl)
    rw [sock_new, if_pos rfl]

theorem Free.newSocket (free : s.Free id) {k : Sock} (none : k.waiting = []) :
    ({ s with sockets := s.sockets ++ [k] } : State).Free id := by
  refine ⟨by simpa using Nat.lt_succ_of_lt free.inside, free.free, fun k' mem => ?_⟩
  rw [sock_new] at mem
  split at mem
  · simp [none] at mem
  · exact free.unmet k' mem

theorem keeps_dial {k : Sock} (none : k.waiting = []) (alive : k.closed = false) (listener : Nat)
    {rest : Nat → Call Unit} (kept : ∀ id, Keeps (Spares held ids) (rest id)) :
    Keeps (Spares held ids) (newSocket k >>= fun serverEnd =>
      update listener (fun k => { k with waiting := k.waiting ++ [serverEnd] }) >>= fun _ =>
        rest serverEnd) := by
  intro s h
  apply kept s.sockets.length
  have free := h.serves.free none
  have made : (newSocket k s).2.Spares held ids := ⟨h.serves.newSocket none, fun id mem =>
    (h.free id mem).newSocket none⟩
  have alive' : ((newSocket k s).2.sock s.sockets.length).closed = false := by
    have last := sock_new s k s.sockets.length
    rw [if_pos rfl] at last
    exact (congrArg Sock.closed last).trans alive
  refine ⟨made.serves.queue free alive' rfl rfl rfl, fun id mem => ?_⟩
  refine ⟨by rw [length_setSock]; exact (made.free id mem).inside, (made.free id mem).free, ?_⟩
  intro k' waits
  rw [sock_setSock] at waits
  split at waits
  · cases List.mem_append.mp waits with
    | inl old => exact (made.free id mem).unmet _ old
    | inr new => exact Nat.ne_of_lt (h.free id mem).inside (List.mem_singleton.mp new)
  · exact (made.free id mem).unmet _ waits

theorem indifferent_spares : Indifferent (Spares held ids) :=
  ⟨keeps_alter, keeps_dial⟩

theorem indifferent_serves : Indifferent (Serves held) where
  update id _ same s h :=
    have alone : s.Spares held [] := ⟨h, nofun⟩
    (keeps_alter id same s alone).serves
  dial none alive listener rest kept s h :=
    have alone : s.Spares held [] := ⟨h, nofun⟩
    have goes (id : Nat) : Keeps (Spares held []) (rest id) :=
      fun s h => ⟨kept id s h.serves, nofun⟩
    (keeps_dial none alive listener goes s alone).serves

theorem lookup_some {fd : Descriptor} {id : Nat} (has : s.socketOf? fd = some id) :
    lookup fd s = (.ok id, s) := by
  have run : (get : Call State) s = (.ok s, s) := rfl
  unfold lookup
  rw [Call.run_bind_ok run, has]
  rfl

theorem lookup_none {fd : Descriptor} (has : s.socketOf? fd = none) :
    lookup fd s = (.error Errno.badDescriptor, s) := by
  have run : (get : Call State) s = (.ok s, s) := rfl
  unfold lookup
  rw [Call.run_bind_ok run, has]
  rfl

theorem Serves.accept (h : s.Serves held) {listener : Nat} {rest : List Nat} {id : Nat}
    (first : (s.sock listener).waiting = id :: rest) :
    ((update listener (fun k => { k with waiting := rest }) >>= fun _ =>
      UnixDomain.newDescriptor id) s).2.Serves held := by
  have waits : id ∈ (s.sock listener).waiting := by simp [first]
  have fewer : rest.Sublist (s.sock listener).waiting := first ▸ List.sublist_cons_self _ _
  have nodup := h.orderly.nodup listener
  rw [first] at nodup
  have popped := h.setSock (k := { s.sock listener with waiting := rest }) fewer (.inr rfl)
    (.inl rfl)
  apply popped.newDescriptor
  · refine ⟨by rw [length_setSock]; exact (h.orderly.waiting waits).1,
      (h.orderly.waiting waits).2.2, fun k mem => ?_⟩
    have same := h.orderly.once waits ((sublist_setSock fewer k).subset mem)
    subst same
    rw [sock_setSock] at mem
    split at mem
    · exact (List.nodup_cons.mp nodup).1 mem
    · rename_i out
      exact out ⟨rfl, inside_of_waiting mem⟩
  · rw [sock_setSock]
    split
    · rename_i same
      exact same.1 ▸ (h.orderly.waiting waits).2.1
    · exact (h.orderly.waiting waits).2.1

theorem keeps_accept (fd : Descriptor) : Keeps (Serves held) (accept fd) := by
  unfold accept
  refine .andThen (.lookup fd) fun id s h => ?_
  have run : UnixDomain.sock id s = (.ok (s.sock id), s) := rfl
  rw [Call.run_bind_ok run]
  refine Keeps.checkAt h (Keeps.checkAt h ?_)
  cases first : (s.sock id).waiting with
  | nil => exact h
  | cons serverEnd rest => exact h.accept first

theorem Spares.hangUp (h : s.Spares held ids) (free : s.Free id) (lost : Bool) :
    (hangUp id lost s).2.Spares held (ids ++ (s.sock id).waiting) := by
  have run : UnixDomain.sock id s = (.ok (s.sock id), s) := rfl
  have fewer : ([] : List Nat).Sublist (s.sock id).waiting := List.nil_sublist _
  unfold UnixDomain.hangUp
  rw [Call.run_bind_ok run]
  have closed : (s.setSock id { s.sock id with
      closed := true, peer := none, queue := [], waiting := [] }).Spares held
        (ids ++ (s.sock id).waiting) := by
    refine ⟨h.serves.setSock fewer (.inl free) (.inl rfl), fun id' mem => ?_⟩
    cases List.mem_append.mp mem with
    | inl old => exact (h.free id' old).setSock fewer
    | inr waits =>
      refine ⟨by rw [length_setSock]; exact (h.serves.orderly.waiting waits).1,
        (h.serves.orderly.waiting waits).2.2, fun k mem => ?_⟩
      have same := h.serves.orderly.once waits ((sublist_setSock fewer k).subset mem)
      subst same
      rw [sock_setSock] at mem
      split at mem
      · cases mem
      · rename_i out
        exact out ⟨rfl, inside_of_waiting mem⟩
  refine Keeps.after (P := Spares held (ids ++ (s.sock id).waiting)) closed fun _ => ?_
  cases (s.sock id).peer with
  | none => exact .done ()
  | some far =>
    change Keeps _ (if (s.sock id).style.paired then _ else _)
    split
    · exact keeps_alter far fun _ => ⟨rfl, rfl, rfl⟩
    · exact .done ()

theorem Serves.closeSocket (h : s.Serves held) (free : s.Free id) :
    (closeSocket id s).2.Serves held := by
  have run : UnixDomain.sock id s = (.ok (s.sock id), s) := rfl
  have first : s.Spares held [] := ⟨h, nofun⟩
  unfold UnixDomain.closeSocket
  rw [Call.run_bind_ok run]
  have closed : Spares held (s.sock id).waiting _ := Keeps.after (first.hangUp free false) fun _ =>
    .andThen (.each fun id mem s h =>
      ⟨(h.hangUp (h.free id mem) true).serves, fun id' mem' =>
        (h.hangUp (h.free id mem) true).free id' (List.mem_append_left _ mem')⟩) fun _ => .done ()
  exact closed.serves

theorem Serves.fewer (h : s.Serves held) {held' : List (Descriptor × String)}
    (sub : ∀ p ∈ held', p ∈ held) : s.Serves held' :=
      ⟨h.orderly, fun p mem => h.holds p (sub p mem)⟩

theorem Serves.close (h : s.Serves held) (fd : Descriptor) :
    (close fd s).2.Serves (held.filter (·.1 ≠ fd)) := by
  unfold UnixDomain.close
  cases has : s.socketOf? fd with
  | none =>
    rw [Call.run_bind_error (lookup_none has)]
    exact h.fewer fun p mem => (List.mem_filter.mp mem).1
  | some id =>
    rw [Call.run_bind_ok (lookup_some has)]
    apply (h.without fd).closeSocket
    refine ⟨h.orderly.known has, fun fd' has' => ?_,
      fun k mem => (h.orderly.waiting mem).2.2 fd has⟩
    have left := socketOf?_without s fd fd'
    rw [has'] at left
    split at left
    · cases left
    · rename_i other
      exact other (h.orderly.alone has left.symm)

end State

end ProcessorSockets.UnixDomain
