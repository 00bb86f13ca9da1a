import ProcessorSockets.Proofs.Kernel.Descriptors
import ProcessorSockets.Proofs.Transport.Service

namespace ProcessorSockets.Loopback

open FileTree (Path Node Tree)
open Native (Keeps)
open UnixDomain (State kernel)

variable {place : Place} {fd : Descriptor} {a : Address} {desk desk' : Desk State}
  {path : String} {r : Except NativeError Unit}

theorem withProbe_stands (h : desk.kernel.Whole) (path : String) :
    (withProbe desk path).kernel.Stands desk.kernel.tree desk.kernel.descriptors :=
  h.stands.probe path

theorem cleared_whole (h : desk.kernel.Whole) {t : Tree}
    (removed : desk.kernel.tree.remove (bytesOf path) = .ok t) :
    (withTree (withProbe desk path) t).kernel.Whole := by
  rw [← withProbe_tree desk path] at removed
  exact (withProbe_stands h path).whole.remove removed

theorem binding_alike {s : State} {bytes : List UInt8} {r : Except Int Unit × State}
    (b : s.Binding fd bytes r) : s.tree.AlikeBut bytes r.2.tree := by
  cases b with
  | bound has free made => exact .make made nofun
  | _ => exact .refl _ _

namespace Claimed

theorem whole (claimed : Claimed fd path desk r desk') (proper : 0 ∉ bytesOf path)
    (h : desk.kernel.Whole) : desk'.kernel.Whole := by
  cases claimed with
  | bound names => exact names.whole proper h
  | failed other names => exact h
  | kept taken stays => exact (withProbe_stands h path).whole
  | cleared refused removed has named => exact cleared_whole h removed
  | replaced refused removed names => exact names.whole proper (cleared_whole h removed)

theorem socketOf? (claimed : Claimed fd path desk r desk') (fd' : Descriptor) :
    desk'.kernel.socketOf? fd' = desk.kernel.socketOf? fd' := by
  have same {s s' : State} {r : Except Int Unit} (names : s.Binding fd (bytesOf path) (r, s')) :
      s'.socketOf? fd' = s.socketOf? fd' :=
    congrArg (·.lookup fd') names.descriptors
  cases claimed with
  | bound names => exact same names
  | failed other names => rfl
  | kept taken stays => exact withProbe_socketOf? desk path fd'
  | cleared refused removed has named => exact withProbe_socketOf? desk path fd'
  | replaced refused removed names => exact (same names).trans (withProbe_socketOf? desk path fd')

theorem alike (claimed : Claimed fd path desk r desk') :
    desk.kernel.tree.AlikeBut (bytesOf path) desk'.kernel.tree := by
  cases claimed with
  | bound names => exact binding_alike names
  | failed other names => exact .refl _ _
  | kept taken stays =>
    rw [withProbe_tree]
    exact .refl _ _
  | cleared refused removed has named => exact .remove removed
  | replaced refused removed names =>
    exact (Tree.AlikeBut.remove removed).trans (binding_alike names)

theorem leads (claimed : Claimed fd path desk (.ok ()) desk') :
    ∃ end_ bound, desk'.kernel.tree.get (bytesOf path) = .ok (end_, .socket bound) := by
  have left {s s' : State} (names : s.Binding fd (bytesOf path) (.ok (), s')) :
      ∃ end_ bound, s'.tree.get (bytesOf path) = .ok (end_, .socket bound) := by
    cases names with
    | @bound id has free t made =>
      obtain ⟨end_, there⟩ := Tree.get_make made
      exact ⟨end_, some id, there⟩
  cases claimed with
  | bound names => exact left names
  | replaced refused removed names => exact left names

theorem open_ (claimed : Claimed fd path desk (.ok ()) desk') :
    desk.kernel.socketOf? fd ≠ none := by
  have has {s s' : State} (names : s.Binding fd (bytesOf path) (.ok (), s')) :
      s.socketOf? fd ≠ none := by
    cases names with
    | bound has free made => simp [has]
  cases claimed with
  | bound names => exact has names
  | @replaced t _ refused removed names =>
    rw [← withProbe_socketOf? desk path, ← withTree_socketOf? (withProbe desk path) t]
    exact has names

theorem bound_ok (claimed : Claimed fd path desk (.ok ()) desk') :
    desk'.bound = (fd, path) :: desk.bound.filter (·.1 ≠ fd) := by
  cases claimed <;> rfl

theorem bound_error {e : NativeError} (claimed : Claimed fd path desk (.error e) desk') :
    desk'.bound = desk.bound := by
  cases claimed <;> rfl

theorem missing {e : NativeError} (claimed : Claimed fd path desk (.error e) desk') {end_ : Path}
    (leads : desk.kernel.tree.resolve (bytesOf path) = .ok end_)
    (free : desk.kernel.tree.find? end_ = none) : desk'.kernel.tree.find? end_ = none := by
  have empty {q : Path} {node : Node}
      (taken : desk.kernel.tree.get (bytesOf path) = .ok (q, node)) : False := by
    cases (Tree.get_missing leads free).symm.trans taken
  cases claimed with
  | failed other names => exact free
  | kept taken stays => exact (empty taken).elim
  | cleared refused removed has named =>
    obtain ⟨_, _, taken, _⟩ := Tree.remove_ok.mp removed
    exact (empty taken).elim

end Claimed

namespace Errand

theorem whole (errand : Errand place fd a desk r desk') (h : desk.kernel.Whole) :
    desk'.kernel.Whole := by
  cases errand with
  | invalid no => exact h
  | astray grows missing => exact h.withTree (grows.named h.named)
  | claimed writes proper grows same claimed =>
    exact claimed.whole proper (h.withTree (grows.named h.named))

theorem socketOf? (errand : Errand place fd a desk r desk') (fd' : Descriptor) :
    desk'.kernel.socketOf? fd' = desk.kernel.socketOf? fd' := by
  cases errand with
  | invalid no => rfl
  | astray grows missing => rfl
  | claimed writes proper grows same claimed => exact claimed.socketOf? fd'

theorem bound_error {e : NativeError} (errand : Errand place fd a desk (.error e) desk') :
    desk'.bound = desk.bound := by
  cases errand with
  | invalid no => rfl
  | astray grows missing => rfl
  | claimed writes proper grows same claimed => exact claimed.bound_error

theorem settled (errand : Errand place fd a desk r desk')
    (there : place.There desk.kernel.tree) :
    (∃ e, r = .error e ∧ desk' = desk ∧ ∀ path, ¬place.Writes a path) ∨
      ∃ path, place.Writes a path ∧ 0 ∉ bytesOf path ∧ Claimed fd path desk r desk' := by
  cases errand with
  | @invalid e no => exact .inl ⟨e, rfl, rfl, no⟩
  | astray grows missing => exact absurd there missing
  | @claimed path t _ _ writes proper grows same claimed =>
    cases same there
    exact .inr ⟨path, writes, proper, claimed⟩

end Errand

theorem withoutFile_none (own : desk.bound.lookup fd = none) :
    (withoutFile desk fd).kernel = desk.kernel := by
  unfold withoutFile
  rw [own]

theorem withoutFile_some (own : desk.bound.lookup fd = some path) :
    (withoutFile desk fd).kernel = (kernel.call (.unlink path) desk.kernel).2 := by
  unfold withoutFile
  rw [own]

theorem call_unlink (s : State) (path : String) :
    (∃ t, s.tree.remove (bytesOf path) = .ok t ∧
      (kernel.call (.unlink path) s).2 = { s with tree := t }) ∨
    (∃ code, s.tree.remove (bytesOf path) = .error code) ∧
      (kernel.call (.unlink path) s).2 = s := by
  cases removed : s.tree.remove (bytesOf path) with
  | ok t => exact .inl ⟨t, rfl, congrArg Prod.snd (call_unlink_ok removed)⟩
  | error code => exact .inr ⟨⟨code, rfl⟩, congrArg Prod.snd (call_unlink_error removed)⟩

theorem withoutFile_keeps (h : desk.kernel.Whole) (fd : Descriptor) :
    (withoutFile desk fd).kernel.Whole ∧
      (withoutFile desk fd).kernel.descriptors = desk.kernel.descriptors := by
  cases own : desk.bound.lookup fd with
  | none =>
    rw [withoutFile_none own]
    exact ⟨h, rfl⟩
  | some path =>
    rw [withoutFile_some own]
    obtain ⟨t, removed, same⟩ | ⟨_, same⟩ := call_unlink desk.kernel path
    · rw [same]
      exact ⟨h.remove removed, rfl⟩
    · rw [same]
      exact ⟨h, rfl⟩

theorem withoutFile_alike (own : desk.bound.lookup fd = some path) :
    desk.kernel.tree.AlikeBut (bytesOf path) (withoutFile desk fd).kernel.tree := by
  rw [withoutFile_some own]
  obtain ⟨t, removed, same⟩ | ⟨_, same⟩ := call_unlink desk.kernel path
  · rw [same]
    exact .remove removed
  · rw [same]
    exact .refl _ _

structure Closing (fd : Descriptor) (desk : Desk State) (r : Except NativeError Unit)
    (desk' : Desk State) : Prop where
  whole : desk'.kernel.Whole
  tree : desk'.kernel.tree = (withoutFile desk fd).kernel.tree
  socketOf? : ∀ fd', desk'.kernel.socketOf? fd' =
    if fd' = fd then none else desk.kernel.socketOf? fd'
  bound : desk'.bound = desk.bound.filter (·.1 ≠ fd)
  ok : desk.kernel.socketOf? fd ≠ none → r = .ok ()

theorem closing (h : desk.kernel.Whole) (fd : Descriptor) (notes : List Note) :
    Closing fd desk (close kernel fd (desk, notes)).1 (close kernel fd (desk, notes)).2.1 := by
  obtain ⟨notes', runs⟩ := run_close fd desk notes
  obtain ⟨whole, table⟩ := withoutFile_keeps h fd
  have here (fd' : Descriptor) :
      (withoutFile desk fd).kernel.socketOf? fd' = desk.kernel.socketOf? fd' :=
    congrArg (·.lookup fd') table
  rw [runs]
  cases has : desk.kernel.socketOf? fd with
  | none =>
    have none := State.run_close_none ((here fd).trans has)
    rw [Native.run_syscall_error none]
    refine ⟨whole, rfl, fun fd' => ?_, rfl, fun some => absurd has some⟩
    rw [here fd']
    split
    · rename_i same
      rw [same, has]
    · rfl
  | some id =>
    obtain ⟨s', closes, stands⟩ := State.run_close whole ((here fd).trans has)
    rw [Native.run_syscall_ok closes]
    refine ⟨stands.whole, stands.tree, fun fd' => ?_, rfl, fun _ => rfl⟩
    have left : s'.socketOf? fd' = _ := congrArg (·.lookup fd') stands.descriptors
    rw [left]
    exact (State.socketOf?_without _ fd fd').trans (by rw [here fd'])

inductive Opened (desk : Desk State) : Except NativeError Descriptor → Desk State → Prop
  | refused (e : NativeError) : Opened desk (.error e) desk
  | opened {s : State} {id : Nat}
      (stands : s.Stands desk.kernel.tree (desk.kernel.descriptors ++ [(desk.kernel.next, id)])) :
      Opened desk (.ok desk.kernel.next) { desk with kernel := s }

theorem opened_socket (h : desk.kernel.Whole) (domain type protocol : Int) (notes : List Note) :
    Opened desk (Native.syscall kernel (.socket domain type protocol) (desk, notes)).1
      (Native.syscall kernel (.socket domain type protocol) (desk, notes)).2.1 := by
  have opening : desk.kernel.Opening (kernel.call (.socket domain type protocol) desk.kernel) :=
    State.opening_socket h domain type protocol
  generalize run : kernel.call (.socket domain type protocol) desk.kernel = r at opening
  cases opening with
  | refused code =>
    rw [Native.run_syscall_error run]
    exact .refused _
  | opened stands =>
    rw [Native.run_syscall_ok run]
    exact .opened stands

theorem opened_create (h : desk.kernel.Whole) (type protocol : Int) (notes : List Note) :
    Opened desk (create kernel type protocol (desk, notes)).1
      (create kernel type protocol (desk, notes)).2.1 := by
  have socket : Opened desk (Native.socket kernel Syscall.localDomain type protocol (desk, notes)).1
      (Native.socket kernel Syscall.localDomain type protocol (desk, notes)).2.1 := by
    unfold Native.socket
    split
    · exact opened_socket h _ _ _ notes
    · exact .refused _
  unfold create
  cases run : Native.socket kernel Syscall.localDomain type protocol (desk, notes) with
  | mk r st =>
    rw [run] at socket
    cases r with
    | error e =>
      rw [Native.run_bind_error run]
      exact socket
    | ok fd =>
      rw [Native.run_bind_ok run]
      exact socket

theorem opened_accept (h : desk.kernel.Whole) (fd : Descriptor) (flags : Int) (notes : List Note) :
    Opened desk (Native.syscall kernel (.accept fd flags) (desk, notes)).1
      (Native.syscall kernel (.accept fd flags) (desk, notes)).2.1 := by
  have opening : desk.kernel.Opening (kernel.call (.accept fd flags) desk.kernel) :=
    State.opening_accept h fd
  generalize run : kernel.call (.accept fd flags) desk.kernel = r at opening
  cases opening with
  | refused code =>
    rw [Native.run_syscall_error run]
    exact .refused _
  | opened stands =>
    rw [Native.run_syscall_ok run]
    exact .opened stands

theorem opened_acceptWithin (h : desk.kernel.Whole) (fd : Descriptor) (patience : Nat)
    (notes : List Note) :
    Opened desk (Native.acceptWithin kernel fd patience (desk, notes)).1
      (Native.acceptWithin kernel fd patience (desk, notes)).2.1 := by
  induction patience generalizing notes with
  | zero => exact opened_accept h fd _ notes
  | succ n ih =>
    have tried := opened_accept h fd Syscall.closeOnExec notes
    rw [Native.acceptWithin, Native.run_bind_ok (Native.run_attempt _ _)]
    generalize Native.syscall kernel (.accept fd Syscall.closeOnExec) (desk, notes) = st at tried ⊢
    obtain ⟨r, desk', notes'⟩ := st
    cases tried with
    | refused e =>
      dsimp only
      split
      · exact ih notes'
      · exact .refused e
    | opened stands => exact .opened stands

inductive Answered (place : Place) (desk : Desk State) :
    (r : Request) → Except NativeError r.Reply → Desk State → Prop
  | created {type protocol : Int} {reply : Except NativeError Descriptor} {desk' : Desk State}
      (opened : Opened desk reply desk') : Answered place desk (.create type protocol) reply desk'
  | accepted {fd : Descriptor} {reply : Except NativeError Descriptor} {desk' : Desk State}
      (opened : Opened desk reply desk') : Answered place desk (.accept fd) reply desk'
  | bound {fd : Descriptor} {a : Address} {reply : Except NativeError Unit} {desk' : Desk State}
      (errand : Errand place fd a desk reply desk') : Answered place desk (.bind fd a) reply desk'
  | closed {fd : Descriptor} {reply : Except NativeError Unit} {desk' : Desk State}
      (closing : Closing fd desk reply desk') : Answered place desk (.close fd) reply desk'
  | talked {r : Request} (creates : ∀ type protocol, r ≠ .create type protocol)
      (accepts : ∀ fd, r ≠ .accept fd) (names : ∀ fd a, r ≠ .bind fd a)
      (lasts : ∀ fd, r ≠ .close fd) {reply : Except NativeError r.Reply} {desk' : Desk State}
      (stands : desk'.kernel.Stands desk.kernel.tree desk.kernel.descriptors)
      (bound : desk'.bound = desk.bound) : Answered place desk r reply desk'

theorem answered (h : desk.kernel.Whole) (place : Place) (r : Request) :
    Answered place desk r ((transport kernel place).handle r desk).reply
      ((transport kernel place).handle r desk).state := by
  have talk {c : Syscall} (about : UnixDomain.anonymous c = true)
      (opens : UnixDomain.opens c = false) :
      Keeps (fun desk' : Desk State =>
        desk'.kernel.Stands desk.kernel.tree desk.kernel.descriptors ∧ desk'.bound = desk.bound)
        (Native.syscall kernel c) :=
    Native.keeps_syscall fun desk' stands =>
      ⟨State.indifferent_stands.perform about opens desk'.kernel stands.1, stands.2⟩
  have others (creates : ∀ type protocol, r ≠ .create type protocol)
      (accepts : ∀ fd, r ≠ .accept fd) (names : ∀ fd a, r ≠ .bind fd a)
      (lasts : ∀ fd, r ≠ .close fd) :
      Answered place desk r ((transport kernel place).handle r desk).reply
        ((transport kernel place).handle r desk).state := by
    have kept := keeps_talk place (fun _ => talk) creates accepts names lasts (desk, [])
      ⟨h.stands, rfl⟩
    exact .talked creates accepts names lasts kept.1 kept.2
  cases r with
  | create type protocol => exact .created (opened_create h type protocol [])
  | accept fd => exact .accepted (opened_acceptWithin h fd _ [])
  | bind fd a => exact .bound (errand h.named place fd a [] h.known)
  | close fd => exact .closed (closing h fd [])
  | _ => exact others nofun nofun nofun nofun

theorem Answered.whole {r : Request} {reply : Except NativeError r.Reply}
    (answered : Answered place desk r reply desk') (h : desk.kernel.Whole) :
    desk'.kernel.Whole := by
  have opened {reply : Except NativeError Descriptor} (opened : Opened desk reply desk') :
      desk'.kernel.Whole := by
    cases opened with
    | refused e => exact h
    | opened stands => exact stands.whole
  cases answered with
  | created is => exact opened is
  | accepted is => exact opened is
  | bound errand => exact errand.whole h
  | closed closing => exact closing.whole
  | talked _ _ _ _ stands _ => exact stands.whole

theorem Answered.leaves {r : Request} {reply : Except NativeError r.Reply}
    (answered : Answered place desk r reply desk') (names : ∀ fd a, r ≠ .bind fd a)
    (lasts : ∀ fd, r ≠ .close fd) :
    desk'.kernel.tree = desk.kernel.tree ∧ desk'.bound = desk.bound := by
  have opened {reply : Except NativeError Descriptor} (opened : Opened desk reply desk') :
      desk'.kernel.tree = desk.kernel.tree ∧ desk'.bound = desk.bound := by
    cases opened with
    | refused e => exact ⟨rfl, rfl⟩
    | opened stands => exact ⟨stands.tree, rfl⟩
  cases answered with
  | created is => exact opened is
  | accepted is => exact opened is
  | bound _ => exact absurd rfl (names _ _)
  | closed _ => exact absurd rfl (lasts _)
  | talked _ _ _ _ stands bound => exact ⟨stands.tree, bound⟩

end ProcessorSockets.Loopback
