import ProcessorSockets.Proofs.Transport.Loopback

namespace ProcessorSockets.Loopback

open FileTree (Path Node Tree)
open Native (Keeps)
open UnixDomain (State kernel)

def renumbered (desk : Desk State) (next : Descriptor) : Desk State :=
  { desk with kernel := { desk.kernel with next } }

/-- Requests to the transport, one after another, each of them fair at its time.  In between the
kernel may make any number that is free the next one, so that numbers come back. -/
inductive Serviced (fair : Desk State → Request → Prop) (place : Place) (first : Desk State) :
    Desk State → Prop
  | start : Serviced fair place first first
  | answer {desk : Desk State} (before : Serviced fair place first desk) (r : Request)
      (allowed : fair desk r) :
      Serviced fair place first ((transport kernel place).handle r desk).state
  | renumbered {desk : Desk State} (before : Serviced fair place first desk) {next : Descriptor}
      (free : desk.kernel.socketOf? next = none) :
      Serviced fair place first (renumbered desk next)

theorem Serviced.invariant {fair : Desk State → Request → Prop} {place : Place}
    {first desk : Desk State}
    {P : Desk State → Prop} (serviced : Serviced fair place first desk) (begins : P first)
    (kept : ∀ desk r, P desk → fair desk r → P ((transport kernel place).handle r desk).state)
    (counted : ∀ desk next, P desk → P (Loopback.renumbered desk next)) : P desk := by
  induction serviced with
  | start => exact begins
  | answer _ r allowed ih => exact kept _ r ih allowed
  | renumbered _ _ ih => exact counted _ _ ih

def served (place : Place) (desk : Desk State) (requests : List Request) : Desk State :=
  requests.foldl (fun desk r => ((transport kernel place).handle r desk).state) desk

def Fairly (fair : Desk State → Request → Prop) (place : Place) : Desk State → List Request → Prop
  | _, [] => True
  | desk, r :: rest =>
    fair desk r ∧ Fairly fair place ((transport kernel place).handle r desk).state rest

theorem Serviced.all {fair : Desk State → Request → Prop} {place : Place} {first desk : Desk State}
    {requests : List Request} (serviced : Serviced fair place first desk)
    (fairly : Fairly fair place desk requests) :
    Serviced fair place first (served place desk requests) := by
  induction requests generalizing desk with
  | nil => exact serviced
  | cons r rest ih => exact ih (serviced.answer r fairly.1) fairly.2

theorem fairly_always (place : Place) (desk : Desk State) (requests : List Request) :
    Fairly (fun _ _ => True) place desk requests := by
  induction requests generalizing desk with
  | nil => exact trivial
  | cons r rest ih => exact ⟨trivial, ih _⟩

def Place.beside : Place where
  directory := "s"
  localCpu := "ap"

variable {place : Place} {fd : Descriptor} {a : Address} {desk : Desk State} {notes : List Note}
  {held bound : List (Descriptor × String)}

structure Minds (held bound : List (Descriptor × String)) (desk : Desk State) : Prop where
  serves : desk.kernel.Serves held
  bound : desk.bound = bound

/-- Numbers that are not given out yet are nothing to those that are. -/
theorem renumbered_serves (h : desk.kernel.Serves held) (next : Descriptor) :
    (renumbered desk next).kernel.Serves held where
  orderly := { h.orderly with }
  holds p mem := by
    obtain ⟨id, end_, led⟩ := h.holds p mem
    exact ⟨id, end_, { led with }⟩

theorem keeps_anonymous {c : Syscall} (about : UnixDomain.anonymous c = true) :
    Keeps (Minds held bound) (Native.syscall kernel c) :=
  Native.keeps_syscall fun desk h => ⟨State.keeps_perform about desk.kernel h.serves, h.bound⟩

theorem keeps_talk (place : Place) {P : Desk State → Prop}
    (kept : ∀ c, UnixDomain.anonymous c = true → UnixDomain.opens c = false →
      Keeps P (Native.syscall kernel c)) {r : Request}
    (creates : ∀ type protocol, r ≠ .create type protocol) (accepts : ∀ fd, r ≠ .accept fd)
    (names : ∀ fd a, r ≠ .bind fd a) (lasts : ∀ fd, r ≠ .close fd) :
    Keeps P (Native.handle kernel (steps kernel place) r) := by
  cases r with
  | create type protocol => exact absurd rfl (creates type protocol)
  | bind fd a => exact absurd rfl (names fd a)
  | connect fd a =>
    change Keeps _ (connect kernel place fd a)
    exact .andThen (.lift _) fun raw => kept _ rfl rfl
  | listen fd backlog =>
    change Keeps _ (Native.listen kernel fd backlog)
    unfold Native.listen
    split
    · exact kept _ rfl rfl
    · exact .fails _
  | accept fd => exact absurd rfl (accepts fd)
  | close fd => exact absurd rfl (lasts fd)
  | shutdown fd half => exact kept _ rfl rfl
  | getBuffer fd side => exact .andThen (kept _ rfl rfl) fun _ => .done _
  | setBuffer fd side value =>
    change Keeps _ (Native.setBuffer kernel fd side value)
    unfold Native.setBuffer
    split
    · exact .fails _
    · exact kept _ rfl rfl
  | getTimeout fd side => exact .andThen (kept _ rfl rfl) fun _ => .done _
  | setTimeout fd side value => exact kept _ rfl rfl
  | read fd length => exact kept _ rfl rfl
  | write fd bytes => exact kept _ rfl rfl
  | available fd => exact .andThen (kept _ rfl rfl) fun _ => .done _

theorem keeps_handle {r : Request} (names : ∀ fd a, r ≠ .bind fd a) (lasts : ∀ fd, r ≠ .close fd) :
    Keeps (Minds held bound) (Native.handle kernel (steps kernel place) r) := by
  cases r with
  | create type protocol =>
    change Keeps _ (create kernel type protocol)
    refine .andThen ?_ fun fd => .andThen (.emit _ _) fun _ => .done _
    unfold Native.socket
    split
    · exact keeps_anonymous rfl
    · exact .fails _
  | accept fd =>
    exact .andThen .look fun _ => Native.keeps_acceptWithin (keeps_anonymous rfl) _
  | _ => exact keeps_talk place (fun _ about _ => keeps_anonymous about) nofun nofun names lasts

theorem withTree_serves (h : desk.kernel.Serves held) {t : Tree}
    (grows : desk.kernel.tree.Grows t) :
    (withTree desk t).kernel.Serves held :=
  h.withTree (grows.named h.orderly.named) fun _ led => grows.get led.leads

theorem withTree_leads {id : Nat} {path : String} {end_ : Path}
    (led : desk.kernel.Leads fd path id end_) {t : Tree} (grows : desk.kernel.tree.Grows t) :
    (withTree desk t).kernel.Leads fd path id end_ :=
  ⟨led.has, led.bound, grows.get led.leads⟩

def Spared (place : Place) (a : Address) (held : List (Descriptor × String)) (desk : Desk State) :
    Prop :=
  ∀ path t, place.Writes a path → desk.kernel.tree.Grows t →
    Refused (UnixDomain.probe path (withTree desk t).kernel).1 →
      ∀ {p id end_ node}, p ∈ held → (withTree desk t).kernel.Leads p.1 p.2 id end_ →
        t.get (bytesOf path) ≠ .ok (end_, node)

theorem cleared_serves (h : desk.kernel.Serves held) (spared : Spared place a held desk)
    {path : String} {t t' : Tree} (writes : place.Writes a path) (grows : desk.kernel.tree.Grows t)
    (refused : Refused (UnixDomain.probe path (withTree desk t).kernel).1)
    (removed : t.remove (bytesOf path) = .ok t') :
    (withTree (withProbe (withTree desk t) path) t').kernel.Serves held := by
  have grown := withTree_serves h grows
  have probed : (withProbe (withTree desk t) path).kernel.Serves held := grown.probe path
  obtain ⟨q, node, taken, file, rfl⟩ := Tree.remove_ok.mp removed
  apply probed.withTree (grown.orderly.named.erase q)
  intro p id end_ mem led
  have has := led.has
  have bound := led.bound
  have leads := led.leads
  rw [withProbe_socketOf?] at has
  rw [named_withProbe _ _ (grown.orderly.known has)] at bound
  rw [withProbe_tree] at leads
  apply Tree.get_erase leads
  · rw [withTree_tree, (Tree.get_ok.mp taken).2]
    exact fun is => file (Option.some.inj is)
  · rintro rfl
    exact spared path t writes grows refused mem ⟨has, bound, leads⟩ taken

theorem Course.serves {r : Except NativeError Unit} {desk' : Desk State}
    (course : Course place fd a desk r desk') (h : desk.kernel.Serves held)
    (spared : Spared place a held desk) : desk'.kernel.Serves held := by
  cases course with
  | invalid no => exact h
  | astray grows missing => exact withTree_serves h grows
  | bound writes proper grows names => exact names.serves proper (withTree_serves h grows)
  | failed writes grows other names => exact withTree_serves h grows
  | kept writes grows taken stays => exact (withTree_serves h grows).probe _
  | cleared writes grows refused removed has named =>
    exact cleared_serves h spared writes grows refused removed
  | replaced writes proper grows refused removed names =>
    exact names.serves proper (cleared_serves h spared writes grows refused removed)

def withoutFile (desk : Desk State) (fd : Descriptor) : Desk State :=
  { kernel := match desk.bound.lookup fd with
      | none => desk.kernel
      | some path => (kernel.call (.unlink path) desk.kernel).2
    bound := desk.bound.filter (·.1 ≠ fd) }

theorem run_close (fd : Descriptor) (desk : Desk State) (notes : List Note) :
    ∃ notes', close kernel fd (desk, notes) =
      Native.syscall kernel (.close fd) (withoutFile desk fd, notes') := by
  have let_go : letGo fd (desk, notes) =
      (.ok (desk.bound.lookup fd),
        ({ desk with bound := desk.bound.filter (·.1 ≠ fd) }, notes)) := rfl
  unfold close
  rw [Native.run_bind_ok let_go]
  cases held : desk.bound.lookup fd with
  | none =>
    have same : withoutFile desk fd = { desk with bound := desk.bound.filter (·.1 ≠ fd) } := by
      unfold withoutFile
      rw [held]
    rw [same]
    exact ⟨notes, rfl⟩
  | some path =>
    have same : withoutFile desk fd = { kernel := (kernel.call (.unlink path) desk.kernel).2
                                        bound := desk.bound.filter (·.1 ≠ fd) } := by
      unfold withoutFile
      rw [held]
    rw [same]
    dsimp only
    cases answers : kernel.call (.unlink path) desk.kernel with
    | mk r k =>
      have begun : kernel.call (.unlink path) ({ desk with bound := desk.bound.filter (·.1 ≠ fd) } :
        Desk State).kernel = (r, k) := answers
      rw [Native.run_bind_ok (Native.run_attempt _ _)]
      cases r with
      | ok _ =>
        rw [Native.run_syscall_ok begun]
        exact ⟨_, rfl⟩
      | error code =>
        rw [Native.run_syscall_error begun]
        dsimp only
        split
        · exact ⟨_, rfl⟩
        · exact ⟨_, rfl⟩

theorem desk_close (fd : Descriptor) (desk : Desk State) (notes : List Note) :
    (close kernel fd (desk, notes)).2.1 = { withoutFile desk fd with
      kernel := (kernel.call (.close fd) (withoutFile desk fd).kernel).2 } := by
  obtain ⟨notes', runs⟩ := run_close fd desk notes
  rw [runs, Native.desk_syscall]

theorem close_serves (h : desk.kernel.Serves held) (notes : List Note)
    (spared : ∀ path, desk.bound.lookup fd = some path → ∀ {p id end_ node},
      p ∈ held.filter (·.1 ≠ fd) → desk.kernel.Leads p.1 p.2 id end_ →
        desk.kernel.tree.get (bytesOf path) ≠ .ok (end_, node)) :
    (close kernel fd (desk, notes)).2.1.kernel.Serves (held.filter (·.1 ≠ fd)) := by
  have fewer : desk.kernel.Serves (held.filter (·.1 ≠ fd)) :=
    h.fewer fun p mem => (List.mem_filter.mp mem).1
  have left : (withoutFile desk fd).kernel.Serves (held.filter (·.1 ≠ fd)) := by
    unfold withoutFile
    cases own : desk.bound.lookup fd with
    | none => exact fewer
    | some path => exact fewer.unlink fun mem led => spared path own mem led
  have closed := left.close fd
  rw [List.filter_filter] at closed
  rw [desk_close]
  simp only [Bool.and_self] at closed
  exact closed

/-- The kernel is in order at all times. -/
theorem Serviced.orderly {fair : Desk State → Request → Prop} {first : Desk State}
    (serviced : Serviced fair place first desk) (begins : first.kernel.Orderly) :
    desk.kernel.Orderly := by
  -- Numbers that come next are nothing to the order, so only requests have to be looked at.
  refine (serviced.invariant (P := fun desk => desk.kernel.Serves []) ⟨begins, nofun⟩ ?_
    fun desk next h => renumbered_serves h next).orderly
  intro desk r h _
  change (Native.handle kernel (steps kernel place) r (desk, [])).2.1.kernel.Serves []
  have others (names : ∀ fd a, r ≠ .bind fd a) (lasts : ∀ fd, r ≠ .close fd) :
      (Native.handle kernel (steps kernel place) r (desk, [])).2.1.kernel.Serves [] :=
    (keeps_handle names lasts (desk, []) (⟨h, rfl⟩ : Minds [] desk.bound desk)).serves
  cases r with
  | bind fd a => exact (course h.orderly place fd a []).serves h fun _ _ _ _ _ => nofun
  | close fd => exact close_serves h [] fun _ _ => nofun
  | _ => exact others nofun nofun

end ProcessorSockets.Loopback
