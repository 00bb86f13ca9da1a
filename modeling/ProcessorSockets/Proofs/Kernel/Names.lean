import ProcessorSockets.Proofs.Kernel.UnixDomain

namespace ProcessorSockets.UnixDomain

open FileTree (Path Node Tree)
open Call (Keeps)

namespace State

variable {held : List (Descriptor × String)} {s : State} {id : Nat}

theorem keeps_perform {c : Syscall} (about : anonymous c = true) :
    Keeps (Serves held) (perform c) := by
  cases c with
  | socket domain type protocol => exact keeps_socket domain type protocol
  | accept fd flags => exact keeps_accept fd
  | _ => exact indifferent_serves.perform about rfl

theorem run_onTree_ok {f : Tree → Except Int Tree} {t : Tree} (gives : f s.tree = .ok t) :
    onTree f s = (.ok (), { s with tree := t }) := by
  have run : (get : Call State) s = (.ok s, s) := rfl
  unfold onTree
  rw [Call.run_bind_ok run, gives]
  rfl

theorem run_onTree_error {f : Tree → Except Int Tree} {code : Int}
    (gives : f s.tree = .error code) :
    onTree f s = (.error code, s) := by
  have run : (get : Call State) s = (.ok s, s) := rfl
  unfold onTree
  rw [Call.run_bind_ok run, gives]
  rfl

theorem Serves.make (h : s.Serves held) {bytes : List UInt8} (proper : 0 ∉ bytes) {node : Node}
    {t : Tree} (made : s.tree.make bytes node = .ok t) :
    ({ s with tree := t } : State).Serves held := by
  apply h.withTree (h.orderly.named.make proper made)
  intro p id end_ _ led
  obtain ⟨q, _, free, rfl⟩ := Tree.make_ok.mp made
  exact Tree.get_insert led.leads free node

theorem Serves.unlink (h : s.Serves held) {path : String}
    (others : ∀ {p id end_ node}, p ∈ held → s.Leads p.1 p.2 id end_ →
      s.tree.get (bytesOf path) ≠ .ok (end_, node)) :
    (perform (.unlink path) s).2.Serves held := by
  change (UnixDomain.onTree (·.remove (bytesOf path)) s).2.Serves held
  cases removed : s.tree.remove (bytesOf path) with
  | ok t =>
    rw [run_onTree_ok removed]
    apply h.withTree (h.orderly.named.remove removed)
    intro p id end_ mem led
    obtain ⟨q, node, taken, file, rfl⟩ := Tree.remove_ok.mp removed
    apply Tree.get_erase led.leads
    · intro directory
      rw [(Tree.get_ok.mp taken).2] at directory
      exact file (Option.some.inj directory)
    · rintro rfl
      exact others mem led taken
  | error code =>
    rw [run_onTree_error removed]
    exact h

theorem orderly_start {t : Tree} (named : t.Named) : ({ tree := t } : State).Orderly where
  known := by simp [socketOf?]
  alive := nofun
  alone := nofun
  waiting := nofun
  once := nofun
  nodup := fun _ => .nil
  named := named

theorem Leads.alone {fd fd' : Descriptor} {path path' : String} {id' : Nat} {end_ : Path}
    (led : s.Leads fd path id end_) (orderly : s.Orderly) (led' : s.Leads fd' path' id' end_) :
    fd' = fd := by
  cases (Tree.get_ok.mp led.leads).2.symm.trans (Tree.get_ok.mp led'.leads).2
  exact orderly.alone led.has led'.has

/-- What comes of binding. -/
inductive Binding (s : State) (fd : Descriptor) (bytes : List UInt8) :
    Except Int Unit × State → Prop
  | closed (none : s.socketOf? fd = none) : Binding s fd bytes (.error Errno.badDescriptor, s)
  | lost {code : Int} (nowhere : s.tree.resolve bytes = .error code) :
      Binding s fd bytes (.error code, s)
  | taken {id : Nat} (has : s.socketOf? fd = some id) {end_ : Path} {node : Node}
      (taken : s.tree.get bytes = .ok (end_, node)) :
        Binding s fd bytes (.error Errno.addressInUse, s)
  | named {id : Nat} (has : s.socketOf? fd = some id) (bound : (s.sock id).bound = true)
      (missing : ∀ end_ node, s.tree.get bytes ≠ .ok (end_, node)) :
      Binding s fd bytes (.error Errno.invalid, s)
  | bound {id : Nat} (has : s.socketOf? fd = some id) (free : (s.sock id).bound = false) {t : Tree}
      (made : s.tree.make bytes (.socket (some id)) = .ok t) :
      Binding s fd bytes
        (.ok (), ({ s with tree := t } : State).setSock id { s.sock id with bound := true })

theorem binding (s : State) (fd : Descriptor) (raw : List UInt8) :
    s.Binding fd (Sockaddr.pathOf raw) (bind fd raw s) := by
  unfold UnixDomain.bind
  cases has : s.socketOf? fd with
  | none =>
    rw [Call.run_bind_error (lookup_none has)]
    exact .closed has
  | some id =>
    have run : (get : Call State) s = (.ok s, s) := rfl
    have known : UnixDomain.sock id s = (.ok (s.sock id), s) := rfl
    rw [Call.run_bind_ok (lookup_some has), Call.run_bind_ok run]
    cases made : s.tree.make (Sockaddr.pathOf raw) (.socket (some id)) with
    | error code =>
      change s.Binding fd _ (.error (if code = Errno.pathExists then _ else code), s)
      cases Tree.make_error made with
      | inl there =>
        obtain ⟨end_, node, taken, rfl⟩ := there
        exact .taken has taken
      | inr nowhere =>
        have known := Tree.resolve_error nowhere
        rw [if_neg (by rintro rfl; exact absurd known (by decide))]
        exact .lost nowhere
    | ok t =>
      change s.Binding fd _ ((UnixDomain.sock id >>= _) s)
      rw [Call.run_bind_ok known]
      cases bound : (s.sock id).bound with
      | true =>
        refine .named has bound fun end_ node taken => ?_
        rw [Tree.make_taken taken] at made
        cases made
      | false => exact .bound has bound made

theorem Binding.serves {fd : Descriptor} {bytes : List UInt8} {r : Except Int Unit × State}
    (b : s.Binding fd bytes r) (proper : 0 ∉ bytes) (h : s.Serves held) : r.2.Serves held := by
  cases b with
  | @bound id _ _ t made =>
    exact (h.make proper made).setSock (k := { s.sock id with bound := true }) (.refl _) (.inr rfl)
      (.inr rfl)
  | _ => exact h

theorem Binding.free {fd : Descriptor} {bytes : List UInt8} {s' : State}
    (b : s.Binding fd bytes (.ok (), s')) (end_ : Path) (node : Node) :
    s.tree.get bytes ≠ .ok (end_, node) := by
  intro taken
  cases b with
  | bound _ _ made => cases (Tree.make_taken taken _).symm.trans made

theorem Binding.holds {fd : Descriptor} {path : String} {r : Except Int Unit × State}
    (b : s.Binding fd (bytesOf path) r) (h : s.Serves held) (bound : r.1 = .ok ()) :
    r.2.Holds fd path := by
  cases b with
  | @bound id has _ t made =>
    obtain ⟨end_, leads⟩ := Tree.get_make made
    refine ⟨id, end_, has, ?_, leads⟩
    rw [sock_setSock, if_pos ⟨rfl, h.orderly.known has⟩]
  | _ => cases bound

end State

end ProcessorSockets.UnixDomain
