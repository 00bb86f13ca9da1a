import Mathlib.Data.Nat.Find
import ProcessorSockets.Kernel.Scripted
import ProcessorSockets.Kernel.UnixDomain
import ProcessorSockets.Proofs.Conduct.Server
import ProcessorSockets.Proofs.Kernel.UnixDomain
import ProcessorSockets.Proofs.Law.Steady
import ProcessorSockets.Proofs.Transport.Native
import ProcessorSockets.Transport.Selection

namespace ProcessorSockets

namespace Kernel

variable {κ : Type} (K : Kernel κ) (fd : Descriptor)

def after : Nat → κ → κ
  | 0, s => s
  | n + 1, s => after n (K.call (.accept fd Syscall.closeOnExec) s).2

def outcome (s : κ) (i : Nat) : Except Int Descriptor :=
  (K.call (.accept fd Syscall.closeOnExec) (K.after fd i s)).1

/-- So many attempts are interrupted, and the next goes as it goes. -/
structure Settles (s : κ) (k : Nat) (r : Except Int Descriptor) : Prop where
  interrupted : ∀ i < k, K.outcome fd s i = .error Errno.interrupted
  settled : K.outcome fd s k = r
  final : r ≠ .error Errno.interrupted

def Patient : Prop := ∀ fd s, ∃ i ≤ K.patience s, K.outcome fd s i ≠ .error Errno.interrupted

variable {K fd} {s : κ} {i k k' : Nat} {r r' : Except Int Descriptor}

theorem exists_settles (other : K.outcome fd s i ≠ .error Errno.interrupted) :
    ∃ k ≤ i, K.Settles fd s k (K.outcome fd s k) := by
  classical
  have some : ∃ k, K.outcome fd s k ≠ .error Errno.interrupted := ⟨i, other⟩
  exact ⟨Nat.find some, Nat.find_min' some other,
    fun _ less => not_not.mp (Nat.find_min some less), rfl, Nat.find_spec some⟩

theorem Settles.unique (h : K.Settles fd s k r) (h' : K.Settles fd s k' r') : k = k' ∧ r = r' := by
  have least {k k' : Nat} {r r' : Except Int Descriptor} (h : K.Settles fd s k r)
      (h' : K.Settles fd s k' r') : k ≤ k' :=
    Nat.le_of_not_lt fun less => h'.final (h'.settled ▸ h.interrupted k' less)
  obtain rfl := Nat.le_antisymm (least h h') (least h' h)
  exact ⟨rfl, h.settled.symm.trans h'.settled⟩

theorem Settles.succ {s' : κ}
    (interrupted : K.call (.accept fd Syscall.closeOnExec) s = (.error Errno.interrupted, s'))
    (h : K.Settles fd s (k + 1) r) : K.Settles fd s' k r where
  interrupted i less := by
    have later := h.interrupted (i + 1) (by omega)
    rwa [outcome, after, interrupted] at later
  settled := by
    have later := h.settled
    rwa [outcome, after, interrupted] at later
  final := h.final

end Kernel

namespace Native

variable {κ : Type} {K : Kernel κ} {fd : Descriptor} {desk desk' : Desk κ} {notes : List Note}
  {k : Nat} {r : Except Int Descriptor}

theorem acceptWithin_succ_done {n : Nat} {s : κ}
    (answers : K.call (.accept fd Syscall.closeOnExec) desk.kernel = (r, s))
    (final : r ≠ .error Errno.interrupted) :
    acceptWithin K fd (n + 1) (desk, notes) = (r.mapError .os, { desk with kernel := s },
      notes ++ [.syscall (.accept fd Syscall.closeOnExec)]) := by
  rw [acceptWithin, run_bind_ok (run_attempt _ _)]
  cases r with
  | ok peer =>
    rw [run_syscall_ok answers]
    rfl
  | error code =>
    have other : NativeError.os code ≠ .os Errno.interrupted := fun same =>
      final (by rw [NativeError.os.inj same])
    rw [run_syscall_error answers]
    change (if NativeError.os code = .os Errno.interrupted then _ else _ : Native κ _) _ = _
    rw [if_neg other]
    rfl

theorem acceptWithin_succ_again {n : Nat} {s : κ}
    (answers : K.call (.accept fd Syscall.closeOnExec) desk.kernel =
      (.error Errno.interrupted, s)) :
    acceptWithin K fd (n + 1) (desk, notes) = acceptWithin K fd n ({ desk with kernel := s },
      notes ++ [.syscall (.accept fd Syscall.closeOnExec)]) := by
  rw [acceptWithin, run_bind_ok (run_attempt _ _), run_syscall_error answers]
  rfl

/-- Accepting makes the calls up to the first that is not interrupted, and ends as that one does. -/
theorem run_acceptWithin (settles : K.Settles fd desk.kernel k r) {n : Nat} (enough : k ≤ n) :
    acceptWithin K fd n (desk, notes) = (r.mapError .os,
      { desk with kernel := K.after fd (k + 1) desk.kernel },
      notes ++ List.replicate (k + 1) (.syscall (.accept fd Syscall.closeOnExec))) := by
  -- On the number of interruptions: each uses up one attempt and moves the kernel on by one.
  induction k generalizing n desk notes with
  | zero =>
    have answers : K.call (.accept fd Syscall.closeOnExec) desk.kernel =
        (r, K.after fd 1 desk.kernel) := Prod.ext settles.settled rfl
    cases n with
    | zero =>
      rw [acceptWithin]
      cases r with
      | ok peer => exact run_syscall_ok answers
      | error code => exact run_syscall_error answers
    | succ n => exact acceptWithin_succ_done answers settles.final
  | succ k ih =>
    obtain ⟨n, rfl⟩ : ∃ m, n = m + 1 := ⟨n - 1, by omega⟩
    have answers : K.call (.accept fd Syscall.closeOnExec) desk.kernel =
        (.error Errno.interrupted, K.after fd 1 desk.kernel) :=
      Prod.ext (settles.interrupted 0 k.succ_pos) rfl
    have later : K.Settles fd { desk with kernel := K.after fd 1 desk.kernel }.kernel k r :=
      settles.succ answers
    rw [acceptWithin_succ_again answers, ih later (by omega), List.append_assoc,
      List.replicate_succ (n := k + 1)]
    rfl

theorem acceptWithin_interrupted {n : Nat} :
    (acceptWithin K fd n (desk, notes)).1 = .error (.os Errno.interrupted) ↔
      ∀ i ≤ n, K.outcome fd desk.kernel i = .error Errno.interrupted := by
  constructor
  · intro interrupted i le
    by_contra other
    obtain ⟨k, first, settles⟩ := Kernel.exists_settles other
    rw [run_acceptWithin settles (Nat.le_trans first le)] at interrupted
    cases is : K.outcome fd desk.kernel k with
    | ok peer => rw [is] at interrupted; cases interrupted
    | error code =>
      rw [is] at interrupted
      exact settles.final (by rw [is, NativeError.os.inj (Except.error.inj interrupted)])
  · intro all
    induction n generalizing desk notes with
    | zero =>
      have answers : K.call (.accept fd Syscall.closeOnExec) desk.kernel =
          (.error Errno.interrupted, K.after fd 1 desk.kernel) := Prod.ext (all 0 le_rfl) rfl
      rw [acceptWithin, run_syscall_error answers]
    | succ n ih =>
      have answers : K.call (.accept fd Syscall.closeOnExec) desk.kernel =
          (.error Errno.interrupted, K.after fd 1 desk.kernel) :=
        Prod.ext (all 0 (Nat.zero_le _)) rfl
      have later : ∀ i ≤ n, K.outcome fd { desk with kernel := K.after fd 1 desk.kernel }.kernel i =
          .error Errno.interrupted := fun i le => all (i + 1) (by omega)
      rw [acceptWithin_succ_again answers]
      exact ih later

def Accepts (K : Kernel κ) (fd : Descriptor) (desk : Desk κ) (r : Except Int Descriptor)
    (desk' : Desk κ) : Prop :=
  ∃ k, K.Settles fd desk.kernel k r ∧
    desk' = { desk with kernel := K.after fd (k + 1) desk.kernel }

theorem run_accept (patient : K.Patient) (fd : Descriptor) (desk : Desk κ) (notes : List Note) :
    ∃ k r, K.Settles fd desk.kernel k r ∧ accept K fd (desk, notes) = (r.mapError .os,
      { desk with kernel := K.after fd (k + 1) desk.kernel },
      notes ++ List.replicate (k + 1) (.syscall (.accept fd Syscall.closeOnExec))) := by
  obtain ⟨i, enough, other⟩ := patient fd desk.kernel
  obtain ⟨k, first, settles⟩ := Kernel.exists_settles other
  exact ⟨k, _, settles, run_acceptWithin settles (Nat.le_trans first enough)⟩

end Native

theorem Errno.kind_eq_interrupted {code : Int} :
    Errno.kind code = .interrupted ↔ code = Errno.interrupted := by
  have only : ∀ n < Errno.table.length, ∀ row ∈ Errno.table[n]?, row.1 = .interrupted → n = 4 := by
    decide +kernel
  refine ⟨fun is => ?_, fun is => is ▸ rfl⟩
  rw [Errno.kind, Errno.row?] at is
  split_ifs at is with positive
  · cases found : Errno.table[code.toNat]? with
    | none => rw [found] at is; cases is
    | some row =>
      rw [found] at is
      have inside := (List.getElem?_eq_some_iff.mp found).1
      have number := only code.toNat inside row found is
      change code = 4
      omega
  · cases is

namespace Endpoint

variable {κ : Type} {K : Kernel κ}

open Native (Accepts)

theorem accepts_handle (patient : K.Patient) (c : Config) (fd : Descriptor) (desk : Desk κ) : ∃ r,
    Accepts K fd desk r ((c.transport K).handle (.accept fd) desk).state ∧
      ((c.transport K).handle (.accept fd) desk).reply = r.mapError .os := by
  have same : (c.transport K).handle (.accept fd) = Native.answer (Native.accept K fd) := by
    unfold Config.transport
    split <;> rfl
  obtain ⟨k, r, settles, run⟩ := Native.run_accept patient fd desk []
  rw [same, Native.answer, ExceptT.run, StateT.run, run]
  exact ⟨r, ⟨k, settles, rfl⟩, rfl⟩

theorem accepts_send (patient : K.Patient) (c : Config) (caller : Option Endpoint) (fd : Descriptor)
    (w : World (Desk κ)) : ∃ r desk,
    Accepts K fd desk r ((Link.disturbed (c.transport K)).send caller (.accept fd) w).2.transport ∧
      ((Link.disturbed (c.transport K)).send caller (.accept fd) w).1 = r.mapError .os ∧
      (w.disturbances = [] → desk = w.transport) := by
  let T := c.transport K
  let w₁ := (World.interrupt T .accept (w.add [.request caller (.accept fd)])).2
  obtain ⟨r, accepts, reply⟩ := accepts_handle patient c fd w₁.transport
  refine ⟨r, w₁.transport, ?_, ?_, fun quiet => ?_⟩
  · rw [Link.run_disturbed, T.run_respond]
    exact accepts
  · rw [Link.run_disturbed, T.run_respond]
    exact reply
  · have undisturbed := World.interrupt_quiet T .accept
      (w := w.add [.request caller (.accept fd)]) quiet
    exact congrArg (fun p => p.2.transport) undisturbed

structure Accepting {α : Type} (K : Kernel κ) (ep : Endpoint) (into : α → Endpoint)
    (w : World (Desk κ)) (run : Except SocketError α × World (Desk κ)) : Prop where
  fails : ∀ e, run.1 = .error e → e.toNative.kind ≠ .interrupted ∧
    (w.disturbances = [] → (∀ other, run.2.handle other = w.handle other) ∧
      (run.2.transport = w.transport ∨ ∃ fd code, (w.handle ep).fd = some fd ∧
        e = .native "accept" (.os code) ∧
          Accepts K fd w.transport (.error code) run.2.transport))
  goes : ∀ a, run.1 = .ok a → ∃ fd peer desk, (w.handle ep).fd = some fd ∧
    Accepts K fd desk (.ok peer) run.2.transport ∧ run.2.handle (into a) = .owning peer ∧
      (w.disturbances = [] → desk = w.transport ∧
        ∀ other, other ≠ into a → run.2.handle other = w.handle other)

theorem accepts_asked (patient : K.Patient) (c : Config) {caller : Option Endpoint}
    {fd : Descriptor} {w w₁ w₂ : World (Desk κ)} {reply : Except NativeError Descriptor}
    (opened : w.Noted w₁)
    (asked : (Link.disturbed (c.transport K)).send caller (.accept fd) w₁ = (reply, w₂)) :
    ∃ r desk, Accepts K fd desk r w₂.transport ∧ reply = r.mapError .os ∧
      (w.disturbances = [] → desk = w.transport ∧ ∀ other, w₂.handle other = w.handle other) := by
  obtain ⟨r, desk, accepts, answers, calm⟩ := accepts_send patient c caller fd w₁
  rw [asked] at accepts answers
  refine ⟨r, desk, accepts, answers, fun quiet => ⟨?_, fun other => ?_⟩⟩
  · exact (calm (opened.quiet quiet)).trans opened.transport
  · have called := Link.straight_disturbed (c.transport K) caller (.accept fd) w₁
      (opened.quiet quiet)
    rw [asked] at called
    exact (called.handle other).trans (opened.handle other)

theorem accepting_accept (patient : K.Patient) (c : Config) (ep into : Endpoint)
    {w : World (Desk κ)} (inside : into.index < w.endpoints.length) :
    Accepting K ep (fun _ => into) w (ep.accept (.disturbed (c.transport K)) into w) := by
  let L := Link.disturbed (c.transport K)
  have accepting := Endpoint.acceptance L ep into w
  generalize ep.accept L into w = run at accepting
  cases accepting with
  | closed bare noted =>
    refine ⟨fun e is => ?_, nofun⟩
    cases is
    exact ⟨by decide, fun _ => ⟨noted.handle, .inl noted.transport⟩⟩
  | taken has taken noted =>
    refine ⟨fun e is => ?_, nofun⟩
    cases is
    exact ⟨by decide, fun _ => ⟨noted.handle, .inl noted.transport⟩⟩
  | @refused fd e w₁ w₂ w' has bare opened asked noted =>
    obtain ⟨r, desk, accepts, reply, calm⟩ := accepts_asked patient c opened asked
    cases r with
    | ok peer => cases reply
    | error code =>
      obtain rfl : e = .os code := Except.error.inj reply
      refine ⟨fun e is => ?_, nofun⟩
      cases is
      refine ⟨fun interrupted => ?_, fun quiet => ?_⟩
      · obtain ⟨k, settles, -⟩ := accepts
        exact settles.final (by rw [Errno.kind_eq_interrupted.mp interrupted])
      · obtain ⟨rfl, kept⟩ := calm quiet
        refine ⟨fun other => (noted.handle other).trans (kept other), .inr ⟨fd, code, has, rfl, ?_⟩⟩
        rw [noted.transport]
        exact accepts
  | @overtaken fd peer mine w₁ w₂ w' has bare opened asked taken noted =>
    refine ⟨fun e is => ?_, nofun⟩
    cases is
    refine ⟨by decide, fun quiet => ?_⟩
    obtain ⟨_, _, _, _, calm⟩ := accepts_asked patient c opened asked
    rw [(calm quiet).2, bare] at taken
    cases taken
  | @made fd peer w₁ w₂ w' has bare opened asked empty noted =>
    obtain ⟨r, desk, accepts, reply, calm⟩ := accepts_asked patient c opened asked
    cases r with
    | error code => cases reply
    | ok given =>
      obtain rfl : peer = given := Except.ok.inj reply
      have size : (L.send (some ep) (.accept fd) w₁).2.endpoints.length = w₁.endpoints.length :=
        (Steady.send (T := c.transport K) Steady.interrupt (some ep) (.accept fd) w₁ trivial).1
      rw [asked, opened.endpoints] at size
      refine ⟨nofun, fun _ _ => ⟨fd, peer, desk, has, ?_, ?_, fun quiet => ?_⟩⟩
      · rw [noted.transport]
        exact accepts
      · rw [noted.handle, World.handle_setHandle _ _ _ (Nat.lt_of_lt_of_eq inside size.symm)]
      · obtain ⟨rfl, kept⟩ := calm quiet
        refine ⟨rfl, fun other ne => ?_⟩
        rw [noted.handle, World.handle_setHandle_of_ne _ _ ne]
        exact kept other

theorem accepting_server (patient : K.Patient) (c : Config) (s : Server) (w : World (Desk κ)) :
    Accepting K s.endpoint Socket.endpoint w (s.accept (.disturbed (c.transport K)) w) := by
  let L := Link.disturbed (c.transport K)
  let w₀ := (Endpoint.make {} w).2
  have old (other : Endpoint) : w₀.handle other = w.handle other := by
    rw [World.handle_make]
    split
    case isTrue new => rw [new, World.handle_next]
    case isFalse => rfl
  have accepting := accepting_accept patient c s.endpoint w.next (w := w₀) (World.inside_make {} w)
  have run := Server.run_accept L w s
  cases accepted : s.endpoint.accept L w.next w₀ with
  | mk r w₁ =>
    rw [accepted] at accepting run
    rw [run]
    obtain ⟨fails, goes⟩ := accepting
    cases r with
    | error e =>
      refine ⟨fun e' is => ?_, fun _ is => (by cases is)⟩
      obtain rfl : e = e' := Except.error.inj is
      obtain ⟨other, missed⟩ := fails e rfl
      refine ⟨other, fun quiet => ?_⟩
      obtain ⟨kept, missed⟩ := missed quiet
      have none : w₁.handle w.next = {} := by rw [kept, old, World.handle_next]
      dsimp only
      rw [Endpoint.discard_bare none]
      exact ⟨fun other => (kept other).trans (old other), (old s.endpoint) ▸ missed⟩
    | ok _ =>
      refine ⟨fun _ is => (by cases is), fun k is => ?_⟩
      obtain rfl := Except.ok.inj is
      obtain ⟨fd, peer, desk, has, accepts, installed, alone⟩ := goes () rfl
      refine ⟨fd, peer, desk, (old s.endpoint) ▸ has, accepts, installed, fun quiet => ?_⟩
      obtain ⟨calm, kept⟩ := alone quiet
      exact ⟨calm, fun other ne => (kept other ne).trans (old other)⟩

end Endpoint

namespace ScriptedKernel

theorem outcomes_accept (fd : Descriptor) (s : State) :
    (kernel.call (.accept fd Syscall.closeOnExec) s).2.outcomes .accept =
      (s.outcomes .accept).tail := by
  have produced (o : Outcome) (s : State) : (s.produce o).2.outcomes = s.outcomes := by
    unfold State.produce
    split <;> rfl
  change ((s.take .accept).2.produce (s.take .accept).1).2.outcomes .accept = _
  rw [produced, State.take]
  split <;> simp [*]

theorem outcomes_after (fd : Descriptor) (i : Nat) (s : State) :
    (kernel.after fd i s).outcomes .accept = (s.outcomes .accept).drop i := by
  induction i generalizing s with
  | zero => rfl
  | succ i ih =>
    rw [Kernel.after, ih, outcomes_accept, ← List.drop_one, List.drop_drop, Nat.add_comm]

theorem patient_kernel : kernel.Patient := by
  intro fd s
  refine ⟨(s.outcomes .accept).length, ?_, ?_⟩
  · have among : s.outcomes .accept ∈ Name.all.map s.outcomes :=
      List.mem_map_of_mem (by decide)
    change _ ≤ (Name.all.flatMap s.outcomes).length
    rw [List.flatMap_def]
    exact (List.sublist_flatten_of_mem among).length_le
  · have empty : (kernel.after fd (s.outcomes .accept).length s).outcomes .accept = [] := by
      rw [outcomes_after, List.drop_length]
    have standard : (kernel.after fd (s.outcomes .accept).length s).take .accept =
        (.standard, kernel.after fd (s.outcomes .accept).length s) := by rw [State.take, empty]
    change ((State.take .accept _).2.produce (State.take .accept _).1).1 ≠ _
    rw [standard]
    nofun

end ScriptedKernel

namespace UnixDomain

theorem patient_kernel : kernel.Patient := by
  intro fd s
  refine ⟨0, Nat.zero_le _, ?_⟩
  have other {code : Int} (ne : code ≠ Errno.interrupted) :
      (.error code : Except Int Descriptor) ≠ .error Errno.interrupted :=
    fun is => ne (Except.error.inj is)
  have checked {b : Prop} [Decidable b] {code : Int} {next : Unit → Call Descriptor}
      (ne : code ≠ Errno.interrupted) (goes : (next () s).1 ≠ .error Errno.interrupted) :
      ((if b then throw code >>= next else next ()) s).1 ≠ .error Errno.interrupted := by
    split
    · exact other ne
    · exact goes
  change (accept fd s).1 ≠ .error Errno.interrupted
  unfold accept
  cases found : s.socketOf? fd with
  | none =>
    rw [Call.run_bind_error (State.lookup_none found)]
    exact other (by decide)
  | some id =>
    have run : sock id s = (.ok (s.sock id), s) := rfl
    rw [Call.run_bind_ok (State.lookup_some found), Call.run_bind_ok run]
    refine checked (by decide) (checked (by decide) ?_)
    cases (s.sock id).waiting with
    | cons serverEnd rest => exact fun is => nomatch is
    | nil =>
      have last : (if (s.sock id).readShut then Errno.invalid else Errno.again) ≠
          Errno.interrupted := by split <;> decide
      exact other last

end UnixDomain

namespace Kernel

variable {κ : Type}

open Native (acceptWithin accept)

/-- Whatever accepting is answered, as long as calls are interrupted the same call is made again,
and the first that is not interrupted is the last: what it answers is what accepting comes to,
with the patience for the interruptions before it.  It comes to an end if any call is not interrupted, and
to an interruption only if the patience ends before that.  So on a patient kernel neither endpoints
nor servers ever fail with an interruption, and to accept well is to have the one descriptor that
the kernel gave. -/
theorem accept_settles (K : Kernel κ) :
    (∀ fd desk notes,
      (∀ k r, K.Settles fd desk.kernel k r → ∀ n, k ≤ n →
        acceptWithin K fd n (desk, notes) = (r.mapError .os,
          { desk with kernel := K.after fd (k + 1) desk.kernel },
          notes ++ List.replicate (k + 1) (.syscall (.accept fd Syscall.closeOnExec)))) ∧
      (∀ i, K.outcome fd desk.kernel i ≠ .error Errno.interrupted →
        ∃ k ≤ i, ∃ r, K.Settles fd desk.kernel k r) ∧
      ∀ n, (acceptWithin K fd n (desk, notes)).1 = .error (.os Errno.interrupted) ↔
        ∀ i ≤ n, K.outcome fd desk.kernel i = .error Errno.interrupted) ∧
    (K.Patient →
      (∀ fd desk notes, ∃ k r, K.Settles fd desk.kernel k r ∧
        accept K fd (desk, notes) = (r.mapError .os,
          { desk with kernel := K.after fd (k + 1) desk.kernel },
          notes ++ List.replicate (k + 1) (.syscall (.accept fd Syscall.closeOnExec)))) ∧
      ∀ (c : Config) (w : World (Desk κ)),
        (∀ ep into, into.index < w.endpoints.length →
          Endpoint.Accepting K ep (fun _ => into) w
            (ep.accept (.disturbed (c.transport K)) into w)) ∧
        ∀ s : Server, Endpoint.Accepting K s.endpoint Socket.endpoint w
          (s.accept (.disturbed (c.transport K)) w)) := by
  refine ⟨fun fd desk notes => ⟨?_, ?_, ?_⟩, fun patient => ⟨?_, fun c w => ⟨?_, ?_⟩⟩⟩
  · exact fun k r settles n enough => Native.run_acceptWithin settles enough
  · intro i other
    obtain ⟨k, first, settles⟩ := exists_settles other
    exact ⟨k, first, _, settles⟩
  · exact fun n => Native.acceptWithin_interrupted
  · exact fun fd desk notes => Native.run_accept patient fd desk notes
  · exact fun ep into inside => Endpoint.accepting_accept patient c ep into inside
  · exact fun s => Endpoint.accepting_server patient c s w

theorem accept_settles_third :
    let K := ScriptedKernel.kernel
    let s : ScriptedKernel.State := {
      outcomes
        | .accept => [.failure 4, .failure 4, .number 7, .failure 24]
        | _ => [] }
    let w : World (Desk ScriptedKernel.State) :=
      { transport := ⟨s, []⟩, endpoints := [{ handle := .owning 5 }] }
    let server : Server := ⟨⟨0⟩, none⟩
    let accepted (kind : TransportKind) :=
      server.accept (.disturbed (({ kind } : Config).transport K)) w
    K.Settles 5 s 2 (.ok 7) ∧
      acceptWithin K 5 2 (⟨s, []⟩, []) = (.ok 7, ⟨K.after 5 3 s, []⟩,
        List.replicate 3 (.syscall (.accept 5 Syscall.closeOnExec))) ∧
      (acceptWithin K 5 1 (⟨s, []⟩, [])).1 = .error (.os Errno.interrupted) ∧
      ∀ kind, (accepted kind).1 = .ok ⟨0, ⟨1⟩⟩ ∧ (accepted kind).2.handle ⟨1⟩ = .owning 7 ∧
        (accepted kind).2.handle ⟨0⟩ = .owning 5 ∧
        (accepted kind).2.transport = ⟨K.after 5 3 s, []⟩ := by
  intro K s w server accepted
  have settles : K.Settles 5 s 2 (.ok 7) := by
    refine ⟨fun i less => ?_, rfl, nofun⟩
    obtain rfl | rfl : i = 0 ∨ i = 1 := by omega
    · rfl
    · rfl
  have both : ∀ i ≤ 1, K.outcome 5 s i = .error Errno.interrupted :=
    fun i le => settles.interrupted i (by omega)
  obtain ⟨loop, patiently⟩ := accept_settles K
  obtain ⟨run, -, only⟩ := loop 5 ⟨s, []⟩ []
  refine ⟨settles, run 2 _ settles 2 le_rfl, (only 1).mpr both, fun kind => ?_⟩
  have ended : (accepted kind).1 = .ok ⟨0, ⟨1⟩⟩ := by cases kind <;> rfl
  have accepting := ((patiently ScriptedKernel.patient_kernel).2 ({ kind } : Config) w).2 server
  obtain ⟨fd, peer, desk, has, ⟨k, settled, came⟩, installed, alone⟩ := accepting.goes _ ended
  obtain ⟨rfl, others⟩ := alone rfl
  obtain rfl : 5 = fd := Option.some.inj has
  obtain ⟨rfl, is⟩ := settles.unique settled
  obtain rfl : 7 = peer := Except.ok.inj is
  exact ⟨ended, installed, others ⟨0⟩ (by decide), came⟩

end Kernel

end ProcessorSockets
