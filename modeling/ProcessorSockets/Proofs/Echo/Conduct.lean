import Mathlib.Data.List.Nodup
import ProcessorSockets.Proofs.Construction
import ProcessorSockets.Proofs.Echo.Agenda
import ProcessorSockets.Proofs.Law.Service

namespace ProcessorSockets

open Echo (Agenda Duty)
open Echo.Agenda (Runs Step)
open World (Called)

variable {σ α β : Type}

/-- A transport that is not interrupted more often than it says. -/
def Transport.Honest (T : Transport σ) : Prop :=
  ∀ t calls t', T.Serves t calls t' → calls.countP Call.interrupted ≤ T.patience t

def Echo.Agenda.following (held : List Descriptor) (after : List Duty) (left : Option (List Duty)) :
    Except SocketError Unit → Agenda
  | .ok _ => proceed held after false left
  | .error _ => leaving held

namespace Call

variable {patient : Prop} {fd : Descriptor} {held : List Descriptor} {after : List Duty}
  {patience : Nat} {calls : List Call} {r : Except SocketError Unit}

theorem countP_interrupted {c : Call} {e : NativeError} (failed : c.error? = some e)
    (interrupted : e.isInterrupted = true) :
    (c :: calls).countP Call.interrupted = calls.countP Call.interrupted + 1 :=
  List.countP_cons_of_pos (by simpa [Call.interrupted, failed] using interrupted)

theorem gives_up {d : Duty} {c : Call} {e : NativeError} (asked : d.request? held = some c.request)
    (failed : c.error? = some e) (leaves : d.left? c = if c.interrupted then some [d] else none)
    (unguarded : d.guarded = false) (holds : Echo.hold c held = held)
    (why : patience = 0 ∨ e.isInterrupted = false)
    (enough : patient → [c].countP Call.interrupted ≤ patience) :
    Step patient (.going held (d :: after)) c (.leaving held) := by
  have same : c.interrupted = e.isInterrupted := by simp [Call.interrupted, failed]
  rw [same] at leaves
  cases interrupted : e.isInterrupted with
  | false =>
    rw [interrupted] at leaves
    have step : Step patient (.going held (d :: after)) c _ := .fails asked leaves unguarded
    rwa [holds] at step
  | true =>
    rw [interrupted] at leaves
    refine .tired (fun p => ?_) asked leaves (same.trans interrupted)
    have fewer := enough p
    rw [countP_interrupted failed interrupted] at fewer
    cases why with
    | inl impatient => exact absurd fewer (by omega)
    | inr firm => exact absurd interrupted (by simp [firm])

theorem Drains.runs {bytes : List UInt8} (h : Drains fd patience bytes calls r)
    (enough : patient → calls.countP Call.interrupted ≤ patience) :
    Runs patient (.proceed (fd :: held) after false (some (Duty.saying bytes))) calls
      (.following (fd :: held) after (some []) r) := by
  induction h with
  | done => exact .nil _
  | stuck => exact .one (.fails rfl rfl rfl)
  | part _ ih =>
    refine .cons (.moves (.said (Nat.succ_ne_zero _))) (ih fun p => ?_)
    have fewer := enough p
    rwa [List.countP_cons_of_neg Bool.false_ne_true] at fewer
  | failed why => exact .one (gives_up rfl rfl rfl rfl rfl why enough)
  | again interrupted _ ih =>
    refine .cons (.moves (.unsaid interrupted)) (ih fun p => ?_)
    have fewer := enough p
    rw [countP_interrupted rfl interrupted] at fewer
    omega

theorem Fills.full {missing : Nat} {bytes : List UInt8}
    (h : Fills fd patience missing calls bytes r) (ok : r = .ok ()) : missing ≤ bytes.length := by
  induction h with
  | done => exact Nat.le_refl 0
  | ended => cases ok
  | part _ _ ih =>
    have rest := ih ok
    simp only [List.length_cons, List.cons_append, List.length_append]
    omega
  | failed => cases ok
  | again _ _ _ ih => exact ih ok

theorem Fills.runs {missing : Nat} {bytes heard : List UInt8}
    (h : Fills fd patience missing calls bytes r)
    (rest : missing = Echo.pattern.length - heard.length)
    (enough : patient → calls.countP Call.interrupted ≤ patience) :
    Runs patient (.proceed (fd :: held) after false (Duty.hearing heard)) calls
      (.following (fd :: held) after (Duty.hearing (heard ++ bytes)) r) := by
  have begins (some : missing ≠ 0) : Duty.hearing heard = .some [.hear heard] := if_pos (by omega)
  induction h generalizing heard with
  | done =>
    rw [List.append_nil]
    exact .nil _
  | ended some =>
    rw [begins some]
    subst rest
    exact .one (.fails rfl rfl rfl)
  | @part patience missing b bs bytes calls r some _ ih =>
    rw [begins some]
    subst rest
    have goes := @ih (heard ++ b :: bs)
      (by simp only [List.length_append, List.length_cons]; omega) (fun p => ?_) (fun more => ?_)
    · rw [List.append_assoc] at goes
      exact .cons (.answered rfl) goes
    · have fewer := enough p
      rwa [List.countP_cons_of_neg Bool.false_ne_true] at fewer
    · refine if_pos ?_
      simp only [List.length_append, List.length_cons]
      omega
  | failed some why =>
    rw [begins some]
    subst rest
    exact .one (gives_up rfl rfl rfl rfl rfl why enough)
  | again some interrupted _ ih =>
    have goes := ih rest (fun p => ?_) begins
    · rw [begins some] at goes ⊢
      subst rest
      exact .cons (.moves (.unheard interrupted)) goes
    · have fewer := enough p
      rw [countP_interrupted rfl interrupted] at fewer
      omega

end Call

namespace Echo

abbrev Holding := Endpoint × Option Descriptor

structure Point where
  /-- The sockets, and how they are. -/
  sockets : List (Socket × SocketState) := []
  holdings : List Holding := []
  /-- What is left to do; nothing when something failed. -/
  duties : Option (List Duty)

namespace Point

def endpoints (p : Point) : List Endpoint := p.holdings.map Prod.fst

def held (p : Point) : List Descriptor := p.holdings.filterMap Prod.snd

def agenda (p : Point) : Agenda :=
  match p.duties with
  | some duties => .going p.held duties
  | none => .leaving p.held

variable {p : Point}

theorem agenda_going {duties : List Duty} (left : p.duties = some duties) :
    p.agenda = .going p.held duties := by
  rw [agenda, left]

theorem held_cons {h : Holding} {rest : List Holding} (is : p.holdings = h :: rest) :
    p.held = h.2.toList ++ rest.filterMap Prod.snd := by
  rw [held, is]
  obtain ⟨ep, fd⟩ := h
  cases fd with
  | none => rfl
  | some fd => rfl

theorem agenda_stopped (stopped : p.duties = none) : p.agenda = .leaving p.held := by
  rw [agenda, stopped]

def following (p : Point) (after : List Duty) (left : Option (List Duty)) :
    Except SocketError Unit → Point
  | .ok _ => { p with duties := left.map (· ++ after) }
  | .error _ => { p with duties := none }

theorem agenda_following (p : Point) (after : List Duty) (left : Option (List Duty))
    (r : Except SocketError Unit) :
    (p.following after left r).agenda = .following p.held after left r := by
  cases r with
  | ok _ => cases left <;> rfl
  | error _ => rfl

end Point

end Echo

open Echo (Holding Point)

def Handle.holding : Option Descriptor → Handle
  | some fd => .owning fd
  | none => {}

namespace World

variable {T : Transport σ} {g g' g'' : Agenda} {p : Point} {w w' w'' : World σ}

structure At (w : World σ) (p : Point) : Prop where
  quiet : w.disturbances = []
  apart : p.endpoints.Nodup
  inside : ∀ ep ∈ p.endpoints, ep.index < w.endpoints.length
  holds : ∀ h ∈ p.holdings, w.handle h.1 = .holding h.2
  inPlace : ∀ x ∈ p.sockets, x.1.index < w.sockets.length
  sockets : ∀ x ∈ p.sockets, w.socket x.1 = x.2

theorem At.nowhere {duties : Option (List Duty)} (quiet : w.disturbances = []) :
    w.At { duties } where
  quiet := quiet
  apart := List.nodup_nil
  inside := List.forall_mem_nil _
  holds := List.forall_mem_nil _
  inPlace := List.forall_mem_nil _
  sockets := List.forall_mem_nil _

theorem At.has {ep : Endpoint} {fd : Option Descriptor} {rest : List Holding} (there : w.At p)
    (is : p.holdings = (ep, fd) :: rest) : w.handle ep = .holding fd :=
  there.holds (ep, fd) (by rw [is]; exact List.mem_cons_self)

def Went (T : Transport σ) (g g' : Agenda) (w w' : World σ) : Prop :=
  ∃ talk : List (Endpoint × Call),
    w'.said = w.said ++ talk.flatMap (fun p => p.2.entries (some p.1)) ∧
      T.Serves w.transport (talk.map Prod.snd) w'.transport ∧
      Runs T.Honest g (talk.map Prod.snd) g'

namespace Went

theorem trans (first : w.Went T g g' w') (second : w'.Went T g' g'' w'') :
    w.Went T g g'' w'' := by
  obtain ⟨talk, said, serves, runs⟩ := first
  obtain ⟨more, said', serves', runs'⟩ := second
  refine ⟨talk ++ more, ?_, ?_, ?_⟩
  · rw [said', said, List.flatMap_append, List.append_assoc]
  · rw [List.map_append]
    exact serves.append serves'
  · rw [List.map_append]
    exact runs.trans runs'

theorem one {ep : Endpoint} {calls : List Call}
    (said : w'.said = w.said ++ calls.flatMap (·.entries (some ep)))
    (kept : (Law.service T).keeps w w') (runs : Runs T.Honest g calls g') : w.Went T g g' w' := by
  have all : (calls.map (ep, ·)).map Prod.snd = calls := by
    rw [List.map_map]
    exact List.map_id calls
  refine ⟨calls.map (ep, ·), ?_, ?_, ?_⟩
  · rw [said, List.flatMap_map]
  · rw [all]
    exact serves_of_said said kept
  · rwa [all]

theorem noted (g : Agenda) (noted : w.Noted w') : w.Went T g g w' := by
  have called : w.Called (some ⟨0⟩) [] w' := .noted noted
  exact one called.said ((Law.service T).noted noted) (.nil g)

end Went

theorem At.called {caller : Option Endpoint} {calls : List Call} (there : w.At p)
    (called : w.Called caller calls w') : w'.At p where
  quiet := called.quiet there.quiet
  apart := there.apart
  inside ep mem := by
    rw [called.size]
    exact there.inside ep mem
  holds h mem := (called.handle h.1).trans (there.holds h mem)
  inPlace x mem := by
    rw [called.sockets]
    exact there.inPlace x mem
  sockets x mem := by
    rw [called.socket]
    exact there.sockets x mem

theorem At.duties (there : w.At p) (ds : Option (List Duty)) : w.At { p with duties := ds } :=
  { there with }

theorem At.hands {caller : Option Endpoint} {calls : List Call} {ep : Endpoint}
    {had : Option Descriptor} {before after : List Holding} (there : w.At p)
    (is : p.holdings = before ++ (ep, had) :: after) (now : Option Descriptor)
    (called : (w.setHandle ep (.holding now)).Called caller calls w') :
    w'.At { p with holdings := before ++ (ep, now) :: after } := by
  have apart := there.apart
  have same : p.endpoints = before.map Prod.fst ++ ep :: after.map Prod.fst := by
    rw [Point.endpoints, is, List.map_append, List.map_cons]
  have same' : Point.endpoints { p with holdings := before ++ (ep, now) :: after } =
      p.endpoints := by
    rw [same, Point.endpoints, List.map_append, List.map_cons]
  have inside : ep.index < w.endpoints.length :=
    there.inside ep (by rw [same]; exact List.mem_append_right _ List.mem_cons_self)
  rw [same] at apart
  have others := (List.nodup_cons.mp (List.nodup_middle.mp apart)).1
  rw [← List.map_append] at others
  refine ⟨called.quiet there.quiet, ?_, fun x mem => ?_, fun h mem => ?_, fun x mem => ?_,
    fun x mem => ?_⟩
  · rw [same']
    exact there.apart
  · rw [called.size, length_endpoints_setHandle]
    rw [same'] at mem
    exact there.inside x mem
  · rw [called.handle]
    obtain rfl | other := List.mem_cons.mp (List.perm_middle.mem_iff.mp mem)
    · exact handle_setHandle w ep _ inside
    · have differ : h.1 ≠ ep := fun is => others (is ▸ List.mem_map_of_mem other)
      rw [handle_setHandle_of_ne _ _ differ]
      apply there.holds
      rw [is]
      exact List.perm_middle.mem_iff.mpr (List.mem_cons_of_mem _ other)
  · rw [called.sockets]
    exact there.inPlace x mem
  · rw [called.socket]
    exact there.sockets x mem

theorem At.setSocket {s : Socket} {st : SocketState} (there : w.At p)
    (is : p.sockets = [(s, st)]) (st' : SocketState) :
    (w.setSocket s st').At { p with sockets := [(s, st')] } := by
  have inPlace : s.index < w.sockets.length :=
    there.inPlace (s, st) (by rw [is]; exact List.mem_singleton_self _)
  refine { there with inPlace := fun x mem => ?_, sockets := fun x mem => ?_ }
  · cases List.mem_singleton.mp mem
    rwa [World.setSocket, List.length_set]
  · cases List.mem_singleton.mp mem
    exact socket_setSocket w s st' inPlace

theorem At.enters (there : w.At p) :
    (Endpoint.make {} w).2.At { p with holdings := (w.next, none) :: p.holdings } := by
  have old : ∀ ep ∈ p.endpoints, ep ≠ w.next := by
    rintro ep mem rfl
    exact Nat.lt_irrefl _ (there.inside _ mem)
  have larger : (Endpoint.make {} w).2.endpoints.length = w.endpoints.length + 1 := by
    rw [Endpoint.make, List.length_append]
    rfl
  refine { there with
    apart := List.nodup_cons.mpr ⟨fun mem => old _ mem rfl, there.apart⟩
    inside := fun x mem => ?_
    holds := fun h mem => ?_ }
  · obtain rfl | mem := List.mem_cons.mp mem
    · exact inside_make {} w
    · have inside := there.inside x mem
      omega
  · rw [handle_make]
    obtain rfl | mem := List.mem_cons.mp mem
    · exact if_pos rfl
    · rw [if_neg (old _ (List.mem_map_of_mem mem))]
      exact there.holds h mem

theorem At.onto (there : w.At p) (ep : Endpoint) (st : SocketState) :
    (Socket.onto ep st w).2.At { p with sockets := [((Socket.onto ep st w).1, st)] } := by
  refine { there with inPlace := fun x mem => ?_, sockets := fun x mem => ?_ }
  · cases List.mem_singleton.mp mem
    simp [Socket.onto]
  · cases List.mem_singleton.mp mem
    simp [Socket.onto, World.socket]

theorem At.forget {h : Holding} {rest : List Holding} (there : w.At p)
    (is : p.holdings = h :: rest) : w.At { p with holdings := rest } where
  quiet := there.quiet
  apart := by
    have apart := there.apart
    rw [Point.endpoints, is, List.map_cons] at apart
    exact (List.nodup_cons.mp apart).2
  inside ep mem := by
    apply there.inside
    rw [Point.endpoints, is]
    exact List.mem_cons_of_mem _ mem
  holds h mem := by
    apply there.holds
    rw [is]
    exact List.mem_cons_of_mem _ mem
  inPlace := there.inPlace
  sockets := there.sockets

/-- How a part of a program ends: at a point that comes next, or with nothing left to do but to
close what certain endpoints own. -/
inductive Ends {ε : Type} (T : Transport σ) (g : Agenda) (eps : List Endpoint)
    (next : α → Point → Prop) (w : World σ) : Except ε α × World σ → Prop
  | done {a : α} {q : Point} {w' : World σ} (is : next a q) (went : w.Went T g q.agenda w')
      (there : w'.At q) : Ends T g eps next w (.ok a, w')
  | failed {e : ε} {q : Point} {w' : World σ} (stopped : q.duties = none)
      (same : q.endpoints = eps) (went : w.Went T g q.agenda w') (there : w'.At q) :
      Ends T g eps next w (.error e, w')

theorem Ends.after {ε : Type} {eps : List Endpoint} {next : α → Point → Prop}
    {run : Except ε α × World σ} (first : w.Went T g g' w') (ends : w'.Ends T g' eps next run) :
    w.Ends T g eps next run := by
  cases ends with
  | done is went there => exact .done is (first.trans went) there
  | failed stopped same went there => exact .failed stopped same (first.trans went) there

theorem Ends.mono {ε : Type} {eps : List Endpoint} {next next' : α → Point → Prop}
    {run : Except ε α × World σ} (ends : w.Ends T g eps next run)
    (weaker : ∀ a q, next a q → next' a q) : w.Ends T g eps next' run := by
  cases ends with
  | done is went there => exact .done (weaker _ _ is) went there
  | failed stopped same went there => exact .failed stopped same went there

end World

theorem World.At.discard {T : Transport σ} {p : Point} {w : World σ} {ep : Endpoint}
    {fd : Option Descriptor} {rest : List Holding} (there : w.At p)
    (is : p.holdings = (ep, fd) :: rest) (stopped : p.duties = none) :
    w.Went T p.agenda (Agenda.leaving (rest.filterMap Prod.snd)) (ep.discard (.direct T) w).2 ∧
      (ep.discard (.direct T) w).2.At { p with holdings := rest } := by
  have has := there.has is
  rw [Point.agenda_stopped stopped, Point.held, is]
  cases fd with
  | none =>
    rw [Endpoint.discard_bare has]
    exact ⟨.noted _ (.refl w), there.forget is⟩
  | some fd =>
    have discards := Endpoint.discarding (.direct T) ep w
    have kept := (Service.admitsDirect (T := T) ep).discard w trivial
    generalize (ep.discard (.direct T) w).2 = w' at discards kept
    cases discards with
    | other not => exact absurd has (not fd)
    | @owned fd' _ has' noted =>
      cases has.symm.trans has'
      have called := (ep.called_exclusively (Link.straight_direct T) (r := .close fd)
        (w := w.setHandle ep {}) there.quiet rfl).after noted
      have given : p.holdings = [] ++ (ep, some fd) :: rest := is
      have goes := there.hands given none called
      exact ⟨.one called.said kept (.one (.answered rfl)), goes.forget rfl⟩

namespace Echo

variable {ε : Type} {T : Transport σ} {eps : List Endpoint} {p q : Point}
  {next : α → Point → Prop} {next' : β → Point → Prop}

def Fulfils (T : Transport σ) (eps : List Endpoint) (p : Point)
    (part : World σ → Except ε α × World σ) (next : α → Point → Prop) : Prop :=
  ∀ w : World σ, w.At p → w.Ends T p.agenda eps next (part w)

def Over (eps : List Endpoint) (_ : α) (q : Point) : Prop :=
  q.duties = some [] ∧ q.holdings = eps.map (·, none)

theorem run_bind (m : ExceptT ε (StateM (World σ)) α) (f : α → ExceptT ε (StateM (World σ)) β)
    (w : World σ) : (m >>= f) w = match m w with
      | (.ok a, w) => f a w
      | (.error e, w) => (.error e, w) := by
  change ExceptT.bindCont f (m w).1 (m w).2 = _
  cases m w with
  | mk r w => cases r <;> rfl

theorem Program.run_act (a : Action σ α) (report : SocketError → Report) (w : World σ) :
    Program.act a report w = ((a w).1.mapError report, (a w).2) := rfl

theorem Program.run_reading (m : StateM (World σ) (List UInt8 × Except SocketError Unit))
    (w : World σ) :
    (Program.plain m >>= fun x =>
      Program.act (.ofExcept x.2) >>= fun _ => pure x.1 : Program σ (List UInt8)) w =
      (((m w).1.2.mapError Report.ofError).map fun _ => (m w).1.1, (m w).2) := by
  rw [run_bind]
  change (Program.act (.ofExcept (m w).1.2) >>= fun _ => pure (m w).1.1 : Program σ _) (m w).2 = _
  rw [run_bind, run_act, Action.run_ofExcept]
  cases (m w).1.2 with
  | ok _ => rfl
  | error _ => rfl

namespace Fulfils

theorem andThen {m : ExceptT ε (StateM (World σ)) α} {f : α → ExceptT ε (StateM (World σ)) β}
    (first : Fulfils T eps p m next)
    (rest : ∀ a q, next a q → Fulfils T eps q (f a) next') :
    Fulfils T eps p (m >>= f) next' := by
  intro w there
  have ends := first w there
  rw [run_bind]
  generalize m w = run at ends
  cases ends with
  | done is went there => exact .after went (rest _ _ is _ there)
  | failed stopped same went there => exact .failed stopped same went there

theorem act {a : Action σ α} {report : SocketError → Report} (h : Fulfils T eps p a next) :
    Fulfils T eps p (Program.act a report) next := by
  intro w there
  have ends := h w there
  rw [Program.run_act]
  generalize a w = run at ends
  cases ends with
  | done is went there => exact .done is went there
  | failed stopped same went there => exact .failed stopped same went there

theorem info (message : String) :
    Fulfils T eps p (Program.info (σ := σ) message) fun _ q => q = p := by
  intro w there
  have noted : w.Noted (w.add [.event ⟨.info, message⟩]) := .one w rfl
  have called : w.Called none [] _ := .noted noted
  exact .done rfl (.noted _ noted) (there.called called)

theorem stop (stopped : p.duties = none) (same : p.endpoints = eps) (e : Report)
    (rest : β → Program σ α) : Fulfils T eps p (throw e >>= rest) next :=
  fun w there => .failed stopped same (.noted _ (.refl w)) there

theorem holding {ep : Endpoint} {part : Program σ α}
    (h : Fulfils T (ep :: eps) p part (Over (ep :: eps))) :
    Fulfils T eps p (Program.holding (.direct T) ep part) (Over eps) := by
  intro w there
  have ends := h w there
  rw [Program.holding]
  generalize part w = run at ends
  cases ends with
  | @done a q w' is went there =>
    have bare : w'.handle ep = {} := there.has is.2
    dsimp only
    rw [Endpoint.discard_bare bare]
    have same : q.agenda = Point.agenda { q with holdings := eps.map (·, none) } := by
      simp only [Point.agenda, Point.held, is.2]
      rfl
    rw [same] at went
    exact .done (q := { q with holdings := eps.map (·, none) }) ⟨is.1, rfl⟩ went
      (there.forget is.2)
  | @failed e q w' stopped same went there =>
    rw [Point.endpoints] at same
    cases is : q.holdings with
    | nil =>
      rw [is] at same
      cases same
    | cons h rest =>
      rw [is] at same
      cases same
      obtain ⟨goes, there⟩ := there.discard (T := T) is stopped
      refine .failed (q := { q with holdings := rest }) stopped rfl (went.trans ?_) there
      rwa [Point.agenda_stopped (p := { q with holdings := rest }) stopped]

end Fulfils

end Echo

end ProcessorSockets
