import Mathlib.Data.List.Basic
import ProcessorSockets.Proofs.Conduct.Work
import ProcessorSockets.Proofs.Pipe
import ProcessorSockets.Transport.Scripted

namespace ProcessorSockets

open Call (Drains Fills)
open World (Called)

variable {σ α : Type}

def Entry.call? : Entry → Option Call
  | .reply _ r answer => some ⟨r, answer⟩
  | _ => none

theorem World.Called.news {caller : Option Endpoint} {calls : List Call} {w w' : World σ}
    (called : w.Called caller calls w') : (w.news w').filterMap Entry.call? = calls := by
  rw [news_of_said called.said]
  clear called
  induction calls with
  | nil => rfl
  | cons c rest ih => exact congrArg (c :: ·) ih

inductive Use
  | write (bytes : List UInt8)
  | writeByte (byte : UInt8)
  | writeAll (bytes : List UInt8)
  | available
  | read (length : Nat)
  | readByte
  | readExact (length : Nat)

namespace Use

/-- What comes of a use: the bytes that it hands to the reader, the bytes that the writer may
count as sent, and the error that it ends in. -/
structure Report where
  handed : List UInt8 := []
  sent : List UInt8 := []
  failure : Option SocketError := none

def Report.of (report : α → Report) : Except SocketError α × World σ → Report × World σ
  | (.ok a, w) => (report a, w)
  | (.error e, w) => ({ failure := some e }, w)

def Report.error? : Except SocketError Unit → Option SocketError
  | .ok _ => none
  | .error e => some e

@[simp] theorem Report.world_of (report : α → Report) (x : Except SocketError α × World σ) :
    (Report.of report x).2 = x.2 := by
  rcases x with ⟨e | a, w⟩
  · rfl
  · rfl

section

variable (L : Link σ) (i : InputStream) (o : OutputStream)

def run : Use → World σ → Report × World σ
  | .write bytes, w => Report.of (fun n => { sent := bytes.take n }) (o.write L bytes w)
  | .writeByte byte, w => Report.of (fun _ => { sent := [byte] }) (o.writeByte L byte w)
  | .writeAll bytes, w => Report.of (fun _ => { sent := bytes }) (o.writeAll L bytes w)
  | .available, w => Report.of (fun _ => {}) (i.available L w)
  | .read length, w => Report.of (fun bytes => { handed := bytes }) (i.read L length w)
  | .readByte, w => Report.of (fun byte => { handed := byte.toList }) (i.readByte L w)
  | .readExact length, w =>
    let ((bytes, r), w') := i.readExact L length w
    ({ handed := bytes, failure := Report.error? r }, w')

end

def outgoing : Use → Bool
  | .write _ => true
  | .writeByte _ => true
  | .writeAll _ => true
  | _ => false

def Served : Use → Report → Prop
  | .write bytes, report => report.sent <+: bytes ∧
      (report.failure = none ∧ (bytes ≠ [] → report.sent ≠ []) ∨
        report.sent = [] ∧ ∃ e, report.failure = some e ∧ e.isInterrupted = true)
  | .writeByte byte, report => report.failure = none ∧ report.sent = [byte]
  | .writeAll bytes, report => report.failure = none ∧ report.sent = bytes
  | .available, _ => True
  | .read length, report => report.handed.length ≤ length ∧
      (report.failure = none ∧ (length ≠ 0 → report.handed ≠ []) ∨
        report.handed = [] ∧ ∃ e, report.failure = some e ∧ e.isInterrupted = true)
  | .readByte, report =>
      report.failure = none ∧ report.handed.length = 1 ∨
        report.handed = [] ∧ ∃ e, report.failure = some e ∧ e.isInterrupted = true
  | .readExact length, report => report.failure = none ∧ report.handed.length = length

structure Faithful (use : Use) (calls : List Call) (report : Report) : Prop where
  handed : report.handed = calls.flatMap Call.got
  sent : report.sent = calls.flatMap Call.sent
  served : use.Served report

def Shows (use : Use) (patience : Nat) (calls : List Call) (report : Report) : Prop :=
  (∀ c ∈ calls, c.outgoing = use.outgoing) ∧
    ((∀ c ∈ calls, c.Piped) → calls.countP Call.interrupted ≤ patience → use.Faithful calls report)

variable {use : Use} {patience : Nat} {calls : List Call} {fd : Descriptor}

theorem sent_eq_nil (way : ∀ c ∈ calls, c.outgoing = false) : calls.flatMap Call.sent = [] :=
  List.flatMap_eq_nil_iff.mpr fun c mem => Call.sent_of_incoming (way c mem)

theorem got_eq_nil (way : ∀ c ∈ calls, c.outgoing = true) : calls.flatMap Call.got = [] :=
  List.flatMap_eq_nil_iff.mpr fun c mem => Call.got_of_outgoing (way c mem)

theorem outgoing_of_drains {bytes : List UInt8} {r : Except SocketError Unit}
    (drains : Drains fd patience bytes calls r) : ∀ c ∈ calls, c.outgoing = true := by
  intro c mem
  obtain ⟨offer, is⟩ := drains.writes c mem
  rw [Call.outgoing, is]

theorem incoming_of_fills {missing : Nat} {bytes : List UInt8} {r : Except SocketError Unit}
    (fills : Fills fd patience missing calls bytes r) : ∀ c ∈ calls, c.outgoing = false := by
  intro c mem
  obtain ⟨length, is⟩ := fills.reads c mem
  rw [Call.outgoing, is]

theorem shows_write (bytes : List UInt8) (answer : Except NativeError Nat) (w : World σ) :
    (Use.write bytes).Shows patience [⟨.write fd bytes, answer⟩]
      (Report.of (fun n => { sent := bytes.take n })
        (answer.mapError (.native "write"), w)).1 := by
  refine ⟨by simp [Call.outgoing, outgoing], fun piped _ => ?_⟩
  cases piped _ List.mem_cons_self with
  | @write _ _ n some fits =>
    refine ⟨rfl, (List.append_nil _).symm, List.take_prefix n bytes,
      .inl ⟨rfl, fun more none => ?_⟩⟩
    have short := congrArg List.length none
    change (bytes.take n).length = 0 at short
    rw [List.length_take] at short
    omega
  | writeInterrupted interrupted =>
    exact ⟨rfl, rfl, List.nil_prefix, .inr ⟨rfl, _, rfl, interrupted⟩⟩

theorem shows_read (length : Nat) (answer : Except NativeError (List UInt8)) (w : World σ) :
    (Use.read length).Shows patience [⟨.read fd length, answer⟩]
      (Report.of (fun bytes => { handed := bytes })
        (answer.mapError (.native "read"), w)).1 := by
  refine ⟨by simp [Call.outgoing, outgoing], fun piped _ => ?_⟩
  cases piped _ List.mem_cons_self with
  | read some fits => exact ⟨(List.append_nil _).symm, rfl, fits, .inl ⟨rfl, fun _ => some⟩⟩
  | readInterrupted interrupted =>
    exact ⟨rfl, rfl, Nat.zero_le _, .inr ⟨rfl, _, rfl, interrupted⟩⟩

theorem shows_readByte (answer : Except NativeError (List UInt8)) (w : World σ) :
    Use.readByte.Shows patience [⟨.read fd 1, answer⟩]
      (Report.of (fun byte : Option UInt8 => { handed := byte.toList })
        ((answer.mapError (.native "read")).map List.head?, w)).1 := by
  refine ⟨by simp [Call.outgoing, outgoing], fun piped _ => ?_⟩
  cases piped _ List.mem_cons_self with
  | @read _ _ bytes some fits =>
    obtain ⟨b, rfl⟩ : ∃ b, bytes = [b] :=
      List.length_eq_one_iff.mp (Nat.le_antisymm fits (List.length_pos_iff.mpr some))
    exact ⟨rfl, rfl, .inl ⟨rfl, rfl⟩⟩
  | readInterrupted interrupted =>
    exact ⟨rfl, rfl, .inr ⟨rfl, _, rfl, interrupted⟩⟩

theorem shows_drains {bytes : List UInt8} {r : Except SocketError Unit} (w : World σ)
    (drains : Drains fd patience bytes calls r) (out : use.outgoing = true)
    (served : ∀ report, report.failure = none → report.sent = bytes → use.Served report) :
    use.Shows patience calls (Report.of (fun _ => { sent := bytes }) (r, w)).1 := by
  refine ⟨fun c mem => (outgoing_of_drains drains c mem).trans out.symm, fun piped patient => ?_⟩
  obtain ⟨rfl, all⟩ := drains.over_pipe piped patient
  exact ⟨(got_eq_nil (outgoing_of_drains drains)).symm, all.symm, served _ rfl rfl⟩

theorem shows_readExact {length : Nat} {bytes : List UInt8} {r : Except SocketError Unit}
    (fills : Fills fd patience length calls bytes r) :
    (Use.readExact length).Shows patience calls
      { handed := bytes, failure := Report.error? r } := by
  refine ⟨incoming_of_fills fills, fun piped patient => ?_⟩
  obtain ⟨rfl, full⟩ := fills.over_pipe piped patient
  exact ⟨fills.hands, (sent_eq_nil (incoming_of_fills fills)).symm, rfl, full⟩

def Tells (use : Use) (L : Link σ) (i : InputStream) (o : OutputStream) (w : World σ) : Prop :=
  ∃ calls, w.Called (some o.endpoint) calls (use.run L i o w).2 ∧
    use.Shows (L.patience w) calls (use.run L i o w).1

section

variable {L : Link σ} {i : InputStream} {o : OutputStream} {w : World σ}

theorem tells_nothing (out : (use.run L i o w).2 = w)
    (faithful : use.Faithful [] (use.run L i o w).1) : use.Tells L i o w := by
  refine ⟨[], ?_, by simp, fun _ _ => faithful⟩
  rw [out]
  exact .refl w

variable (straight : L.Straight) (quiet : w.disturbances = [])
  (has : (w.handle o.endpoint).fd = some fd)

include straight quiet has

theorem tells_write (bytes : List UInt8) : (Use.write bytes).Tells L i o w := by
  by_cases none : bytes = []
  · subst none
    exact tells_nothing rfl ⟨rfl, rfl, List.nil_prefix, .inl ⟨rfl, nofun⟩⟩
  · obtain ⟨answer, called, is⟩ := Endpoint.called_transmit straight bytes quiet has
    rw [Tells, run, Report.world_of, OutputStream.write, if_neg none]
    generalize o.endpoint.transmit L bytes w = told at called is ⊢
    obtain ⟨r, w'⟩ := told
    subst is
    exact ⟨_, called, shows_write bytes answer w'⟩

theorem tells_writeByte (byte : UInt8) : (Use.writeByte byte).Tells L i o w := by
  obtain ⟨calls, called, drains⟩ :=
    Endpoint.drains_transmitAll straight (L.patience w) [byte] quiet has
  rw [Tells, run, Report.world_of]
  exact ⟨calls, called, shows_drains _ drains rfl fun _ ok all => ⟨ok, all⟩⟩

theorem tells_writeAll (bytes : List UInt8) : (Use.writeAll bytes).Tells L i o w := by
  obtain ⟨calls, called, drains⟩ :=
    Endpoint.drains_transmitAll straight (L.patience w) bytes quiet has
  rw [Tells, run, Report.world_of]
  exact ⟨calls, called, shows_drains _ drains rfl fun _ ok all => ⟨ok, all⟩⟩

variable (same : i.endpoint = o.endpoint)

include same

theorem tells_available : Use.available.Tells L i o w := by
  rw [← same] at has
  rw [Tells, run, Report.world_of, InputStream.available, Action.run_bind, Endpoint.run_fd, has]
  dsimp only
  rw [Endpoint.run_ask]
  have called := straight (some i.endpoint) (.available fd) w quiet
  rw [same] at called ⊢
  refine ⟨_, called, by simp [Call.outgoing, outgoing], fun _ _ => ?_⟩
  cases (L.send (some o.endpoint) (.available fd) w).1 with
  | ok n => exact ⟨rfl, rfl, trivial⟩
  | error e => exact ⟨rfl, rfl, trivial⟩

theorem tells_read (length : Nat) : (Use.read length).Tells L i o w := by
  by_cases none : length = 0
  · subst none
    exact tells_nothing rfl ⟨rfl, rfl, Nat.le_refl 0, .inl ⟨rfl, nofun⟩⟩
  · obtain ⟨answer, called, is⟩ := Endpoint.called_receive straight length quiet has
    rw [Tells, run, Report.world_of, InputStream.read, same, if_neg none]
    generalize o.endpoint.receive L length w = told at called is ⊢
    obtain ⟨r, w'⟩ := told
    subst is
    exact ⟨_, called, shows_read length answer w'⟩

theorem tells_readByte : Use.readByte.Tells L i o w := by
  obtain ⟨answer, called, is⟩ := Endpoint.called_receive straight 1 quiet has
  rw [Tells, run, Report.world_of, InputStream.readByte, Action.run_bind, InputStream.read, same,
    if_neg (by decide)]
  generalize o.endpoint.receive L 1 w = told at called is ⊢
  obtain ⟨r, w'⟩ := told
  subst is
  have shows : Use.readByte.Shows (L.patience w) [⟨.read fd 1, answer⟩] _ :=
    shows_readByte answer w'
  cases answer with
  | ok bytes => exact ⟨_, called, shows⟩
  | error e => exact ⟨_, called, shows⟩

theorem tells_readExact (length : Nat) : (Use.readExact length).Tells L i o w := by
  obtain ⟨calls, called, fills⟩ :=
    Endpoint.fills_receiveAll straight (L.patience w) length quiet has
  rw [Tells, run, InputStream.readExact, same]
  exact ⟨calls, called, shows_readExact fills⟩

theorem tells (use : Use) : use.Tells L i o w := by
  cases use with
  | write bytes => exact tells_write straight quiet has bytes
  | writeByte byte => exact tells_writeByte straight quiet has byte
  | writeAll bytes => exact tells_writeAll straight quiet has bytes
  | available => exact tells_available straight quiet has same
  | read length => exact tells_read straight quiet has same length
  | readByte => exact tells_readByte straight quiet has same
  | readExact length => exact tells_readExact straight quiet has same length

end

/-- How a use can have run: on an endpoint with a descriptor, over any transport that interrupts
no more requests than it said it would. -/
inductive Ran (use : Use) : List Call → Report → Prop
  | intro {σ : Type} {L : Link σ} {i : InputStream} {o : OutputStream} {w : World σ}
      {fd : Descriptor} (straight : L.Straight) (quiet : w.disturbances = [])
      (same : i.endpoint = o.endpoint) (has : (w.handle o.endpoint).fd = some fd)
      (patient : ((w.news (use.run L i o w).2).filterMap Entry.call?).countP Call.interrupted ≤
        L.patience w) :
      Ran use ((w.news (use.run L i o w).2).filterMap Entry.call?) (use.run L i o w).1

theorem Ran.way {report : Report} (ran : use.Ran calls report) :
    ∀ c ∈ calls, c.outgoing = use.outgoing := by
  obtain ⟨straight, quiet, same, has, _⟩ := ran
  obtain ⟨calls, called, way, _⟩ := tells straight quiet has same use
  rwa [called.news]

theorem Ran.faithful {report : Report} (ran : use.Ran calls report)
    (piped : ∀ c ∈ calls, c.Piped) : use.Faithful calls report := by
  obtain ⟨straight, quiet, same, has, patient⟩ := ran
  obtain ⟨calls, called, _, faithful⟩ := tells straight quiet has same use
  rw [called.news] at piped patient ⊢
  exact faithful piped patient

end Use

structure Done where
  use : Use
  calls : List Call
  report : Use.Report
  ran : use.Ran calls report

namespace Pipe

/-- What is done at the two ends of a connection, each in its order, with the calls of both in the
order in which the pipe answers them, and what is left on the way. -/
structure Exchange (done : End → List Done) (history : List (End × Call)) (q : Lanes) : Prop where
  run : Run (fun _ => []) history q
  calls : ∀ x, callsAt x history = (done x).flatMap (·.calls)

def only (x : End) (done : End → List Done) (y : End) : List Done :=
  (done y).filter fun d => d.use.outgoing == decide (y ≠ x)

variable {done : End → List Done} {history : List (End × Call)} {q : Lanes}

theorem callsAt_toward (x y : End) (history : List (End × Call)) :
    callsAt y (history.filter (toward x)) =
      (callsAt y history).filter fun c => c.outgoing == decide (y ≠ x) := by
  rw [callsAt, callsAt, List.filter_map, List.filter_filter, List.filter_filter]
  congr 1
  apply List.filter_congr
  intro p _
  by_cases here : p.1 = y
  · simp [toward, here]
  · simp [here]

theorem filter_calls (way : Bool) (uses : List Done) :
    (uses.flatMap (·.calls)).filter (·.outgoing == way) =
      (uses.filter (·.use.outgoing == way)).flatMap (·.calls) := by
  induction uses with
  | nil => rfl
  | cons d rest ih =>
    rw [List.flatMap_cons, List.filter_append, ih, List.filter_cons]
    cases own : d.use.outgoing == way with
    | true =>
      rw [if_pos rfl, List.flatMap_cons, List.filter_eq_self.mpr]
      intro c mem
      rw [d.ran.way c mem, own]
    | false =>
      rw [if_neg (by decide), List.filter_eq_nil_iff.mpr, List.nil_append]
      intro c mem
      rw [d.ran.way c mem, own]
      decide

/-- Bytes neither get lost, nor doubled, nor out of order.  What is handed over at an end, and then
what is still on its way there, is what was sent at the other; each use comes to what it should;
and without the traffic the other way everything on this one is the same. -/
theorem streams_deliver_as_sent (exchange : Exchange done history q) :
    (∀ x, (done x).flatMap (·.report.handed) ++ q x =
      (done x.other).flatMap (·.report.sent)) ∧
    (∀ x, ∀ d ∈ done x, d.use.Served d.report) ∧
    ∀ x, ∃ q', Exchange (only x done) (history.filter (toward x)) q' ∧ q' x = q x := by
  have faithful (x : End) (d : Done) (mem : d ∈ done x) : d.use.Faithful d.calls d.report := by
    apply d.ran.faithful
    intro c called
    apply exchange.run.piped x
    rw [exchange.calls x]
    exact List.mem_flatMap.mpr ⟨d, mem, called⟩
  refine ⟨fun x => ?_, fun x d mem => (faithful x d mem).served, fun x => ?_⟩
  -- The uses at an end hand over what their calls got, and the pipe conserves what calls got.
  · have conserves := exchange.run.conserves x
    rw [exchange.calls, exchange.calls, List.flatMap_assoc, List.flatMap_assoc,
      List.nil_append] at conserves
    rw [List.flatMap_congr fun d mem => (faithful x d mem).handed, conserves]
    exact (List.flatMap_congr fun d mem => (faithful x.other d mem).sent).symm
  · obtain ⟨q', run, same⟩ := exchange.run.toward x (r := fun _ => []) rfl
    refine ⟨q', ⟨run, fun y => ?_⟩, same⟩
    rw [callsAt_toward, exchange.calls, filter_calls]
    rfl

theorem streams_deliver_as_sent_in_parts :
    ∃ (done : End → List Done) (history : List (End × Call)) (q : Lanes),
      Exchange done history q ∧ (done .left).flatMap (·.report.sent) = [1, 2] ∧ q .right = [2] ∧
        (done .right).flatMap (·.report.handed) = [1] := by
  let world (outcome : Scripted.Outcome) : World Scripted.State :=
    { transport := { outcomes := fun _ => [outcome] }, endpoints := [{ handle := .owning 3 }] }
  let i : InputStream := ⟨⟨0⟩, 0⟩
  let o : OutputStream := ⟨⟨0⟩, 1⟩
  have straight := Link.straight_direct Scripted.transport
  have wrote : Use.Ran (.write [1, 2, 3]) [⟨.write 3 [1, 2, 3], .ok (2 : Nat)⟩]
      { sent := [1, 2] } :=
    .intro (w := world (.number 2)) (i := i) (o := o) straight rfl rfl rfl (by decide)
  have interrupted : Use.Ran .readByte [⟨.read 3 1, .error (.os 4)⟩]
      { failure := some (.native "read" (.os 4)) } :=
    .intro (w := world (.failure (.os 4))) (i := i) (o := o) straight rfl rfl rfl (by decide)
  have read : Use.Ran .readByte [⟨.read 3 1, .ok [1]⟩] { handed := [1] } :=
    .intro (w := world (.bytes [1])) (i := i) (o := o) straight rfl rfl rfl (by decide)
  let done (x : End) : List Done :=
    if x = .left then [⟨_, _, _, wrote⟩] else [⟨_, _, _, interrupted⟩, ⟨_, _, _, read⟩]
  let lane (bytes : List UInt8) : Lanes := fun x => if x = .left then [] else bytes
  have accepted : Step .left ⟨.write 3 [1, 2, 3], .ok (2 : Nat)⟩ (fun _ => []) (lane [1, 2]) :=
    ⟨.write (by decide) (by decide), rfl, rfl⟩
  have refused : Step .right ⟨.read 3 1, .error (.os 4)⟩ (lane [1, 2]) (lane [1, 2]) :=
    ⟨.readInterrupted rfl, rfl, rfl⟩
  have delivered : Step .right ⟨.read 3 1, .ok [1]⟩ (lane [1, 2]) (lane [2]) :=
    ⟨.read (by decide) (by decide), rfl, rfl⟩
  have carried := Run.cons accepted (.cons refused (.cons delivered (.nil _)))
  have exchange : Exchange done _ (lane [2]) := ⟨carried, fun x => by cases x <;> rfl⟩
  have handed : (done .right).flatMap (·.report.handed) ++ [2] = [1] ++ [2] :=
    (streams_deliver_as_sent exchange).1 .right
  exact ⟨done, _, _, exchange, rfl, rfl, List.append_cancel_right handed⟩

end Pipe

end ProcessorSockets
