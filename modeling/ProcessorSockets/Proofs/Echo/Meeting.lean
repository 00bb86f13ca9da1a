import ProcessorSockets.Proofs.Echo.Rehearsal
import ProcessorSockets.Proofs.Echo.Stage

namespace ProcessorSockets.Echo

open Agenda (Runs)

structure Meeting where
  calls : End → List Call := fun _ => []
  wire : Wire

namespace Meeting

inductive Step (cpu name : String) (capacity : Nat) (m : Meeting) : Meeting → Prop
  | call {x : End} {c : Call} {q : Wire}
      (asked : asks (part cpu name x) (m.calls x) = some c.request)
      (answered : m.wire.Answers capacity x c q) :
      Step cpu name capacity m { calls := End.set m.calls x (m.calls x ++ [c]), wire := q }

inductive Reaches (cpu name : String) (capacity interruptions : Nat) : Nat → Meeting → Prop
  | start : Reaches cpu name capacity interruptions 0 { wire := { interruptions } }
  | step {n : Nat} {m m' : Meeting} (reached : Reaches cpu name capacity interruptions n m)
      (step : Step cpu name capacity m m') : Reaches cpu name capacity interruptions (n + 1) m'

/-- What holds of a meeting at any time, when these are the agendas that are left. -/
structure Sound (cpu name : String) (capacity : Nat) (m : Meeting) (g : End → Agenda) : Prop where
  runs : ∀ x, Runs True (part cpu name x).agenda (m.calls x) (g x)
  along : ∀ x, Along cpu name x (m.wire.ports x) (g x)
  /-- What was sent and did not come out is on its way. -/
  conserves : ∀ x, (m.calls x).flatMap Call.got ++ m.wire.lanes x =
    (m.calls x.other).flatMap Call.sent
  room : ∀ x, (m.wire.lanes x).length ≤ capacity

def left (m : Meeting) (g : End → Agenda) : Nat :=
  (g .left).cost + (g .right).cost + m.wire.interruptions

variable {cpu name : String} {capacity interruptions n : Nat} {m m' : Meeting} {g : End → Agenda}
  {x : End}

namespace Sound

theorem start : Sound cpu name capacity { wire := { interruptions } }
    fun x => (part cpu name x).agenda where
  runs _ := .nil _
  along _ := .opening
  conserves _ := rfl
  room _ := Nat.zero_le _

variable (sound : Sound cpu name capacity m g)

include sound

theorem whole (x : End) : (m.calls x).flatMap Call.got ++ m.wire.lanes x ++
    (g x.other).duties.flatMap Duty.due = pattern := by
  rw [sound.conserves x]
  exact ((sound.runs x.other).fulfils Duty.Moves.sent (sound.along x.other).isGoing).trans
    (Mode.due_duties _)

theorem heard (x : End) :
    Duty.Heard (part cpu name x).eager ((m.calls x).flatMap Call.got) (g x).duties :=
  (sound.runs x).heard (sound.along x).isGoing (Mode.heard_duties _)

theorem silent (all : (m.calls x).flatMap Call.got = pattern) :
    m.wire.lanes x = [] ∧ (g x.other).duties.flatMap Duty.due = [] := by
  have whole := sound.whole x
  rw [all, List.append_assoc] at whole
  exact List.append_eq_nil_iff.mp (List.append_right_eq_self.mp whole)

theorem silent_of_closes (closes : Closes (g x).held (g x).duties) :
    m.wire.lanes x = [] ∧ (g x.other).duties.flatMap Duty.due = [] :=
  sound.silent (closes.heard (sound.heard x))

theorem awaited {heard : List UInt8} {after : List Duty}
    (hears : (g x).duties = .hear heard :: after) (more : heard.length < pattern.length)
    (empty : m.wire.lanes x = []) : (g x.other).duties.flatMap Duty.due ≠ [] := by
  intro none
  have heard := sound.heard x
  rw [hears] at heard
  have whole := sound.whole x
  rw [heard.1, empty, none, List.append_nil, List.append_nil] at whole
  rw [whole] at more
  exact Nat.lt_irrefl _ more

theorem expects (x : End) : Expects m.wire x (g x) where
  begins heard after hears := by
    have heard := sound.heard x
    rw [hears] at heard
    have whole := sound.whole x
    rw [heard.1] at whole
    exact ⟨_, whole⟩
  comes heard after hears more empty := by
    cases closed : (m.wire.ports x.other).closed with
    | false => rfl
    | true =>
      have closes := (sound.along x.other).closes_of_closed closed
      exact absurd closes.due (sound.awaited hears more empty)
  listens left after speaks some := by
    cases closed : (m.wire.ports x.other).closed with
    | false => rfl
    | true =>
      have closes := (sound.along x.other).closes_of_closed closed
      have none := (sound.silent_of_closes closes).2
      rw [End.other_other, speaks] at none
      exact absurd (List.append_eq_nil_iff.mp none).1 some

/-- A call leaves a meeting sound, and fewer to come. -/
theorem step (step : Step cpu name capacity m m') :
    ∃ g', Sound cpu name capacity m' g' ∧ m'.left g' < m.left g := by
  cases step with
  | @call x c q asked answered =>
    rw [asks_eq (sound.runs x)] at asked
    obtain ⟨g', step, along, cheaper⟩ :=
      (sound.along x).forward (sound.expects x) asked answered
    -- What holds is seen first at the end that made the call, then at the other.
    refine ⟨End.set g x g', ⟨?_, ?_, ?_, ?_⟩, ?_⟩
    · refine End.forall_of (x := x) ?_ ?_
      · simpa using (sound.runs x).trans (.one step)
      · simpa using sound.runs x.other
    · refine End.forall_of (x := x) ?_ ?_
      · simpa using along
      · simpa [answered.kept] using sound.along x.other
    · refine End.forall_of (x := x) ?_ ?_
      · have conserves := sound.conserves x
        rw [answered.front] at conserves
        simpa using conserves
      · have conserves := sound.conserves x.other
        rw [End.other_other] at conserves
        simp [answered.back, ← conserves]
    · refine End.forall_of (x := x) ?_ (answered.room (sound.room x.other))
      have room := sound.room x
      rw [answered.front, List.length_append] at room
      exact Nat.le_of_add_left_le room
    · rw [left, left]
      cases x with
      | left =>
        change g'.cost + (g .right).cost + q.interruptions < _
        omega
      | right =>
        change (g .left).cost + g'.cost + q.interruptions < _
        omega

theorem makes {a : Agenda} {c : Call} {q : Wire} (is : g x = a)
    (asked : a.request? = some c.request) (answered : m.wire.Answers capacity x c q) :
    ∃ m', Step cpu name capacity m m' := by
  have runs := sound.runs x
  rw [is] at runs
  exact ⟨_, .call ((asks_eq runs).trans asked) answered⟩

theorem reads {fd : Descriptor} {held : List Descriptor} {heard : List UInt8} {after : List Duty}
    (is : g x = .going (fd :: held) (.hear heard :: after))
    (own : (m.wire.ports x).connection = some fd) (more : heard.length < pattern.length)
    (waits : m.wire.lanes x ≠ []) : ∃ m', Step cpu name capacity m m' := by
  obtain ⟨b, rest, lane⟩ := List.exists_cons_of_ne_nil waits
  have step : Pipe.Step x ⟨.read fd (pattern.length - heard.length), .ok [b]⟩ m.wire.lanes
      (End.set m.wire.lanes x rest) := by
    refine ⟨.read (List.cons_ne_nil _ _) (Nat.sub_pos_of_lt more), ?_, ?_⟩
    · rw [End.set_same, lane]
      rfl
    · rw [End.set_other]
      exact (List.append_nil _).symm
  refine sound.makes is rfl (.carried ?_ step ?_ rfl)
  · exact own.symm
  · rw [End.set_other]
    exact sound.room x.other

theorem writes {fd : Descriptor} {held : List Descriptor} {left : List UInt8} {after : List Duty}
    (positive : 0 < capacity) (is : g x = .going (fd :: held) (.say left :: after))
    (own : (m.wire.ports x).connection = some fd) (some : left ≠ [])
    (free : m.wire.lanes x.other = []) : ∃ m', Step cpu name capacity m m' := by
  have step : Pipe.Step x ⟨.write fd left, .ok 1⟩ m.wire.lanes
      (End.set m.wire.lanes x.other (left.take 1)) := by
    refine ⟨.write Nat.one_pos (List.length_pos_iff.mpr some), ?_, ?_⟩
    · have kept := End.set_other m.wire.lanes x.other (left.take 1)
      rw [End.other_other] at kept
      exact kept.symm
    · rw [End.set_same, free]
      rfl
  refine sound.makes is rfl (.carried ?_ step ?_ rfl)
  · exact own.symm
  · rw [End.set_same]
    exact Nat.le_trans (List.length_take_le _ _) positive

theorem parts {held : List Descriptor} {duties : List Duty} (is : g x = .going held duties)
    (closes : Closes held duties) :
    (∃ m', Step cpu name capacity m m') ∨ g x = .going [] [] := by
  cases closes with
  | nil => exact .inr is
  | @shut fd => exact .inl (sound.makes (c := ⟨.shutdown fd .both, .ok ()⟩) is rfl .shut)
  | @close fd => exact .inl (sound.makes (c := ⟨.close fd, .ok ()⟩) is rfl .closed)

/-- Two that talk do not get stuck: never do both wait for each other, or both write into a wire
that is full. -/
theorem converse (positive : 0 < capacity) {held held' : List Descriptor}
    {duties duties' : List Duty} (left : g .left = .going held duties)
    (right : g .right = .going held' duties') (talks : Talks .left (m.wire.ports .left) held duties)
    (talks' : Talks .right (m.wire.ports .right) held' duties') :
    (∃ m', Step cpu name capacity m m') ∨ ∀ x, g x = .going [] [] := by
  cases talks with
  | closes closes =>
    obtain step | done := sound.parts left closes
    · exact .inl step
    -- The left end has heard everything, so the right one has said it.
    have said := (sound.silent_of_closes (x := .left) (by rwa [left])).2
    rw [End.other, right] at said
    cases talks' with
    | closes closes' =>
      obtain step | done' := sound.parts right closes'
      · exact .inl step
      · exact .inr (End.forall_of (x := .left) done done')
    | speaks _ _ some => exact absurd (List.append_eq_nil_iff.mp said).1 some
    | hears own _ more =>
      refine .inl (sound.reads right own more fun empty => ?_)
      refine sound.awaited (by rw [right]; rfl) more empty ?_
      rw [End.other, left]
      exact closes.due
  | speaks own _ some =>
    by_cases free : m.wire.lanes .right = []
    case pos => exact .inl (sound.writes positive left own some free)
    case neg =>
      cases talks' with
      | closes closes' =>
        exact absurd (sound.silent_of_closes (x := .right) (by rwa [right])).1 free
      | speaks =>
        have heard := sound.heard .right
        rw [right] at heard
        exact absurd (sound.silent (heard.1 rfl)).1 free
      | hears own' _ more' => exact .inl (sound.reads right own' more' free)
  | hears own _ more last =>
    by_cases empty : m.wire.lanes .left = []
    case neg => exact .inl (sound.reads left own more empty)
    case pos =>
      have awaited := sound.awaited (by rw [left]; rfl) more empty
      rw [End.other, right] at awaited
      cases talks' with
      | closes closes' => exact absurd closes'.due awaited
      | speaks own' _ some' => exact .inl (sound.writes positive right own' some' empty)
      | hears own' _ more' =>
        refine .inl (sound.reads right own' more' fun empty' => ?_)
        refine sound.awaited (by rw [right]; rfl) more' empty' ?_
        rw [End.other, left]
        exact last rfl

theorem arrives (named : (m.wire.ports .left).bound = some name)
    (listens : (m.wire.ports .left).listening = true) :
    (∃ m', Step cpu name capacity m m') ∨ ∃ held duties, g .right = .going held duties ∧
      (m.wire.ports .right).Talking name .right ∧
      Talks .right (m.wire.ports .right) held duties := by
  have along := sound.along .right
  generalize is : g .right = right at along
  generalize m.wire.ports .right = known at along ⊢
  cases along with
  | opening => exact .inl (sound.makes (c := ⟨.create 1 0, .ok 0⟩) is rfl .created)
  | @connecting fd =>
    exact .inl (sound.makes (c := ⟨.connect fd ⟨cpu, name⟩, .ok ()⟩) is rfl
      (.connected listens named))
  | talking known talks => exact .inr ⟨_, _, rfl, known, talks⟩

/-- There is always a call that can be made, before both are done. -/
theorem goes_on (positive : 0 < capacity) :
    (∃ m', Step cpu name capacity m m') ∨ ∀ x, g x = .going [] [] := by
  have along := sound.along .left
  generalize is : g .left = left at along
  generalize port : m.wire.ports .left = known at along
  -- It is enough to look at the server: while it prepares it can always go on.
  cases along with
  | opening => exact .inl (sound.makes (c := ⟨.create 1 0, .ok 0⟩) is rfl .created)
  | @binding fd =>
    exact .inl (sound.makes (c := ⟨.bind fd (.here name), .ok ()⟩) is rfl .bound)
  | @listening fd =>
    exact .inl (sound.makes (c := ⟨.listen fd Limits.listenBacklog, .ok ()⟩) is rfl
      (.listening (by rw [port]; rfl)))
  | @accepting fd =>
    have named : (m.wire.ports .left).bound = some name := by rw [port]
    have listens : (m.wire.ports .left).listening = true := by rw [port]
    obtain step | ⟨_, _, _, there, _⟩ := sound.arrives named listens
    · exact .inl step
    · exact .inl (sound.makes (c := ⟨.accept fd, .ok 0⟩) is rfl
        (.accepted listens there.connected))
  | talking here talks =>
    obtain ⟨named, listens⟩ := here.named rfl
    rw [← port] at named listens talks
    obtain step | ⟨_, _, is', _, talks'⟩ := sound.arrives named listens
    · exact .inl step
    · exact sound.converse positive is is' talks talks'

end Sound

theorem Reaches.sound (reached : Reaches cpu name capacity interruptions n m) :
    ∃ g, Sound cpu name capacity m g ∧ n + m.left g ≤ 76 + interruptions := by
  induction reached with
  | start => exact ⟨_, .start, Nat.le_of_eq (Nat.zero_add _)⟩
  | step _ step ih =>
    obtain ⟨g, sound, bound⟩ := ih
    obtain ⟨g', sound', fewer⟩ := sound.step step
    exact ⟨g', sound', by omega⟩

end Meeting

/-- Whatever a transport answers, both programs are safe on it: what they write begins the pattern,
a client writes only after it has read the pattern, whoever returns without an error has read and
written all of it and closed with success, and each descriptor is closed as often as it was
obtained.  Over a wire that works, whoever makes the next call and however much of it goes over,
there are never more calls than these and the interruptions, and when none can be made both have
returned without an error. -/
theorem round_trips_safely {σ : Type} (T : Transport σ) (mode : Mode) (t : σ) (log : List Entry)
    (cpu name : String) (capacity interruptions : Nat) (positive : 0 < capacity) :
    (let w : World σ := { transport := t, log }
     let run := mode.program (.direct T) w
     ∃ talk : List (Endpoint × Call),
       run.2.said = w.said ++ talk.flatMap (fun p => p.2.entries (some p.1)) ∧
         T.Serves t (talk.map Prod.snd) run.2.transport ∧
         Safe mode (talk.map Prod.snd) run.1) ∧
      ∀ n m, Meeting.Reaches cpu name capacity interruptions n m →
        n ≤ 76 + interruptions ∧ ((∃ m', Meeting.Step cpu name capacity m m') ∨
          ∀ x, returns (part cpu name x) (m.calls x) = some (.ok ())) := by
  refine ⟨mode.safely T t log, fun n m reached => ?_⟩
  obtain ⟨g, sound, bound⟩ := reached.sound
  refine ⟨Nat.le_trans (Nat.le_add_right _ _) bound, (sound.goes_on positive).imp_right ?_⟩
  intro done x
  have runs := sound.runs x
  rw [done x] at runs
  exact returns_ok runs

theorem round_trips_safely_chunked :
    ∃ m, Meeting.Reaches "ap" "hello" 5 1 9 m ∧
      (m.calls .right).flatMap Call.got = [0, 1, 2] ∧ m.wire.lanes .right = [3, 4] ∧
      9 ≤ 76 + 1 ∧ ((∃ m', Meeting.Step "ap" "hello" 5 m m') ∨
        ∀ x, returns (part "ap" "hello" x) (m.calls x) = some (.ok ())) := by
  have created : Meeting.Reaches "ap" "hello" 5 1 1 _ := .step .start
    (.call (x := .left) (c := ⟨.create 1 0, .ok 3⟩) (asks_of_after rfl) .created)
  have bound := created.step
    (.call (x := .left) (c := ⟨.bind 3 (.here "hello"), .ok ()⟩) (asks_of_after rfl) .bound)
  have listening := bound.step (.call (x := .left) (c := ⟨.listen 3 Limits.listenBacklog, .ok ()⟩)
    (asks_of_after rfl) (.listening rfl))
  have entered := listening.step
    (.call (x := .right) (c := ⟨.create 1 0, .ok 3⟩) (asks_of_after rfl) .created)
  have connected := entered.step (.call (x := .right) (c := ⟨.connect 3 ⟨"ap", "hello"⟩, .ok ()⟩)
    (asks_of_after rfl) (.connected rfl rfl))
  have accepted := connected.step
    (.call (x := .left) (c := ⟨.accept 3, .ok 4⟩) (asks_of_after rfl) (.accepted rfl rfl))
  have write : Pipe.Step .left ⟨.write 4 pattern, .ok 5⟩ (fun _ => [])
      (End.set (fun _ => []) .right [0, 1, 2, 3, 4]) :=
    ⟨.write (by decide) (by decide), rfl, rfl⟩
  have written := accepted.step
    (.call (asks_of_after rfl) (.carried rfl write (by decide) rfl))
  have interrupted := written.step
    (.call (x := .right) (c := ⟨.read 3 16, .error (.os 4)⟩) (asks_of_after rfl)
      (.interrupted (.readInterrupted rfl) rfl rfl))
  have read : Pipe.Step .right ⟨.read 3 16, .ok [0, 1, 2]⟩
      (End.set (fun _ => []) .right [0, 1, 2, 3, 4]) (End.set (fun _ => []) .right [3, 4]) :=
    ⟨.read (by decide) (by decide), rfl, rfl⟩
  have reached := interrupted.step (.call (asks_of_after rfl) (.carried rfl read (by decide) rfl))
  refine ⟨_, reached, rfl, rfl, ?_⟩
  exact (round_trips_safely Rehearsal.transport (.client "ap" "hello") ⟨[], none⟩ [] "ap" "hello"
    5 1 (by decide)).2 _ _ reached

end ProcessorSockets.Echo
