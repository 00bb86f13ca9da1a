import ProcessorSockets.Proofs.Echo.Agenda
import ProcessorSockets.Proofs.Echo.Wire

/-! How far each of the two programs is, as the wire sees it.  Before they talk the two go their own
ways; from then on each has things to say and to hear on its connection, and ends by closing.  The
wire never makes one of them fail, and each answer, unless it is an interruption, makes what is left
cheaper. -/

namespace ProcessorSockets.Echo

namespace Duty

def cost : Duty → Nat
  | say left => left.length
  | hear heard => pattern.length - heard.length
  | _ => 1

def costs : List Duty → Nat
  | [] => 0
  | d :: rest => d.cost + costs rest

theorem costs_append (first rest : List Duty) :
    costs (first ++ rest) = costs first + costs rest := by
  induction first with
  | nil => exact (Nat.zero_add _).symm
  | cons d first ih => simp only [List.cons_append, costs, ih, Nat.add_assoc]

theorem costs_saying (left : List UInt8) : costs (saying left) = left.length := by
  rw [saying]
  split
  case isTrue empty =>
    rw [empty]
    rfl
  case isFalse => rfl

theorem costs_hearing {heard : List UInt8} {left : List Duty} (leaves : hearing heard = some left) :
    costs left = pattern.length - heard.length := by
  rw [hearing] at leaves
  split at leaves
  case isTrue =>
    cases leaves
    rfl
  case isFalse full =>
    obtain ⟨_, leaves⟩ := Option.ite_none_right_eq_some.mp leaves
    cases leaves
    exact (Nat.sub_eq_zero_of_le (Nat.le_of_not_lt full)).symm

theorem hearing_of_prefix {heard : List UInt8} (begins : heard <+: pattern) :
    ∃ left, hearing heard = some left := by
  rw [hearing]
  split
  case isTrue => exact ⟨_, rfl⟩
  case isFalse full =>
    exact ⟨_, if_pos (begins.eq_of_length_le (Nat.le_of_not_lt full))⟩

end Duty

def Agenda.cost (g : Agenda) : Nat := Duty.costs g.duties

def part (cpu name : String) : End → Mode
  | .left => .server name
  | .right => .client cpu name

inductive Closes : List Descriptor → List Duty → Prop
  | nil : Closes [] []
  | shut {fd : Descriptor} {held : List Descriptor} {duties : List Duty}
      (rest : Closes (fd :: held) duties) : Closes (fd :: held) (.shut :: duties)
  | close {fd : Descriptor} {held : List Descriptor} {duties : List Duty}
      (rest : Closes held duties) : Closes (fd :: held) (.close :: duties)

inductive Talks (x : End) (port : Port) : List Descriptor → List Duty → Prop
  | closes {held : List Descriptor} {duties : List Duty} (closes : Closes held duties) :
      Talks x port held duties
  | speaks {fd : Descriptor} {held : List Descriptor} {left : List UInt8} {after : List Duty}
      (own : port.connection = some fd) (alive : port.closed = false) (some : left ≠ [])
      (rest : Talks x port (fd :: held) after) : Talks x port (fd :: held) (.say left :: after)
  | hears {fd : Descriptor} {held : List Descriptor} {heard : List UInt8} {after : List Duty}
      (own : port.connection = some fd) (alive : port.closed = false)
      (more : heard.length < pattern.length) (last : x = .left → after.flatMap Duty.due = [])
      (rest : Talks x port (fd :: held) after) : Talks x port (fd :: held) (.hear heard :: after)

structure Port.Talking (name : String) (x : End) (port : Port) : Prop where
  connected : port.connection.isSome = true
  named : x = .left → port.bound = some name ∧ port.listening = true

/-- How far a part is, and what the wire knows about it. -/
inductive Along (cpu name : String) : End → Port → Agenda → Prop
  | opening {x : End} : Along cpu name x {} (part cpu name x).agenda
  | binding {fd : Descriptor} :
      Along cpu name .left {} (.going [fd] ((Mode.server name).duties.drop 1))
  | listening {fd : Descriptor} :
      Along cpu name .left { bound := some name } (.going [fd] ((Mode.server name).duties.drop 2))
  | accepting {fd : Descriptor} :
      Along cpu name .left { bound := some name, listening := true }
        (.going [fd] ((Mode.server name).duties.drop 3))
  | connecting {fd : Descriptor} :
      Along cpu name .right {} (.going [fd] ((Mode.client cpu name).duties.drop 1))
  | talking {x : End} {port : Port} {held : List Descriptor} {duties : List Duty}
      (known : port.Talking name x) (talks : Talks x port held duties) :
      Along cpu name x port (.going held duties)

variable {cpu name : String} {capacity : Nat} {x : End} {port : Port} {q q' : Wire} {c : Call}
  {fd : Descriptor} {held : List Descriptor} {d : Duty} {duties after : List Duty} {g : Agenda}

theorem Port.Talking.shut (known : port.Talking name x) (fd : Descriptor) :
    (port.shut fd).Talking name x := by
  rw [Port.shut]
  split
  case isTrue => exact ⟨known.connected, known.named⟩
  case isFalse => exact known

namespace Closes

theorem due (closes : Closes held duties) : duties.flatMap Duty.due = [] := by
  induction closes with
  | nil => rfl
  | shut _ ih => exact ih
  | close _ ih => exact ih

theorem heard {eager : Bool} {got : List UInt8} (closes : Closes held duties)
    (heard : Duty.Heard eager got duties) : got = pattern := by
  induction closes with
  | nil => exact heard
  | shut _ ih => exact ih heard
  | close _ ih => exact ih heard

end Closes

namespace Talks

theorem saying (own : port.connection = some fd) (alive : port.closed = false)
    (rest : Talks x port (fd :: held) after) (left : List UInt8) :
    Talks x port (fd :: held) (Duty.saying left ++ after) := by
  rw [Duty.saying]
  split
  case isTrue => exact rest
  case isFalse some => exact .speaks own alive some rest

theorem hearing (own : port.connection = some fd) (alive : port.closed = false)
    (last : x = .left → after.flatMap Duty.due = []) (rest : Talks x port (fd :: held) after)
    {heard : List UInt8} {left : List Duty} (leaves : Duty.hearing heard = some left) :
    Talks x port (fd :: held) (left ++ after) := by
  rw [Duty.hearing] at leaves
  split at leaves
  case isTrue more =>
    cases leaves
    exact .hears own alive more last rest
  case isFalse =>
    obtain ⟨_, leaves⟩ := Option.ite_none_right_eq_some.mp leaves
    cases leaves
    exact rest

end Talks

theorem Along.closes_of_closed (along : Along cpu name x port g) (closed : port.closed = true) :
    Closes g.held g.duties := by
  cases along with
  | talking _ talks =>
    cases talks with
    | closes closes => exact closes
    | speaks _ alive =>
      rw [alive] at closed
      cases closed
    | hears _ alive =>
      rw [alive] at closed
      cases closed
  | _ => cases closed

theorem Along.isGoing (along : Along cpu name x port g) : g.isGoing = true := by
  cases along <;> rfl

def Forward (cpu name : String) (x : End) (g : Agenda) (c : Call) (q q' : Wire) : Prop :=
  ∃ g', Agenda.Step True g c g' ∧ Along cpu name x (q'.ports x) g' ∧
    g'.cost + q'.interruptions < g.cost + q.interruptions

namespace Forward

theorem of_moves {left : List Duty} (moves : d.Moves held c left)
    (along : Along cpu name x (q'.ports x) (.going (hold c held) (left ++ after)))
    (cheaper : Duty.costs left + q'.interruptions < d.cost + q.interruptions) :
    Forward cpu name x (.going held (d :: after)) c q q' := by
  refine ⟨_, .moves moves, along, ?_⟩
  simp only [Agenda.cost, Agenda.duties, Duty.costs_append, Duty.costs]
  omega

theorem once (moves : d.Moves held c []) (cost : d.cost = 1)
    (still : q'.interruptions = q.interruptions)
    (along : Along cpu name x (q'.ports x) (.going (hold c held) after)) :
    Forward cpu name x (.going held (d :: after)) c q q' := by
  refine .of_moves moves along ?_
  rw [cost, still]
  exact Nat.add_lt_add_right Nat.one_pos _

theorem create (along : ∀ fd, Along cpu name x (q.ports x) (.going (fd :: held) after))
    {answer : Except NativeError Descriptor}
    (answered : q.Answers capacity x ⟨.create 1 0, answer⟩ q') :
    Forward cpu name x (.going held (.create :: after)) ⟨.create 1 0, answer⟩ q q' := by
  cases answered with
  | carried _ step => cases step.piped
  | interrupted piped => cases piped
  | created => exact .once .created rfl rfl (along _)

theorem say (known : (q.ports x).Talking name x) {left : List UInt8}
    (own : (q.ports x).connection = some fd) (alive : (q.ports x).closed = false)
    (some : left ≠ []) (rest : Talks x (q.ports x) (fd :: held) after)
    (listens : (q.ports x.other).closed = false) {answer : Except NativeError Nat}
    (answered : q.Answers capacity x ⟨.write fd left, answer⟩ q') :
    Forward cpu name x (.going (fd :: held) (.say left :: after)) ⟨.write fd left, answer⟩
      q q' := by
  obtain ⟨same, ⟨n, rfl, positive, still⟩ | ⟨e, rfl, interrupted, fewer⟩⟩ := answered.write listens
  · refine .of_moves (.said positive) ?_ ?_
    · rw [same]
      exact .talking known (rest.saying own alive _)
    · have long := List.length_pos_iff.mpr some
      rw [Duty.costs_saying, List.length_drop, Duty.cost]
      omega
  · refine .of_moves (.unsaid interrupted) ?_ ?_
    · rw [same]
      exact .talking known (.speaks own alive some rest)
    · simp only [Duty.costs]
      omega

theorem hear (known : (q.ports x).Talking name x) {heard : List UInt8}
    (own : (q.ports x).connection = some fd) (alive : (q.ports x).closed = false)
    (more : heard.length < pattern.length) (last : x = .left → after.flatMap Duty.due = [])
    (rest : Talks x (q.ports x) (fd :: held) after) (begins : heard ++ q.lanes x <+: pattern)
    (comes : q.lanes x = [] → (q.ports x.other).closed = false)
    {answer : Except NativeError (List UInt8)}
    (answered : q.Answers capacity x ⟨.read fd (pattern.length - heard.length), answer⟩ q') :
    Forward cpu name x (.going (fd :: held) (.hear heard :: after))
      ⟨.read fd (pattern.length - heard.length), answer⟩ q q' := by
  obtain ⟨same, ⟨bytes, rfl, some, still⟩ | ⟨e, rfl, interrupted, fewer⟩⟩ := answered.read comes
  · have front : q.lanes x = bytes ++ q'.lanes x := answered.front
    rw [front, ← List.append_assoc] at begins
    obtain ⟨left, leaves⟩ := Duty.hearing_of_prefix ((List.prefix_append _ _).trans begins)
    refine .of_moves (.heard some leaves) ?_ ?_
    · rw [same]
      exact .talking known (rest.hearing own alive last leaves)
    · have long := List.length_pos_iff.mpr some
      rw [Duty.costs_hearing leaves, List.length_append, Duty.cost]
      omega
  · refine .of_moves (.unheard interrupted) ?_ ?_
    · rw [same]
      exact .talking known (.hears own alive more last rest)
    · simp only [Duty.costs]
      omega

theorem close (known : (q.ports x).Talking name x) (closes : Closes held (d :: after))
    (asked : d.request? held = some c.request) (answered : q.Answers capacity x c q') :
    Forward cpu name x (.going held (d :: after)) c q q' := by
  obtain ⟨r, answer⟩ := c
  cases closes with
  | shut rest =>
    cases asked
    cases answered with
    | carried _ step => cases step.piped
    | interrupted piped => cases piped
    | shut =>
      refine .once .shut rfl rfl ?_
      rw [Wire.ports_set]
      exact .talking (known.shut _) (.closes rest)
  | close rest =>
    cases asked
    cases answered with
    | carried _ step => cases step.piped
    | interrupted piped => cases piped
    | closed =>
      refine .once .closed rfl rfl ?_
      rw [Wire.ports_set]
      exact .talking (known.shut _) (.closes rest)

end Forward

/-- What a part can rely on. -/
structure Expects (q : Wire) (x : End) (g : Agenda) : Prop where
  /-- The pattern is what comes in. -/
  begins : ∀ heard after, g.duties = .hear heard :: after → heard ++ q.lanes x <+: pattern
  /-- It does so before the other end closes. -/
  comes : ∀ heard after, g.duties = .hear heard :: after → heard.length < pattern.length →
    q.lanes x = [] → (q.ports x.other).closed = false
  /-- The other end does not close before everything was said. -/
  listens : ∀ left after, g.duties = .say left :: after → left ≠ [] →
    (q.ports x.other).closed = false

theorem Along.forward (along : Along cpu name x (q.ports x) g) (expects : Expects q x g)
    (asked : g.request? = some c.request) (answered : q.Answers capacity x c q') :
    Forward cpu name x g c q q' := by
  generalize known : q.ports x = port at along
  obtain ⟨r, answer⟩ := c
  -- Before the two talk, a duty takes one call, and the wire gives no other answer to it.
  cases along with
  | opening =>
    cases x with
    | left =>
      cases asked
      exact .create (fun _ => known ▸ .binding) answered
    | right =>
      cases asked
      exact .create (fun _ => known ▸ .connecting) answered
  | binding =>
    cases asked
    cases answered with
    | carried _ step => cases step.piped
    | interrupted piped => cases piped
    | bound =>
      refine .once .bound rfl rfl ?_
      rw [Wire.ports_set, known]
      exact .listening
  | listening =>
    cases asked
    cases answered with
    | carried _ step => cases step.piped
    | interrupted piped => cases piped
    | listening =>
      refine .once .listening rfl rfl ?_
      rw [Wire.ports_set, known]
      exact .accepting
  | accepting =>
    cases asked
    cases answered with
    | carried _ step => cases step.piped
    | interrupted piped => cases piped
    | accepted =>
      refine .once .accepted rfl rfl ?_
      rw [Wire.ports_set, known]
      refine .talking ⟨rfl, fun _ => ⟨rfl, rfl⟩⟩ (.speaks rfl rfl (by decide) ?_)
      exact .hears rfl rfl (by decide) (fun _ => rfl)
        (.closes (.shut (.close (.shut (.close .nil)))))
  | connecting =>
    cases asked
    cases answered with
    | carried _ step => cases step.piped
    | interrupted piped => cases piped
    | connected =>
      refine .once .connected rfl rfl ?_
      rw [Wire.ports_set, known]
      refine .talking ⟨rfl, nofun⟩ (.hears rfl rfl (by decide) nofun ?_)
      exact .speaks rfl rfl (by decide) (.closes (.shut (.close .nil)))
  | @talking _ _ held duties talking talks =>
    subst known
    cases talks with
    | closes closes =>
      cases duties with
      | nil => cases asked
      | cons d after => exact .close talking closes asked answered
    | speaks own alive some rest =>
      cases asked
      exact .say talking own alive some rest (expects.listens _ _ rfl some) answered
    | hears own alive more last rest =>
      cases asked
      exact .hear talking own alive more last rest (expects.begins _ _ rfl)
        (expects.comes _ _ rfl more) answered

end ProcessorSockets.Echo
