import ProcessorSockets.Proofs.Echo.Programs

namespace ProcessorSockets.Echo

open Agenda (Runs Step)

/-- Answers to repeat, and the first request for which there was none. -/
structure Rehearsal where
  answers : List Call
  missing : Option Request := none

namespace Rehearsal

def refusal (r : Request) (q : Rehearsal) : Answer r.Reply Rehearsal where
  reply := .error (.os 5)
  state := { answers := [], missing := q.missing.or (some r) }

def handle (r : Request) (q : Rehearsal) : Answer r.Reply Rehearsal :=
  match q.answers with
  | [] => refusal r q
  | c :: rest =>
    if same : c.request = r then { reply := same ▸ c.answer, state := { q with answers := rest } }
    else refusal r q

def transport : Transport Rehearsal where
  name := "rehearsal"
  handle := handle
  patience q := q.answers.length

theorem handle_same (c : Call) (rest : List Call) (missing : Option Request) :
    handle c.request ⟨c :: rest, missing⟩ = { reply := c.answer, state := ⟨rest, missing⟩ } :=
  dif_pos rfl

theorem honest : transport.Honest := by
  intro q calls q' serves
  induction serves with
  | nil => exact Nat.zero_le _
  | @cons q q' r answer calls answers _ ih =>
    have firm (refused : transport.handle r q = refusal r q) :
        (⟨r, answer⟩ :: calls).countP Call.interrupted ≤ 0 := by
      rw [refused] at answers ih
      cases answers
      exact ih
    obtain ⟨known, missing⟩ := q
    cases known with
    | nil => exact firm rfl
    | cons c rest =>
      by_cases same : c.request = r
      · subst same
        change _ ≤ transport.patience (handle c.request ⟨c :: rest, missing⟩).state at ih
        rw [handle_same] at ih
        rw [List.countP_cons]
        change _ ≤ rest.length at ih
        change _ ≤ rest.length + 1
        split <;> omega
      · exact Nat.le_trans (firm (dif_neg same)) (Nat.zero_le _)

theorem missing_stays {r : Request} {calls : List Call} {q : Rehearsal}
    (serves : transport.Serves ⟨[], some r⟩ calls q) : q.missing = some r := by
  generalize is : (⟨[], some r⟩ : Rehearsal) = q₀ at serves
  induction serves with
  | nil => exact is ▸ rfl
  | cons _ _ ih =>
    subst is
    exact ih rfl

theorem next_of_patient {patient : Prop} {g g' : Agenda} {c : Call} (step : Step patient g c g')
    (waits : patient) : g.request? = some c.request ∧ g' = g.next c := by
  cases step with
  | answered asked => exact ⟨asked, rfl⟩
  | tired impatient => exact absurd waits impatient

theorem missing_next {g g₁ g₂ : Agenda} {known said : List Call} {q : Rehearsal}
    (begins : Runs True g known g₁) (runs : Runs transport.Honest g said g₂)
    (serves : transport.Serves ⟨known, none⟩ said q) (ended : g₂.request? = none) :
    q.missing = g₁.request? ∧ (g₁.request? = none → g₁ = g₂) := by
  induction begins generalizing said with
  | nil g =>
    cases runs with
    | nil =>
      cases serves
      exact ⟨ended.symm, fun _ => rfl⟩
    | @cons _ _ _ c _ step rest =>
      cases serves with
      | @cons _ _ r answer _ answers serves =>
        obtain ⟨asked, _⟩ := next_of_patient step honest
        rw [asked]
        exact ⟨missing_stays serves, nofun⟩
  | @cons g g' g₁ c known step _ ih =>
    obtain ⟨asked, rfl⟩ := next_of_patient step trivial
    cases runs with
    | nil =>
      rw [ended] at asked
      cases asked
    | @cons _ _ _ c' _ step' rest =>
      obtain ⟨asked', rfl⟩ := next_of_patient step' honest
      cases serves with
      | @cons _ _ r answer _ answers serves =>
        rw [asked] at asked'
        cases asked'
        change (handle c.request ⟨c :: known, none⟩).reply = answer at answers
        change transport.Serves (handle c.request ⟨c :: known, none⟩).state _ _ at serves
        rw [handle_same] at answers serves
        cases answers
        exact ih rest serves

end Rehearsal

def asks (mode : Mode) (answers : List Call) : Option Request :=
  (mode.program (.direct Rehearsal.transport) { transport := { answers } }).2.transport.missing

def returns (mode : Mode) (answers : List Call) : Option (Except Report Unit) :=
  match asks mode answers with
  | some _ => none
  | none => some (mode.program (.direct Rehearsal.transport) { transport := { answers } }).1

theorem asks_eq {mode : Mode} {calls : List Call} {g : Agenda}
    (runs : Runs True mode.agenda calls g) : asks mode calls = g.request? := by
  obtain ⟨talk, _, serves, goes⟩ := mode.went Rehearsal.transport { answers := calls } []
  exact (Rehearsal.missing_next runs goes serves (Agenda.request?_ended _)).1

def Agenda.after : Agenda → List Call → Option Agenda
  | g, [] => some g
  | g, c :: calls => if g.request? = some c.request then (g.next c).after calls else none

theorem Agenda.Runs.of_after {g g' : Agenda} {calls : List Call} (after : g.after calls = some g') :
    Runs True g calls g' := by
  induction calls generalizing g with
  | nil =>
    cases after
    exact .nil g'
  | cons c calls ih =>
    obtain ⟨asked, after⟩ := Option.ite_none_right_eq_some.mp after
    exact .cons (.answered asked) (ih after)

theorem asks_of_after {mode : Mode} {calls : List Call} {r : Request}
    (after : (mode.agenda.after calls).bind Agenda.request? = some r) :
    asks mode calls = some r := by
  obtain ⟨g, after, asked⟩ := Option.bind_eq_some_iff.mp after
  exact (asks_eq (.of_after after)).trans asked

theorem returns_of_ended {mode : Mode} {calls : List Call} {r : Except Report Unit}
    (runs : Runs True mode.agenda calls (.ended r)) :
    ∃ r', returns mode calls = some r' ∧ Agenda.ended r' = .ended r := by
  obtain ⟨talk, _, serves, goes⟩ := mode.went Rehearsal.transport { answers := calls } []
  have nothing := Agenda.request?_ended r
  have same := (Rehearsal.missing_next runs goes serves (Agenda.request?_ended _)).2 nothing
  refine ⟨_, ?_, same.symm⟩
  rw [returns, asks_eq runs, nothing]

theorem returns_ok {mode : Mode} {calls : List Call}
    (runs : Runs True mode.agenda calls (.going [] [])) : returns mode calls = some (.ok ()) := by
  obtain ⟨r, returns, same⟩ := returns_of_ended (r := .ok ()) runs
  cases r with
  | ok _ => exact returns
  | error _ => cases same

/-- On a transport that does not interrupt more often than it says, a program makes the calls that
the rehearsals tell, and ends where they end. -/
theorem rehearsed {σ : Type} {T : Transport σ} (honest : T.Honest) (mode : Mode) (t : σ)
    (log : List Entry) :
    let w : World σ := { transport := t, log }
    let run := mode.program (.direct T) w
    ∃ talk : List (Endpoint × Call),
      run.2.said = w.said ++ talk.flatMap (fun p => p.2.entries (some p.1)) ∧
        (∀ before c after, talk.map Prod.snd = before ++ c :: after →
          asks mode before = some c.request) ∧
        ∃ r, returns mode (talk.map Prod.snd) = some r ∧ (r = .ok () ↔ run.1 = .ok ()) := by
  intro w run
  obtain ⟨talk, said, _, runs⟩ := mode.went T t log
  rw [eq_true honest] at runs
  refine ⟨talk, said, fun before c after is => ?_, ?_⟩
  · rw [is] at runs
    obtain ⟨g, first, second⟩ := runs.split
    cases second with
    | cons step _ => exact (asks_eq first).trans (Rehearsal.next_of_patient step trivial).1
  · obtain ⟨r, returns, same⟩ := returns_of_ended runs
    refine ⟨r, returns, ?_⟩
    change Agenda.ended r = Agenda.ended run.1 at same
    generalize run.1 = r' at same
    cases r with
    | ok _ =>
      cases r' with
      | ok _ => exact Iff.rfl
      | error _ => cases same
    | error _ =>
      cases r' with
      | ok _ => cases same
      | error _ => exact ⟨nofun, nofun⟩

end ProcessorSockets.Echo
