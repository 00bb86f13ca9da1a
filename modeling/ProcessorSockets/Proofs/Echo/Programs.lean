import ProcessorSockets.Proofs.Echo.Parts

namespace ProcessorSockets.Echo

open World (Ends Went)

variable {σ : Type} {T : Transport σ}

namespace Fulfils

theorem exchange {server : Server} {peer : Socket} {st : SocketState} {mine fd : Descriptor}
    (created : st.created = true) :
    Fulfils T [peer.endpoint, server.endpoint] {
        sockets := [(peer, st)]
        holdings := [(peer.endpoint, some mine), (server.endpoint, some fd)]
        duties := some [.say pattern, .hear [], .shut, .close, .shut, .close] }
      (Echo.exchange (.direct T) server peer) (Over [peer.endpoint, server.endpoint]) := by
  unfold Echo.exchange
  refine (info _).andThen ?_
  rintro _ _ rfl
  refine (send (List.mem_singleton_self _) created rfl (by decide) rfl).andThen ?_
  rintro _ _ rfl
  refine (receive (List.mem_singleton_self _) created rfl rfl).andThen ?_
  rintro echoed _ rfl
  by_cases right : echoed = pattern
  case neg =>
    rw [if_pos right, if_neg right]
    exact stop rfl rfl _ _
  rw [if_neg (not_not_intro right), if_pos right]
  refine (closeSocket (List.mem_singleton_self _) created rfl rfl).act.andThen ?_
  rintro _ _ rfl
  refine (release [(peer.endpoint, none)] rfl rfl rfl).act.andThen ?_
  rintro _ _ rfl
  intro w there
  exact (info _ w there).mono fun _ _ is => is ▸ ⟨rfl, rfl⟩

theorem serve (name : String) :
    Fulfils T [] { duties := some (Mode.server name).duties } (Echo.serve (.direct T) name)
      (Over []) := by
  unfold Echo.serve
  refine (bind rfl rfl).act.andThen ?_
  rintro server _ ⟨fd, rfl⟩
  apply holding
  refine (info _).andThen ?_
  rintro _ _ rfl
  refine (accept rfl rfl).act.andThen ?_
  rintro peer _ ⟨mine, st, created, rfl⟩
  exact (exchange created).holding

theorem visit (cpu name : String) :
    Fulfils T [] { duties := some (Mode.client cpu name).duties } (Echo.visit (.direct T) cpu name)
      (Over []) := by
  unfold Echo.visit
  refine (fresh .stream).andThen ?_
  rintro s _ rfl
  apply holding
  refine (connect rfl rfl rfl).act.andThen ?_
  rintro _ _ ⟨fd, st, created, rfl⟩
  refine (info _).andThen ?_
  rintro _ _ rfl
  refine (receive (List.mem_singleton_self _) created rfl rfl).andThen ?_
  rintro received _ rfl
  by_cases right : received = pattern
  case neg =>
    rw [if_pos right, if_neg right]
    exact stop rfl rfl _ _
  rw [if_neg (not_not_intro right), if_pos right, right]
  refine (send (List.mem_singleton_self _) created rfl (by decide) rfl).andThen ?_
  rintro _ _ rfl
  refine (closeSocket (List.mem_singleton_self _) created rfl rfl).act.andThen ?_
  rintro _ _ rfl
  intro w there
  exact (info _ w there).mono fun _ _ is => is ▸ ⟨rfl, rfl⟩

end Fulfils

namespace Mode

theorem fulfils (mode : Mode) :
    Fulfils T [] { duties := some mode.duties } (mode.program (.direct T)) (Over []) := by
  cases mode with
  | server name => exact .serve name
  | client cpu name => exact .visit cpu name

/-- A program follows its agenda to an end, however it is answered. -/
theorem went (T : Transport σ) (mode : Mode) (t : σ) (log : List Entry) :
    let w : World σ := { transport := t, log }
    let run := mode.program (.direct T) w
    w.Went T mode.agenda (.ended run.1) run.2 := by
  intro w run
  have ends : w.Ends T mode.agenda [] (Over []) run :=
    mode.fulfils w (.nowhere rfl)
  generalize run = result at ends
  cases ends with
  | @done _ q w' is went =>
    have all : q.agenda = .going [] [] := by
      rw [Point.agenda_going is.1, Point.held, is.2]
      rfl
    rwa [all] at went
  | @failed e q w' stopped same went =>
    have all : q.agenda = .leaving [] := by
      rw [Point.agenda_stopped stopped, Point.held, List.map_eq_nil_iff.mp same]
      rfl
    rwa [all] at went

theorem safely (T : Transport σ) (mode : Mode) (t : σ) (log : List Entry) :
    let w : World σ := { transport := t, log }
    let run := mode.program (.direct T) w
    ∃ talk : List (Endpoint × Call),
      run.2.said = w.said ++ talk.flatMap (fun p => p.2.entries (some p.1)) ∧
        T.Serves t (talk.map Prod.snd) run.2.transport ∧ Safe mode (talk.map Prod.snd) run.1 := by
  intro w run
  obtain ⟨talk, said, serves, runs⟩ := mode.went T t log
  exact ⟨talk, said, serves, safe runs⟩

end Mode

end ProcessorSockets.Echo
