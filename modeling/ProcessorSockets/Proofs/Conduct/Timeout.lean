import ProcessorSockets.Proofs.Conduct

namespace ProcessorSockets

open World (Called)

variable {σ : Type} {fd : Descriptor}

namespace Call

inductive Sets (fd : Descriptor) (d : Duration) : List Call → Except SocketError Unit → Prop
  | unread {e : NativeError} :
      Sets fd d [⟨.getTimeout fd .receive, .error e⟩] (.error (.native "getsockopt" e))
  | refused {old : Duration} {e : NativeError} :
      Sets fd d [⟨.getTimeout fd .receive, .ok old⟩, ⟨.setTimeout fd .receive d, .error e⟩]
        (.error (.native "setsockopt" e))
  | done {old : Duration} :
      Sets fd d [⟨.getTimeout fd .receive, .ok old⟩, ⟨.setTimeout fd .receive d, .ok ()⟩,
        ⟨.setTimeout fd .send d, .ok ()⟩] (.ok ())
  | back {old : Duration} {e : NativeError} {answer : Except NativeError Unit} :
      Sets fd d [⟨.getTimeout fd .receive, .ok old⟩, ⟨.setTimeout fd .receive d, .ok ()⟩,
        ⟨.setTimeout fd .send d, .error e⟩, ⟨.setTimeout fd .receive old, answer⟩]
        (.error (.native "setsockopt" e))

namespace Sets

variable {d : Duration} {calls : List Call} {r : Except SocketError Unit}

theorem about (h : Sets fd d calls r) : ∀ c ∈ calls, c.request.descriptor? = some fd := by
  cases h <;> simp [Request.descriptor?]

theorem settles (h : Sets fd d calls r) : Settles calls r := by
  cases h with
  | unread => exact .last rfl
  | refused => exact .append (.ok rfl) (.last rfl)
  | done => exact (Clean.ok rfl).append ((Clean.ok rfl).append (.ok rfl))
  | back =>
    -- The way back is gone after the failure that is reported.
    refine ⟨_, _, rfl, source_of_failure? ?_⟩
    exact failure?_firm _ ((Clean.ok rfl).append (.ok rfl)) rfl fun _ => rfl

end Sets

end Call

namespace Endpoint

open Call (Sets)

variable {L : Link σ}

theorem sets_setTimeout (straight : L.Straight) (ep : Endpoint) (d : Duration) {w : World σ}
    (quiet : w.disturbances = []) :
    ∃ calls, w.Called (some ep) calls (ep.setTimeout L fd d w).2 ∧
      Sets fd d calls (ep.setTimeout L fd d w).1 := by
  have first := straight (some ep) (.getTimeout fd .receive) w quiet
  rw [setTimeout, Action.run_bind]
  rcases read : L.send (some ep) (.getTimeout fd .receive) w with ⟨e | old, w₁⟩
  case error =>
    rw [read] at first
    rw [run_ask_error L ep read]
    exact ⟨_, first, .unread⟩
  rw [read] at first
  rw [run_ask_ok L ep read]
  dsimp only
  have second := straight (some ep) (.setTimeout fd .receive d) w₁ (first.quiet quiet)
  rw [Action.run_bind]
  rcases set : L.send (some ep) (.setTimeout fd .receive d) w₁ with ⟨e | _, w₂⟩
  case error =>
    rw [set] at second
    rw [run_ask_error L ep set]
    exact ⟨_, first.trans second, .refused⟩
  rw [set] at second
  rw [run_ask_ok L ep set]
  dsimp only
  have half := first.trans second
  have third := straight (some ep) (.setTimeout fd .send d) w₂ (half.quiet quiet)
  rw [Action.run_bind, Action.run_attempt]
  rcases sent : L.send (some ep) (.setTimeout fd .send d) w₂ with ⟨e | _, w₃⟩
  case ok =>
    rw [sent] at third
    rw [run_ask_ok L ep sent]
    exact ⟨_, half.trans third, .done⟩
  rw [sent] at third
  rw [run_ask_error L ep sent]
  have gone := half.trans third
  have fourth := straight (some ep) (.setTimeout fd .receive old) w₃ (gone.quiet quiet)
  dsimp only
  rw [Action.run_bind, Action.run_plain]
  rcases back : L.send (some ep) (.setTimeout fd .receive old) w₃ with ⟨e' | _, w₄⟩
  · rw [back] at fourth
    exact ⟨_, (gone.trans fourth).after (.one _ rfl), .back⟩
  · rw [back] at fourth
    exact ⟨_, gone.trans fourth, .back⟩

end Endpoint

end ProcessorSockets
