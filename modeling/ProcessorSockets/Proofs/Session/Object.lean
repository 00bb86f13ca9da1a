import ProcessorSockets.Proofs.Law.Outcome
import ProcessorSockets.Proofs.Law.Steady
import ProcessorSockets.Session

namespace ProcessorSockets

variable {σ α : Type}

def Object.isStream : Object → Bool
  | .endpoint _ => false
  | .socket _ => false
  | .server _ => false
  | .input _ => true
  | .output _ => true

namespace Session

theorem object_told (value : α → Value) (a : Action σ α) (w : World σ) :
    (told value a w).1.2 = none := by
  unfold told
  match a w with
  | (.ok _, _) => rfl
  | (.error _, _) => rfl

theorem object_toldNative (value : α → Value) (m : StateM (World σ) (Except NativeError α))
    (w : World σ) : (toldNative value m w).1.2 = none := by
  unfold toldNative
  match m w with
  | (.ok _, _) => rfl
  | (.error _, _) => rfl

theorem world_told (value : α → Value) (a : Action σ α) (w : World σ) :
    (told value a w).2 = (a w).2 := by
  unfold told
  cases a w with
  | mk r w' => cases r <;> rfl

theorem object_made {object : α → Object} {a : Action σ α} {w : World σ} {o : Object}
    (h : (made object a w).1.2 = some o) :
    ∃ x, a w = (.ok x, (made object a w).2) ∧ object x = o := by
  unfold made at h ⊢
  cases run : a w with
  | mk r w' =>
    rw [run] at h
    cases r with
    | ok x => exact ⟨x, rfl, Option.some.inj h⟩
    | error e => cases h

variable {L : Link σ} {w : World σ} {o : Object}

theorem object_silent {step : StateM (World σ) Outcome} {P : Prop} (silent : (step w).1.2 = none)
    (h : (step w).1.2 = some o) : P := by
  rw [silent] at h
  cases h

theorem object_onEndpoint {ep : Endpoint} {into : Option Endpoint} {verb : Verb}
    (h : (onEndpoint L ep into verb w).1.2 = some o) : o.isStream = true ∧ o.base = ep := by
  cases verb with
  | inputStream =>
    obtain ⟨s, gives, rfl⟩ := object_made h
    exact ⟨rfl, Endpoint.endpoint_inputStream ep w s (congrArg Prod.fst gives)⟩
  | outputStream =>
    obtain ⟨s, gives, rfl⟩ := object_made h
    exact ⟨rfl, Endpoint.endpoint_outputStream ep w s (congrArg Prod.fst gives)⟩
  | acceptInto name =>
    cases into with
    | none => cases h
    | some other => exact object_silent (object_told ..) h
  | create kind => exact object_silent (object_told ..) h
  | bind address => exact object_silent (object_told ..) h
  | listen backlog => exact object_silent (object_told ..) h
  | connect address timeout => exact object_silent (object_told ..) h
  | close => exact object_silent (object_told ..) h
  | release => exact object_silent (object_told ..) h
  | shutdown half => exact object_silent (object_told ..) h
  | getOption option => exact object_silent (object_told ..) h
  | setOption option value => exact object_silent (object_told ..) h
  | available => exact object_silent (object_told ..) h
  | _ => cases h

theorem object_onSocket {s : Socket} {verb : Verb} (h : (onSocket L s verb w).1.2 = some o) :
    (∃ i, s.inputStream L w = (.ok i, (onSocket L s verb w).2) ∧ .input i = o) ∨
      ∃ i, s.outputStream L w = (.ok i, (onSocket L s verb w).2) ∧ .output i = o := by
  cases verb with
  | inputStream => exact .inl (object_made h)
  | outputStream => exact .inr (object_made h)
  | connect address timeout => exact object_silent (object_told ..) h
  | connectTimeout address timeout => exact object_silent (object_told ..) h
  | bind address => exact object_silent (object_told ..) h
  | close => exact object_silent (object_told ..) h
  | shutdownInput => exact object_silent (object_told ..) h
  | shutdownOutput => exact object_silent (object_told ..) h
  | receiveBufferSize => exact object_silent (object_told ..) h
  | setReceiveBufferSize value => exact object_silent (object_told ..) h
  | sendBufferSize => exact object_silent (object_told ..) h
  | setSendBufferSize value => exact object_silent (object_told ..) h
  | timeout => exact object_silent (object_told ..) h
  | setTimeout value => exact object_silent (object_told ..) h
  | getOptionById id => exact object_silent (object_told ..) h
  | setOptionById id value => exact object_silent (object_told ..) h
  | _ => cases h

theorem stream_onSocket {s : Socket} {verb : Verb} (h : (onSocket L s verb w).1.2 = some o) :
    o.isStream = true ∧ o.base = s.endpoint := by
  cases object_onSocket h with
  | inl input =>
    obtain ⟨i, gives, rfl⟩ := input
    exact ⟨rfl, Action.result_bind (fun _ => Endpoint.endpoint_inputStream s.endpoint) w i
      (congrArg Prod.fst gives)⟩
  | inr output =>
    obtain ⟨i, gives, rfl⟩ := output
    exact ⟨rfl, Action.result_bind (fun _ => Endpoint.endpoint_outputStream s.endpoint) w i
      (congrArg Prod.fst gives)⟩

theorem object_onInput (s : InputStream) (verb : Verb) :
    (onInput L s verb w).1.2 = none := by
  cases verb with
  | available => exact object_told ..
  | read length => exact object_told ..
  | readByte => exact object_told ..
  | close => exact object_told ..
  | readNative length => exact object_toldNative ..
  | readToEndNative =>
    rw [onInput, World.run_bind]
    match (s.readToEndNative L w).1 with
    | (bytes, .ok ()) => rfl
    | (bytes, .error e) => rfl
  | _ => rfl

theorem object_onOutput (s : OutputStream) (verb : Verb) :
    (onOutput L s verb w).1.2 = none := by
  cases verb with
  | write bytes => exact object_told ..
  | writeAll bytes => exact object_told ..
  | writeByte byte => exact object_told ..
  | flush => exact object_told ..
  | close => exact object_told ..
  | writeNative bytes => exact object_toldNative ..
  | writeAllNative bytes => exact object_toldNative ..
  | flushNative => exact object_toldNative ..
  | _ => rfl

end Session

namespace World.Founding

variable {T : Transport σ} {L : Link σ} {w w' : World σ} {object : Option Object}

theorem size_admitted {h : Handle} {w₁ w₂ : World σ} (opened : w.Noted w₁)
    (admitted : World.Admitted (.disturbed T) ⟨w.endpoints.length⟩ (Endpoint.make h w₁).2 w₂) :
    w₂.endpoints.length = w.endpoints.length + 1 ∧ w.sockets.length ≤ w₂.sockets.length := by
  obtain ⟨size, more⟩ := admitted Law.steady (Steady.disturbed _) trivial
  rw [← opened.endpoints, ← opened.sockets]
  exact ⟨size.trans (by simp [Endpoint.make]), more⟩

theorem size_accepted {listener : Endpoint}
    (asked : listener.accept (.disturbed T) ⟨w.endpoints.length⟩ (Endpoint.make {} w).2 =
      (.ok (), w')) :
    w'.endpoints.length = w.endpoints.length + 1 ∧ w.sockets.length ≤ w'.sockets.length := by
  have steady := (Steady.disturbed (T := T) ⟨w.endpoints.length⟩).accepted listener
    (Endpoint.make {} w).2 trivial
  rw [asked] at steady
  exact ⟨steady.1.trans (by simp [Endpoint.make]), steady.2⟩

theorem size (run : w.Founding (.disturbed T) object w') :
    w'.endpoints.length = w.endpoints.length + 1 := by
  cases run with
  | made _ opened admitted noted _ _ =>
    rw [noted.endpoints]
    exact (size_admitted opened admitted).1
  | socket _ opened _ => simp [Socket.onto, Endpoint.make, opened.endpoints]
  | accepted listener asked => exact (size_accepted asked).1
  | failed _ opened admitted noted =>
    rw [noted.endpoints, ((Steady.disturbed (T := T) _).discard _ trivial).1]
    exact (size_admitted opened admitted).1

theorem base {o : Object} (run : w.Founding L (some o) w') : o.base = ⟨w.endpoints.length⟩ := by
  cases run with
  | made _ _ _ _ base _ => exact base
  | socket _ _ _ => rfl
  | accepted _ _ => rfl

theorem index {k : Socket} (run : w.Founding (.disturbed T) (some (.socket k)) w') :
    w.sockets.length ≤ k.index ∧ k.index < w'.sockets.length := by
  cases run with
  | made _ _ _ _ _ other => exact absurd rfl (other k)
  | socket _ opened _ => exact ⟨Nat.le_refl _, by simp [Socket.onto, Endpoint.make, opened.sockets]⟩
  | accepted listener asked => exact ⟨(size_accepted asked).2, by simp [Socket.onto]⟩

theorem last {law : Law σ} (run : w.Founding L none w')
    (admits : law.Admits L ⟨w.endpoints.length⟩)
    (holds : ∀ h w₁, h.owned = false → w.Noted w₁ → law.holds (Endpoint.make h w₁).2) :
    ∃ w₂, law.holds w₂ ∧ (Endpoint.discard L ⟨w.endpoints.length⟩ w₂).2.Noted w' := by
  cases run with
  | failed unowned opened admitted noted =>
    have before := holds _ _ unowned opened
    exact ⟨_, law.stable before (admitted law admits before), noted⟩

end World.Founding

namespace Session

structure Lent (s : Session σ) (on : Option String) (w w' : World σ) (object : Option Object) :
    Prop where
  steady : Law.steady.keeps w w'
  stream : ∀ o, object = some o → o.isStream = true
  base : ∀ o, object = some o →
    ∃ name o₀, on = some name ∧ s.find? name = some o₀ ∧ o.base = o₀.base

theorem Lent.silent {s : Session σ} {on : Option String} {step : StateM (World σ) Outcome}
    {w : World σ} (kept : Law.steady.Keeps step) (silent : (step w).1.2 = none) :
    s.Lent on w (step w).2 (step w).1.2 where
  steady := kept w trivial
  stream := by
    rw [silent]
    rintro _ ⟨⟩
  base := by
    rw [silent]
    rintro _ ⟨⟩

theorem lent_or_founded (T : Transport σ) (around : Surroundings σ) (s : Session σ) (verb : Verb)
    (on : Option String) (w : World σ) :
    let r := outcome (.disturbed T) around s verb on w
    s.Lent on w r.2 r.1.2 ∨ w.Founding (.disturbed T) r.1.2 r.2 := by
  cases on with
  | none =>
    cases verb with
    | newEndpoint => exact .inr (.endpoint _ rfl w)
    | adoptEndpoint fd => exact .inr (.endpoint _ rfl w)
    | newSocket kind => exact .inr (.freshSocket _ kind w)
    | adoptSocket fd => exact .inr (.adoptSocket _ fd w)
    | bindServer name => exact .inr (.bindServer _ name w)
    | adoptServer fd => exact .inr (.adoptServer _ fd w)
    | ask r =>
      exact .inl
        (.silent (.toldNative (Steady.send Steady.interrupt none r)) (object_toldNative ..))
    | _ => exact .inl (.silent (.look _) rfl)
  | some name =>
    simp only [outcome]
    cases found : s.find? name with
    | none => exact .inl (.silent (.look _) rfl)
    | some o =>
      cases o with
      | endpoint ep =>
        have kept (into : Option Endpoint) :
          Law.steady.Keeps (onEndpoint (.disturbed T) ep into verb) :=
          (Steady.disturbed ep).onEndpoint (fun _ _ => Steady.disturbed _) verb
        exact .inl {
          steady := kept _ w trivial
          stream := fun o made => (object_onEndpoint made).1
          base := fun o made => ⟨name, _, rfl, found, (object_onEndpoint made).2⟩ }
      | socket k =>
        have kept := (Steady.disturbed (T := T) k.endpoint).socket fun w st =>
          Steady.setSocket w ⟨k.index, _⟩ st
        exact .inl {
          steady := kept.onSocket verb w trivial
          stream := fun o made => (stream_onSocket made).1
          base := fun o made => ⟨name, _, rfl, found, (stream_onSocket made).2⟩ }
      | server k =>
        have released := (Steady.disturbed (T := T) k.endpoint).release
        cases verb with
        | accept => exact .inr (.accept _ k w)
        | close => exact .inl (.silent (.told released) (object_told ..))
        | localAddress =>
          apply Or.inl
          apply Lent.silent _ (object_told ..)
          apply Law.Keeps.told
          unfold Server.localAddress
          cases k.address? with
          | some address => exact .return' address
          | none => exact .throw' _
        | _ => exact .inl (.silent (.look _) rfl)
      | input i =>
        have admits := Steady.disturbed (T := T) i.endpoint
        exact .inl (.silent (admits.onInput fun _ => admits.release) (object_onInput i verb))
      | output i =>
        have admits := Steady.disturbed (T := T) i.endpoint
        exact .inl (.silent (admits.onOutput fun _ => admits.release) (object_onOutput i verb))

end Session

end ProcessorSockets
