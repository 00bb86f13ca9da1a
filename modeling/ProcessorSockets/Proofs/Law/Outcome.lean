import ProcessorSockets.Proofs.Law.Founding
import ProcessorSockets.Session

namespace ProcessorSockets

variable {σ α : Type} {law : Law σ} {L : Link σ}

open Session (Outcome told toldNative made compete contend onEndpoint onSocket onServer onInput
  onOutput onNone)

def Session.Verb.givesUp : Session.Verb → Bool
  | .close => true
  | .release => true
  | _ => false

namespace Law

namespace Keeps

theorem told {value : α → Session.Value} {step : Action σ α} (h : law.Keeps step) :
    law.Keeps (told value step) := by
  intro w hw
  have kept := h w hw
  unfold Session.told
  generalize step w = answer at kept
  match answer, kept with
  | (.ok _, _), kept => exact kept
  | (.error _, _), kept => exact kept

theorem toldNative {value : α → Session.Value} {step : StateM (World σ) (Except NativeError α)}
    (h : law.Keeps step) : law.Keeps (toldNative value step) := by
  intro w hw
  have kept := h w hw
  unfold Session.toldNative
  generalize step w = answer at kept
  match answer, kept with
  | (.ok _, _), kept => exact kept
  | (.error _, _), kept => exact kept

theorem made {object : α → Object} {step : Action σ α} (h : law.Keeps step) :
    law.Keeps (made object step) := by
  intro w hw
  have kept := h w hw
  unfold Session.made
  generalize step w = answer at kept
  match answer, kept with
  | (.ok _, _), kept => exact kept
  | (.error _, _), kept => exact kept

end Keeps

theorem Retains.onEndpoint {ep : Endpoint} (h : law.Retains L ep) {into : Option Endpoint}
    (place : ∀ other, into = some other → law.Keeps (ep.accept L other)) {verb : Session.Verb}
    (gives : verb.givesUp = true → law.Keeps (ep.close L)) :
    law.Keeps (onEndpoint L ep into verb) := by
  cases verb with
  | create kind => exact .told (h.create kind)
  | bind a => exact .told (.bindEndpoint fun opens fd => h.bind opens fd a)
  | listen backlog => exact .told (h.listen backlog)
  | acceptInto name =>
    cases into with
    | none => exact .look _
    | some other => exact .told (place other rfl)
  | connect a timeout => exact .told (.connectEndpoint fun opens fd => h.connect opens fd a)
  | close => exact .told (gives rfl)
  | release => exact .told (.release (gives rfl))
  | shutdown half => exact .told (h.shutdown half)
  | getOption option => exact .told (h.getOption option)
  | setOption option value => exact .told (h.setOption option value)
  | inputStream => exact .made h.inputStream
  | outputStream => exact .made h.outputStream
  | available =>
    apply Keeps.told
    apply Keeps.andThenOf h.inputStream fun w i _ => Endpoint.endpoint_inputStream ep w i
    intro i on
    exact Permits.available (on ▸ h.toPermits)
  | _ => exact .look _

theorem Admits.onEndpoint {ep : Endpoint} (h : law.Admits L ep) {into : Option Endpoint}
    (place : ∀ other, into = some other → law.Admits L other) (verb : Session.Verb) :
    law.Keeps (onEndpoint L ep into verb) :=
  h.retains.onEndpoint (fun other is => (place other is).accepted ep) fun _ => h.close

namespace RetainsSocket

variable {s : Socket} (h : law.RetainsSocket L s)

include h

theorem inputStream : law.Keeps (s.inputStream L) :=
  .andThen h.ensureCreated fun _ => h.permits.inputStream

theorem outputStream : law.Keeps (s.outputStream L) :=
  .andThen h.ensureCreated fun _ => h.permits.outputStream

theorem compete (c : Session.Contest) : law.Keeps (compete L s c) := by
  cases c with
  | connect a => exact .told (h.connect a)
  | bind a => exact .told (h.bind a)
  | inputStream => exact .told h.inputStream

theorem contend (c : Session.Contest) (n : Nat) : law.Keeps (contend L s c n) := by
  induction n with
  | zero => exact .look _
  | succ n ih => exact .bind (h.compete c) fun _ => .bind ih fun _ => .look _

theorem onSocket {verb : Session.Verb} (gives : verb.givesUp = true → law.Keeps (s.close L)) :
    law.Keeps (onSocket L s verb) := by
  cases verb with
  | connect a _ => exact .told (h.connect a)
  | bind a => exact .told (h.bind a)
  | inputStream => exact .made h.inputStream
  | outputStream => exact .made h.outputStream
  | close => exact .told (gives rfl)
  | shutdownInput => exact .told (.andThen h.ensureCreated fun _ => h.permits.shutdown .read)
  | shutdownOutput => exact .told (.andThen h.ensureCreated fun _ => h.permits.shutdown .write)
  | receiveBufferSize => exact .told (h.permits.getOption _)
  | setReceiveBufferSize value => exact .told (h.permits.setOption _ value)
  | sendBufferSize => exact .told (h.permits.getOption _)
  | setSendBufferSize value => exact .told (h.permits.setOption _ value)
  | timeout => exact .told (h.permits.getOption _)
  | setTimeout value => exact .told (h.permits.setOption _ value)
  | getOptionById id => exact .told (.andThen (.ofExcept _) fun o => h.permits.getOption o)
  | setOptionById id value =>
    exact .told (.andThen (.ofExcept _) fun o => h.permits.setOption o value)
  | race contest callers => exact .bind (h.contend contest callers) fun _ => .look _
  | _ => exact .look _

end RetainsSocket

theorem AdmitsSocket.compete {s : Socket} (h : law.AdmitsSocket L s) (c : Session.Contest) :
    law.Keeps (compete L s c) := h.retains.compete c

theorem AdmitsSocket.onSocket {s : Socket} (h : law.AdmitsSocket L s) (verb : Session.Verb) :
    law.Keeps (onSocket L s verb) := h.retains.onSocket fun _ => h.close

theorem Permits.onInput {s : InputStream} (h : law.Permits L s.endpoint) {verb : Session.Verb}
    (gives : verb.givesUp = true → law.Keeps (s.endpoint.release L)) :
    law.Keeps (onInput L s verb) := by
  cases verb with
  | available => exact .told h.available
  | read length => exact .told (h.read length)
  | readByte => exact .told h.readByte
  | readExact length => exact .bind (h.readExact length) fun _ => .look _
  | close => exact .told (gives rfl)
  | readNative length => exact .toldNative (h.read length).native
  | readExactNative length => exact .bind (h.readExactNative length) fun _ => .look _
  | readToEndNative =>
    apply Keeps.bind h.readToEndNative
    intro r
    match r with
    | (bytes, .ok ()) => exact .look _
    | (bytes, .error e) => exact .look _
  | _ => exact .look _

theorem Permits.onOutput {s : OutputStream} (h : law.Permits L s.endpoint) {verb : Session.Verb}
    (gives : verb.givesUp = true → law.Keeps (s.endpoint.release L)) :
    law.Keeps (onOutput L s verb) := by
  cases verb with
  | write bytes => exact .told (h.write bytes)
  | writeByte byte => exact .told (h.writeAll [byte])
  | writeAll bytes => exact .told (h.writeAll bytes)
  | close => exact .told (gives rfl)
  | writeNative bytes => exact .toldNative (h.write bytes).native
  | writeAllNative bytes => exact .toldNative (h.writeAllNative bytes)
  | _ => exact .look _

namespace Hosts

variable (h : law.Hosts L)

include h

theorem onServer {s : Server} {verb : Session.Verb}
    (gives : verb.givesUp = true → law.Keeps (s.endpoint.release L)) :
    law.Keeps (onServer L s verb) := by
  cases verb with
  | accept => exact fun w holds => h.founding holds (.accept L s w)
  | close => exact .told (gives rfl)
  | localAddress =>
    apply Keeps.told
    unfold Server.localAddress
    cases s.address? with
    | some address => exact .return' address
    | none => exact .throw' _
  | _ => exact .look _

theorem onNone (outside : ∀ r, law.Keeps (L.send none r))
    (around : Session.Surroundings σ) (verb : Session.Verb) :
    law.Keeps (onNone L around verb) := by
  cases verb with
  | newEndpoint => exact fun w holds => h.founding holds (.endpoint L rfl w)
  | adoptEndpoint fd => exact fun w holds => h.founding holds (.endpoint L rfl w)
  | newSocket kind => exact fun w holds => h.founding holds (.freshSocket L kind w)
  | adoptSocket fd => exact fun w holds => h.founding holds (.adoptSocket L fd w)
  | bindServer name => exact fun w holds => h.founding holds (.bindServer L name w)
  | adoptServer fd => exact fun w holds => h.founding holds (.adoptServer L fd w)
  | ask r => exact .toldNative (outside r)
  | _ => exact .look _

end Hosts

def AdmitsObject (law : Law σ) (L : Link σ) : Object → Prop
  | .endpoint ep => law.Admits L ep
  | .socket s => law.AdmitsSocket L s
  | .server s => law.Keeps (s.endpoint.release L)
  | .input s => law.Permits L s.endpoint ∧ law.Keeps (s.endpoint.release L)
  | .output s => law.Permits L s.endpoint ∧ law.Keeps (s.endpoint.release L)

def RetainsObject (law : Law σ) (L : Link σ) : Object → Prop
  | .endpoint ep => law.Retains L ep
  | .socket s => law.RetainsSocket L s
  | .server _ => True
  | .input s => law.Permits L s.endpoint
  | .output s => law.Permits L s.endpoint

def ClosesObject (law : Law σ) (L : Link σ) : Object → Prop
  | .endpoint ep => law.Keeps (ep.close L)
  | .socket s => law.Keeps (s.close L)
  | .server s => law.Keeps (s.endpoint.release L)
  | .input s => law.Keeps (s.endpoint.release L)
  | .output s => law.Keeps (s.endpoint.release L)

theorem AdmitsObject.retains {o : Object} (h : law.AdmitsObject L o) : law.RetainsObject L o := by
  cases o with
  | endpoint ep => exact Admits.retains h
  | socket s => exact AdmitsSocket.retains h
  | server s => trivial
  | input s => exact h.1
  | output s => exact h.1

theorem AdmitsObject.closes {o : Object} (h : law.AdmitsObject L o) : law.ClosesObject L o := by
  cases o with
  | endpoint ep => exact Bears.close (Admits.toBears h)
  | socket s => exact AdmitsSocket.close h
  | server s => exact h
  | input s => exact h.2
  | output s => exact h.2

theorem Retains.object {o : Object} (h : law.Retains L o.base)
    (update : ∀ s, o = .socket s → ∀ w st, law.keeps w (w.setSocket s st)) :
    law.RetainsObject L o := by
  cases o with
  | endpoint ep => exact h
  | socket s => exact h.socket (update s rfl)
  | server s => trivial
  | input s => exact h.toPermits
  | output s => exact h.toPermits

theorem Admits.object {o : Object} (h : law.Admits L o.base)
    (update : ∀ s, o = .socket s → ∀ w st, law.keeps w (w.setSocket s st)) :
    law.AdmitsObject L o := by
  cases o with
  | endpoint ep => exact h
  | socket s => exact h.socket (update s rfl)
  | server s => exact h.release
  | input s => exact ⟨h.toPermits, h.release⟩
  | output s => exact ⟨h.toPermits, h.release⟩

theorem Hosts.retained (h : law.Hosts L)
    (outside : ∀ r, law.Keeps (L.send none r)) (around : Session.Surroundings σ) (s : Session σ)
    (objects : ∀ name o, s.find? name = some o → law.RetainsObject L o) {verb : Session.Verb}
    {on : Option String}
    (gives : verb.givesUp = true → ∀ name o, on = some name → s.find? name = some o →
      law.ClosesObject L o) : law.Keeps (Session.outcome L around s verb on) := by
  cases on with
  | none =>
    cases verb with
    | same a b => exact .look _
    | _ => exact h.onNone outside around _
  | some name =>
    simp only [Session.outcome]
    cases found : s.find? name with
    | none => exact .look _
    | some o =>
      have retains := objects name o found
      have closes := fun givesUp => gives givesUp name o rfl found
      cases o with
      | endpoint ep =>
        apply Retains.onEndpoint retains _ closes
        intro other place
        cases verb with
        | acceptInto into =>
          match named : s.find? into with
          | some (.endpoint _) =>
            simp only [named, Option.bind_some, Option.some.injEq] at place
            subst place
            exact Retains.accepted (objects into _ named) ep
          | some (.socket _) => simp [named] at place
          | some (.server _) => simp [named] at place
          | some (.input _) => simp [named] at place
          | some (.output _) => simp [named] at place
          | none => simp [named] at place
        | _ => cases place
      | socket k => exact RetainsSocket.onSocket retains closes
      | server k => exact h.onServer closes
      | input i => exact Permits.onInput retains closes
      | output i => exact Permits.onOutput retains closes

theorem Hosts.outcome (h : law.Hosts L)
    (outside : ∀ r, law.Keeps (L.send none r)) (around : Session.Surroundings σ) (s : Session σ)
    (objects : ∀ name o, s.find? name = some o → law.AdmitsObject L o) (verb : Session.Verb)
    (on : Option String) : law.Keeps (Session.outcome L around s verb on) :=
  h.retained outside around s (fun name o found => (objects name o found).retains)
    fun _ name o _ found => (objects name o found).closes

end Law

end ProcessorSockets
