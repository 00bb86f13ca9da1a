import ProcessorSockets.Disturbance
import ProcessorSockets.Server
import ProcessorSockets.Session.Verb

namespace ProcessorSockets.Session

structure Surroundings (σ : Type) where
  fileExists : σ → String → Bool := fun _ _ => false
  /-- The file that a descriptor holds. -/
  boundPath : σ → Descriptor → Option String := fun _ _ => none

variable {σ α : Type}

abbrev Outcome := Value × Option Object

def told (value : α → Value) (a : Action σ α) : StateM (World σ) Outcome := fun w =>
  match a w with
  | (.ok x, w) => ((value x, none), w)
  | (.error e, w) => ((.failure e, none), w)

def toldNative (value : α → Value) (m : StateM (World σ) (Except NativeError α)) :
    StateM (World σ) Outcome := fun w =>
  match m w with
  | (.ok x, w) => ((value x, none), w)
  | (.error e, w) => ((.nativeFailure e, none), w)

def made (object : α → Object) (a : Action σ α) : StateM (World σ) Outcome := fun w =>
  match a w with
  | (.ok x, w) => ((.done, some (object x)), w)
  | (.error e, w) => ((.failure e, none), w)

def done : Action σ Unit → StateM (World σ) Outcome := told fun _ => .done

def number : Action σ Int → StateM (World σ) Outcome := told .number

def shown (f : World σ → Value) : StateM (World σ) Outcome := fun w => ((f w, none), w)

def filled (length : Nat) (bytes : List UInt8) : List UInt8 :=
  bytes ++ List.replicate (length - bytes.length) 0

def replyValue : (r : Request) → r.Reply → Value
  | .create _ _, fd => .number fd
  | .bind _ _, _ => .done
  | .connect _ _, _ => .done
  | .listen _ _, _ => .done
  | .accept _, fd => .number fd
  | .close _, _ => .done
  | .shutdown _ _, _ => .done
  | .getBuffer _ _, n => .number n
  | .setBuffer _ _ _, _ => .done
  | .getTimeout _ _, d => .time d
  | .setTimeout _ _ _, _ => .done
  | .read _ _, bs => .bytes bs
  | .write _ _, n => .number n
  | .available _, n => .number n

variable (L : Link σ)

def compete (s : Socket) : Contest → StateM (World σ) Outcome
  | .connect address => done (s.connect L address)
  | .bind address => done (s.bind L address)
  | .inputStream => told (fun _ => .done) (s.inputStream L)

def contend (s : Socket) (c : Contest) : Nat → StateM (World σ) (List Value)
  | 0 => pure []
  | n + 1 => do
    let (value, _) ← compete L s c
    return value :: (← contend s c n)

def onEndpoint (ep : Endpoint) (into : Option Endpoint) :
    Verb → StateM (World σ) Outcome
  | .create kind => done (ep.create L kind)
  | .bind address => done (ep.bind L address)
  | .listen backlog => done (ep.listen L backlog)
  | .acceptInto _ =>
    match into with
    | some other => done (ep.accept L other)
    | none => pure (.noObject, none)
  | .connect address timeout => done (ep.connect L address timeout)
  | .close => done (ep.close L)
  | .release => done (ep.release L)
  | .shutdown half => done (ep.shutdown L half)
  | .getOption option => number (ep.getOption L option)
  | .setOption option value => done (ep.setOption L option value)
  | .inputStream => made .input ep.inputStream
  | .outputStream => made .output ep.outputStream
  | .available => told (fun (n : Nat) => .number n) do (← ep.inputStream).available L
  | .transportName => pure (.text L.name, none)
  | .description => shown fun w => .text (Endpoint.description L (w.handle ep))
  | .display => shown fun w => .text (Endpoint.display L (w.handle ep))
  | _ => pure (.noObject, none)

def onSocket (s : Socket) : Verb → StateM (World σ) Outcome
  | .connect address _ => done (s.connect L address)
  | .connectTimeout address timeout => done (Socket.connectTimeout address timeout)
  | .bind address => done (s.bind L address)
  | .inputStream => made .input (s.inputStream L)
  | .outputStream => made .output (s.outputStream L)
  | .close => done (s.close L)
  | .shutdownInput => done (s.shutdownInput L)
  | .shutdownOutput => done (s.shutdownOutput L)
  | .receiveBufferSize => number (s.receiveBufferSize L)
  | .setReceiveBufferSize value => done (s.setReceiveBufferSize L value)
  | .sendBufferSize => number (s.sendBufferSize L)
  | .setSendBufferSize value => done (s.setSendBufferSize L value)
  | .timeout => number (s.timeout L)
  | .setTimeout value => done (s.setTimeout L value)
  | .getOptionById id => number (s.option L id)
  | .setOptionById id value => done (s.setOption L id value)
  | .socketAddress => told .address Socket.socketAddress
  | .isClosed => told .truth Socket.isClosed
  | .isInputShutdown => told .truth Socket.isInputShutdown
  | .isOutputShutdown => told .truth Socket.isOutputShutdown
  | .kind => shown fun w => .text (w.socket s).kind.name
  | .description => shown fun w => .text (s.description L w)
  | .display => shown fun w => .text (s.display L w)
  | .race contest callers => do return (.several (← contend L s contest callers), none)
  | _ => pure (.noObject, none)

def onServer (s : Server) : Verb → StateM (World σ) Outcome
  | .accept => made .socket (s.accept L)
  | .close => done (s.close L)
  | .localAddress => told .address s.localAddress
  | .description => shown fun w => .text (s.description L w)
  | _ => pure (.noObject, none)

def onInput (s : InputStream) : Verb → StateM (World σ) Outcome
  | .available => told (fun (n : Nat) => .number n) (s.available L)
  | .read length => told .bytes (s.read L length)
  | .readByte => told .optionalByte (s.readByte L)
  | .readExact length => do
    let (bytes, r) ← s.readExact L length
    return (.buffer r (filled length bytes), none)
  | .close => done (s.close L)
  | .description => shown fun w => .text (s.description w)
  | .readNative length => toldNative .bytes (s.readNative L length)
  | .readExactNative length => do
    let (bytes, r) ← s.readExactNative L length
    return (.nativeBuffer r (filled length bytes), none)
  | .readToEndNative => do
    let (bytes, r) ← s.readToEndNative L
    match r with
    | .ok () => return (.bytes bytes, none)
    | .error e => return (.nativeFailure e, none)
  | _ => pure (.noObject, none)

def onOutput (s : OutputStream) : Verb → StateM (World σ) Outcome
  | .write bytes => told (fun (n : Nat) => .number n) (s.write L bytes)
  | .writeByte byte => done (s.writeByte L byte)
  | .writeAll bytes => done (s.writeAll L bytes)
  | .flush => done OutputStream.flush
  | .close => done (s.close L)
  | .description => shown fun w => .text (s.description w)
  | .writeNative bytes => toldNative (fun (n : Nat) => .number n) (s.writeNative L bytes)
  | .writeAllNative bytes => toldNative (fun _ => .done) (s.writeAllNative L bytes)
  | .flushNative => toldNative (fun _ => .done) OutputStream.flushNative
  | _ => pure (.noObject, none)

def onNone (around : Surroundings σ) : Verb → StateM (World σ) Outcome
  | .newEndpoint => made .endpoint (Action.plain Endpoint.fresh)
  | .adoptEndpoint fd => made .endpoint (Action.plain (Endpoint.adopt fd))
  | .newSocket kind => made .socket (Action.plain (Socket.fresh kind))
  | .adoptSocket fd => made .socket (Action.plain (Socket.adopt fd))
  | .bindServer name => made .server (Server.bind L name)
  | .adoptServer fd => made .server (Server.adopt L fd)
  | .fileExists path => shown fun w => .truth (around.fileExists w.transport path)
  | .boundPath fd => shown fun w => .optionalText (around.boundPath w.transport fd)
  | .transportName => pure (.text L.name, none)
  | .ask r => toldNative (replyValue r) (L.send none r)
  | _ => pure (.noObject, none)

end ProcessorSockets.Session
