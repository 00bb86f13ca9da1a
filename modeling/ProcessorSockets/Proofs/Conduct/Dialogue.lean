import ProcessorSockets.Proofs.Law.Growth
import ProcessorSockets.Proofs.Law.Retained
import ProcessorSockets.Proofs.NativeTransfers

namespace ProcessorSockets

variable {σ : Type} {fd : Descriptor} {w : World σ}

namespace World

/-- An endpoint makes calls and keeps its handle, and nobody means to do more to it than before. -/
structure Engaged (ep : Endpoint) (calls : List Call) (w w' : World σ) : Prop
    extends World.Retains ep w w' where
  talk : w'.talk ep = w.talk ep ++ calls.flatMap (·.entries (some ep))

theorem Aloof.engaged {ep : Endpoint} {w' : World σ} (aloof : w.Aloof ep w') :
    w.Engaged ep [] w' :=
  { aloof with talk := aloof.talk.trans (List.append_nil _).symm }

theorem Engaged.trans {ep : Endpoint} {calls more : List Call} {w' w'' : World σ}
    (first : w.Engaged ep calls w') (second : w'.Engaged ep more w'') :
    w.Engaged ep (calls ++ more) w'' where
  toRetains := first.toRetains.trans second.toRetains
  talk := by rw [second.talk, first.talk, List.flatMap_append, List.append_assoc]

end World

namespace Retained

/-- Whoever acts meanwhile, requests of an endpoint that is not asked to close are calls. -/
theorem dialogue (T : Transport σ) (ep : Endpoint) (fd : Descriptor) :
    Endpoint.Dialogue (.disturbed T) ep fd
      (fun w => (Law.retained ep).holds w ∧ w.handle ep = .owning fd) (World.Engaged ep) where
  has here := congrArg Handle.fd here.2
  lasts here engaged :=
    ⟨(Law.retained ep).stable here.1 engaged.toRetains, engaged.handle.trans here.2⟩
  noted noted := (World.Aloof.noted noted).engaged
  trans := .trans
  send {w} here r := by
    have asked : w.Retains ep (w.add [.request (some ep) r]) := { World.Retains.refl w with }
    have met := secure_interrupt (T := T) r.method _ ((Law.retained ep).stable here.1 asked)
    have answered := Aloof.respond (T := T) ep r
      (World.interrupt T r.method (w.add [.request (some ep) r])).2
    rw [Link.run_disturbed]
    refine { asked.trans (met.toRetains.trans answered.1) with talk := ?_ }
    rw [answered.2, met.talk, World.talk_add]
    simp [Entry.caller?, Call.entries]

end Retained

namespace Growth

variable {T : Transport σ} {ep : Endpoint}

theorem permits : Law.growth.Permits (.disturbed T) ep where
  send _ r _ := (ignores interrupt ep).send r
  stream w _ _ _ _ := List.prefix_refl w.log

theorem heard_receive (has : (w.handle ep).fd = some fd) (length : Nat) :
    ∃ answer, w.Heard ep (.read fd length) answer (ep.receive (.disturbed T) length w).2 := by
  have heard := heard_send (T := T) ep (.read fd length) w
  rw [Endpoint.run_receive has]
  generalize (Link.disturbed T).send (some ep) (.read fd length) w = run at heard
  rcases run with ⟨e | bytes, w'⟩
  · exact ⟨_, heard⟩
  · exact ⟨_, heard.later (Law.growth.noted (.one w' rfl))⟩

theorem heard_transmit (has : (w.handle ep).fd = some fd) (bytes : List UInt8) :
    ∃ answer, w.Heard ep (.write fd bytes) answer (ep.transmit (.disturbed T) bytes w).2 := by
  have heard := heard_send (T := T) ep (.write fd bytes) w
  rw [Endpoint.run_transmit has]
  generalize (Link.disturbed T).send (some ep) (.write fd bytes) w = run at heard
  rcases run with ⟨e | n, w'⟩
  · exact ⟨_, heard⟩
  · exact ⟨_, heard.later (Law.growth.noted (.one w' rfl))⟩

theorem heard_receiveAll (has : (w.handle ep).fd = some fd) (patience : Nat) {missing : Nat}
    (some : missing ≠ 0) : ∃ answer, w.Heard ep (.read fd missing) answer
      (ep.receiveAll (.disturbed T) patience missing w).2 := by
  obtain ⟨answer, heard⟩ := heard_receive (T := T) has missing
  refine ⟨answer, ?_⟩
  rw [Endpoint.receiveAll, if_neg some]
  generalize ep.receive (.disturbed T) missing w = run at heard
  rcases run with ⟨e | _ | ⟨b, bs⟩, w'⟩
  · cases patience with
    | zero => exact heard
    | succ patience =>
      dsimp only
      split
      case isTrue => exact heard.later (permits.receiveAll patience missing w' trivial)
      case isFalse => exact heard
  · exact heard
  · exact heard.later (permits.receiveAll patience (missing - (bs.length + 1)) w' trivial)

theorem heard_transmitAll (has : (w.handle ep).fd = some fd) (patience : Nat)
    {bytes : List UInt8} (some : bytes ≠ []) : ∃ answer, w.Heard ep (.write fd bytes) answer
      (ep.transmitAll (.disturbed T) patience bytes w).2 := by
  obtain ⟨answer, heard⟩ := heard_transmit (T := T) has bytes
  refine ⟨answer, ?_⟩
  cases bytes with
  | nil => exact absurd rfl some
  | cons b bs =>
    rw [Endpoint.transmitAll]
    generalize ep.transmit (.disturbed T) (b :: bs) w = run at heard
    rcases run with ⟨e | _ | n, w'⟩
    · cases patience with
      | zero => exact heard
      | succ patience =>
        dsimp only
        split
        case isTrue => exact heard.later (permits.transmitAll patience (b :: bs) w' trivial)
        case isFalse => exact heard
    · exact heard
    · exact heard.later (permits.transmitAll patience (bs.drop n) w' trivial)

theorem heard_toEnd {i : InputStream} (has : (w.handle i.endpoint).fd = some fd) (patience : Nat)
    {buffer : GrowingBuffer} (some : buffer.room ≠ 0) :
    ∃ answer, w.Heard i.endpoint (.read fd buffer.room) answer
      (Transfer.toEnd (i.readNative (.disturbed T)) NativeError.isInterrupted patience buffer
        w).2 := by
  obtain ⟨answer, heard⟩ := heard_receive (T := T) has buffer.room
  have rest (patience : Nat) (buffer : GrowingBuffer) : Law.growth.Keeps
      (Transfer.toEnd (i.readNative (.disturbed T)) NativeError.isInterrupted patience buffer) :=
    .toEnd (fun n => (permits.read n).native) patience buffer
  refine ⟨answer, ?_⟩
  rw [Transfer.toEnd, World.run_bind, i.readNative_eq some]
  generalize i.endpoint.receive (.disturbed T) buffer.room w = run at heard
  rcases run with ⟨e | _ | ⟨b, bs⟩, w'⟩
  · cases patience with
    | zero => exact heard
    | succ patience =>
      dsimp only [Except.mapError]
      split
      case isTrue => exact heard.later (rest patience buffer w' trivial)
      case isFalse => exact heard
  · exact heard
  · cases patience with
    | zero => exact heard
    | succ patience => exact heard.later (rest patience _ w' trivial)

end Growth

open Call (Drains Exhausts Fills)

/-- How a transfer goes: it asks for its first request at once, and if nobody asks its endpoint to
close, it is calls that tell of it. -/
structure World.Transferred {α : Type} (ep : Endpoint) (fd : Descriptor) (first : Request)
    (told : List Call → α → Prop) (w : World σ) (run : α × World σ) : Prop where
  heard : ∃ answer, w.Heard ep first answer run.2
  engaged : (Law.retained ep).holds w → w.handle ep = .owning fd →
    ∃ calls, w.Engaged ep calls run.2 ∧ told calls run.1

namespace World.Transferred

variable {T : Transport σ} {α β : Type}

theorem map {ep : Endpoint} {first : Request} {told : List Call → α → Prop}
    {told' : List Call → β → Prop} {run : α × World σ} {b : β}
    (h : w.Transferred ep fd first told run)
    (tells : ∀ calls, told calls run.1 → told' calls b) :
    w.Transferred ep fd first told' (b, run.2) where
  heard := h.heard
  engaged holds owns := by
    obtain ⟨calls, engaged, telling⟩ := h.engaged holds owns
    exact ⟨calls, engaged, tells calls telling⟩

section

variable {i : InputStream} (has : (w.handle i.endpoint).fd = some fd)

include has

theorem readExact {length : Nat} (some : length ≠ 0) :
    w.Transferred i.endpoint fd (.read fd length)
      (fun calls p => Fills fd (T.patience w.transport) length calls p.1 p.2)
      (i.readExact (.disturbed T) length w) where
  heard := Growth.heard_receiveAll has _ some
  engaged holds owns := (Retained.dialogue T _ fd).receiveAll _ length ⟨holds, owns⟩

theorem readExactNative {length : Nat} (some : length ≠ 0) :
    w.Transferred i.endpoint fd (.read fd length)
      (fun calls p => ∃ r, Fills fd (T.patience w.transport) length calls p.1 r ∧
        (r = .ok () ↔ p.2 = .ok ()))
      (i.readExactNative (.disturbed T) length w) := by
  have plain := readExact (T := T) has some
  obtain ⟨bytes, r, r', w', _, run, run', _, alike⟩ :=
    i.fill_alike (Link.replies_disturbed T) (T.patience w.transport) length w
  have ran : i.readExact (.disturbed T) length w = ((bytes, r), w') := run
  have ran' : i.readExactNative (.disturbed T) length w = ((bytes, r'), w') := run'
  rw [ran] at plain
  rw [ran']
  exact plain.map fun _ fills => ⟨r, fills, alike.ok_iff⟩

theorem readToEndNative :
    w.Transferred i.endpoint fd (.read fd GrowingBuffer.probeSize)
      (fun calls p => Exhausts fd (T.patience w.transport) {} calls p.1 p.2)
      (i.readToEndNative (.disturbed T) w) where
  heard := Growth.heard_toEnd has _ (by decide)
  engaged holds owns := (Retained.dialogue T _ fd).toEnd _ {} ⟨holds, owns⟩

end

section

variable {o : OutputStream} (has : (w.handle o.endpoint).fd = some fd) {bytes : List UInt8}
  (some : bytes ≠ [])

include has some

theorem writeAll : w.Transferred o.endpoint fd (.write fd bytes)
    (fun calls r => Drains fd (T.patience w.transport) bytes calls r)
    (o.writeAll (.disturbed T) bytes w) where
  heard := Growth.heard_transmitAll has _ some
  engaged holds owns := (Retained.dialogue T _ fd).transmitAll _ bytes ⟨holds, owns⟩

theorem writeAllNative : w.Transferred o.endpoint fd (.write fd bytes)
    (fun calls r' => ∃ r, Drains fd (T.patience w.transport) bytes calls r ∧
      (r = .ok () ↔ r' = .ok ()))
    (o.writeAllNative (.disturbed T) bytes w) := by
  have plain := writeAll (T := T) has some
  obtain ⟨r, r', w', _, run, run', _, alike⟩ :=
    o.drain_alike (Link.replies_disturbed T) (T.patience w.transport) bytes w
  have ran : o.writeAll (.disturbed T) bytes w = (r, w') := run
  have ran' : o.writeAllNative (.disturbed T) bytes w = (r', w') := run'
  rw [ran] at plain
  rw [ran']
  exact plain.map fun _ drains => ⟨r, drains, alike.ok_iff⟩

end

end World.Transferred

end ProcessorSockets
