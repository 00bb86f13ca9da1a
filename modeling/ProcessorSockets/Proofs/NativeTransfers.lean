import ProcessorSockets.Proofs.Bare
import ProcessorSockets.Proofs.Reading

namespace ProcessorSockets

variable {σ : Type}

def Entry.ends : Entry → Bool
  | .reply _ (.read _ _) (.ok []) => true
  | .reply _ (.write _ _) (.ok 0) => true
  | _ => false

namespace Transfer

def stops (es : List Entry) : Bool := es.getLast?.any Entry.ends

/-- How the failures of a transfer are told to those who know only the system's: in the same words,
but for the end. -/
inductive Alike (plain : SocketError) (failures : TransferFailures NativeError) (es : List Entry) :
    Except SocketError Unit → Except NativeError Unit → Prop
  | ok : Alike plain failures es (.ok ()) (.ok ())
  | failed {e : SocketError} (goes : stops es = false) :
      Alike plain failures es (.error e) (.error e.toNative)
  | ended (stops : stops es = true) : Alike plain failures es (.error plain) (.error failures.ended)

variable {plain : SocketError} {failures : TransferFailures NativeError} {es more : List Entry}
  {r : Except SocketError Unit} {r' : Except NativeError Unit}

theorem stops_snoc (es : List Entry) (e : Entry) : stops (es ++ [e]) = e.ends := by
  rw [stops, List.getLast?_append]
  rfl

theorem stops_append (goes : stops es = false) : stops (es ++ more) = stops more := by
  cases more with
  | nil => rw [List.append_nil, goes]; rfl
  | cons e more => rw [stops, stops, List.getLast?_append, List.getLast?_cons, Option.some_or]

theorem Alike.after (goes : stops es = false) (alike : Alike plain failures more r r') :
    Alike plain failures (es ++ more) r r' := by
  cases alike with
  | ok => exact .ok
  | failed still => exact .failed (by rw [stops_append goes, still])
  | ended stops => exact .ended (by rw [stops_append goes, stops])

theorem Alike.ok_iff (alike : Alike plain failures es r r') : r = .ok () ↔ r' = .ok () := by
  cases alike with
  | ok => exact ⟨fun _ => rfl, fun _ => rfl⟩
  | failed _ => exact ⟨nofun, nofun⟩
  | ended _ => exact ⟨nofun, nofun⟩

theorem Alike.kind (alike : Alike plain failures es r r')
    (same : failures.ended.kind = plain.toNative.kind) (e : SocketError) (e' : NativeError)
    (fails : r = .error e) (fails' : r' = .error e') : e'.kind = e.toNative.kind := by
  cases alike with
  | ok => cases fails
  | failed _ =>
    cases fails
    cases fails'
    rfl
  | ended _ =>
    cases fails
    cases fails'
    exact same

section Into

variable {m : Type → Type} [Monad m] {ε : Type}

def fillInto (read : Nat → m (Except ε (List UInt8))) (failures : TransferFailures ε)
    (patience : Nat) (buffer : List UInt8) (position : Nat) : m (List UInt8 × Except ε Unit) := do
  if position < buffer.length then
    match ← read (buffer.length - position) with
    | .ok [] => return (buffer, .error failures.ended)
    | .ok (b :: bs) =>
      fillInto read failures patience (Endpoint.overwritten buffer position (b :: bs))
        (position + (b :: bs).length)
    | .error e =>
      match patience with
      | 0 => return (buffer, .error e)
      | patience + 1 =>
        if failures.isInterrupted e then fillInto read failures patience buffer position
        else return (buffer, .error e)
  else return (buffer, .ok ())
  termination_by (patience, buffer.length - position)
  decreasing_by
    · exact .right _ (Endpoint.missing_overwritten ‹_› (List.cons_ne_nil b bs))
    · exact .left _ _ (Nat.lt_succ_self _)

theorem fillInto_append [LawfulMonad m] (read : Nat → m (Except ε (List UInt8)))
    (failures : TransferFailures ε) (patience : Nat) (front back : List UInt8) :
    fillInto read failures patience (front ++ back) front.length =
      (fun p => (front ++ p.1 ++ back.drop p.1.length, p.2)) <$>
        fill read failures patience back.length := by
  rw [fillInto, fill, List.length_append, Nat.add_sub_cancel_left]
  by_cases none : back = []
  · simp [none]
  have some := List.length_pos_iff.mpr none
  rw [if_pos (Nat.lt_add_of_pos_right some), if_neg (Nat.ne_of_gt some), map_bind]
  refine bind_congr fun answer => ?_
  rcases answer with e | _ | ⟨b, bs⟩
  · cases patience with
    | zero => simp
    | succ patience =>
      dsimp only
      split
      case isTrue => exact fillInto_append read failures patience front back
      case isFalse => simp
  · simp
  · have rest := fillInto_append read failures patience (front ++ b :: bs)
      (back.drop (bs.length + 1))
    rw [List.length_drop, List.length_append, List.length_cons] at rest
    dsimp only
    rw [Endpoint.overwritten_append, List.length_cons, rest]
    simp [List.drop_drop, Nat.add_right_comm]
  termination_by (patience, back.length)

end Into

end Transfer

/-- A link on which the last that is said of a request is its answer. -/
def Link.Replies (L : Link σ) : Prop := ∀ caller r w, ∃ es,
  (L.send caller r w).2.said = w.said ++ (es ++ [.reply caller r (L.send caller r w).1])

theorem Link.replies_disturbed (T : Transport σ) : (Link.disturbed T).Replies := by
  intro caller r w
  obtain ⟨es, log, -⟩ := Service.interrupt (T := T) r.method (w.add [.request caller r]) trivial
  rw [run_disturbed, T.run_respond, World.said_add, World.said_notes _ (by simp)]
  generalize (World.interrupt T r.method (w.add [.request caller r])).2 = w₁ at log ⊢
  refine ⟨.request caller r :: es.filter (!·.isNote), ?_⟩
  have said : w₁.said = (w.add [.request caller r]).said ++ es.filter (!·.isNote) := by
    rw [World.said, log, List.filter_append]
    rfl
  change w₁.said ++ _ = _
  rw [said, World.said_add]
  simp [Entry.isNote]

theorem World.Noted.said {w w' : World σ} (noted : w.Noted w') : w'.said = w.said := by
  obtain ⟨es, notes, rfl⟩ := noted
  exact said_notes w notes

namespace Endpoint

open Transfer (stops)

variable {L : Link σ} (replies : L.Replies) (ep : Endpoint)

include replies

theorem stops_receive (length : Nat) (w : World σ) : ∃ es,
    (ep.receive L length w).2.said = w.said ++ es ∧
      (stops es = true ↔ (ep.receive L length w).1 = .ok []) := by
  cases has : (w.handle ep).fd with
  | none =>
    obtain ⟨fails, noted⟩ := fails_receive (L := L) has length
    rw [fails, noted.said]
    exact ⟨[], (List.append_nil _).symm, nofun, nofun⟩
  | some fd =>
    obtain ⟨es, said⟩ := replies (some ep) (.read fd length) w
    rw [run_receive has]
    rcases asked : L.send (some ep) (.read fd length) w with ⟨e | bytes, w₁⟩
    · rw [asked] at said
      exact ⟨_, said, by simp [Transfer.stops_snoc, Entry.ends]⟩
    · rw [asked] at said
      refine ⟨_, (World.said_notes w₁ (by simp [Entry.isNote])).trans said, ?_⟩
      rw [Transfer.stops_snoc]
      cases bytes with
      | nil => simp [Entry.ends]
      | cons b bs => simp [Entry.ends]

theorem stops_transmit (bytes : List UInt8) (w : World σ) : ∃ es,
    (ep.transmit L bytes w).2.said = w.said ++ es ∧
      (stops es = true ↔ (ep.transmit L bytes w).1 = .ok 0) := by
  cases has : (w.handle ep).fd with
  | none =>
    obtain ⟨fails, noted⟩ := fails_transmit (L := L) has bytes
    rw [fails, noted.said]
    exact ⟨[], (List.append_nil _).symm, nofun, nofun⟩
  | some fd =>
    obtain ⟨es, said⟩ := replies (some ep) (.write fd bytes) w
    rw [run_transmit has]
    rcases asked : L.send (some ep) (.write fd bytes) w with ⟨e | n, w₁⟩
    · rw [asked] at said
      exact ⟨_, said, by simp [Transfer.stops_snoc, Entry.ends]⟩
    · rw [asked] at said
      refine ⟨_, (World.said_notes w₁ (by simp [Entry.isNote])).trans said, ?_⟩
      rw [Transfer.stops_snoc]
      cases n with
      | zero => simp [Entry.ends]
      | succ n => simp [Entry.ends]

end Endpoint

namespace InputStream

open Transfer (Alike)

def eof : SocketError := .native "read" (.described .unexpectedEof "peer closed the stream")

variable {L : Link σ} (s : InputStream)

theorem fill_alike (replies : L.Replies) (patience missing : Nat) (w : World σ) :
    ∃ bytes r r' w' es, s.endpoint.receiveAll L patience missing w = ((bytes, r), w') ∧
      Transfer.fill (s.readNative L) nativeFailures patience missing w = ((bytes, r'), w') ∧
      w'.said = w.said ++ es ∧ Alike eof nativeFailures es r r' := by
  rw [Endpoint.receiveAll, Transfer.fill]
  by_cases none : missing = 0
  · rw [if_pos none, if_pos none]
    exact ⟨[], .ok (), .ok (), w, [], rfl, rfl, (List.append_nil _).symm, .ok⟩
  rw [if_neg none, if_neg none, World.run_bind, s.readNative_eq none]
  -- Both begin with the same reading, and go on from the world that it leaves.
  obtain ⟨es, said, stops⟩ := Endpoint.stops_receive replies s.endpoint missing w
  rcases met : s.endpoint.receive L missing w with ⟨e | _ | ⟨b, bs⟩, w₁⟩ <;>
    rw [met] at said stops
  · have goes : Transfer.stops es = false := by simpa using stops
    cases patience with
    | zero => exact ⟨_, _, _, _, es, rfl, rfl, said, .failed goes⟩
    | succ patience =>
      have same : nativeFailures.isInterrupted e.toNative = e.isInterrupted :=
        SocketError.isInterrupted_toNative e
      dsimp only [Except.mapError]
      rw [same]
      cases e.isInterrupted with
      | true =>
        obtain ⟨bytes, r, r', w', more, run, run', said', alike⟩ :=
          fill_alike replies patience missing w₁
        refine ⟨bytes, r, r', w', es ++ more, run, run', ?_, alike.after goes⟩
        rw [said', said, List.append_assoc]
      | false => exact ⟨_, _, _, _, es, rfl, rfl, said, .failed goes⟩
  · exact ⟨_, _, _, _, es, rfl, rfl, said, .ended (stops.mpr rfl)⟩
  · have goes : Transfer.stops es = false := by simpa using stops
    obtain ⟨bytes, r, r', w', more, run, run', said', alike⟩ :=
      fill_alike replies patience (missing - (bs.length + 1)) w₁
    refine ⟨b :: bs ++ bytes, r, r', w', es ++ more, ?_, ?_, ?_, alike.after goes⟩
    · dsimp only
      rw [run]
    · dsimp only [Except.mapError]
      rw [World.run_bind, List.length_cons, run']
      rfl
    · rw [said', said, List.append_assoc]
  termination_by (patience, missing)

def readIntoNative (L : Link σ) (s : InputStream) (buffer : List UInt8) :
    StateM (World σ) (List UInt8 × Except NativeError Unit) := fun w =>
  Transfer.fillInto (s.readNative L) nativeFailures (L.patience w) buffer 0 w

theorem readIntoNative_eq (buffer : List UInt8) (w : World σ) :
    s.readIntoNative L buffer w =
      let ((bytes, r), w') := s.readExactNative L buffer.length w
      ((bytes ++ buffer.drop bytes.length, r), w') :=
  congrFun (Transfer.fillInto_append (s.readNative L) nativeFailures (L.patience w) [] buffer) w

end InputStream

namespace OutputStream

open Transfer (Alike)

def stuck : SocketError := .native "write" (.bare .writeZero)

variable {L : Link σ} (s : OutputStream)

theorem drain_alike (replies : L.Replies) (patience : Nat) (bytes : List UInt8) (w : World σ) :
    ∃ r r' w' es, s.endpoint.transmitAll L patience bytes w = (r, w') ∧
      Transfer.drain (s.writeNative L) nativeFailures patience bytes w = (r', w') ∧
      w'.said = w.said ++ es ∧ Alike stuck nativeFailures es r r' := by
  cases bytes with
  | nil =>
    rw [Endpoint.transmitAll, Transfer.drain]
    exact ⟨.ok (), .ok (), w, [], rfl, rfl, (List.append_nil _).symm, .ok⟩
  | cons b bs =>
    rw [Endpoint.transmitAll, Transfer.drain, World.run_bind,
      s.writeNative_eq (List.cons_ne_nil b bs)]
    obtain ⟨es, said, stops⟩ := Endpoint.stops_transmit replies s.endpoint (b :: bs) w
    rcases met : s.endpoint.transmit L (b :: bs) w with ⟨e | _ | n, w₁⟩ <;>
      rw [met] at said stops
    · have goes : Transfer.stops es = false := by simpa using stops
      cases patience with
      | zero => exact ⟨_, _, _, es, rfl, rfl, said, .failed goes⟩
      | succ patience =>
        have same : nativeFailures.isInterrupted e.toNative = e.isInterrupted :=
          SocketError.isInterrupted_toNative e
        dsimp only [Except.mapError]
        rw [same]
        cases e.isInterrupted with
        | true =>
          obtain ⟨r, r', w', more, run, run', said', alike⟩ :=
            drain_alike replies patience (b :: bs) w₁
          refine ⟨r, r', w', es ++ more, run, run', ?_, alike.after goes⟩
          rw [said', said, List.append_assoc]
        | false => exact ⟨_, _, _, es, rfl, rfl, said, .failed goes⟩
    · exact ⟨_, _, _, es, rfl, rfl, said, .ended (stops.mpr rfl)⟩
    · have goes : Transfer.stops es = false := by simpa using stops
      obtain ⟨r, r', w', more, run, run', said', alike⟩ :=
        drain_alike replies patience (bs.drop n) w₁
      refine ⟨r, r', w', es ++ more, run, run', ?_, alike.after goes⟩
      rw [said', said, List.append_assoc]
  termination_by (patience, bytes.length)

end OutputStream

namespace Transfer

/-- For those who know only the system's failures a whole transfer takes the same calls with the
same answers and moves the same bytes, and it goes as well: a buffer that is read has the same in
it then.  What went wrong is the same in the words of the system, and of an end at least the
kind. -/
theorem native_transfers_alike (T : Transport σ) (buffer : List UInt8) (w : World σ) :
    (∀ s : InputStream, ∃ bytes r r' w',
      s.readExact (.disturbed T) buffer.length w = ((bytes, r), w') ∧
      s.readExactNative (.disturbed T) buffer.length w = ((bytes, r'), w') ∧
      s.readInto (.disturbed T) buffer w = ((bytes ++ buffer.drop bytes.length, r), w') ∧
      s.readIntoNative (.disturbed T) buffer w = ((bytes ++ buffer.drop bytes.length, r'), w') ∧
      (r = .ok () ↔ r' = .ok ()) ∧
      (∀ e e', r = .error e → r' = .error e' → e'.kind = e.toNative.kind) ∧
      Alike InputStream.eof InputStream.nativeFailures (w.news w') r r') ∧
    (∀ s : OutputStream, ∃ r r' w',
      s.writeAll (.disturbed T) buffer w = (r, w') ∧
      s.writeAllNative (.disturbed T) buffer w = (r', w') ∧
      (r = .ok () ↔ r' = .ok ()) ∧
      (∀ e e', r = .error e → r' = .error e' → e'.kind = e.toNative.kind) ∧
      Alike OutputStream.stuck OutputStream.nativeFailures (w.news w') r r') := by
  have replies := Link.replies_disturbed T
  constructor
  · intro s
    obtain ⟨bytes, r, r', w', es, run, run', said, alike⟩ :=
      s.fill_alike replies (T.patience w.transport) buffer.length w
    have run : s.readExact (.disturbed T) buffer.length w = ((bytes, r), w') := run
    have run' : s.readExactNative (.disturbed T) buffer.length w = ((bytes, r'), w') := run'
    rw [← World.news_of_said said] at alike
    rw [s.readInto_eq, s.readIntoNative_eq, run, run']
    exact ⟨bytes, r, r', w', rfl, rfl, rfl, rfl, alike.ok_iff, alike.kind rfl, alike⟩
  · intro s
    obtain ⟨r, r', w', es, run, run', said, alike⟩ :=
      s.drain_alike replies (T.patience w.transport) buffer w
    rw [← World.news_of_said said] at alike
    exact ⟨r, r', w', run, run', alike.ok_iff, alike.kind rfl, alike⟩

end Transfer

end ProcessorSockets
