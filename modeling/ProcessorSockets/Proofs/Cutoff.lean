import ProcessorSockets.Proofs.Cutoff.Call

namespace ProcessorSockets

variable {σ : Type}

namespace Endpoint

open Reading (Fits Halts Reaches cost delivered endOfStream interruptions)
open Writing (accepted tallies)

variable {T : Transport σ} {ep : Endpoint} {fd : Descriptor} {stage : Nat → σ → Prop}
  {Q : Nat → World σ → Prop}

def preceded (bytes : List UInt8) (run : (List UInt8 × Except SocketError Unit) × World σ) :
    (List UInt8 × Except SocketError Unit) × World σ := ((bytes ++ run.1.1, run.1.2), run.2)

theorem preceded_append (bytes more : List UInt8)
    (run : (List UInt8 × Except SocketError Unit) × World σ) :
    preceded (bytes ++ more) run = preceded bytes (preceded more run) := by
  rw [preceded, List.append_assoc]
  rfl

section

variable {L : Link σ} {w w₁ : World σ} (patience : Nat) {n : Nat} {reading : Reading} (some : n ≠ 0)
  (run : ep.receive L n w = (reading.mapError (.native "read"), w₁))
  (patient : cost reading ≤ patience)

include some run

theorem receiveAll_ends (ends : reading.ends = true) :
    ∃ r, ep.receiveAll L patience n w = (([], r), w₁) ∧ Halts "read" endOfStream reading n r := by
  rw [receiveAll, if_neg some, run]
  rcases reading with e | _ | ⟨b, bs⟩
  · have firm : e.isInterrupted = false := by simpa [Reading.ends] using ends
    refine ⟨.error (.native "read" e), ?_, .failed rfl firm⟩
    cases patience <;> simp [Except.mapError, firm]
  · exact ⟨_, rfl, .ended rfl⟩
  · cases ends

include patient

theorem receiveAll_goes (goes : reading.ends = false) :
    ep.receiveAll L patience n w = preceded reading.bytes
      (ep.receiveAll L (patience - cost reading) (n - reading.bytes.length) w₁) := by
  conv_lhs => rw [receiveAll, if_neg some, run]
  rcases reading with e | _ | ⟨b, bs⟩
  · have interrupted : e.isInterrupted = true := by simpa [Reading.ends] using goes
    have cost : cost (.error e) = 1 := by simp [cost, Reading.interrupted, interrupted]
    rw [cost] at patient ⊢
    obtain ⟨patience, rfl⟩ := Nat.exists_eq_add_of_le' patient
    simp only [Except.mapError, SocketError.isInterrupted_native, interrupted, if_true]
    rfl
  · cases goes
  · rfl

theorem receiveAll_halts (fit : reading.bytes.length ≤ n) (bare : w₁.handle ep = {}) :
    ∃ r w', ep.receiveAll L patience n w = ((reading.bytes, r), w') ∧ w₁.Noted w' ∧
      Halts "read" endOfStream reading n r := by
  cases ends : reading.ends with
  | true =>
    obtain ⟨r, gives, halts⟩ := receiveAll_ends patience some run ends
    exact ⟨r, w₁, by rw [gives, Reading.bytes_of_ends ends], .refl w₁, halts⟩
  | false =>
    obtain ⟨fails, noted⟩ := fails_receiveAll (L := L) (congrArg Handle.fd bare)
      (patience - cost reading) (n - reading.bytes.length)
    rw [receiveAll_goes patience some run patient ends, preceded, fails]
    refine ⟨_, _, by rw [List.append_nil], noted, ?_⟩
    split
    · exact .full (by omega)
    · exact .cut (by omega) ends

end

theorem goes_receiveAll {o : Nat → Reading} {k n patience : Nat} (lasts : Lasts T ep fd .read Q)
    (plays : T.PlaysOn fd o stage k) (undone : ∀ j ≤ k, ¬Reading.Done o n j)
    (fits : Fits o n k)
    (patient : interruptions o k ≤ patience) {w : World σ} (here : Q k w)
    (start : stage 0 w.transport) :
    ∃ w', Gone (Q 0) (stage k) ep (Reading.calls o fd n k) w w' ∧
      ep.receiveAll (.disturbed T) patience n w = preceded (delivered o k)
        (ep.receiveAll (.disturbed T) (patience - interruptions o k) (n - (delivered o k).length)
          w') := by
  induction k generalizing o stage n patience w with
  | zero => exact ⟨w, ⟨here, start, (List.append_nil _).symm⟩, rfl⟩
  | succ k ih =>
    have some : n ≠ 0 := fun none => undone 0 (Nat.zero_le _) (Reading.done_zero.mpr none)
    have goes := Reading.not_ends (undone 1 (by omega))
    have costs := Reading.interruptions_cons o k
    obtain ⟨w₁, run, gone⟩ :=
      goes_receive lasts plays (Nat.succ_pos k) some fits.head here start
    have undone (j : Nat) (le : j ≤ k) :
        ¬Reading.Done (fun i => o (i + 1)) (n - (o 0).bytes.length) j :=
      fun done => undone (j + 1) (by omega) ((Reading.done_succ goes).mpr done)
    have left : interruptions (fun i => o (i + 1)) k ≤ patience - cost (o 0) := by omega
    obtain ⟨w', gone', rest⟩ := ih plays.tail undone fits.tail left gone.lasts gone.here
    refine ⟨w', ?_, ?_⟩
    · rw [Reading.calls_succ]
      exact gone.trans gone'
    · rw [receiveAll_goes patience some run (by omega) goes, rest, Reading.delivered_succ,
        preceded_append, costs, List.length_append, Nat.sub_add_eq, Nat.sub_add_eq]

section

variable {o : Nat → Reading} {k n patience : Nat} (plays : T.PlaysOn fd o stage (k + 1))
  (reaches : Reaches o n k patience) {w : World σ} (start : stage 0 w.transport)

include plays reaches start

theorem cut_receiveAll (poised : w.Poised ep fd .read k) :
    ∃ r w', ep.receiveAll (.disturbed T) patience n w = ((delivered o (k + 1), r), w') ∧
      Halts "read" endOfStream (o k) (n - (delivered o k).length) r ∧
      w.CutShort ep (Reading.calls o fd n k)
        ⟨.read fd (n - (delivered o k).length), o k⟩ w' := by
  obtain ⟨w₁, gone, gives⟩ := goes_receiveAll World.lasts_poised (plays.mono (Nat.le_succ k))
    reaches.undone reaches.fits_before reaches.patient_before poised start
  obtain ⟨w₂, run, short⟩ := cut_receive plays (Nat.lt_succ_self k) reaches.missing
    reaches.fit_last gone.lasts gone.here
  obtain ⟨r, w', halts, noted, ends⟩ := receiveAll_halts (patience - interruptions o k)
    reaches.missing run reaches.patient_last reaches.fit_last short.bare
  refine ⟨r, w', ?_, ends, (gone.cut short).noted noted⟩
  rw [gives, halts, Reading.delivered_snoc]
  rfl

theorem starts_receiveAll (quiet : w.disturbances = []) (owns : w.handle ep = .owning fd) :
    ∃ bytes r w' more, ep.receiveAll (.disturbed T) patience n w =
        ((delivered o (k + 1) ++ bytes, r), w') ∧
      w'.talk ep = w.talk ep ++ (Reading.calls o fd n (k + 1)).flatMap (·.entries (some ep)) ++
        more := by
  obtain ⟨w₁, gone, gives⟩ := goes_receiveAll World.lasts_quiet (plays.mono (Nat.le_succ k))
    reaches.undone reaches.fits_before reaches.patient_before ⟨quiet, owns⟩ start
  obtain ⟨w₂, run, last⟩ := goes_receive (l := 0) World.lasts_quiet plays (Nat.lt_succ_self k)
    reaches.missing reaches.fit_last gone.lasts gone.here
  have talk := (gone.trans last).talk
  rw [← Reading.calls_snoc] at talk
  cases ends : (o k).ends with
  | true =>
    obtain ⟨r, halts, -⟩ :=
      receiveAll_ends (patience - interruptions o k) reaches.missing run ends
    refine ⟨[], r, w₂, [], ?_, by rw [talk, List.append_nil]⟩
    rw [gives, halts, Reading.delivered_snoc, Reading.bytes_of_ends ends, preceded]
    simp
  | false =>
    have goes := receiveAll_goes (patience - interruptions o k) reaches.missing run
      reaches.patient_last ends
    obtain ⟨more, grows⟩ := World.talk_of_service ep
      ((Service.admits (T := T) ep).receiveAll (patience - interruptions o k - cost (o k))
        (n - (delivered o k).length - (o k).bytes.length) w₂ trivial)
    rw [gives, goes, ← preceded_append, ← Reading.delivered_snoc]
    exact ⟨_, _, _, more, rfl, by rw [grows, talk]⟩

end

section

variable {L : Link σ} {w w₁ : World σ} (patience : Nat) {bytes : List UInt8} {writing : Writing}
  (some : bytes ≠ []) (run : ep.transmit L bytes w = (writing.mapError (.native "write"), w₁))
  (patient : cost writing.tally ≤ patience)

include some run

theorem transmitAll_ends (ends : writing.tally.ends = true) :
    ∃ r, ep.transmitAll L patience bytes w = (r, w₁) ∧
      Halts "write" (.bare .writeZero) writing.tally bytes.length r := by
  obtain ⟨b, bs, rfl⟩ := List.exists_cons_of_ne_nil some
  rw [transmitAll, run]
  rcases writing with e | _ | n
  · have firm : e.isInterrupted = false := by simpa [Reading.ends] using ends
    refine ⟨.error (.native "write" e), ?_, .failed rfl firm⟩
    cases patience <;> simp [Except.mapError, firm]
  · exact ⟨_, rfl, .ended rfl⟩
  · cases ends

include patient

theorem transmitAll_goes (goes : writing.tally.ends = false) :
    ep.transmitAll L patience bytes w = ep.transmitAll L (patience - cost writing.tally)
      (bytes.drop writing.tally.bytes.length) w₁ := by
  obtain ⟨b, bs, rfl⟩ := List.exists_cons_of_ne_nil some
  conv_lhs => rw [transmitAll, run]
  rcases writing with e | _ | n
  · have interrupted : e.isInterrupted = true := by simpa [Reading.ends] using goes
    have cost : cost (Writing.tally (.error e)) = 1 := by
      simp [cost, Reading.interrupted, interrupted]
    rw [cost] at patient ⊢
    obtain ⟨patience, rfl⟩ := Nat.exists_eq_add_of_le' patient
    simp only [Except.mapError, SocketError.isInterrupted_native, interrupted, if_true]
    rfl
  · cases goes
  · rw [Writing.tally_ok, Reading.bytes_ok, List.length_replicate]
    rfl

theorem transmitAll_halts (fit : writing.tally.bytes.length ≤ bytes.length)
    (bare : w₁.handle ep = {}) :
    ∃ r w', ep.transmitAll L patience bytes w = (r, w') ∧ w₁.Noted w' ∧
      Halts "write" (.bare .writeZero) writing.tally bytes.length r := by
  cases ends : writing.tally.ends with
  | true =>
    obtain ⟨r, gives, halts⟩ := transmitAll_ends patience some run ends
    exact ⟨r, w₁, gives, .refl w₁, halts⟩
  | false =>
    rw [transmitAll_goes patience some run patient ends]
    by_cases all : bytes.drop writing.tally.bytes.length = []
    · rw [all, transmitAll]
      have full := List.drop_eq_nil_iff.mp all
      exact ⟨.ok (), w₁, rfl, .refl w₁, .full (Nat.le_antisymm fit full)⟩
    · obtain ⟨fails, noted⟩ := fails_transmitAll (L := L) (congrArg Handle.fd bare)
        (patience - cost writing.tally) all
      have short : writing.tally.bytes.length < bytes.length := by
        simpa [List.drop_eq_nil_iff] using all
      exact ⟨_, _, Prod.ext fails rfl, noted, .cut short ends⟩

end

theorem goes_transmitAll {o : Nat → Writing} {k patience : Nat} {bytes : List UInt8}
    (lasts : Lasts T ep fd .write Q) (takes : T.TakesOn fd o stage k)
    (undone : ∀ j ≤ k, ¬Reading.Done (tallies o) bytes.length j)
    (fits : Fits (tallies o) bytes.length k)
    (patient : interruptions (tallies o) k ≤ patience) {w : World σ} (here : Q k w)
    (start : stage 0 w.transport) :
    ∃ w', Gone (Q 0) (stage k) ep (Writing.calls o fd bytes k) w w' ∧
      ep.transmitAll (.disturbed T) patience bytes w = ep.transmitAll (.disturbed T)
        (patience - interruptions (tallies o) k) (bytes.drop (accepted o k)) w' := by
  induction k generalizing o stage bytes patience w with
  | zero => exact ⟨w, ⟨here, start, (List.append_nil _).symm⟩, rfl⟩
  | succ k ih =>
    have some : bytes ≠ [] := fun none => undone 0 (Nat.zero_le _)
      (Reading.done_zero.mpr (congrArg List.length none))
    have goes : (o 0).tally.ends = false := Reading.not_ends (undone 1 (by omega))
    have costs : interruptions (tallies o) (k + 1) =
        cost (o 0).tally + interruptions (tallies fun i => o (i + 1)) k :=
      Reading.interruptions_cons (tallies o) k
    obtain ⟨w₁, run, gone⟩ :=
      goes_transmit lasts takes (Nat.succ_pos k) some fits.head here start
    have size : (bytes.drop (o 0).tally.bytes.length).length =
        bytes.length - (o 0).tally.bytes.length := List.length_drop
    have undone (j : Nat) (le : j ≤ k) : ¬Reading.Done (tallies fun i => o (i + 1))
        (bytes.drop (o 0).tally.bytes.length).length j :=
      fun done => undone (j + 1) (by omega) ((Reading.done_succ goes).mpr (size ▸ done))
    have left : interruptions (tallies fun i => o (i + 1)) k ≤ patience - cost (o 0).tally := by
      omega
    obtain ⟨w', gone', rest⟩ := ih takes.tail undone (size ▸ fits.tail) left gone.lasts gone.here
    refine ⟨w', ?_, ?_⟩
    · rw [Writing.calls_succ]
      exact gone.trans gone'
    · rw [transmitAll_goes patience some run (by omega) goes, rest, Writing.accepted_succ, costs,
        List.drop_drop, Nat.sub_add_eq]

theorem rest_of_reaches {o : Nat → Writing} {k patience : Nat} {bytes : List UInt8}
    (reaches : Reaches (tallies o) bytes.length k patience) :
    bytes.drop (accepted o k) ≠ [] ∧
      (o k).tally.bytes.length ≤ (bytes.drop (accepted o k)).length := by
  have missing : bytes.length - accepted o k ≠ 0 := reaches.missing
  have fit : (o k).tally.bytes.length ≤ bytes.length - accepted o k := reaches.fit_last
  rw [← List.length_drop] at missing fit
  exact ⟨List.length_pos_iff.mp (Nat.pos_of_ne_zero missing), fit⟩

section

variable {o : Nat → Writing} {k patience : Nat} {bytes : List UInt8}
  (takes : T.TakesOn fd o stage (k + 1)) (reaches : Reaches (tallies o) bytes.length k patience)
  {w : World σ} (start : stage 0 w.transport)

include takes reaches start

theorem cut_transmitAll (poised : w.Poised ep fd .write k) :
    ∃ r w', ep.transmitAll (.disturbed T) patience bytes w = (r, w') ∧
      Halts "write" (.bare .writeZero) (o k).tally (bytes.length - accepted o k) r ∧
      w.CutShort ep (Writing.calls o fd bytes k)
        ⟨.write fd (bytes.drop (accepted o k)), o k⟩ w' := by
  have left := List.length_drop (i := accepted o k) (l := bytes)
  obtain ⟨some, fit⟩ := rest_of_reaches reaches
  obtain ⟨w₁, gone, gives⟩ := goes_transmitAll World.lasts_poised (takes.mono (Nat.le_succ k))
    reaches.undone reaches.fits_before reaches.patient_before poised start
  obtain ⟨w₂, run, short⟩ :=
    cut_transmit takes (Nat.lt_succ_self k) some fit gone.lasts gone.here
  obtain ⟨r, w', halts, noted, ends⟩ := transmitAll_halts (patience - interruptions (tallies o) k)
    some run reaches.patient_last fit short.bare
  exact ⟨r, w', gives.trans halts, left ▸ ends, (gone.cut short).noted noted⟩

theorem starts_transmitAll (quiet : w.disturbances = []) (owns : w.handle ep = .owning fd) :
    ∃ r w' more, ep.transmitAll (.disturbed T) patience bytes w = (r, w') ∧
      w'.talk ep = w.talk ep ++ (Writing.calls o fd bytes (k + 1)).flatMap (·.entries (some ep)) ++
        more := by
  obtain ⟨some, fit⟩ := rest_of_reaches reaches
  obtain ⟨w₁, gone, gives⟩ := goes_transmitAll World.lasts_quiet (takes.mono (Nat.le_succ k))
    reaches.undone reaches.fits_before reaches.patient_before ⟨quiet, owns⟩ start
  obtain ⟨w₂, run, last⟩ := goes_transmit (l := 0) World.lasts_quiet takes (Nat.lt_succ_self k) some
    fit gone.lasts gone.here
  have talk := (gone.trans last).talk
  rw [← Writing.calls_snoc] at talk
  cases ends : (o k).tally.ends with
  | true =>
    obtain ⟨r, halts, -⟩ := transmitAll_ends (patience - interruptions (tallies o) k) some run ends
    exact ⟨r, w₂, [], gives.trans halts, by rw [talk, List.append_nil]⟩
  | false =>
    have goes := transmitAll_goes (patience - interruptions (tallies o) k) some run
      reaches.patient_last ends
    obtain ⟨more, grows⟩ := World.talk_of_service ep
      ((Service.admits (T := T) ep).transmitAll
        (patience - interruptions (tallies o) k - cost (o k).tally)
        ((bytes.drop (accepted o k)).drop (o k).tally.bytes.length) w₂ trivial)
    rw [gives, goes]
    exact ⟨_, _, more, rfl, by rw [grows, talk]⟩

end

end Endpoint

namespace Transfer

open Reading (Halts Reaches delivered endOfStream)
open Writing (accepted tallies)

/-- Whoever is closed in the middle of a call of a transfer makes no call after it: the transfer
ends with the answer to that one, well if that was all that was left, with what it failed for if it
did, and else for want of a descriptor.  Up to then all goes as it does where nobody closes
anything, and what was read lies in the buffer. -/
theorem closing_ends_transfers (T : Transport σ) (fd : Descriptor) (k : Nat) (w : World σ)
    (buffer : List UInt8) :
    (∀ (s : InputStream) (o : Nat → Reading) (stage : Nat → σ → Prop),
      T.PlaysOn fd o stage (k + 1) → stage 0 w.transport →
      Reaches o buffer.length k (T.patience w.transport) →
      w.Poised s.endpoint fd .read k →
      (∃ r w', s.readInto (.disturbed T) buffer w =
          ((delivered o (k + 1) ++ buffer.drop (delivered o (k + 1)).length, r), w') ∧
        s.readExact (.disturbed T) buffer.length w = ((delivered o (k + 1), r), w') ∧
        Halts "read" endOfStream (o k) (buffer.length - (delivered o k).length) r ∧
        w.CutShort s.endpoint (Reading.calls o fd buffer.length k)
          ⟨.read fd (buffer.length - (delivered o k).length), o k⟩ w') ∧
      ∃ bytes r w' more,
        s.readExact (.disturbed T) buffer.length { w with disturbances := [] } =
          ((delivered o (k + 1) ++ bytes, r), w') ∧
        w'.talk s.endpoint = w.talk s.endpoint ++
          (Reading.calls o fd buffer.length (k + 1)).flatMap (·.entries (some s.endpoint)) ++
            more) ∧
    (∀ (s : OutputStream) (o : Nat → Writing) (stage : Nat → σ → Prop),
      T.TakesOn fd o stage (k + 1) → stage 0 w.transport →
      Reaches (tallies o) buffer.length k (T.patience w.transport) →
      w.Poised s.endpoint fd .write k →
      (∃ r w', s.writeAll (.disturbed T) buffer w = (r, w') ∧
        Halts "write" (.bare .writeZero) (o k).tally (buffer.length - accepted o k) r ∧
        w.CutShort s.endpoint (Writing.calls o fd buffer k)
          ⟨.write fd (buffer.drop (accepted o k)), o k⟩ w') ∧
      ∃ r w' more, s.writeAll (.disturbed T) buffer { w with disturbances := [] } = (r, w') ∧
        w'.talk s.endpoint = w.talk s.endpoint ++
          (Writing.calls o fd buffer (k + 1)).flatMap (·.entries (some s.endpoint)) ++ more) := by
  constructor
  · intro s o stage plays start reaches poised
    constructor
    · obtain ⟨r, w', run, halts, short⟩ := Endpoint.cut_receiveAll plays reaches start poised
      have exact : s.readExact (.disturbed T) buffer.length w =
        ((delivered o (k + 1), r), w') := run
      exact ⟨r, w', by rw [s.readInto_eq, exact], exact, halts, short⟩
    · exact Endpoint.starts_receiveAll (w := { w with disturbances := [] }) plays reaches start rfl
        poised.owns
  · intro s o stage takes start reaches poised
    constructor
    · exact Endpoint.cut_transmitAll takes reaches start poised
    · exact Endpoint.starts_transmitAll (w := { w with disturbances := [] }) takes reaches start rfl
        poised.owns

theorem closing_ends_transfers_twice :
    let readings : List Reading := [.ok [1, 2], .error (.os Errno.interrupted), .ok [3]]
    let writings : List Writing := [.ok 1, .ok 3]
    let ep : Endpoint := ⟨0⟩
    let w : World Scripted.State := {
      transport := { outcomes := fun
        | .read => readings.map .ofReading
        | .write => writings.map .ofWriting
        | _ => [] }
      endpoints := [{ handle := .owning 5 }, {}]
      sockets := [.established]
      disturbances := [⟨.read, 0, .create ep .stream, 0⟩, ⟨.read, 1, .closeSocket ⟨0, ep⟩, 0⟩,
        ⟨.read, 1, .close ep, 0⟩, ⟨.write, 1, .release ep, 0⟩,
        ⟨.write, 2, .create ep .stream, 0⟩, ⟨.shutdown, 0, .create ⟨1⟩ .stream, 1⟩] }
    (∃ w', InputStream.readInto (.disturbed Scripted.transport) ⟨ep, 0⟩ [9, 9, 9, 9] w =
        (([1, 2, 9, 9], .error .notCreated), w') ∧
      w.CutShort ep [⟨.read 5 4, .ok [1, 2]⟩] ⟨.read 5 2, .error (.os Errno.interrupted)⟩ w') ∧
    ∃ w', OutputStream.writeAll (.disturbed Scripted.transport) ⟨ep, 1⟩ [9, 9, 9, 9] w =
        (.ok (), w') ∧
      w.CutShort ep [⟨.write 5 [9, 9, 9, 9], .ok (1 : Nat)⟩] ⟨.write 5 [9, 9, 9], .ok (3 : Nat)⟩
        w' := by
  intro readings writings ep w
  obtain ⟨reads, writes⟩ := closing_ends_transfers Scripted.transport 5 1 w [9, 9, 9, 9]
  have reads' : w.plans .read ep = [⟨.read, 0, .create ep .stream, 0⟩,
      ⟨.read, 1, .closeSocket ⟨0, ep⟩, 0⟩, ⟨.read, 1, .close ep, 0⟩] := by decide
  have writes' : w.plans .write ep =
      [⟨.write, 1, .release ep, 0⟩, ⟨.write, 2, .create ep .stream, 0⟩] := by decide
  have reading : w.Poised ep 5 .read 1 := {
    before := by simp [reads']
    closed := ⟨[], ⟨.read, 1, .closeSocket ⟨0, ep⟩, 0⟩, [⟨.read, 1, .close ep, 0⟩], by decide,
      nofun, .inr (.inr ⟨_, rfl, rfl, rfl⟩), by simp⟩
    shallow := by simp [World.Shallow, w, ep, Deed.target]
    owns := rfl
    free := rfl }
  have writing : w.Poised ep 5 .write 1 := {
    before := by simp [writes']
    closed := ⟨[], ⟨.write, 1, .release ep, 0⟩, [], by decide, nofun, .inr (.inl rfl), nofun⟩
    shallow := by simp [World.Shallow, w, ep, Deed.target]
    owns := rfl
    free := rfl }
  obtain ⟨⟨r, w₁, read, -, cut, short⟩, -⟩ := reads ⟨ep, 0⟩ _ _
    ((Scripted.plays_on 5 readings).mono (by decide)) rfl ⟨by decide, by decide, by decide⟩ reading
  obtain ⟨⟨r', w₂, written, all, short'⟩, -⟩ := writes ⟨ep, 1⟩ _ _
    (Scripted.takes_on 5 writings) rfl ⟨by decide, by decide, by decide⟩ writing
  constructor
  · cases cut with
    | full full => cases full
    | ended last => cases last
    | failed last firm =>
      cases last
      cases firm
    | cut => exact ⟨w₁, read, short⟩
  · cases all with
    | full => exact ⟨w₂, written, short'⟩
    | ended last => cases last
    | failed last => cases last
    | cut short => exact absurd short (by decide)

end Transfer

end ProcessorSockets
