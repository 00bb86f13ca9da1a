import ProcessorSockets.Proofs.Conduct.Endpoint

namespace ProcessorSockets

open Call (Confined)
open World (Called Conduct Performed)

variable {σ α : Type} {L : Link σ}

def Law.work (ep : Endpoint) (has : Option Descriptor) : Law σ where
  holds w := w.disturbances = [] ∧ (w.handle ep).fd = has
  keeps w w' := ∃ calls, w.Called (some ep) calls w' ∧
    ∀ c ∈ calls, ∃ fd, has = some fd ∧ c.request.descriptor? = some fd
  refl w := ⟨[], .refl w, by simp⟩
  trans := by
    intro a b c ⟨calls, called, about⟩ ⟨more, called', about'⟩
    refine ⟨calls ++ more, called.trans called', fun c mem => ?_⟩
    exact (List.mem_append.mp mem).elim (about c) (about' c)
  stable := by
    intro w w' ⟨quiet, same⟩ ⟨calls, called, _⟩
    exact ⟨called.quiet quiet, by rw [called.handle, same]⟩
  note w es notes := ⟨[], .notes w notes, by simp⟩

namespace Endpoint

variable {ep : Endpoint} {w : World σ}

theorem keeps_work {step : Action σ α} (works : ∀ fd, ep.Works fd step)
    (fails : ∀ w, (w.handle ep).fd = none → step.Fails .notCreated w) (has : Option Descriptor) :
    (Law.work ep has).Keeps step := by
  intro w ⟨quiet, same⟩
  cases has with
  | none => exact ⟨[], .noted (fails w same).2, by simp⟩
  | some fd =>
    obtain ⟨calls, worked⟩ := works fd w quiet same
    exact ⟨calls, worked.called, fun c mem => ⟨fd, rfl, worked.about c mem⟩⟩

theorem conduct_work {step : World σ → α × World σ} (on : Endpoint)
    (keeps : ∀ has, (Law.work ep has).Keeps step) (quiet : w.disturbances = []) :
    ∃ calls, w.Conduct (some ep) on calls (step w).2 := by
  obtain ⟨calls, called, about⟩ := keeps (w.handle ep).fd w ⟨quiet, rfl⟩
  refine ⟨calls, called.conduct ?_⟩
  rintro _ ⟨⟩
  cases has : (w.handle ep).fd with
  | none =>
    cases calls with
    | nil => trivial
    | cons c rest =>
      obtain ⟨fd, is, _⟩ := about c (by simp)
      rw [has] at is
      cases is
  | some fd =>
    refine .about List.mem_cons_self fun c mem => ?_
    obtain ⟨fd', is, about⟩ := about c mem
    rw [has] at is
    cases is
    exact about

end Endpoint

namespace InputStream

variable (s : InputStream) (straight : L.Straight)

include straight

theorem works_read (fd : Descriptor) (length : Nat) : s.endpoint.Works fd (s.read L length) := by
  unfold read
  split
  · exact .return' []
  · exact .receive straight length

theorem keeps_read (length : Nat) (has : Option Descriptor) :
    (Law.work s.endpoint has).Keeps (s.read L length) := by
  by_cases none : length = 0
  · rw [read, if_pos none]
    exact .return' []
  · exact Endpoint.keeps_work (fun fd => s.works_read straight fd length)
      (fun _ bare => fails_read bare none) has

theorem performs_read (length : Nat) : s.endpoint.Performs (s.read L length) := by
  by_cases none : length = 0
  · intro w _ _
    rw [read, if_pos none]
    exact ⟨[], .refl w, not_failed⟩
  · exact .ofWorks (fun fd => s.works_read straight fd length) fun _ bare => fails_read bare none

theorem performs_readByte : s.endpoint.Performs (s.readByte L) :=
  .ofWorks (fun fd => .bind (s.works_read straight fd 1) fun _ => .return' _)
    fun _ bare => fails_readByte bare

theorem performs_available : s.endpoint.Performs (s.available L) :=
  .ofWorks (fun _ => .available straight s) fun _ bare => fails_available bare

theorem performs_readExact (length : Nat) :
    s.endpoint.Performs fun w => ((s.readExact L length w).1.2, (s.readExact L length w).2) := by
  intro w quiet _
  cases has : (w.handle s.endpoint).fd with
  | some fd =>
    obtain ⟨calls, worked⟩ := Endpoint.worked_receiveAll straight (L.patience w) length quiet has
    exact ⟨calls, worked.conduct has, fun e is => (worked.failed is).failure⟩
  | none =>
    obtain ⟨fails, noted⟩ := Endpoint.fails_receiveAll (L := L) has (L.patience w) length
    refine ⟨[], .noted noted, fun e is => ?_⟩
    change (s.endpoint.receiveAll L (L.patience w) length w).1.2 = _ at is
    rw [fails] at is
    dsimp only at is
    split at is
    · cases is
    · cases is
      exact .refusal rfl noted

theorem keeps_readExactNative (length : Nat) (has : Option Descriptor) :
    (Law.work s.endpoint has).Keeps (s.readExactNative L length) :=
  fun w holds => Law.Keeps.fill (fun n => (s.keeps_read straight n has).native) (L.patience w)
    length w holds

theorem keeps_readToEndNative (has : Option Descriptor) :
    (Law.work s.endpoint has).Keeps (s.readToEndNative L) :=
  fun w holds => Law.Keeps.toEnd (fun n => (s.keeps_read straight n has).native) (L.patience w)
    {} w holds

end InputStream

namespace OutputStream

variable (s : OutputStream) (straight : L.Straight)

include straight

theorem works_write (fd : Descriptor) (bytes : List UInt8) :
    s.endpoint.Works fd (s.write L bytes) := by
  unfold write
  split
  · exact .return' 0
  · exact .transmit straight bytes

omit straight in
theorem fails_write {w : World σ} (bare : (w.handle s.endpoint).fd = none) {bytes : List UInt8}
    (some : bytes ≠ []) : (s.write L bytes).Fails .notCreated w := by
  rw [write, if_neg some]
  exact Endpoint.fails_transmit bare bytes

theorem keeps_write (bytes : List UInt8) (has : Option Descriptor) :
    (Law.work s.endpoint has).Keeps (s.write L bytes) := by
  by_cases none : bytes = []
  · rw [write, if_pos none]
    exact .return' 0
  · exact Endpoint.keeps_work (fun fd => s.works_write straight fd bytes)
      (fun _ bare => s.fails_write bare none) has

theorem performs_write (bytes : List UInt8) : s.endpoint.Performs (s.write L bytes) := by
  by_cases none : bytes = []
  · intro w _ _
    rw [write, if_pos none]
    exact ⟨[], .refl w, not_failed⟩
  · exact .ofWorks (fun fd => s.works_write straight fd bytes) fun _ bare => s.fails_write bare none

theorem performs_writeAll (bytes : List UInt8) : s.endpoint.Performs (s.writeAll L bytes) := by
  intro w quiet _
  unfold writeAll
  cases has : (w.handle s.endpoint).fd with
  | some fd =>
    obtain ⟨calls, worked⟩ := Endpoint.worked_transmitAll straight (L.patience w) bytes quiet has
    exact ⟨calls, worked.conduct has, fun e is => (worked.failed is).failure⟩
  | none =>
    by_cases none : bytes = []
    · subst none
      rw [Endpoint.transmitAll]
      exact ⟨[], .refl w, not_failed⟩
    · exact Endpoint.performed_fails rfl (Endpoint.fails_transmitAll has (L.patience w) none)

theorem performs_writeByte (byte : UInt8) : s.endpoint.Performs (s.writeByte L byte) :=
  s.performs_writeAll straight [byte]

theorem keeps_writeAllNative (bytes : List UInt8) (has : Option Descriptor) :
    (Law.work s.endpoint has).Keeps (s.writeAllNative L bytes) :=
  fun w holds => Law.Keeps.drain (fun bs => (s.keeps_write straight bs has).native) (L.patience w)
    bytes w holds

end OutputStream

end ProcessorSockets
