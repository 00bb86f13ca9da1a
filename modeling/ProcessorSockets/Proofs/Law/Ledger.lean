import ProcessorSockets.Proofs.Law.Link
import ProcessorSockets.Proofs.Ledger

namespace ProcessorSockets

variable {σ α : Type}

structure World.Ready (disposes uses : Endpoint → Prop) (w : World σ) : Prop where
  usable : ∀ ep, uses ep →
    disposes ep ∧ ep.index < w.endpoints.length ∧ (w.endpoint ep).creating = false
  deeds : ∀ d ∈ w.disturbances,
    disposes d.deed.target ∧ d.deed.target.index < w.endpoints.length
  later : ∀ ep, w.endpoints.length ≤ ep.index → disposes ep

namespace World.Ready

variable {disposes uses : Endpoint → Prop} {shift : Descriptor → Int} {w w' : World σ}

theorem after (ready : w.Ready disposes uses) (shifts : Shift disposes shift w w') :
    w'.Ready disposes uses where
  usable ep used := by
    obtain ⟨mine, inside, idle⟩ := ready.usable ep used
    exact ⟨mine, Nat.lt_of_lt_of_le inside shifts.size, (shifts.creating ep).trans idle⟩
  deeds d mem := by
    obtain ⟨d₀, mem₀, same⟩ := shifts.deeds d mem
    obtain ⟨mine, inside⟩ := ready.deeds d₀ mem₀
    rw [same]
    exact ⟨mine, Nat.lt_of_lt_of_le inside shifts.size⟩
  later ep out := ready.later ep (Nat.le_trans shifts.size out)

theorem idle (ready : w.Ready disposes uses) : w.Ready disposes fun _ => False where
  usable _ used := used.elim
  deeds := ready.deeds
  later := ready.later

theorem setCreating (ready : w.Ready disposes uses) (ep : Endpoint) :
    (w.setCreating ep true).Ready disposes fun _ => False where
  usable _ used := used.elim
  deeds d mem := by
    rw [length_endpoints_setCreating]
    exact ready.deeds d mem
  later other out := by
    rw [length_endpoints_setCreating] at out
    exact ready.later other out

end World.Ready

def Law.ledger (disposes uses : Endpoint → Prop) : Law σ where
  holds := World.Ready disposes uses
  keeps := World.Shift disposes fun _ => 0
  refl := .refl
  trans first second := (first.trans second).totals fun _ => by omega
  stable := .after
  note w _ notes := .notes w notes

namespace Ledger

open World (Shift Ready)

variable {disposes uses : Endpoint → Prop} {shift : Descriptor → Int} {T : Transport σ}
  {meanwhile : Method → StateM (World σ) Unit} {ep : Endpoint} {w : World σ}

section

variable (between : ∀ m, (Law.ledger disposes fun _ => False).Keeps (meanwhile m))

include between

theorem send (ready : w.Ready disposes uses) {caller : Option Endpoint}
    (known : ∀ ep, caller = some ep → ep.index < w.endpoints.length) (r : Request) :
    Shift disposes (fun fd => (Entry.request caller r).worth fd +
        (Entry.reply caller r (((Link.via T meanwhile).send caller r) w).1).worth fd)
      w (((Link.via T meanwhile).send caller r) w).2 := by
  have asked : Shift disposes ((Entry.request caller r).worth ·) w (w.add [.request caller r]) :=
    .entry _ known
  have during := between r.method _ (ready.after asked).idle
  generalize met : (meanwhile r.method (w.add [.request caller r])).2 = w' at during
  have sent : (Link.via T meanwhile).send caller r w = T.respond caller r w' := by rw [← met]; rfl
  rw [sent, T.run_respond]
  generalize T.handle r w'.transport = answer
  have served : Shift disposes _ w' { w' with transport := answer.state } := .transport _ _
  have told : Shift disposes _ { w' with transport := answer.state }
      ({ w' with transport := answer.state }.add (answer.notes.map Note.entry)) :=
    .notes _ (by simp)
  have answered : Shift disposes ((Entry.reply caller r answer.reply).worth ·)
      ({ w' with transport := answer.state }.add (answer.notes.map Note.entry)) _ :=
    .entry _ fun ep calls => Nat.lt_of_lt_of_le (known ep calls) (asked.trans during).size
  apply (asked.trans (during.trans (served.trans (told.trans answered)))).totals
  intro fd
  change _ = _ + (Entry.reply caller r answer.reply).worth fd
  omega

theorem sendFrom (ready : w.Ready disposes uses) (inside : ep.index < w.endpoints.length)
    (r : Request) :
    Shift disposes (fun fd => (Entry.request (some ep) r).worth fd +
        (Entry.reply (some ep) r (((Link.via T meanwhile).send (some ep) r) w).1).worth fd)
      w (((Link.via T meanwhile).send (some ep) r) w).2 :=
  send between ready (fun _ calls => Option.some.inj calls ▸ inside) r

theorem sendAlone (ready : w.Ready disposes uses) (used : uses ep) (r : Request) :
    let during := (Link.via T meanwhile).send (some ep) r
    Shift disposes (fun fd => (Entry.request (some ep) r).worth fd +
        (Entry.reply (some ep) r (ep.exclusively during w).1).worth fd)
      w (ep.exclusively during w).2 ∧ (ep.exclusively during w).2.handle ep = w.handle ep := by
  obtain ⟨_, inside, idle⟩ := ready.usable ep used
  apply Shift.exclusively inside idle
  apply sendFrom between (ready.setCreating ep)
  rwa [World.length_endpoints_setCreating]

theorem create (used : uses ep) (kind : SocketKind) :
    (Law.ledger disposes uses).Keeps (ep.create (.via T meanwhile) kind) := by
  intro w ready
  have creation := Endpoint.creation (.via T meanwhile) ep kind w
  generalize ep.create (.via T meanwhile) kind w = answer at creation
  cases creation with
  | taken _ noted => exact .noted noted
  | senseless _ _ noted => exact .noted noted
  | @refused native e _ _ _ _ _ opened asked noted =>
    have opens : Shift disposes _ w _ := .noted opened
    obtain ⟨shifts, _⟩ := sendAlone between (T := T) (ready.after opens) used (.create native 0)
    rw [asked] at shifts
    apply (opens.trans (shifts.trans (.noted noted))).totals
    intro fd
    simpa using Entry.worth_create fd ep native 0 (.error e)
  | @made native made _ _ _ bare _ opened asked noted =>
    have opens : Shift disposes _ w _ := .noted opened
    have ready := ready.after opens
    obtain ⟨shifts, kept⟩ := sendAlone between (T := T) ready used (.create native 0)
    rw [asked] at shifts kept
    obtain ⟨mine, inside, idle⟩ := (ready.after shifts).usable ep used
    have takes := Shift.setHandle inside mine idle (.owning made)
    apply (opens.trans (shifts.trans (takes.trans (.noted noted)))).totals
    intro fd
    have round := Entry.worth_create fd ep native 0 (.ok made)
    rw [kept, opened.handle, Handle.worth_of_none bare, Handle.worth_owning]
    dsimp only at round ⊢
    omega

theorem turnAway (ready : w.Ready disposes uses) {listener : Endpoint}
    (inside : listener.index < w.endpoints.length) (peer : Descriptor) :
    Shift disposes (fun fd => -(if peer = fd then 1 else 0)) w
      (listener.turnAway (.via T meanwhile) peer w).2 := by
  have closes := sendFrom between (T := T) ready inside (.close peer)
  apply (closes.trans (.noted (Endpoint.turningAway _ listener peer w))).totals
  intro fd
  rw [Entry.worth_close fd listener peer _, Int.add_zero]

theorem accepted (used : uses ep) (listener : Endpoint) :
    (Law.ledger disposes uses).Keeps (listener.accept (.via T meanwhile) ep) := by
  intro w ready
  have acceptance := Endpoint.acceptance (.via T meanwhile) listener ep w
  generalize listener.accept (.via T meanwhile) ep w = answer at acceptance
  -- A listener with a descriptor is there.
  have there {fd : Descriptor} {w₁ : World σ} (has : (w.handle listener).fd = some fd)
      (opened : w.Noted w₁) : listener.index < w₁.endpoints.length := by
    rw [opened.endpoints]
    exact w.inside_of_handle has
  cases acceptance with
  | closed _ noted => exact .noted noted
  | taken _ _ noted => exact .noted noted
  | @refused fd e _ _ _ has _ opened asked noted =>
    have opens : Shift disposes _ w _ := .noted opened
    have shifts := sendFrom between (T := T) (ready.after opens) (there has opened) (.accept fd)
    rw [asked] at shifts
    apply (opens.trans (shifts.trans (.noted noted))).totals
    intro total
    simpa using Entry.worth_accept total listener fd (.error e)
  | @overtaken fd peer _ _ _ _ has _ opened asked _ noted =>
    have opens : Shift disposes _ w _ := .noted opened
    have ready := ready.after opens
    have shifts := sendFrom between (T := T) ready (there has opened) (.accept fd)
    rw [asked] at shifts
    have turns := turnAway between (T := T) (ready.after shifts)
      (Nat.lt_of_lt_of_le (there has opened) shifts.size) peer
    apply (opens.trans (shifts.trans (turns.trans (.noted noted)))).totals
    intro total
    have round := Entry.worth_accept total listener fd (.ok peer)
    dsimp only at round ⊢
    omega
  | @made fd peer _ _ _ has _ opened asked still noted =>
    have opens : Shift disposes _ w _ := .noted opened
    have ready := ready.after opens
    have shifts := sendFrom between (T := T) ready (there has opened) (.accept fd)
    rw [asked] at shifts
    obtain ⟨mine, inside, idle⟩ := (ready.after shifts).usable ep used
    have takes := Shift.setHandle inside mine idle (.owning peer)
    apply (opens.trans (shifts.trans (takes.trans (.noted noted)))).totals
    intro total
    have round := Entry.worth_accept total listener fd (.ok peer)
    rw [Handle.worth_of_none still, Handle.worth_owning]
    dsimp only at round ⊢
    omega

theorem closeOwned (ready : w.Ready disposes uses) (inside : ep.index < w.endpoints.length)
    (old : Descriptor) :
    Shift disposes (fun fd => -(if old = fd then 1 else 0)) w
      (ep.closeOwned (.via T meanwhile) old w).2 := by
  have closing := Endpoint.ownedClosing (.via T meanwhile) ep old w
  generalize ep.closeOwned (.via T meanwhile) old w = answer at closing
  cases closing with
  | intro shut asked noted =>
    have shuts := (sendFrom between (T := T) ready inside (.shutdown old .both)).trans (.noted shut)
    have closes := sendFrom between (T := T) (ready.after shuts)
      (Nat.lt_of_lt_of_le inside shuts.size) (.close old)
    rw [asked] at closes
    apply (shuts.trans (closes.trans (.noted noted))).totals
    intro fd
    rw [Entry.worth_close fd ep old _, Entry.worth_other fd _ _ (by simp [Request.method])]
    omega

theorem close (used : uses ep) :
    (Law.ledger disposes uses).Keeps (ep.close (.via T meanwhile)) := by
  intro w ready
  have closing := Endpoint.closing (.via T meanwhile) ep w
  generalize ep.close (.via T meanwhile) w = answer at closing
  cases closing with
  | closed _ noted => exact .noted noted
  | @owned old w₁ _ _ _ has opened closed noted =>
    have opens : Shift disposes _ w w₁ := .noted opened
    have ready := ready.after opens
    obtain ⟨mine, inside, idle⟩ := ready.usable ep used
    have gives := Shift.setHandle inside mine idle {}
    have ends := closeOwned between (T := T) (ready.after gives)
      (Nat.lt_of_lt_of_le inside gives.size) old
    rw [closed] at ends
    apply (opens.trans (gives.trans (ends.trans (.noted noted)))).totals
    intro fd
    rw [opened.handle, has, Handle.worth_owning, Handle.worth_empty]
    omega
  | @detached old w₁ _ has opened noted =>
    have opens : Shift disposes _ w w₁ := .noted opened
    obtain ⟨mine, inside, idle⟩ := (ready.after opens).usable ep used
    have gives := Shift.setHandle inside mine idle {}
    apply (opens.trans (gives.trans (.noted noted))).totals
    intro fd
    rw [opened.handle, has, Handle.worth_of_unowned rfl, Handle.worth_empty]
    omega

theorem discards (used : uses ep) (ready : w.Ready disposes uses) :
    Shift disposes (fun _ => 0) w (ep.discard (.via T meanwhile) w).2 ∧
      (ep.discard (.via T meanwhile) w).2.handle ep = {} := by
  obtain ⟨mine, inside, idle⟩ := ready.usable ep used
  have gives := Shift.setHandle inside mine idle {}
  have discarding := Endpoint.discarding (.via T meanwhile) ep w
  generalize (ep.discard (.via T meanwhile) w).2 = answer at discarding
  cases discarding with
  | @owned old _ has noted =>
    obtain ⟨shifts, kept⟩ := sendAlone between (T := T) (ready.after gives) used (.close old)
    constructor
    · apply (gives.trans (shifts.trans (.noted noted))).totals
      intro fd
      rw [has, Handle.worth_owning, Handle.worth_empty, Entry.worth_close fd ep old _]
      omega
    · rw [noted.handle, kept, World.handle_setHandle w ep {} inside]
  | other not =>
    refine ⟨gives.totals fun fd => ?_, World.handle_setHandle w ep {} inside⟩
    rw [Handle.worth, if_neg (not fd), Handle.worth_empty, Int.sub_zero]

theorem sends (used : uses ep) {r : Request}
    (other : r.method ≠ .create ∧ r.method ≠ .accept ∧ r.method ≠ .close) :
    (Law.ledger disposes uses).Keeps ((Link.via T meanwhile).send (some ep) r) := by
  intro w ready
  apply (sendFrom between ready (ready.usable ep used).2.1 r).totals
  exact fun fd => Entry.worth_other fd _ _ (.inr other)

theorem outside (r : Request) :
    (Law.ledger disposes uses).Keeps ((Link.via T meanwhile).send none r) := by
  intro w ready
  apply (send between ready (by rintro _ ⟨⟩) r).totals
  exact fun fd => Entry.worth_other fd _ _ (.inl rfl)

theorem admits (used : uses ep) :
    (Law.ledger disposes uses).Admits (.via T meanwhile) ep where
  send _ r plain := by
    apply sends between used
    cases r <;> simp_all [Request.method, Method.isPlain]
  stream _ _ _ handle creating := .setEndpoint handle creating
  create := create between used
  bind _ fd a := sends between used (by simp [Request.method])
  connect _ fd a := sends between used (by simp [Request.method])
  accepted := accepted between used
  close := close between used
  discard _ ready := (discards between used ready).1

end

theorem founds : (Law.ledger (σ := σ) disposes uses).Founds where
  socket _ _ w _ := { Shift.refl w with }

theorem ready_make {h : Handle} (unowned : h.owned = false) (ready : w.Ready disposes uses) :
    (Endpoint.make h w).2.Ready disposes (· = ⟨w.endpoints.length⟩) := by
  have new := ready.later ⟨w.endpoints.length⟩ (Nat.le_refl _)
  have makes : Shift disposes _ w (Endpoint.make h w).2 := .make unowned new
  refine { ready.after makes with usable := ?_ }
  rintro ep rfl
  refine ⟨new, by simp [Endpoint.make], ?_⟩
  rw [makes.creating]
  simp [World.endpoint]

theorem hosts (between : ∀ m, (Law.ledger disposes fun _ => False).Keeps (meanwhile m)) :
    (Law.ledger disposes uses).Hosts (.via T meanwhile) where
  make _ unowned _ ready := .make unowned (ready.later _ (Nat.le_refl _))
  guest w _ ready unowned := ⟨.ledger disposes (· = ⟨w.endpoints.length⟩),
    ready_make unowned ready, fun _ _ kept => kept, admits between rfl, founds⟩

theorem setSocket (w : World σ) (s : Socket) (st : SocketState) :
    Shift disposes (fun _ => 0) w (w.setSocket s st) := { Shift.refl w with }

theorem waiting (w : World σ) (depth : Nat) (m : Method) :
    Shift disposes (fun _ => 0) w (w.waiting depth m) where
  surplus _ := (Int.add_zero _).symm
  size := Nat.le_refl _
  creating _ := rfl
  handle _ _ := rfl
  deeds _ mem := World.deed_waiting mem
  known known := known

theorem interrupt (m : Method) :
    (Law.ledger disposes fun _ => False).Keeps (World.interrupt T m) := by
  refine .interrupt (fun between depth m => .disturb fun w ready => ?_) m
  have waits : Shift disposes _ w (w.waiting depth m) := waiting w depth m
  refine ⟨waits, .ledger disposes
    fun ep => ∃ d ∈ w.disturbances, d.due w depth m = true ∧ d.deed.target = ep, ?_,
    fun _ _ kept => kept, fun d mem due => ?_⟩
  · refine { ready.after waits with usable := ?_ }
    rintro ep ⟨d, mem, due, rfl⟩
    obtain ⟨mine, inside⟩ := ready.deeds d mem
    simp only [Disturbance.due, Bool.and_eq_true, Bool.not_eq_true'] at due
    exact ⟨mine, inside, due.2⟩
  · apply (admits between ⟨d, mem, due, rfl⟩).toBears.perform
    exact fun s w st _ => setSocket w s st

theorem disturbed (used : uses ep) : (Law.ledger disposes uses).Admits (.disturbed T) ep :=
  admits interrupt used

theorem hostsDisturbed : (Law.ledger disposes uses).Hosts (.disturbed T) := hosts interrupt

theorem outsideDisturbed (r : Request) :
    (Law.ledger disposes uses).Keeps ((Link.disturbed T).send none r) := outside interrupt r

theorem discardsDisturbed (ready : w.Ready disposes uses) (used : uses ep) :
    Shift disposes (fun _ => 0) w (ep.discard (.disturbed T) w).2 ∧
      (ep.discard (.disturbed T) w).2.handle ep = {} := discards interrupt used ready

end Ledger

end ProcessorSockets
