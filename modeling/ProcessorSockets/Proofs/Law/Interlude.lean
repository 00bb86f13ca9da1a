import ProcessorSockets.Proofs.Bare
import ProcessorSockets.Proofs.Law.Retained
import ProcessorSockets.Proofs.Law.Service

/-! What others do in the middle of a request.  They make and give up descriptors, but nothing is
read or written.  An endpoint is left alone by those who are after other endpoints, by those who
would make a descriptor where there is one, and by those who would close what is closed. -/

namespace ProcessorSockets

variable {σ : Type}

def Method.transfers : Method → Bool
  | .read => true
  | .write => true
  | _ => false

def Entry.transfers : Entry → Bool
  | .request _ r => r.method.transfers
  | .reply _ r _ => r.method.transfers
  | _ => false

theorem Entry.transfers_of_isNote {e : Entry} (note : e.isNote = true) : e.transfers = false := by
  cases e with
  | request caller r => cases note
  | reply caller r answer => cases note
  | _ => rfl

namespace World

/-- Nothing was transferred meanwhile, and sockets that had their descriptor stay so. -/
structure Interlude (T : Transport σ) (w w' : World σ) : Prop where
  log : ∃ es, w'.log = w.log ++ es ∧ T.Logged w.transport es w'.transport ∧
    ∀ e ∈ es, e.transfers = false
  created : ∀ s : Socket, (w.socket s).created = true → (w'.socket s).created = true

def outer (w : World σ) : List Disturbance := w.disturbances.filter (·.depth = 0)

def Shallow (w : World σ) (ep : Endpoint) : Prop :=
  ∀ d ∈ w.disturbances, d.depth ≠ 0 → d.deed.target ≠ ep

/-- Nothing happened to an endpoint, and nobody changed plans. -/
structure Aside (ep : Endpoint) (w w' : World σ) : Prop extends World.Aloof ep w w' where
  outer : w'.outer = w.outer
  shallow : w.Shallow ep → w'.Shallow ep

variable {T : Transport σ} {ep : Endpoint} {w w' w'' : World σ}

namespace Interlude

theorem refl (w : World σ) : w.Interlude T w where
  log := ⟨[], (List.append_nil _).symm, .nil _, by simp⟩
  created _ := id

theorem trans (first : w.Interlude T w') (second : w'.Interlude T w'') : w.Interlude T w'' where
  log := by
    obtain ⟨es, log, logged, none⟩ := first.log
    obtain ⟨more, log', logged', none'⟩ := second.log
    refine ⟨es ++ more, ?_, logged.append logged', fun e mem => ?_⟩
    · rw [log', log, List.append_assoc]
    cases List.mem_append.mp mem with
    | inl early => exact none e early
    | inr late => exact none' e late
  created s := second.created s ∘ first.created s

theorem notes (w : World σ) {es : List Entry} (notes : ∀ e ∈ es, e.isNote = true) :
    w.Interlude T (w.add es) where
  log := ⟨es, rfl, .notes _ notes, fun e mem => Entry.transfers_of_isNote (notes e mem)⟩
  created _ := id

theorem noted (noted : w.Noted w') : w.Interlude T w' := by
  obtain ⟨es, all, rfl⟩ := noted
  exact notes w all

theorem waiting (w : World σ) (depth : Nat) (m : Method) : w.Interlude T (w.waiting depth m) :=
  { refl w with }

theorem setCreated (w : World σ) (s : Socket) :
    w.Interlude T (w.setSocket s { w.socket s with created := true }) where
  log := ⟨[], (List.append_nil _).symm, .nil _, by simp⟩
  created other created := by
    change ((w.sockets.set s.index _).getD other.index _).created = true
    by_cases same : s.index = other.index
    · by_cases inside : s.index < w.sockets.length
      · simp [← same, inside]
      · rw [List.set_eq_of_length_le (Nat.le_of_not_lt inside)]
        exact created
    · simpa [same, socket] using created

end Interlude

theorem Shallow.waiting (shallow : w.Shallow ep) (depth : Nat) (m : Method) :
    (w.waiting depth m).Shallow ep := by
  intro d mem deep
  obtain ⟨d₀, kept, rfl⟩ := List.mem_map.mp mem
  rw [d₀.depth_passed] at deep
  rw [d₀.deed_passed]
  exact shallow d₀ (List.mem_filter.mp kept).1 deep

namespace Aside

theorem refl (w : World σ) : w.Aside ep w := ⟨.refl w, rfl, id⟩

theorem trans (first : w.Aside ep w') (second : w'.Aside ep w'') : w.Aside ep w'' :=
  ⟨first.toAloof.trans second.toAloof, second.outer.trans first.outer,
    second.shallow ∘ first.shallow⟩

theorem noted (noted : w.Noted w') : w.Aside ep w' := by
  obtain ⟨es, notes, rfl⟩ := noted
  exact ⟨.notes w notes, rfl, id⟩

theorem waiting (w : World σ) {depth : Nat} (deep : depth ≠ 0) (m : Method) :
    w.Aside ep (w.waiting depth m) := by
  refine ⟨.waiting w depth m, ?_, fun shallow => shallow.waiting depth m⟩
  have planned (d : Disturbance) (plan : d.depth = 0) :
      d.due w depth m = false ∧ d.passed depth m = d := by
    have other : d.depth ≠ depth := plan ▸ deep.symm
    simp [Disturbance.due, Disturbance.passed, other]
  have kept : (w.disturbances.filter (not ∘ Disturbance.due w depth m)).filter
      ((fun d => decide (d.depth = 0)) ∘ Disturbance.passed depth m) = w.outer := by
    rw [List.filter_filter]
    refine List.filter_congr fun d _ => ?_
    by_cases plan : d.depth = 0
    · simp [plan, (planned d plan).1]
    · simp [plan]
  rw [World.outer, World.waiting, List.filter_map, kept]
  refine (List.map_congr_left fun d mem => ?_).trans (List.map_id _)
  exact (planned d (by simpa using (List.mem_filter.mp mem).2)).2

end Aside

end World

theorem Endpoint.noted_close_bare {L : Link σ} {ep : Endpoint} {w : World σ}
    (bare : (w.handle ep).fd = none) : w.Noted (ep.close L w).2 := by
  have closing := Endpoint.closing L ep w
  generalize ep.close L w = answer at closing
  cases closing with
  | closed _ noted => exact noted
  | owned has => exact nomatch bare.symm.trans (congrArg Handle.fd has)
  | detached has => exact nomatch bare.symm.trans (congrArg Handle.fd has)

theorem Socket.closing (L : Link σ) (s : Socket) (w : World σ) :
    (w.socket s).created = true ∧ s.close L w = s.endpoint.release L w ∨
      (w.socket s).created = false ∧
        (w.setSocket s { w.socket s with created := true }).Noted (s.close L w).2 := by
  rw [close, Action.run_bind]
  simp only [state]
  cases (w.socket s).created with
  | true => exact .inl ⟨rfl, rfl⟩
  | false => exact .inr ⟨rfl, .one _ rfl⟩

def Law.interlude (T : Transport σ) : Law σ where
  holds _ := True
  keeps := World.Interlude T
  refl := .refl
  trans := .trans
  stable _ _ := trivial
  note w _ := .notes w

def Law.aside (ep : Endpoint) (hd : Handle) : Law σ where
  holds w := w.handle ep = hd ∧ w.Shallow ep
  keeps := World.Aside ep
  refl := .refl
  trans := .trans
  stable holds kept := ⟨kept.handle.trans holds.1, kept.shallow holds.2⟩
  note _ _ notes := .noted ⟨_, notes, rfl⟩

namespace Interlude

variable {T : Transport σ} {meanwhile : Method → StateM (World σ) Unit}

theorem respond (caller : Option Endpoint) {r : Request} (plain : r.method.transfers = false)
    (w : World σ) : w.Interlude T (T.respond caller r w).2 := by
  have notes : ∀ e ∈ (T.handle r w.transport).notes.map Note.entry, e.isNote = true := by simp
  rw [T.run_respond]
  refine ⟨⟨_, List.append_assoc .., .append (.notes _ notes) (.reply rfl (.nil _)), ?_⟩,
    fun _ => id⟩
  intro e mem
  rcases List.mem_append.mp mem with note | reply
  · exact Entry.transfers_of_isNote (notes e note)
  · obtain rfl := List.mem_singleton.mp reply
    exact plain

section

variable (between : ∀ m, (Law.interlude T).Keeps (meanwhile m))

include between

theorem send (caller : Option Endpoint) {r : Request} (plain : r.method.transfers = false) :
    (Law.interlude T).Keeps ((Link.via T meanwhile).send caller r) := by
  intro w _
  have request : w.Interlude T (w.add [.request caller r]) :=
    ⟨⟨_, rfl, .request (.nil _), by simpa [Entry.transfers] using plain⟩, fun _ => id⟩
  exact (request.trans (between r.method _ trivial)).trans (respond caller plain _)

omit between in
theorem state (w : World σ) (ep : Endpoint) (st : EndpointState) :
    w.Interlude T (w.setEndpoint ep st) := { World.Interlude.refl w with }

theorem yields (ep : Endpoint) : (Law.interlude T).Yields (.via T meanwhile) ep where
  shutdown _ _ := send between _ rfl
  close _ := send between _ rfl
  bare w _ := state w ep _

theorem create (ep : Endpoint) (kind : SocketKind) :
    (Law.interlude T).Keeps (ep.create (.via T meanwhile) kind) := by
  intro w _
  have creation := Endpoint.creation (.via T meanwhile) ep kind w
  have asks (native : Int) (w₁ : World σ) : w₁.Interlude T
      (ep.exclusively ((Link.via T meanwhile).send (some ep) (.create native 0)) w₁).2 := by
    rw [Endpoint.run_exclusively]
    exact ((state w₁ ep _).trans (send between _ rfl _ trivial)).trans (state _ ep _)
  generalize ep.create (.via T meanwhile) kind w = answer at creation
  cases creation with
  | taken _ noted => exact .noted noted
  | senseless _ _ noted => exact .noted noted
  | @refused native _ w₁ _ _ _ _ opened asked noted =>
    have asks := asks native w₁
    rw [asked] at asks
    exact ((World.Interlude.noted opened).trans asks).trans (.noted noted)
  | @made native _ w₁ _ _ _ _ opened asked noted =>
    have asks := asks native w₁
    rw [asked] at asks
    exact (((World.Interlude.noted opened).trans asks).trans (state _ ep _)).trans (.noted noted)

theorem perform (d : Deed) : (Law.interlude T).Keeps (d.perform (.via T meanwhile)) := by
  cases d with
  | create ep kind => exact create between ep kind
  | close ep => exact (yields between ep).closes
  | release ep => exact .release (yields between ep).closes
  | closeSocket s =>
    intro w _
    rcases Socket.closing (.via T meanwhile) s w with ⟨-, gives⟩ | ⟨-, closes⟩
    · change w.Interlude T (s.close _ w).2
      rw [gives]
      exact Law.Keeps.release (yields between s.endpoint).closes w trivial
    · exact (World.Interlude.setCreated w s).trans (.noted closes)

end

theorem amidst (levels depth : Nat) (m : Method) :
    (Law.interlude T).Keeps (World.amidst T depth levels m) := by
  refine .amidst (fun levels between depth m => .disturb fun w _ => ?_) levels depth m
  exact ⟨.waiting w depth m, .interlude T, trivial, fun _ _ kept => kept,
    fun d _ _ => perform (between (depth + 1)) d.deed⟩

end Interlude

namespace Aside

variable {T : Transport σ} {ep : Endpoint} {hd : Handle}
  {meanwhile : Method → StateM (World σ) Unit}

theorem leaves : (Law.aside (σ := σ) ep hd).Leaves ep where
  entry w e other := ⟨.add w (by simpa using other), rfl, id⟩
  transport w t := { World.Aside.refl w with }
  state w other st n ne := ⟨.setEndpoint w other st n fun is => absurd is ne, rfl, id⟩

theorem perform_other (between : ∀ m, (Law.aside ep hd).Keeps (meanwhile m)) {d : Deed}
    (other : d.target ≠ ep) : (Law.aside ep hd).Keeps (d.perform (.via T meanwhile)) := by
  apply (leaves.ignores between other).bears.perform
  exact fun s w st _ => { World.Aside.refl w with }

theorem perform_create {L : Link σ} (has : hd.fd ≠ none) (kind : SocketKind) :
    (Law.aside ep hd).Keeps ((Deed.create ep kind).perform L) := by
  intro w holds
  have has : (w.handle ep).fd ≠ none := holds.1.symm ▸ has
  have creation := Endpoint.creation L ep kind w
  change w.Aside ep (ep.create L kind w).2
  generalize ep.create L kind w = answer at creation
  cases creation with
  | taken _ noted => exact .noted noted
  | senseless bare _ _ => exact absurd bare has
  | refused bare _ _ _ _ => exact absurd bare has
  | made bare _ _ _ _ => exact absurd bare has

theorem perform_closed {L : Link σ} {d : Deed} (own : d.target = ep)
    (closes : ∀ kind, d ≠ .create ep kind) : (Law.aside ep {}).Keeps (d.perform L) := by
  intro w holds
  have bare := holds.1
  have release : (ep.release L w).2 = w := by rw [Endpoint.run_release_bare bare]
  cases d with
  | create ep kind => exact absurd (own ▸ rfl) (closes kind)
  | close ep =>
    obtain rfl : ep = _ := own
    exact .noted (Endpoint.noted_close_bare (congrArg Handle.fd bare))
  | release ep =>
    obtain rfl : ep = _ := own
    change w.Aside ep (ep.release L w).2
    rw [release]
    exact .refl w
  | closeSocket s =>
    obtain rfl : s.endpoint = _ := own
    change w.Aside s.endpoint (s.close L w).2
    rcases Socket.closing L s w with ⟨-, gives⟩ | ⟨-, closes⟩
    · rw [gives, release]
      exact .refl w
    · have same : w.Aside s.endpoint (w.setSocket s { w.socket s with created := true }) :=
        { World.Aside.refl w with }
      exact same.trans (.noted closes)

theorem amidst (levels depth : Nat) (m : Method) :
    (Law.aside ep hd).Keeps (World.amidst T (depth + 1) levels m) := by
  -- Further down nobody means to do anything to the endpoint, however many levels there are.
  induction levels generalizing depth m with
  | zero => exact .look _
  | succ levels ih =>
    refine .disturb fun w holds => ?_
    have waits : w.Aside ep (w.waiting (depth + 1) m) := .waiting w (Nat.succ_ne_zero depth) m
    refine ⟨waits, .aside ep hd, (Law.aside ep hd).stable holds waits, fun _ _ kept => kept,
      fun d mem due => perform_other (ih (depth + 1)) (holds.2 d mem ?_)⟩
    simp only [Disturbance.due, Bool.and_eq_true, decide_eq_true_eq] at due
    omega

end Aside

namespace World

def undergo (L : Link σ) (w : World σ) (d : Disturbance) : World σ :=
  (d.deed.perform L w).2.add [.disturbed (d.deed.perform L w).1]

variable {T : Transport σ} {L : Link σ} {law : Law σ}

theorem disturb_eq_foldl (depth : Nat) (m : Method) (w : World σ) :
    (World.disturb L depth m w).2 =
      (w.disturbances.filter (Disturbance.due w depth m)).foldl (undergo L)
        (w.waiting depth m) := by
  rw [run_disturb]
  generalize w.disturbances.filter (Disturbance.due w depth m) = ds
  generalize w.waiting depth m = w
  induction ds generalizing w with
  | nil => rfl
  | cons d ds ih =>
    rw [List.forIn_cons, List.foldl_cons]
    exact ih (w.undergo L d)

theorem keeps_undergo {w : World σ} {d : Disturbance} (kept : law.Keeps (d.deed.perform L))
    (holds : law.holds w) : law.keeps w (w.undergo L d) :=
  law.trans (kept w holds) (law.note _ _ (by simp [Entry.isNote]))

theorem keeps_foldl (law : Law σ) {ds : List Disturbance}
    (each : ∀ d ∈ ds, law.Keeps (d.deed.perform L)) {w : World σ} (holds : law.holds w) :
    law.keeps w (ds.foldl (undergo L) w) := by
  induction ds generalizing w with
  | nil => exact law.refl w
  | cons d ds ih =>
    obtain ⟨first, rest⟩ := List.forall_mem_cons.mp each
    have kept := keeps_undergo first holds
    exact law.trans kept (ih rest (law.stable holds kept))

/-- In the middle of a request nothing is transferred, whoever acts in it. -/
theorem interlude_interrupt (m : Method) (w : World σ) :
    w.Interlude T (World.interrupt T m w).2 :=
  Interlude.amidst w.disturbances.length 0 m w trivial

theorem Interlude.unmoved {p : σ → Prop} {w w' : World σ} (meanwhile : w.Interlude T w')
    (still : ∀ r t, r.method.transfers = false → p t → p (T.handle r t).state)
    (before : p w.transport) : p w'.transport := by
  obtain ⟨es, -, logged, none⟩ := meanwhile.log
  generalize w.transport = t at logged before
  generalize w'.transport = t' at logged
  induction logged with
  | nil => exact before
  | note _ _ ih => exact ih (fun e mem => none e (.tail _ mem)) before
  | request _ ih => exact ih (fun e mem => none e (.tail _ mem)) before
  | reply _ _ ih =>
    exact ih (fun e mem => none e (.tail _ mem)) (still _ _ (none _ List.mem_cons_self) before)

end World

end ProcessorSockets
