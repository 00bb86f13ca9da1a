import ProcessorSockets.Proofs.Conduct

namespace ProcessorSockets

open World (Called)

variable {σ : Type}

namespace Transport

inductive Logged (T : Transport σ) : σ → List Entry → σ → Prop
  | nil (t : σ) : Logged T t [] t
  | note {t t' : σ} {e : Entry} {es : List Entry} (note : e.isNote = true) :
      Logged T t es t' → Logged T t (e :: es) t'
  | request {t t' : σ} {caller : Option Endpoint} {r : Request} {es : List Entry} :
      Logged T t es t' → Logged T t (.request caller r :: es) t'
  | reply {t t' : σ} {caller : Option Endpoint} {r : Request} {answer : Except NativeError r.Reply}
      {es : List Entry} (answers : (T.handle r t).reply = answer) :
      Logged T (T.handle r t).state es t' → Logged T t (.reply caller r answer :: es) t'

/-- How a transport answers calls that are made one after the other. -/
inductive Serves (T : Transport σ) : σ → List Call → σ → Prop
  | nil (t : σ) : Serves T t [] t
  | cons {t t' : σ} {r : Request} {answer : Except NativeError r.Reply} {calls : List Call}
      (answers : (T.handle r t).reply = answer) :
      Serves T (T.handle r t).state calls t' → Serves T t (⟨r, answer⟩ :: calls) t'

variable {T : Transport σ} {t t' t'' : σ} {es more : List Entry}

@[simp] theorem serves_nil : T.Serves t [] t' ↔ t' = t := by
  constructor
  · rintro ⟨⟩
    rfl
  · rintro rfl
    exact .nil t'

@[simp] theorem serves_cons {r : Request} {answer : Except NativeError r.Reply}
    {calls : List Call} : T.Serves t (⟨r, answer⟩ :: calls) t' ↔
      (T.handle r t).reply = answer ∧ T.Serves (T.handle r t).state calls t' := by
  constructor
  · rintro (_ | ⟨answers, rest⟩)
    exact ⟨answers, rest⟩
  · rintro ⟨answers, rest⟩
    exact .cons answers rest

theorem Serves.append {calls rest : List Call} (first : T.Serves t calls t')
    (second : T.Serves t' rest t'') : T.Serves t (calls ++ rest) t'' := by
  induction first with
  | nil => exact second
  | cons answers _ ih => exact .cons answers (ih second)

namespace Logged

theorem append (first : T.Logged t es t') (second : T.Logged t' more t'') :
    T.Logged t (es ++ more) t'' := by
  induction first with
  | nil => exact second
  | note note _ ih => exact .note note (ih second)
  | request _ ih => exact .request (ih second)
  | reply answers _ ih => exact .reply answers (ih second)

theorem notes (t : σ) (notes : ∀ e ∈ es, e.isNote = true) : T.Logged t es t := by
  induction es with
  | nil => exact .nil t
  | cons e es ih =>
    obtain ⟨note, rest⟩ := List.forall_mem_cons.mp notes
    exact .note note (ih rest)

theorem said (logged : T.Logged t es t') : T.Logged t (es.filter (!·.isNote)) t' := by
  induction logged with
  | nil t => exact .nil t
  | note note _ ih => rwa [List.filter_cons_of_neg (by simp [note])]
  | request _ ih => exact .request ih
  | reply answers _ ih => exact .reply answers ih

theorem serves {caller : Option Endpoint} {calls : List Call}
    (logged : T.Logged t (calls.flatMap (·.entries caller)) t') : T.Serves t calls t' := by
  induction calls generalizing t with
  | nil =>
    cases logged with
    | nil => exact .nil _
  | cons c calls ih =>
    obtain ⟨r, answer⟩ := c
    cases logged with
    | note note => cases note
    | request logged =>
      cases logged with
      | note note => cases note
      | reply answers logged => exact .cons answers (ih logged)

end Logged

end Transport

def Law.service (T : Transport σ) : Law σ where
  holds _ := True
  keeps w w' := ∃ es, w'.log = w.log ++ es ∧ T.Logged w.transport es w'.transport
  refl w := ⟨[], (List.append_nil _).symm, .nil _⟩
  trans := by
    rintro a b c ⟨es, log, logged⟩ ⟨more, log', logged'⟩
    exact ⟨es ++ more, by rw [log', log, List.append_assoc], logged.append logged'⟩
  stable _ _ := trivial
  note w es notes := ⟨es, rfl, .notes _ notes⟩

/-- What was said, by whomever, is what the transport answered. -/
theorem World.serves_of_said {T : Transport σ} {caller : Option Endpoint} {calls : List Call}
    {w w' : World σ} (said : w'.said = w.said ++ calls.flatMap (·.entries caller))
    (kept : (Law.service T).keeps w w') : T.Serves w.transport calls w'.transport := by
  obtain ⟨es, log, logged⟩ := kept
  rw [World.said, World.said, log, List.filter_append, List.append_cancel_left_eq] at said
  have logged := logged.said
  rw [said] at logged
  exact logged.serves

theorem World.Called.serves {T : Transport σ} {caller : Option Endpoint} {calls : List Call}
    {w w' : World σ} (called : w.Called caller calls w') (kept : (Law.service T).keeps w w') :
    T.Serves w.transport calls w'.transport := World.serves_of_said called.said kept

namespace Service

variable {T : Transport σ} {meanwhile : Method → StateM (World σ) Unit}

theorem send (between : ∀ m, (Law.service T).Keeps (meanwhile m)) (caller : Option Endpoint)
    (r : Request) : (Law.service T).Keeps ((Link.via T meanwhile).send caller r) := by
  have requests : (Law.service T).Keeps (World.record (σ := σ) [.request caller r]) :=
    fun w _ => ⟨_, rfl, .request (.nil _)⟩
  refine .bind requests fun _ => .bind (between r.method) fun _ w _ => ?_
  rw [T.run_respond]
  exact ⟨_, List.append_assoc .., .append (.notes _ (by simp)) (.reply rfl (.nil _))⟩

theorem ignores (between : ∀ m, (Law.service T).Keeps (meanwhile m)) (ep : Endpoint) :
    (Law.service T).Ignores (.via T meanwhile) ep where
  send := send between _
  state w _ _ := (Law.service T).refl w

theorem interrupt (m : Method) : (Law.service T).Keeps (World.interrupt T m) := by
  refine .interrupt (fun between depth m => .disturb fun w _ => ?_) m
  refine ⟨(Law.service T).refl w, .service T, trivial, fun _ _ kept => kept, fun d _ _ => ?_⟩
  apply (ignores between _).bears.perform
  exact fun s w st _ => (Law.service T).refl w

theorem admitsVia (between : ∀ m, (Law.service T).Keeps (meanwhile m)) (ep : Endpoint) :
    (Law.service T).Admits (.via T meanwhile) ep :=
  (ignores between ep).admits
    { accept := fun _ _ _ => send between _ _
      turnAway := fun _ _ _ => send between _ _ }

theorem admits (ep : Endpoint) : (Law.service T).Admits (.disturbed T) ep :=
  admitsVia interrupt ep

theorem admitsDirect (ep : Endpoint) : (Law.service T).Admits (.direct T) ep :=
  admitsVia (fun _ => .look _) ep

theorem hostsDirect : (Law.service T).Hosts (.direct T) where
  make _ _ w _ := (Law.service T).refl w
  guest _ _ _ _ := ⟨Law.service T, trivial, fun _ _ kept => kept, admitsDirect _,
    ⟨fun _ _ w _ => (Law.service T).refl w⟩⟩

end Service

end ProcessorSockets
