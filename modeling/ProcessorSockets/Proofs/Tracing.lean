import ProcessorSockets.Disturbance
import ProcessorSockets.Proofs.Run

/-! The spans of traced operations.  A span is closed when its operation ends, after all that
was opened within, and tells how the operation ended.  Of itself it tells twice: when it starts, and
when it ends. -/

namespace ProcessorSockets

variable {σ α β : Type} {foreign : String → Prop}

def Entry.isPlain : Entry → Bool
  | .opened _ => false
  | .told _ _ => false
  | .closed _ => false
  | _ => true

@[simp] theorem Entry.isPlain_entry (n : Note) : n.entry.isPlain = true := by cases n <;> rfl

def Span.Tells (span : Span) : Except SocketError α → Prop
  | .ok _ => span.result = some .success ∧ span.error = none
  | .error e => span.result = some .failure ∧ span.error = some e.message

theorem Span.Tells.took {span : Span} {r : Except SocketError α} (tells : span.Tells r)
    (elapsed : Duration) : (span.took elapsed).Tells r := by
  cases r <;> simpa [Tells] using tells

inductive Span.Times (span : Span) (elapsed : Duration) : Event → Prop
  | fast (short : elapsed.millis ≤ 100)
      (micros : span.durationMicros = some (.ofNat elapsed.micros)) : Times span elapsed .completed
  | slow (long : 100 < elapsed.millis)
      (millis : span.durationMillis = some (.ofNat elapsed.millis)) : Times span elapsed .slow

theorem Span.times_took (span : Span) (elapsed : Duration) :
    (span.took elapsed).Times elapsed (.ended elapsed) := by
  unfold Span.took Event.ended Duration.isLong
  by_cases long : 100 < elapsed.millis
  · simp only [long, decide_true, if_true]
    exact .slow long rfl
  · simp only [long, decide_false, Bool.false_eq_true, if_false]
    exact .fast (Nat.le_of_not_lt long) rfl

def Event.Ends (e : Event) : Prop := e = .completed ∨ e = .slow

theorem Span.Times.ends {span : Span} {elapsed : Duration} {e : Event}
    (times : span.Times elapsed e) : e.Ends := by
  cases times with
  | fast => exact .inl rfl
  | slow => exact .inr rfl

/-- Each span is closed after all spans that were opened within it.  The operations of the
outermost spans are listed, but for those of others who happen to act meanwhile. -/
inductive Nests (foreign : String → Prop) : List String → List Entry → Prop
  | nil : Nests foreign [] []
  | plain {e : Entry} {operations : List String} {es : List Entry} (plain : e.isPlain = true)
      (rest : Nests foreign operations es) : Nests foreign operations (e :: es)
  | span (span : Span) {ending : Event} (ends : ending.Ends) {inner operations : List String}
      {inside es : List Entry} (within : Nests foreign inner inside)
      (rest : Nests foreign operations es) :
      Nests foreign (span.operation :: operations)
        (.opened span.operation :: .told span.operation .started :: inside ++
          .told span.operation ending :: .closed span :: es)
  | other (span : Span) {ending : Event} (ends : ending.Ends) {inner operations : List String}
      {inside es : List Entry} (theirs : foreign span.operation)
      (within : Nests foreign inner inside) (rest : Nests foreign operations es) :
      Nests foreign operations
        (.opened span.operation :: .told span.operation .started :: inside ++
          .told span.operation ending :: .closed span :: es)

namespace Nests

theorem append {first second : List String} {es es' : List Entry} (nests : Nests foreign first es)
    (rest : Nests foreign second es') : Nests foreign (first ++ second) (es ++ es') := by
  induction nests with
  | nil => exact rest
  | plain isPlain _ ih => exact .plain isPlain ih
  | span span ends within _ _ ih =>
    rw [List.append_assoc]
    exact .span span ends within ih
  | other span ends theirs within _ _ ih =>
    rw [List.append_assoc]
    exact .other span ends theirs within ih

theorem others {operations : List String} {es : List Entry} (nests : Nests foreign operations es)
    (theirs : ∀ operation ∈ operations, foreign operation) : Nests foreign [] es := by
  induction nests with
  | nil => exact .nil
  | plain isPlain _ ih => exact .plain isPlain (ih theirs)
  | span span ends within _ _ ih =>
    exact .other span ends (theirs _ (by simp)) within (ih fun _ mem => theirs _ (by simp [mem]))
  | other span ends theirs' within _ _ ih => exact .other span ends theirs' within (ih theirs)

theorem plains {es : List Entry} (all : ∀ e ∈ es, e.isPlain = true) : Nests foreign [] es := by
  induction es with
  | nil => exact .nil
  | cons e es ih => exact .plain (all e (by simp)) (ih fun e mem => all e (by simp [mem]))

end Nests

def World.Spans (foreign : String → Prop) (operations : List String) (w w' : World σ) : Prop :=
  ∃ es, w'.log = w.log ++ es ∧ Nests foreign operations es

namespace World.Spans

variable {w w' w'' : World σ} {first second : List String}

theorem refl (w : World σ) : w.Spans foreign [] w := ⟨[], (List.append_nil _).symm, .nil⟩

theorem trans (before : w.Spans foreign first w') (after : w'.Spans foreign second w'') :
    w.Spans foreign (first ++ second) w'' := by
  obtain ⟨es, log, nests⟩ := before
  obtain ⟨es', log', nests'⟩ := after
  exact ⟨es ++ es', by rw [log', log, List.append_assoc], nests.append nests'⟩

theorem plains (w : World σ) {es : List Entry} (all : ∀ e ∈ es, e.isPlain = true) :
    w.Spans foreign [] (w.add es) := ⟨es, rfl, .plains all⟩

theorem others (spans : w.Spans foreign first w')
    (theirs : ∀ operation ∈ first, foreign operation) : w.Spans foreign [] w' := by
  obtain ⟨es, log, nests⟩ := spans
  exact ⟨es, log, nests.others theirs⟩

theorem one (w : World σ) {e : Entry} (plain : e.isPlain = true) :
    w.Spans foreign [] (w.add [e]) := plains w (by simpa using plain)

end World.Spans

/-- What a traced operation leaves in the log: one span, around the spans of the operations that
it is made of.  The span tells that it starts, that it ends or was slow, and when it is closed how
the operation ended. -/
def Recorded (L : Link σ) (foreign : String → Prop) (operation : String) (inner : List String)
    (w : World σ) (run : Except SocketError α × World σ) : Prop :=
  let opened := w.add [.opened operation, .told operation .started]
  ∃ (inside : List Entry) (w' : World σ) (ending : Event) (span : Span),
    w'.log = opened.log ++ inside ∧ Nests foreign inner inside ∧
      run.2 = w'.add [.told operation ending, .closed span] ∧ span.operation = operation ∧
        span.Times (L.elapsed opened w') ending ∧ span.Tells run.1

theorem Recorded.spans {L : Link σ} {operation : String} {inner : List String} {w : World σ}
    {run : Except SocketError α × World σ} (recorded : Recorded L foreign operation inner w run) :
    w.Spans foreign [operation] run.2 := by
  obtain ⟨inside, w', ending, span, log, nests, ends, rfl, times, _⟩ := recorded
  refine ⟨_, ?_, .span span times.ends nests .nil⟩
  rw [ends, World.log_add, log]
  simp

def Discreet (foreign : String → Prop) (step : World σ → α × World σ) : Prop :=
  ∀ w : World σ, w.Spans foreign [] (step w).2

namespace Discreet

theorem look (f : World σ → α) : Discreet foreign fun w => (f w, w) := fun w => .refl w

theorem bind {step : StateM (World σ) α} {next : α → StateM (World σ) β}
    (first : Discreet foreign step) (rest : ∀ a, Discreet foreign (next a)) :
    Discreet foreign (step >>= next) := fun w => (first w).trans (rest _ _)

theorem record {es : List Entry} (all : ∀ e ∈ es, e.isPlain = true) :
    Discreet foreign (World.record (σ := σ) es) := fun w => .plains w all

theorem emit (level : Level) (message : String) :
    Discreet foreign (World.emit (σ := σ) level message) := record (by simp [Entry.isPlain])

theorem setHandle (ep : Endpoint) (h : Handle) :
    Discreet foreign (ep.setHandle (σ := σ) h) := fun w => .refl w

theorem loop {l : List β} {f : β → PUnit → StateM (World σ) (ForInStep PUnit)}
    (each : ∀ b ∈ l, ∀ u, Discreet foreign (f b u)) (u : PUnit) :
    Discreet foreign (forIn l u f) := by
  induction l generalizing u with
  | nil => exact look _
  | cons b l ih =>
    rw [List.forIn_cons]
    apply bind (each b (by simp) u)
    intro r
    cases r with
    | done v => exact look _
    | yield v => exact ih (fun c hc => each c (by simp [hc])) v

theorem andThen {step : Action σ α} {next : α → Action σ β} (first : Discreet foreign step)
    (rest : ∀ a, Discreet foreign (next a)) : Discreet foreign (step >>= next) := by
  intro w
  rw [Action.run_bind]
  have before := first w
  match run : step w with
  | (.ok a, w') =>
    rw [run] at before
    exact before.trans (rest a w')
  | (.error e, w') => rwa [run] at before

theorem throw' (e : SocketError) : Discreet foreign (throw e : Action σ α) := look _

theorem ofExcept (r : Except SocketError α) :
    Discreet foreign (Action.ofExcept (σ := σ) r) := look _

theorem plain {step : StateM (World σ) α} (h : Discreet foreign step) :
    Discreet foreign (Action.plain step) := h

theorem attempt {step : Action σ α} (h : Discreet foreign step) : Discreet foreign step.attempt := h

theorem fd (ep : Endpoint) : Discreet foreign (ep.fd (σ := σ)) := by
  intro w
  rw [Endpoint.run_fd]
  exact .refl w

end Discreet

def Span.Clear (span : Span) : Prop := span.error = none

def Span.Good (span : Span) : Prop := span.Tells (.ok ())

namespace Traced

def Ended (foreign : String → Prop) (operation : String) (inner : List String)
    (after : Span → Prop) (w : World σ) (run : (Except SocketError α × Span) × World σ) : Prop :=
  w.Spans foreign inner run.2 ∧ run.1.2.operation = operation ∧
    match run.1.1 with
    | .ok _ => after run.1.2
    | .error e => run.1.2.Tells (α := α) (.error e)

def Leads (foreign : String → Prop) (operation : String) (before after : Span → Prop)
    (step : Traced σ α) : Prop :=
  ∀ span w, span.operation = operation → before span →
    Ended foreign operation [] after w (step span w)

variable {operation : String} {before between after : Span → Prop}

theorem ended_finish {L : Link σ} {part : String} {inner : List String} {step : Action σ α}
    {w : World σ} (recorded : Recorded L foreign part inner w (step w)) {span : Span}
    (same : span.operation = operation) (clear : span.Clear) :
    Ended foreign operation [part] Span.Good w (Traced.finish step span w) := by
  rw [run_finish]
  refine ⟨recorded.spans, (Span.operation_finish ..).trans same, ?_⟩
  cases (step w).1 with
  | ok _ => exact ⟨rfl, clear⟩
  | error _ => exact ⟨rfl, rfl⟩

namespace Leads

theorem bind {step : Traced σ α} {next : α → Traced σ β}
    (first : step.Leads foreign operation before between)
    (rest : ∀ a, (next a).Leads foreign operation between after) :
    (step >>= next).Leads foreign operation before after := by
  intro span w same holds
  rw [Traced.run_bind]
  have led := first span w same holds
  match run : step span w with
  | ((.ok a, span'), w') =>
    rw [run] at led
    have led' := rest a span' w' led.2.1 led.2.2
    exact ⟨led.1.trans led'.1, led'.2⟩
  | ((.error e, span'), w') =>
    rw [run] at led
    exact led

theorem finish {step : Action σ α} (h : Discreet foreign step) :
    (Traced.finish step).Leads foreign operation Span.Clear Span.Good := by
  intro span w same clear
  rw [Traced.run_finish]
  refine ⟨h w, (Span.operation_finish ..).trans same, ?_⟩
  cases (step w).1 with
  | ok _ => exact ⟨rfl, clear⟩
  | error _ => exact ⟨rfl, rfl⟩

theorem clear {step : Traced σ α} (h : step.Leads foreign operation before Span.Good) :
    step.Leads foreign operation before Span.Clear := by
  intro span w same holds
  have led := h span w same holds
  refine ⟨led.1, led.2.1, ?_⟩
  cases run : (step span w).1.1 with
  | ok _ =>
    rw [Ended, run] at led
    exact led.2.2.2
  | error _ =>
    rw [Ended, run] at led
    exact led.2.2

theorem refuse (e : SocketError) :
    (Traced.finish (throw e : Action σ α)).Leads foreign operation Span.Clear after :=
  fun _ w same _ => ⟨.refl w, same, rfl, rfl⟩

theorem descriptor (fd : Descriptor)
    (still : ∀ span, before span → before (span.recordDescriptor fd)) :
    (Traced.note (σ := σ) (·.recordDescriptor fd)).Leads foreign operation before before :=
  fun span w same holds => ⟨.refl w, same, still span holds⟩

theorem address (a : Address) :
    (Traced.note (σ := σ) (·.recordAddress a.cpu a.name)).Leads foreign operation
      Span.Clear Span.Clear :=
  fun _ w same clear => ⟨.refl w, same, clear⟩

theorem success :
    (Traced.note (σ := σ) (·.recordResult true)).Leads foreign operation Span.Clear Span.Good :=
  fun _ w same clear => ⟨.refl w, same, rfl, clear⟩

theorem plain {step : StateM (World σ) α} (h : Discreet foreign step) :
    (Traced.plain step).Leads foreign operation before before :=
  fun _ w same holds => ⟨h w, same, holds⟩

theorem refuseIf {c : Prop} [Decidable c] {e : SocketError} {next : Unit → Traced σ α}
    (h : (next ()).Leads foreign operation Span.Clear after) :
    (if c then Traced.finish (throw e) >>= next else next ()).Leads foreign operation
      Span.Clear after := by
  split
  · exact .bind (refuse e) fun _ => h
  · exact h

end Leads

end Traced

theorem Recorded.ofEnded {L : Link σ} {operation : String} {inner : List String}
    {body : Traced σ α} {w : World σ} (ended : Traced.Ended foreign operation inner Span.Good
      (w.add (Entry.opening operation))
      (body (.opened operation) (w.add (Entry.opening operation)))) :
    Recorded L foreign operation inner w (traced L operation body w) := by
  obtain ⟨⟨es, log, nests⟩, same, told⟩ := ended
  rw [run_traced]
  refine ⟨es, _, _, _, log, nests, rfl, (Span.operation_took ..).trans same, Span.times_took ..,
    Span.Tells.took ?_ _⟩
  -- The ending event is told on either way out, before the span is closed.
  cases run : (body (.opened operation) (w.add (Entry.opening operation))).1.1 with
  | ok _ =>
    rw [run] at told
    exact told
  | error _ =>
    rw [run] at told
    exact told

theorem Recorded.ofTraced {L : Link σ} {operation : String} {body : Traced σ α}
    (h : body.Leads foreign operation Span.Clear Span.Good) (w : World σ) :
    Recorded L foreign operation [] w (traced L operation body w) :=
  .ofEnded (h (.opened operation) (w.add (Entry.opening operation)) rfl rfl)

end ProcessorSockets
