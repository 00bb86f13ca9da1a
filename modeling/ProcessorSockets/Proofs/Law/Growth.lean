import ProcessorSockets.Proofs.Law.Link

namespace ProcessorSockets

variable {σ : Type}

def Law.growth : Law σ where
  holds _ := True
  keeps w w' := w.log <+: w'.log
  refl w := List.prefix_refl w.log
  trans := List.IsPrefix.trans
  stable _ _ := trivial
  note w es _ := List.prefix_append w.log es

def World.Heard (ep : Endpoint) (r : Request) (answer : Except NativeError r.Reply)
    (w w' : World σ) : Prop :=
  ∃ during after, w'.log =
    w.log ++ .request (some ep) r :: during ++ .reply (some ep) r answer :: after

theorem World.Heard.later {ep : Endpoint} {r : Request} {answer : Except NativeError r.Reply}
    {w w' w'' : World σ} (heard : w.Heard ep r answer w') (grows : w'.log <+: w''.log) :
    w.Heard ep r answer w'' := by
  obtain ⟨during, after, log⟩ := heard
  obtain ⟨more, log'⟩ := grows
  exact ⟨during, after ++ more, by rw [← log', log, List.append_assoc]; rfl⟩

namespace Growth

variable {T : Transport σ} {meanwhile : Method → StateM (World σ) Unit}

theorem ignores (between : ∀ m, Law.growth.Keeps (meanwhile m)) (ep : Endpoint) :
    Law.growth.Ignores (.via T meanwhile) ep where
  send _ := .send (between _) (fun w => List.prefix_append w.log _)
    (fun w _ => List.prefix_refl w.log) fun w _ => List.prefix_append w.log _
  state w _ _ := List.prefix_refl w.log

theorem interrupt (m : Method) : Law.growth.Keeps (World.interrupt T m) := by
  refine .interrupt (fun between depth m => .disturb fun w _ => ?_) m
  refine ⟨List.prefix_refl w.log, .growth, trivial, fun _ _ kept => kept, fun d _ _ => ?_⟩
  apply (ignores between _).bears.perform
  exact fun s w st _ => List.prefix_refl w.log

/-- A request is answered in the end, whatever happens in its middle. -/
theorem heard_via (between : ∀ m, Law.growth.Keeps (meanwhile m)) (ep : Endpoint) (r : Request)
    (w : World σ) : w.Heard ep r ((Link.via T meanwhile).send (some ep) r w).1
      ((Link.via T meanwhile).send (some ep) r w).2 := by
  obtain ⟨during, met⟩ := between r.method (w.add [.request (some ep) r]) trivial
  change w.Heard ep r (T.respond (some ep) r
      (meanwhile r.method (w.add [.request (some ep) r])).2).1
    (T.respond (some ep) r (meanwhile r.method (w.add [.request (some ep) r])).2).2
  generalize (meanwhile r.method (w.add [.request (some ep) r])).2 = w' at met
  rw [T.run_respond]
  refine ⟨during ++ (T.handle r w'.transport).notes.map Note.entry, [], ?_⟩
  simp [World.add, ← met]

theorem heard_send (ep : Endpoint) (r : Request) (w : World σ) :
    w.Heard ep r ((Link.disturbed T).send (some ep) r w).1
      ((Link.disturbed T).send (some ep) r w).2 := heard_via interrupt ep r w

end Growth

end ProcessorSockets
