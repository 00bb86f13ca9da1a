import ProcessorSockets.Proofs.Law.Interlude

/-! What is meant to be done to an endpoint in the middle of its requests.  With each request of a
kind all that is planned comes nearer; a closing that is due in one leaves the endpoint without a
descriptor before the answer is there. -/

namespace ProcessorSockets

variable {σ : Type}

namespace Disturbance

def later (ds : List Disturbance) : List Disturbance :=
  (ds.filter (·.after ≠ 0)).map fun d => { d with after := d.after - 1 }

theorem filter_later (ds : List Disturbance) (k : Nat) :
    (later ds).filter (·.after = k) =
      (ds.filter (·.after = k + 1)).map fun d => { d with after := d.after - 1 } := by
  rw [later, List.filter_map, List.filter_filter]
  refine congrArg _ (List.filter_congr fun d _ => ?_)
  rw [Bool.eq_iff_iff]
  simp only [Function.comp_apply, decide_not, Bool.and_eq_true, decide_eq_true_eq,
    Bool.not_eq_true', decide_eq_false_iff_not]
  omega

end Disturbance

namespace World

def plans (w : World σ) (m : Method) (ep : Endpoint) : List Disturbance :=
  w.outer.filter fun d => d.during = m && d.deed.target = ep

def Closes (w : World σ) (ep : Endpoint) (d : Deed) : Prop :=
  d = .close ep ∨ d = .release ep ∨
    ∃ s : Socket, d = .closeSocket s ∧ s.endpoint = ep ∧ (w.socket s).created = true

/-- An endpoint is to be closed in the middle of a request, after so many of a kind.  It keeps its
descriptor till then, and is not made another in that request. -/
structure CutOff (w : World σ) (ep : Endpoint) (m : Method) (k : Nat) : Prop where
  before : ∀ d ∈ w.plans m ep, d.after < k → ∃ kind, d.deed = .create ep kind
  closed : ∃ vain d rest, (w.plans m ep).filter (·.after = k) = vain ++ d :: rest ∧
    (∀ c ∈ vain, ∃ kind, c.deed = .create ep kind) ∧ w.Closes ep d.deed ∧
    ∀ c ∈ rest, ∀ kind, c.deed ≠ .create ep kind
  shallow : w.Shallow ep

/-- An endpoint that is to be cut off has a descriptor of its own, which others get at. -/
structure Poised (w : World σ) (ep : Endpoint) (fd : Descriptor) (m : Method) (k : Nat) : Prop
    extends w.CutOff ep m k where
  owns : w.handle ep = .owning fd
  free : (w.endpoint ep).creating = false

variable {T : Transport σ} {w w' : World σ} {ep : Endpoint} {fd : Descriptor} {m : Method} {k : Nat}

theorem filter_due (free : (w.endpoint ep).creating = false) :
    (w.disturbances.filter (Disturbance.due w 0 m)).filter (·.deed.target = ep) =
      (w.plans m ep).filter (·.after = 0) := by
  rw [plans, outer, List.filter_filter, List.filter_filter, List.filter_filter]
  refine List.filter_congr fun d _ => ?_
  by_cases own : d.deed.target = ep
  · rw [Bool.eq_iff_iff]
    simp [Disturbance.due, own, free, and_comm, and_left_comm, and_assoc]
  · simp [own]

theorem mem_plans {d : Disturbance} : d ∈ w.plans m ep ↔
    d ∈ w.disturbances ∧ d.depth = 0 ∧ d.during = m ∧ d.deed.target = ep := by
  simp [plans, outer, and_comm, and_left_comm]

theorem plans_waiting (free : (w.endpoint ep).creating = false) :
    (w.waiting 0 m).plans m ep = Disturbance.later (w.plans m ep) := by
  have kept : (w.disturbances.filter (not ∘ Disturbance.due w 0 m)).filter
        ((fun d => (d.during = m && d.deed.target = ep) && d.depth = 0) ∘
          Disturbance.passed 0 m) =
      (w.plans m ep).filter (·.after ≠ 0) := by
    rw [plans, outer, List.filter_filter, List.filter_filter, List.filter_filter]
    refine List.filter_congr fun d _ => ?_
    simp only [Function.comp_apply, Disturbance.during_passed, Disturbance.deed_passed,
      Disturbance.depth_passed]
    by_cases own : d.deed.target = ep
    · by_cases mine : d.during = m <;> by_cases outer : d.depth = 0 <;>
        simp [Disturbance.due, own, mine, outer, free]
    · simp [own]
  rw [plans, outer, waiting, List.filter_filter, List.filter_map, kept, Disturbance.later]
  refine List.map_congr_left fun d mem => ?_
  obtain ⟨-, outer, mine, -⟩ := mem_plans.mp (List.mem_filter.mp mem).1
  rw [Disturbance.passed, if_pos ⟨outer, mine⟩]

theorem Closes.mono {d : Deed} (closes : w.Closes ep d)
    (created : ∀ s : Socket, (w.socket s).created = true → (w'.socket s).created = true) :
    w'.Closes ep d := by
  rcases closes with closes | closes | ⟨s, is, on, made⟩
  · exact .inl closes
  · exact .inr (.inl closes)
  · exact .inr (.inr ⟨s, is, on, created s made⟩)

theorem CutOff.nearer (cut : w.CutOff ep m (k + 1))
    (plans : w'.plans m ep = Disturbance.later (w.plans m ep)) (shallow : w'.Shallow ep)
    (created : ∀ s : Socket, (w.socket s).created = true → (w'.socket s).created = true) :
    w'.CutOff ep m k where
  before d mem early := by
    rw [plans, Disturbance.later] at mem
    obtain ⟨d, waits, rfl⟩ := List.mem_map.mp mem
    obtain ⟨mem, some⟩ := List.mem_filter.mp waits
    have some : d.after ≠ 0 := by simpa using some
    have early : d.after - 1 < k := early
    exact cut.before d mem (by omega)
  closed := by
    obtain ⟨vain, d, rest, due, creates, closes, spares⟩ := cut.closed
    rw [plans, Disturbance.filter_later, due, List.map_append, List.map_cons]
    refine ⟨_, _, _, rfl, ?_, closes.mono created, ?_⟩
    · exact List.forall_mem_map.mpr creates
    · exact List.forall_mem_map.mpr spares
  shallow := shallow

theorem handle_via {meanwhile : Method → StateM (World σ) Unit}
    (between : ∀ m, (Law.aside ep {}).Keeps (meanwhile m)) (r : Request) {w : World σ}
    (holds : (Law.aside ep {}).holds w) :
    (Law.aside ep {}).holds ((Link.via T meanwhile).send (some ep) r w).2 := by
  change (Law.aside ep {}).holds (T.respond (some ep) r
    (meanwhile r.method (w.add [.request (some ep) r])).2).2
  have asked : (Law.aside ep {}).holds (w.add [.request (some ep) r]) := holds
  have met := (Law.aside ep {}).stable asked (between r.method _ asked)
  rw [T.run_respond]
  exact met

theorem Closes.bare {meanwhile : Method → StateM (World σ) Unit}
    (between : ∀ m, (Law.aside ep {}).Keeps (meanwhile m)) {d : Deed} (closes : w.Closes ep d)
    (owns : w.handle ep = .owning fd) (shallow : w.Shallow ep) :
    (Law.aside ep {}).holds (d.perform (.via T meanwhile) w).2 := by
  have noted {w w' : World σ} (holds : (Law.aside ep {}).holds w) (noted : w.Noted w') :
      (Law.aside ep {}).holds w' := (Law.aside ep {}).stable holds (.noted noted)
  have given {w₁ : World σ} (opened : w.Noted w₁) :
      (Law.aside ep {}).holds (w₁.setHandle ep {}) := by
    obtain ⟨_, _, rfl⟩ := opened
    exact ⟨handle_setHandle_bare _ ep, shallow⟩
  -- The handle is gone before the transport is asked for anything.
  have close : (Law.aside ep {}).holds (ep.close (.via T meanwhile) w).2 := by
    have closing := Endpoint.closing (.via T meanwhile) ep w
    generalize ep.close (.via T meanwhile) w = answer at closing
    cases closing with
    | closed bare => exact nomatch bare.symm.trans (congrArg Handle.fd owns)
    | @owned mine w₁ _ _ _ _ opened closed ends =>
      have closing := Endpoint.ownedClosing (.via T meanwhile) ep mine (w₁.setHandle ep {})
      rw [closed] at closing
      cases closing with
      | @intro w₂ _ _ _ shut asked ends' =>
        have shut := noted (handle_via (T := T) between (.shutdown mine .both) (given opened)) shut
        have asks := handle_via (T := T) between (.close mine) shut
        rw [asked] at asks
        exact noted (noted asks ends') ends
    | @detached _ w₁ _ _ opened ends => exact noted (given opened) ends
  have release : (Law.aside ep {}).holds (ep.release (.via T meanwhile) w).2 := by
    rw [Endpoint.world_release, if_pos (by rw [owns]; rfl)]
    exact close
  rcases closes with rfl | rfl | ⟨s, rfl, rfl, made⟩
  · exact close
  · exact release
  · rcases Socket.closing (.via T meanwhile) s w with ⟨-, gives⟩ | ⟨unmade, -⟩
    · change (Law.aside s.endpoint {}).holds (s.close (.via T meanwhile) w).2
      rw [gives]
      exact release
    · exact nomatch unmade.symm.trans made

namespace Poised

theorem congr (poised : w.Poised ep fd m k) (endpoints : w'.endpoints = w.endpoints)
    (sockets : w'.sockets = w.sockets) (disturbances : w'.disturbances = w.disturbances) :
    w'.Poised ep fd m k := by
  obtain ⟨t, es, ss, n, ds, log⟩ := w
  obtain ⟨t', es', ss', n', ds', log'⟩ := w'
  obtain rfl : es' = es := endpoints
  obtain rfl : ss' = ss := sockets
  obtain rfl : ds' = ds := disturbances
  exact { poised with }

theorem interrupt (poised : w.Poised ep fd m (k + 1)) :
    (World.interrupt T m w).2.Poised ep fd m k ∧
      (World.interrupt T m w).2.talk ep = w.talk ep := by
  have created := (interlude_interrupt (T := T) m w).created
  obtain ⟨levels, same⟩ := interrupt_eq T m w
  rw [same] at created ⊢
  have waits : w.Aloof ep (w.waiting 0 m) := .waiting w 0 m
  have holds : (Law.aside ep (.owning fd)).holds (w.waiting 0 m) :=
    ⟨waits.handle.trans poised.owns, poised.shallow.waiting 0 m⟩
  have kept : (w.waiting 0 m).Aside ep
      (World.disturb (.via T (World.amidst T 1 levels)) 0 m w).2 := by
    rw [disturb_eq_foldl]
    refine keeps_foldl (.aside ep (.owning fd)) (fun d mem => ?_) holds
    obtain ⟨mem, due⟩ := List.mem_filter.mp mem
    simp only [Disturbance.due, Bool.and_eq_true, decide_eq_true_eq] at due
    by_cases own : d.deed.target = ep
    · obtain ⟨kind, creates⟩ := poised.before d
        (mem_plans.mpr ⟨mem, due.1.1.1, due.1.1.2, own⟩) (by omega)
      rw [creates]
      exact Aside.perform_create (Option.some_ne_none fd) kind
    · exact Aside.perform_other (Aside.amidst levels 0) own
  refine ⟨⟨poised.nearer ?_ (kept.shallow holds.2) created, ?_, ?_⟩, ?_⟩
  · rw [plans, kept.outer]
    exact plans_waiting poised.free
  · exact kept.handle.trans holds.1
  · exact kept.creating.trans (waits.creating.trans poised.free)
  · exact kept.talk.trans waits.talk

theorem bare (poised : w.Poised ep fd m 0) : (World.interrupt T m w).2.handle ep = {} := by
  obtain ⟨vain, d, rest, due, creates, closes, spares⟩ := poised.closed
  obtain ⟨early, late, all, vains, due⟩ :=
    List.filter_eq_append_iff.mp ((filter_due poised.free).trans due)
  obtain ⟨others, last, rfl, other, own, rests⟩ := List.filter_eq_cons_iff.mp due
  obtain ⟨levels, same⟩ := interrupt_eq T m w
  let L := Link.via T (World.amidst T 1 levels)
  have waits : w.Aloof ep (w.waiting 0 m) := .waiting w 0 m
  have holds : (Law.aside ep (.owning fd)).holds (w.waiting 0 m) :=
    ⟨waits.handle.trans poised.owns, poised.shallow.waiting 0 m⟩
  rw [same, disturb_eq_foldl, all, ← List.append_assoc, List.foldl_append, List.foldl_cons]
  -- Who comes first finds the descriptor there.
  have first : (w.waiting 0 m).Aside ep ((early ++ others).foldl (undergo L) (w.waiting 0 m)) := by
    refine keeps_foldl (.aside ep (.owning fd)) (fun c mem => ?_) holds
    by_cases mine : c.deed.target = ep
    · have mem : c ∈ vain := by
        rw [← vains]
        cases List.mem_append.mp mem with
        | inl early => exact List.mem_filter.mpr ⟨early, by simpa using mine⟩
        | inr among => exact absurd (by simpa using mine) (other c among)
      obtain ⟨kind, creates⟩ := creates c mem
      rw [creates]
      exact Aside.perform_create (Option.some_ne_none fd) kind
    · exact Aside.perform_other (Aside.amidst levels 0) mine
  have meanwhile : (w.waiting 0 m).Interlude T
      ((early ++ others).foldl (undergo L) (w.waiting 0 m)) :=
    keeps_foldl (.interlude T)
      (fun c _ => Interlude.perform (Interlude.amidst levels 1) c.deed) trivial
  generalize (early ++ others).foldl (undergo L) (w.waiting 0 m) = w₁ at first meanwhile
  have found := (Law.aside ep (.owning fd)).stable holds first
  have closed : (Law.aside ep {}).holds (w₁.undergo L d) :=
    (closes.mono meanwhile.created).bare (Aside.amidst levels 0) found.1 found.2
  -- Who comes later finds it closed.
  have rest : (w₁.undergo L d).Aside ep (last.foldl (undergo L) (w₁.undergo L d)) := by
    refine keeps_foldl (.aside ep {}) (fun c mem => ?_) closed
    by_cases mine : c.deed.target = ep
    · refine Aside.perform_closed mine (spares c ?_)
      rw [← rests]
      exact List.mem_filter.mpr ⟨mem, by simpa using mine⟩
    · exact Aside.perform_other (Aside.amidst levels 0) mine
  exact rest.handle.trans closed.1

end Poised

end World

/-- Conditions under which so many more requests of a kind go as if nobody else was there. -/
structure Lasts (T : Transport σ) (ep : Endpoint) (fd : Descriptor) (m : Method)
    (Q : Nat → World σ → Prop) : Prop where
  owns : ∀ k w, Q k w → w.handle ep = .owning fd
  send : ∀ k w, Q (k + 1) w → ∀ r : Request, r.method = m →
    Q k ((Link.disturbed T).send (some ep) r w).2 ∧
      ((Link.disturbed T).send (some ep) r w).2.talk ep = w.talk ep ++
        Call.entries (some ep) ⟨r, ((Link.disturbed T).send (some ep) r w).1⟩
  noted : ∀ k w w', Q k w → w.Noted w' → Q k w'

namespace World

variable {T : Transport σ} {w w' : World σ} {ep : Endpoint} {fd : Descriptor} {m : Method} {k : Nat}

theorem Noted.talk (noted : w.Noted w') : w'.talk ep = w.talk ep := (Aloof.noted noted).talk

theorem talk_of_service (ep : Endpoint) (kept : (Law.service T).keeps w w') :
    ∃ more, w'.talk ep = w.talk ep ++ more := by
  obtain ⟨es, log, -⟩ := kept
  exact ⟨_, by rw [talk, log, List.filter_append]; rfl⟩

theorem Called.talk {calls : List Call} (called : w.Called (some ep) calls w') :
    w'.talk ep = w.talk ep ++ calls.flatMap (·.entries (some ep)) := by
  have told (w : World σ) : w.talk ep = w.said.filter (·.caller? = some ep) := by
    rw [World.talk, World.said, List.filter_filter]
    refine List.filter_congr fun e _ => ?_
    cases e <;> simp [Entry.caller?, Entry.isNote]
  have own : (calls.flatMap (·.entries (some ep))).filter (·.caller? = some ep) =
      calls.flatMap (·.entries (some ep)) := by
    refine List.filter_eq_self.mpr fun e mem => ?_
    obtain ⟨c, -, mem⟩ := List.mem_flatMap.mp mem
    simp only [Call.entries, List.mem_cons, List.not_mem_nil, or_false] at mem
    rcases mem with rfl | rfl <;> simp [Entry.caller?]
  rw [told, told, called.said, List.filter_append, own]

theorem lasts_quiet : Lasts T ep fd m fun _ (w : World σ) =>
    w.disturbances = [] ∧ w.handle ep = .owning fd where
  owns _ _ here := here.2
  send _ w here r _ := by
    have called := Link.straight_disturbed T (some ep) r w here.1
    refine ⟨⟨called.quiet here.1, (called.handle ep).trans here.2⟩, ?_⟩
    simpa using called.talk
  noted _ _ _ here noted := ⟨noted.quiet here.1, (noted.handle ep).trans here.2⟩

theorem lasts_poised : Lasts T ep fd m fun k (w : World σ) => w.Poised ep fd m k where
  owns _ _ poised := poised.owns
  send k w poised r is := by
    subst is
    have asked : (w.add [.request (some ep) r]).Poised ep fd r.method (k + 1) :=
      poised.congr rfl rfl rfl
    obtain ⟨met, talk⟩ := asked.interrupt (T := T)
    rw [Link.run_disturbed]
    refine ⟨?_, ?_⟩
    · refine met.congr ?_ ?_ ?_ <;> rw [T.run_respond] <;> rfl
    · rw [(Aloof.respond ep r _).2, talk, talk_add]
      simp [Entry.caller?, Call.entries]
  noted k w w' poised noted := by
    obtain ⟨_, _, rfl⟩ := noted
    exact poised.congr rfl rfl rfl

/-- When the endpoint is closed in the middle of a request, it hears no more than the answer, and
says nothing of other transfers. -/
theorem Poised.send {r : Request} (poised : w.Poised ep fd r.method 0) : ∃ during,
    ((Link.disturbed T).send (some ep) r w).2.handle ep = {} ∧
    ((Link.disturbed T).send (some ep) r w).2.talk ep = w.talk ep ++ .request (some ep) r :: during
      ++ [.reply (some ep) r ((Link.disturbed T).send (some ep) r w).1] ∧
    ∀ e ∈ during, e.transfers = false := by
  have asked : (w.add [.request (some ep) r]).Poised ep fd r.method 0 := poised.congr rfl rfl rfl
  obtain ⟨es, log, -, none⟩ := (interlude_interrupt (T := T) r.method
    (w.add [.request (some ep) r])).log
  refine ⟨es.filter (·.caller? = some ep), ?_, ?_, fun e mem => none e (List.mem_filter.mp mem).1⟩
  · rw [Link.run_disturbed, (Aloof.respond ep r _).1.handle]
    exact asked.bare
  · rw [Link.run_disturbed, (Aloof.respond ep r _).2, talk, log, List.filter_append, log_add,
      List.filter_append]
    simp [Entry.caller?, talk]

end World

/-- An endpoint makes some calls one after the other, is closed in the middle of the last one, and
says nothing after its answer. -/
structure World.CutShort (ep : Endpoint) (calls : List Call) (last : Call) (w w' : World σ) :
    Prop where
  bare : w'.handle ep = {}
  talk : ∃ during, w'.talk ep = w.talk ep ++ calls.flatMap (·.entries (some ep)) ++
    (.request (some ep) last.request :: during ++
      [.reply (some ep) last.request last.answer]) ∧ ∀ e ∈ during, e.transfers = false

theorem World.CutShort.noted {ep : Endpoint} {calls : List Call} {last : Call} {w w' w'' : World σ}
    (short : w.CutShort ep calls last w') (noted : w'.Noted w'') :
    w.CutShort ep calls last w'' where
  bare := (noted.handle ep).trans short.bare
  talk := by
    obtain ⟨during, talk, none⟩ := short.talk
    exact ⟨during, noted.talk.trans talk, none⟩

end ProcessorSockets
