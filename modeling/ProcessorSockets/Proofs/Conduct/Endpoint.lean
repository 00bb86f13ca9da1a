import ProcessorSockets.Proofs.Bare
import ProcessorSockets.Guard
import ProcessorSockets.Proofs.Conduct.Work

namespace ProcessorSockets

open Call (Settles Clean Confined)
open World (Called)

variable {σ α : Type}

/-- Calls that give an endpoint a descriptor, which it creates, or which another accepts for
it. -/
inductive Call.Give (caller : Option Endpoint) (calls : List Call) (on : Endpoint)
    (fd : Descriptor) : Prop
  | created (own : caller = some on) (made : fd ∈ calls.filterMap Call.created?)
  | accepted {listener : Endpoint} (other : caller = some listener) (differ : listener ≠ on)
      (made : fd ∈ calls.filterMap Call.accepted?)

theorem Call.Give.mono {caller : Option Endpoint} {calls more : List Call} {on : Endpoint}
    {fd : Descriptor} (give : Give caller calls on fd) (all : calls ⊆ more) :
    Give caller more on fd := by
  cases give with
  | created own made => exact .created own (List.filterMap_subset _ all made)
  | accepted other differ made => exact .accepted other differ (List.filterMap_subset _ all made)

inductive Handle.Comes (caller : Option Endpoint) (on : Endpoint) (calls : List Call)
    (h : Handle) : Handle → Prop
  | same : Comes caller on calls h h
  | bare : Comes caller on calls h {}
  | given {fd : Descriptor} (give : Call.Give caller calls on fd) :
      Comes caller on calls h (.owning fd)

/-- What an operation does: it makes calls about what the caller has or creates, and changes
the handle of one endpoint at most. -/
structure World.Conduct (caller : Option Endpoint) (on : Endpoint) (calls : List Call)
    (w w' : World σ) : Prop where
  said : w'.said = w.said ++ calls.flatMap (·.entries caller)
  confined : ∀ ep, caller = some ep → Confined (w.handle ep).fd.toList calls
  others : ∀ ep, ep ≠ on → w'.handle ep = w.handle ep
  comes : (w.handle on).Comes caller on calls (w'.handle on)
  size : w'.endpoints.length = w.endpoints.length
  disturbances : w'.disturbances = w.disturbances

/-- What a failed operation of an endpoint leaves behind it. -/
inductive World.Leaves (ep : Endpoint) (e : SocketError) (calls : List Call) (w w' : World σ) : Prop
  | same (handle : ∀ x, w'.handle x = w.handle x) (socket : ∀ s, w'.socket s = w.socket s)
  /-- It closed the descriptor, and that failed. -/
  | closed {fd : Descriptor} {src : NativeError} (is : e = .native "close" src)
      (had : (w.handle ep).fd = some fd) (asked : ⟨.close fd, .error src⟩ ∈ calls)
      (bare : w'.handle ep = {})
      (others : ∀ x, x ≠ ep → w'.handle x = w.handle x) (socket : ∀ s, w'.socket s = w.socket s)
  /-- A socket made its descriptor before it failed. -/
  | created {fd : Descriptor} {k : Socket} (base : k.endpoint = ep)
      (bare : (w.handle ep).fd = none) (made : fd ∈ calls.filterMap Call.created?)
      (has : w'.handle ep = .owning fd) (others : ∀ x, x ≠ ep → w'.handle x = w.handle x)
      (was : (w.socket k).created = false)
      (now : w'.socket k = { w.socket k with created := true })
      (sockets : ∀ s, s.index ≠ k.index → w'.socket s = w.socket s)

structure World.Failure (ep : Endpoint) (e : SocketError) (calls : List Call)
    (w w' : World σ) : Prop where
  early : e.source? = none → calls = [] ∧ (∀ x, w'.handle x = w.handle x) ∧
    ∀ s, w'.socket s = w.socket s
  late : ∀ src, e.source? = some src → Call.source calls = some src
  leaves : w.Leaves ep e calls w'

structure World.Failed (ep : Endpoint) (e : SocketError) (calls : List Call)
    (w w' : World σ) : Prop where
  called : w.Called (some ep) calls w'
  early : e.source? = none → calls = []
  late : ∀ src, e.source? = some src → Call.source calls = some src

def World.Performed (ep on : Endpoint) (w : World σ) (run : Except SocketError α × World σ) :
    Prop :=
  ∃ calls, w.Conduct (some ep) on calls run.2 ∧ ∀ e, run.1 = .error e → w.Failure ep e calls run.2

def Endpoint.Performs (ep : Endpoint) (step : World σ → Except SocketError α × World σ) : Prop :=
  ∀ w : World σ, w.disturbances = [] → ep.index < w.endpoints.length → w.Performed ep ep (step w)

variable {L : Link σ} {ep : Endpoint}

namespace World

variable {caller : Option Endpoint} {on : Endpoint} {calls more : List Call} {w w' w'' : World σ}

namespace Called

theorem socket (called : w.Called caller calls w') (s : Socket) : w'.socket s = w.socket s := by
  rw [World.socket, called.sockets]
  rfl

theorem conduct (called : w.Called caller calls w')
    (confined : ∀ ep, caller = some ep → Confined (w.handle ep).fd.toList calls) :
    w.Conduct caller on calls w' where
  said := called.said
  confined := confined
  others ep _ := called.handle ep
  comes := by
    rw [called.handle]
    exact .same
  size := called.size
  disturbances := called.disturbances

theorem leaves {e : SocketError} (called : w.Called caller calls w') : w.Leaves ep e calls w' :=
  .same called.handle called.socket

end Called

namespace Conduct

theorem refl (w : World σ) : w.Conduct caller on [] w :=
  (Called.refl w).conduct fun _ _ => trivial

theorem noted (noted : w.Noted w') : w.Conduct caller on [] w' :=
  (Called.noted noted).conduct fun _ _ => trivial

theorem after (conduct : w.Conduct caller on calls w') (noted : w'.Noted w'') :
    w.Conduct caller on calls w'' := by
  obtain ⟨es, notes, rfl⟩ := noted
  exact { conduct with said := by rw [said_notes w' notes, conduct.said] }

theorem handle_cases (conduct : w.Conduct caller on calls w') (ep : Endpoint) :
    w'.handle ep = w.handle ep ∨ ep = on ∧ (w.handle ep).Comes caller ep calls (w'.handle ep) := by
  by_cases same : ep = on
  · subst same
    exact .inr ⟨rfl, conduct.comes⟩
  · exact .inl (conduct.others ep same)

theorem known (conduct : w.Conduct caller on calls w') (own : caller = some ep) :
    (w'.handle ep).fd.toList ⊆ calls.filterMap Call.created? ++ (w.handle ep).fd.toList := by
  obtain same | ⟨rfl, comes⟩ := conduct.handle_cases ep
  · rw [same]
    exact List.subset_append_right _ _
  · generalize w'.handle ep = now at comes
    cases comes with
    | same => exact List.subset_append_right _ _
    | bare => exact List.nil_subset _
    | given give =>
      intro fd mem
      rw [List.mem_singleton.mp mem]
      cases give with
      | created _ made => exact List.mem_append_left _ made
      | accepted other differ => exact absurd (Option.some.inj (other.symm.trans own)) differ

theorem trans (first : w.Conduct caller on calls w') (second : w'.Conduct caller on more w'') :
    w.Conduct caller on (calls ++ more) w'' where
  said := by rw [second.said, first.said, List.flatMap_append, List.append_assoc]
  confined ep own :=
    (first.confined ep own).append ((second.confined ep own).mono (first.known own))
  others ep other := (second.others ep other).trans (first.others ep other)
  comes := by
    have before := first.comes
    have after := second.comes
    generalize w''.handle on = last at after
    cases after with
    | same =>
      generalize w'.handle on = now at before
      cases before with
      | same => exact .same
      | bare => exact .bare
      | given give => exact .given (give.mono (List.subset_append_left _ _))
    | bare => exact .bare
    | given give => exact .given (give.mono (List.subset_append_right _ _))
  size := second.size.trans first.size
  disturbances := second.disturbances.trans first.disturbances

theorem cleared {fd : Descriptor} {w₁ : World σ} (has : (w.handle ep).fd = some fd)
    (opened : w.Noted w₁) (called : (w₁.setHandle ep {}).Called (some ep) calls w')
    (about : ∀ c ∈ calls, c.request.descriptor? = some fd) :
    w.Conduct (some ep) ep calls w' ∧ w'.handle ep = {} ∧ ∀ s, w'.socket s = w.socket s := by
  have inside : ep.index < w₁.endpoints.length := by
    rw [opened.endpoints]
    exact inside_of_handle w has
  have bare : w'.handle ep = {} := by rw [called.handle, handle_setHandle _ _ _ inside]
  obtain ⟨es, notes, rfl⟩ := opened
  refine ⟨⟨?_, ?_, ?_, ?_, ?_, ?_⟩, bare, ?_⟩
  · rw [called.said]
    exact congrArg (· ++ _) (said_notes w notes)
  · rintro _ ⟨⟩
    exact .about (by simp [has]) about
  · intro other ne
    rw [called.handle, handle_setHandle_of_ne _ _ ne]
    rfl
  · rw [bare]
    exact .bare
  · exact called.size.trans (length_endpoints_setHandle ..)
  · exact called.disturbances
  · exact called.socket

end Conduct

theorem Failed.failure {e : SocketError} (failed : w.Failed ep e calls w') :
    w.Failure ep e calls w' where
  early own := ⟨failed.early own, failed.called.handle, failed.called.socket⟩
  late := failed.late
  leaves := failed.called.leaves

theorem Failed.refusal {e : SocketError} (own : e.source? = none) (noted : w.Noted w') :
    w.Failed ep e [] w' where
  called := .noted noted
  early _ := rfl
  late src is := by
    rw [own] at is
    cases is

theorem Failed.ofNative {operation : String} {src : NativeError}
    (reports : Call.source calls = some src) (called : w.Called (some ep) calls w') :
    w.Failed ep (.native operation src) calls w' where
  called := called
  early own := by cases own
  late _ is := by
    cases is
    exact reports

theorem Failure.refusal {e : SocketError} (own : e.source? = none) (noted : w.Noted w') :
    w.Failure ep e [] w' := (Failed.refusal own noted).failure

theorem Failure.ofNative {operation : String} {src : NativeError}
    (reports : Call.source calls = some src)
    (leaves : w.Leaves ep (.native operation src) calls w') :
    w.Failure ep (.native operation src) calls w' where
  early own := by cases own
  late _ is := by
    cases is
    exact reports
  leaves := leaves

theorem Worked.failed {fd : Descriptor} {r : Except SocketError α} {e : SocketError}
    (worked : Worked ep fd calls w r w') (fails : r = .error e) : w.Failed ep e calls w' := by
  obtain ⟨operation, src, rfl, reports⟩ := fails ▸ worked.settles
  exact .ofNative reports worked.called

theorem Worked.conduct {fd : Descriptor} {r : Except SocketError α}
    (worked : Worked ep fd calls w r w') (has : (w.handle ep).fd = some fd) :
    w.Conduct (some ep) on calls w' := by
  apply worked.called.conduct
  rintro _ ⟨⟩
  exact .about (by simp [has]) worked.about

end World

namespace Endpoint

open World (Worked Conduct Failure)

variable {w : World σ}

theorem performed_fails {on : Endpoint} {step : Action σ α} {e : SocketError}
    (own : e.source? = none) (fails : step.Fails e w) : w.Performed ep on (step w) := by
  obtain ⟨failed, noted⟩ := fails
  refine ⟨[], .noted noted, fun e' is => ?_⟩
  rw [failed] at is
  cases is
  exact .refusal own noted

namespace Performs

theorem ofWorks {step : Action σ α} (works : ∀ fd, ep.Works fd step)
    (fails : ∀ w, (w.handle ep).fd = none → step.Fails .notCreated w) : ep.Performs step := by
  intro w quiet _
  cases has : (w.handle ep).fd with
  | none => exact performed_fails rfl (fails w has)
  | some fd =>
    obtain ⟨calls, worked⟩ := works fd w quiet has
    exact ⟨calls, worked.conduct has, fun e is => (worked.failed is).failure⟩

end Performs

variable (ep) (straight : L.Straight)

include straight

theorem called_exclusively {r : Request} {reply : Except NativeError r.Reply} {w' : World σ}
    (quiet : w.disturbances = [])
    (asked : ep.exclusively (L.send (some ep) r) w = (reply, w')) :
    w.Called (some ep) [⟨r, reply⟩] w' := by
  have called := Called.exclusively (straight (some ep) r (w.setCreating ep true) quiet)
  rw [run_exclusively] at asked
  cases asked
  exact called

theorem conduct_create (kind : SocketKind) (quiet : w.disturbances = [])
    (inside : ep.index < w.endpoints.length) : ∃ calls,
    w.Conduct (some ep) ep calls (ep.create L kind w).2 ∧
      (ep.create L kind w).2.sockets = w.sockets ∧
      match (ep.create L kind w).1 with
      | .ok _ => (w.handle ep).fd = none ∧ Clean calls ∧
          ∃ fd ∈ calls.filterMap Call.created?, (ep.create L kind w).2.handle ep = .owning fd
      | .error e => w.Failed ep e calls (ep.create L kind w).2 := by
  have run := creation L ep kind w
  generalize ep.create L kind w = result at run
  cases run with
  | taken _ noted =>
    exact ⟨[], .noted noted, noted.sockets, .refusal rfl noted⟩
  | senseless _ unknown noted =>
    refine ⟨[], .noted noted, noted.sockets, .refusal ?_ noted⟩
    cases kind <;> cases unknown
    rfl
  | refused _ _ opened asked noted =>
    have called := ((called_exclusively ep straight
      (opened.quiet quiet) asked).after noted).before opened
    refine ⟨_, called.conduct fun _ _ => ⟨by simp [Request.descriptor?], trivial⟩, called.sockets,
      .ofNative (Call.source_of_failure? ?_) called⟩
    simp [Call.failure?, Call.error?]
  | @made native fd w₁ w₂ w' bare _ opened asked noted =>
    have called := (called_exclusively ep straight
      (opened.quiet quiet) asked).before opened
    have there : ep.index < w₂.endpoints.length := by
      rw [called.size]
      exact inside
    have has : w'.handle ep = .owning fd := by
      rw [noted.handle, World.handle_setHandle _ _ _ there]
    refine ⟨[⟨.create native 0, .ok fd⟩], .after ?_ noted, noted.sockets.trans called.sockets,
      bare, .ok rfl, fd, by simp [Call.created?], has⟩
    exact {
      said := called.said
      confined := fun _ _ => ⟨by simp [Request.descriptor?], trivial⟩
      others := fun other ne => by
        rw [World.handle_setHandle_of_ne _ _ ne, called.handle]
      comes := by
        rw [World.handle_setHandle _ _ _ there]
        exact .given (.created rfl (by simp [Call.created?]))
      size := (World.length_endpoints_setHandle ..).trans called.size
      disturbances := called.disturbances }

theorem performs_create (kind : SocketKind) : ep.Performs (ep.create L kind) := by
  intro w quiet inside
  obtain ⟨calls, conduct, _, ends⟩ := conduct_create ep straight kind quiet inside
  refine ⟨calls, conduct, fun e is => ?_⟩
  rw [is] at ends
  exact ends.failure

theorem called_closeOwned (fd : Descriptor) (quiet : w.disturbances = []) :
    ∃ shut reply, (ep.closeOwned L fd w).1 = reply.mapError (.native "close") ∧
      w.Called (some ep) [⟨.shutdown fd .both, shut⟩, ⟨.close fd, reply⟩]
        (ep.closeOwned L fd w).2 := by
  have run := ownedClosing L ep fd w
  generalize ep.closeOwned L fd w = result at run
  cases run with
  | @intro w₁ w₂ w' reply shut asked noted =>
    have first := (straight (some ep) (.shutdown fd .both) w quiet).after shut
    have second := straight (some ep) (.close fd) w₁ (first.quiet quiet)
    rw [asked] at second
    exact ⟨_, reply, rfl, (first.trans second).after noted⟩

theorem performs_setOption (option : SocketOption) (value : Int) :
    ep.Performs (ep.setOption L option value) := by
  by_cases negative : value < 0
  · intro w _ _
    have own : (option.objection value).source? = none := by
      rw [SocketOption.objection, if_pos negative]
      rfl
    exact performed_fails own (fails_setOption_negative option negative)
  · refine .ofWorks (fun _ => .setOption straight option negative) fun w bare => ?_
    have fails := fails_setOption (L := L) bare option value
    rwa [SocketOption.objection, if_neg negative] at fails

theorem conduct_close (quiet : w.disturbances = []) : ∃ calls,
    w.Conduct (some ep) ep calls (ep.close L w).2 ∧
      (∀ s, (ep.close L w).2.socket s = w.socket s) ∧
      ((ep.close L w).2.handle ep).fd = none ∧
      ∀ e, (ep.close L w).1 = .error e → w.Failure ep e calls (ep.close L w).2 := by
  have run := closing L ep w
  generalize ep.close L w = result at run
  cases run with
  | closed bare noted =>
    refine ⟨[], .noted noted, noted.socket, (congrArg Handle.fd (noted.handle ep)).trans bare,
      fun e is => ?_⟩
    cases is
    exact .refusal rfl noted
  | @owned fd w₁ w₂ w' r has opened closed noted =>
    obtain ⟨shut, reply, ends, called⟩ :=
      called_closeOwned ep straight (w := w₁.setHandle ep {}) fd (opened.quiet quiet)
    rw [closed] at ends called
    have had : (w.handle ep).fd = some fd := congrArg Handle.fd has
    obtain ⟨conduct, bare, sockets⟩ := Conduct.cleared had opened (called.after noted)
      (by simp [Request.descriptor?])
    refine ⟨_, conduct, sockets, congrArg Handle.fd bare, fun e is => ?_⟩
    dsimp only at ends is
    cases reply with
    | ok _ =>
      rw [ends] at is
      cases is
    | error src =>
      rw [ends] at is
      cases is
      refine .ofNative (Call.source_of_failure? ?_)
        (.closed rfl had (List.mem_cons_of_mem _ List.mem_cons_self) bare conduct.others sockets)
      rw [Call.failure?_passing (by simp [Call.passes])]
      simp [Call.failure?, Call.error?]
  | detached has opened noted =>
    have had := congrArg Handle.fd has
    obtain ⟨conduct, bare, sockets⟩ := Conduct.cleared had opened (.noted noted) (by simp)
    exact ⟨[], conduct, sockets, congrArg Handle.fd bare, not_failed⟩

theorem performs_close : ep.Performs (ep.close L) := by
  intro w quiet _
  obtain ⟨calls, conduct, _, _, fails⟩ := conduct_close ep straight quiet
  exact ⟨calls, conduct, fails⟩

theorem conduct_release (quiet : w.disturbances = []) : ∃ calls,
    w.Conduct (some ep) ep calls (ep.release L w).2 ∧
      (∀ s, (ep.release L w).2.socket s = w.socket s) ∧
      (∀ fd, (ep.release L w).2.handle ep ≠ .owning fd) ∧
      ∀ e, (ep.release L w).1 = .error e → w.Failure ep e calls (ep.release L w).2 := by
  rw [release, Action.run_bind, Action.run_plain, run_handle]
  dsimp only
  split
  case isFalse unowned =>
    refine ⟨[], .refl w, fun _ => rfl, fun fd owns => unowned ?_, not_failed⟩
    rw [show w.handle ep = _ from owns]
    rfl
  case isTrue owned =>
    obtain ⟨calls, conduct, sockets, bare, fails⟩ := conduct_close ep straight quiet
    rw [Action.run_bind, Action.run_attempt]
    have none (fd : Descriptor) : (ep.close L w).2.handle ep ≠ .owning fd := by
      intro owns
      rw [owns] at bare
      cases bare
    rcases run : ep.close L w with ⟨e | _, w'⟩
    · rw [run] at conduct sockets none fails
      cases e with
      | notCreated => exact ⟨calls, conduct, sockets, none, not_failed⟩
      | _ => exact ⟨calls, conduct, sockets, none, fails⟩
    · rw [run] at conduct sockets none
      exact ⟨calls, conduct, sockets, none, not_failed⟩

theorem performs_release : ep.Performs (ep.release L) := by
  intro w quiet _
  obtain ⟨calls, conduct, _, _, fails⟩ := conduct_release ep straight quiet
  exact ⟨calls, conduct, fails⟩

omit straight in
theorem noted_guard {g : Guard} (active : g.active = true) (w : World σ) :
    (g.endpoint.release L w).2.Noted (g.discard L w).2 := by
  have run : g.discard L w = (match (g.endpoint.release L w).1 with
      | .ok _ => World.emit .debug "Closed partially set up endpoint"
      | .error _ => World.emit .error "Failed to close partially set up endpoint" :
        StateM (World σ) Unit) (g.endpoint.release L w).2 := by
    unfold Guard.discard
    rw [if_pos active]
    rfl
  rw [run]
  cases (g.endpoint.release L w).1 with
  | ok _ => exact .one _ rfl
  | error _ => exact .one _ rfl

theorem conduct_guard (g : Guard) (quiet : w.disturbances = []) : ∃ calls,
    w.Conduct (some g.endpoint) g.endpoint calls (g.discard L w).2 ∧
      (∀ s, (g.discard L w).2.socket s = w.socket s) ∧
      (g.active = true → ∀ fd, (g.discard L w).2.handle g.endpoint ≠ .owning fd) := by
  cases active : g.active with
  | false =>
    have run : (g.discard L w).2 = w := by
      unfold Guard.discard
      rw [if_neg (by simp [active])]
      rfl
    rw [run]
    exact ⟨[], .refl w, fun _ => rfl, nofun⟩
  | true =>
    obtain ⟨calls, conduct, sockets, none, _⟩ := conduct_release g.endpoint straight quiet
    have noted := noted_guard (L := L) active w
    refine ⟨calls, conduct.after noted, fun s => (noted.socket s).trans (sockets s), fun _ fd => ?_⟩
    rw [noted.handle]
    exact none fd

theorem conduct_discard (quiet : w.disturbances = []) :
    ∃ calls, w.Conduct (some ep) ep calls (ep.discard L w).2 ∧
      (∀ c ∈ calls, ∃ fd, (w.handle ep).fd = some fd ∧ c.request = .close fd) ∧
      ((∀ fd, w.handle ep ≠ .owning fd) → calls = []) ∧
      (ep.discard L w).2.handle ep = {} ∧ ∀ s, (ep.discard L w).2.socket s = w.socket s := by
  have run := discarding L ep w
  generalize (ep.discard L w).2 = w' at run
  cases run with
  | @owned fd _ has noted =>
    have had : (w.handle ep).fd = some fd := congrArg Handle.fd has
    have called := called_exclusively ep straight (r := .close fd)
      (w := w.setHandle ep {}) quiet rfl
    obtain ⟨conduct, bare, sockets⟩ := Conduct.cleared had (.refl w) (called.after noted)
      (by simp [Request.descriptor?])
    exact ⟨_, conduct, by simp [had], fun unowned => absurd has (unowned fd), bare, sockets⟩
  | other =>
    refine ⟨[], { (Conduct.refl w : w.Conduct (some ep) ep [] w) with
      others := fun other ne => World.handle_setHandle_of_ne _ _ ne
      comes := ?_
      size := World.length_endpoints_setHandle .. }, by simp, fun _ => rfl,
      World.handle_setHandle_bare w ep, fun s => rfl⟩
    rw [World.handle_setHandle_bare]
    exact .bare

theorem conduct_accept (into : Endpoint) (quiet : w.disturbances = [])
    (inside : into.index < w.endpoints.length) : ∃ calls,
    w.Conduct (some ep) into calls (ep.accept L into w).2 ∧
      ∀ e, (ep.accept L into w).1 = .error e → w.Failed ep e calls (ep.accept L into w).2 := by
  have run := acceptance L ep into w
  generalize ep.accept L into w = result at run
  have refused {e : SocketError} {w' : World σ} (own : e.source? = none) (noted : w.Noted w') :
      ∃ calls, w.Conduct (some ep) into calls w' ∧
        ∀ e', Except.error (α := Unit) e = .error e' → w.Failed ep e' calls w' := by
    refine ⟨[], .noted noted, fun e' is => ?_⟩
    cases is
    exact .refusal own noted
  cases run with
  | closed _ noted => exact refused rfl noted
  | taken _ _ noted => exact refused rfl noted
  | @refused fd e w₁ w₂ w' has _ opened asked noted =>
    have called := straight (some ep) (.accept fd) w₁
      (opened.quiet quiet)
    rw [asked] at called
    have called := (called.after noted).before opened
    refine ⟨_, called.conduct ?_, fun e' is => ?_⟩
    · rintro _ ⟨⟩
      exact ⟨by simp [Request.descriptor?, has], trivial⟩
    · cases is
      exact .ofNative (Call.source_of_failure? (by simp [Call.failure?, Call.error?])) called
  -- Nobody acts in the middle of the call, so nobody has given the endpoint a descriptor.
  | @overtaken fd peer mine w₁ w₂ w' _ bare opened asked taken =>
    have called := straight (some ep) (.accept fd) w₁
      (opened.quiet quiet)
    rw [asked] at called
    rw [called.handle, opened.handle, bare] at taken
    cases taken
  | @made fd peer w₁ w₂ w' has bare opened asked still noted =>
    have called := straight (some ep) (.accept fd) w₁
      (opened.quiet quiet)
    rw [asked] at called
    have called := called.before opened
    have there : into.index < w₂.endpoints.length := by
      rw [called.size]
      exact inside
    have differ : ep ≠ into := by
      rintro rfl
      rw [bare] at has
      cases has
    refine ⟨[⟨.accept fd, .ok peer⟩], .after ?_ noted, not_failed⟩
    exact {
      said := called.said
      confined := by
        rintro _ ⟨⟩
        exact ⟨by simp [Request.descriptor?, has], trivial⟩
      others := fun other ne => by
        rw [World.handle_setHandle_of_ne _ _ ne, called.handle]
      comes := by
        rw [World.handle_setHandle _ _ _ there]
        exact .given (.accepted rfl differ (by simp [Call.accepted?]))
      size := (World.length_endpoints_setHandle ..).trans called.size
      disturbances := called.disturbances }

end Endpoint

end ProcessorSockets
