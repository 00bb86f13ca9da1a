import ProcessorSockets.Proofs.Session.Contest

/-! Several callers at one socket at once.  What a call does under one lock is one section of
it, and the sections of different calls come in any order; nothing shows of that order. -/

namespace ProcessorSockets

variable {σ : Type}

namespace Session

open World (Continues)

inductive Stage
  | waiting
  /-- The descriptor is made, and the last section is still to come. -/
  | between
  | done
  deriving DecidableEq, Repr

def Stage.left : Stage → Nat
  | .waiting => 2
  | .between => 1
  | .done => 0

structure Ending where
  caller : Nat
  contest : Contest
  answer : Contest.Answer

structure Race (σ : Type) where
  world : World σ
  callers : List (Contest × Stage)
  /-- The calls that are over, in the order of their last sections. -/
  ended : List Ending := []

namespace Race

def start (contests : List Contest) (w : World σ) : Race σ :=
  { world := w, callers := contests.map (·, .waiting) }

def At (r : Race σ) (i : Nat) (c : Contest) (stage : Stage) : Prop :=
  r.callers[i]? = some (c, stage)

def enter (r : Race σ) (i : Nat) (c : Contest) (w : World σ) : Race σ :=
  { r with world := w, callers := r.callers.set i (c, .between) }

def finish (r : Race σ) (i : Nat) (c : Contest) (run : Contest.Answer × World σ) : Race σ where
  world := run.2
  callers := r.callers.set i (c, .done)
  ended := r.ended ++ [⟨i, c, run.1⟩]

variable (L : Link σ) (k : Socket)

def turn (r : Race σ) (i : Nat) : Race σ :=
  match r.callers[i]? with
  | some (c, .waiting) =>
    if c.divided then
      match k.ensureCreated L r.world with
      | (.ok (), w) => r.enter i c w
      | (.error e, w) => r.finish i c (.error e, w)
    else r.finish i c (c.last L k r.world)
  | some (c, .between) => r.finish i c (c.last L k r.world)
  | _ => r

def run (r : Race σ) (schedule : List Nat) : Race σ := schedule.foldl (turn L k) r

def answers (r : Race σ) : List Contest.Answer := r.ended.map Ending.answer

def Over (r : Race σ) : Prop := ∀ p ∈ r.callers, p.2 = .done

instance (r : Race σ) : Decidable r.Over := inferInstanceAs (Decidable (∀ p ∈ _, _))

end Race

namespace Race

variable {T : Transport σ} {k : Socket} {w : World σ} {r : Race σ} {i : Nat} {c : Contest}

theorem at_enter {stage : Stage} (there : r.At i c stage) (w : World σ) (j : Nat) (d : Contest)
    (stage' : Stage) : (r.enter i c w).At j d stage' ↔
      if i = j then c = d ∧ .between = stage' else r.At j d stage' := by
  unfold At enter
  rw [List.getElem?_set, if_pos (List.getElem?_eq_some_iff.mp there).1]
  split <;> simp

theorem at_finish {stage : Stage} (there : r.At i c stage) (run : Contest.Answer × World σ)
    (j : Nat) (d : Contest) (stage' : Stage) : (r.finish i c run).At j d stage' ↔
      if i = j then c = d ∧ .done = stage' else r.At j d stage' := by
  unfold At finish
  rw [List.getElem?_set, if_pos (List.getElem?_eq_some_iff.mp there).1]
  split <;> simp

inductive Turn (L : Link σ) (k : Socket) (r : Race σ) (i : Nat) : Race σ → Prop
  | idle (spent : ∀ c stage, r.At i c stage → stage = .done) : Turn L k r i r
  | entered {c : Contest} {w : World σ} (waits : r.At i c .waiting) (divided : c.divided = true)
      (made : k.ensureCreated L r.world = (.ok (), w)) : Turn L k r i (r.enter i c w)
  | failed {c : Contest} {e : SocketError} {w : World σ} (waits : r.At i c .waiting)
      (divided : c.divided = true) (failed : k.ensureCreated L r.world = (.error e, w)) :
      Turn L k r i (r.finish i c (.error e, w))
  | whole {c : Contest} (waits : r.At i c .waiting) (whole : c.divided = false) :
      Turn L k r i (r.finish i c (c.last L k r.world))
  | ended {c : Contest} (between : r.At i c .between) :
      Turn L k r i (r.finish i c (c.last L k r.world))

theorem turning (L : Link σ) (k : Socket) (r : Race σ) (i : Nat) : r.Turn L k i (r.turn L k i) := by
  unfold turn
  cases there : r.callers[i]? with
  | none => exact .idle fun c stage stands => nomatch there.symm.trans stands
  | some p =>
    obtain ⟨c, stage⟩ := p
    cases stage with
    | waiting =>
      dsimp only
      cases divided : c.divided with
      | false => exact .whole there divided
      | true =>
        cases made : k.ensureCreated L r.world with
        | mk result w =>
          cases result with
          | ok _ => exact .entered there divided made
          | error e => exact .failed there divided made
    | between => exact .ended there
    | done =>
      refine .idle fun d stage stands => ?_
      cases there.symm.trans stands
      rfl

/-- The calls that are over might have been made in turn, and have left behind another world
than they would have left only as far as somebody has since made the descriptor. -/
structure Serial (T : Transport σ) (k : Socket) (w : World σ) (r : Race σ) : Prop where
  created : ∀ i c, r.At i c .between → (r.world.socket k).created = true
  serial : ∃ w', (Law.chronicle False k).holds w' ∧
    Contest.inTurn (.disturbed T) k (r.ended.map Ending.contest) w = (r.answers, w') ∧
    (r.world = w' ∨ (∃ i c, r.At i c .between) ∧
      k.ensureCreated (.disturbed T) w' = (.ok (), r.world))

namespace Serial

theorem start (holds : (Law.chronicle False k).holds w) (contests : List Contest) :
    (Race.start contests w).Serial T k w where
  created i c between := by simp [At, Race.start] at between
  serial := ⟨w, holds, rfl, .inl rfl⟩

theorem holds (serial : r.Serial T k w) : (Law.chronicle False k).holds r.world := by
  obtain ⟨_, w', holds, _, either⟩ := serial
  cases either with
  | inl same => exact same ▸ holds
  | inr made =>
    have continues := Chronicle.ensured_continues (T := T) holds
    rw [made.2] at continues
    exact (Law.chronicle False k).stable holds continues

theorem finish (serial : r.Serial T k w) {stage : Stage} (there : r.At i c stage)
    {run : Contest.Answer × World σ} (continues : r.world.Continues True k run.2)
    (ends : ∀ w', (Law.chronicle False k).holds w' →
      (r.world = w' ∨ k.ensureCreated (.disturbed T) w' = (.ok (), r.world)) →
        run = c.call (.disturbed T) k w') : (r.finish i c run).Serial T k w := by
  have holds := serial.holds
  obtain ⟨created, w', holds', before, either⟩ := serial
  have called := ends w' holds' (either.imp_right And.right)
  refine ⟨fun j d between => ?_, run.2, (Law.chronicle True k).stable holds continues, ?_, .inl rfl⟩
  · rw [at_finish there] at between
    split at between
    · cases between.2
    · exact continues.keeps.created (created j d between)
  · simp only [Race.finish, Race.answers, List.map_append, List.map_cons, List.map_nil]
    rw [Contest.inTurn_append, before, called]
    rfl

theorem turn (serial : r.Serial T k w) (i : Nat) : (r.turn (.disturbed T) k i).Serial T k w := by
  have holds := serial.holds
  have turning := r.turning (.disturbed T) k i
  generalize r.turn (.disturbed T) k i = r' at turning
  cases turning with
  | idle _ => exact serial
  | @entered c v waits divided made =>
    -- Whoever made the descriptor, there is one now.
    have created := Chronicle.ensured_created holds made
    refine ⟨fun _ _ _ => created, ?_⟩
    obtain ⟨_, w', holds', before, either⟩ := serial
    refine ⟨w', holds', before, .inr ⟨⟨i, c, (at_enter waits ..).mpr (by simp)⟩, ?_⟩⟩
    cases either with
    | inl same => exact same ▸ made
    | inr others =>
      have there := Chronicle.ensured_created holds' others.2
      rw [Socket.run_ensureCreated there] at made
      cases made
      exact others.2
  -- A first section can only fail while nobody has made the descriptor.
  | @failed c e v waits divided failed =>
    have continues := Chronicle.ensured_continues (T := T) holds
    rw [failed] at continues
    refine serial.finish waits continues.loosen fun w' holds' either => ?_
    cases either with
    | inl same => exact same ▸ (Chronicle.call_unmade divided failed).symm
    | inr others =>
      have there := Chronicle.ensured_created holds' others
      rw [Socket.run_ensureCreated there] at failed
      cases failed
  | @whole c waits whole =>
    refine serial.finish waits (Chronicle.last_continues holds fun divided => ?_)
      fun w' holds' either => ?_
    · rw [whole] at divided
      cases divided
    · cases either with
      | inl same => rw [same, Chronicle.call_undivided whole]
      | inr made => exact Chronicle.last_after holds' made c
  | @ended c between =>
    have created := serial.created i c between
    refine serial.finish between (Chronicle.last_continues holds fun _ => created)
      fun w' holds' either => Chronicle.last_after holds' ?_ c
    cases either with
    | inl same => rw [← same, Socket.run_ensureCreated created]
    | inr made => exact made

theorem run (serial : r.Serial T k w) (schedule : List Nat) :
    (r.run (.disturbed T) k schedule).Serial T k w := by
  induction schedule generalizing r with
  | nil => exact serial
  | cons i rest ih => exact ih (serial.turn i)

end Serial

structure Ended (contests : List Contest) (r : Race σ) : Prop where
  callers : r.callers.map Prod.fst = contests
  once : (r.ended.map Ending.caller).Nodup
  done : ∀ i, i ∈ r.ended.map Ending.caller ↔ ∃ c, r.At i c .done
  fits : ∀ e ∈ r.ended, contests[e.caller]? = some e.contest

namespace Ended

variable {contests : List Contest}

theorem start (contests : List Contest) (w : World σ) : (Race.start contests w).Ended contests where
  callers := by simp [Race.start, Function.comp_def]
  once := .nil
  done i := by simp [Race.start, At]
  fits := nofun

theorem contest (ended : r.Ended contests) {stage : Stage} (there : r.At i c stage) :
    contests[i]? = some c := by
  rw [← ended.callers, List.getElem?_map, there]
  rfl

theorem callers_set (ended : r.Ended contests) {stage : Stage} (there : r.At i c stage)
    (stage' : Stage) : (r.callers.set i (c, stage')).map Prod.fst = contests := by
  rw [List.map_set, ended.callers]
  obtain ⟨inside, is⟩ := List.getElem?_eq_some_iff.mp (ended.contest there)
  rw [← is]
  exact List.set_getElem_self inside

theorem done_iff (ended : r.Ended contests) {stage : Stage} (there : r.At i c stage) :
    i ∈ r.ended.map Ending.caller ↔ stage = .done := by
  rw [ended.done i]
  refine ⟨fun ⟨d, done⟩ => ?_, fun same => ⟨c, same ▸ there⟩⟩
  cases there.symm.trans done
  rfl

theorem finish (ended : r.Ended contests) {stage : Stage} (there : r.At i c stage)
    (going : stage ≠ .done) (run : Contest.Answer × World σ) :
    (r.finish i c run).Ended contests := by
  have new : i ∉ r.ended.map Ending.caller := fun mem => going ((ended.done_iff there).mp mem)
  have callers : (r.finish i c run).ended.map Ending.caller = r.ended.map Ending.caller ++ [i] := by
    simp [Race.finish]
  refine ⟨ended.callers_set there _, ?_, fun j => ?_, fun e mem => ?_⟩
  · rw [callers]
    exact List.nodup_append.mpr ⟨ended.once, List.pairwise_singleton _ i, fun j old k last same =>
      new (List.mem_singleton.mp last ▸ same ▸ old)⟩
  · rw [callers, List.mem_append, List.mem_singleton, ended.done j]
    simp only [at_finish there]
    by_cases same : i = j
    · simp [same]
    · simp [same, Ne.symm same]
  · cases List.mem_append.mp mem with
    | inl old => exact ended.fits e old
    | inr last =>
      rw [List.mem_singleton.mp last]
      exact ended.contest there

theorem turn (ended : r.Ended contests) (L : Link σ) (k : Socket) (i : Nat) :
    (r.turn L k i).Ended contests := by
  have turning := r.turning L k i
  generalize r.turn L k i = r' at turning
  cases turning with
  | idle _ => exact ended
  | @entered c v waits _ _ =>
    refine ⟨ended.callers_set waits _, ended.once, fun j => (ended.done j).trans ?_, ended.fits⟩
    apply exists_congr
    intro d
    rw [at_enter waits]
    split
    · next same =>
      refine iff_of_false (fun done => ?_) nofun
      cases waits.symm.trans (same ▸ done)
    · exact .rfl
  | failed waits _ _ => exact ended.finish waits nofun _
  | whole waits _ => exact ended.finish waits nofun _
  | ended between => exact ended.finish between nofun _

theorem run (ended : r.Ended contests) (L : Link σ) (k : Socket) (schedule : List Nat) :
    (r.run L k schedule).Ended contests := by
  induction schedule generalizing r with
  | nil => exact ended
  | cons i rest ih => exact ih (ended.turn L k i)

theorem everybody (ended : r.Ended contests) (finished : r.Over) :
    (r.ended.map Ending.caller).Perm (List.range contests.length) := by
  rw [List.perm_ext_iff_of_nodup ended.once List.nodup_range]
  intro i
  rw [ended.done i, List.mem_range]
  constructor
  · rintro ⟨c, there⟩
    exact (List.getElem?_eq_some_iff.mp (ended.contest there)).1
  · intro inside
    rw [← ended.callers, List.length_map] at inside
    have done := finished r.callers[i] (List.getElem_mem inside)
    refine ⟨r.callers[i].1, ?_⟩
    rw [At, List.getElem?_eq_getElem inside, ← done]

end Ended

theorem left_finish {stage stage' : Stage} (there : r.At i c stage) {j : Nat} {d : Contest}
    (other : r.At j d stage') (run : Contest.Answer × World σ) :
    ∃ later, (r.finish j d run).At i c later ∧ later.left ≤ stage.left - [j].count i := by
  by_cases same : j = i
  · subst same
    cases there.symm.trans other
    exact ⟨.done, (at_finish other ..).mpr (by simp), Nat.zero_le _⟩
  · refine ⟨stage, (at_finish other ..).mpr (by rwa [if_neg same]), ?_⟩
    rw [List.count_singleton, if_neg (by simpa using same)]
    exact Nat.le_refl _

theorem left_turn (L : Link σ) (k : Socket) {stage : Stage} (there : r.At i c stage) (j : Nat) :
    ∃ later, (r.turn L k j).At i c later ∧ later.left ≤ stage.left - [j].count i := by
  have turning := r.turning L k j
  generalize r.turn L k j = r' at turning
  cases turning with
  | idle spent =>
    refine ⟨stage, there, ?_⟩
    by_cases same : j = i
    · rw [spent c stage (same ▸ there)]
      exact Nat.zero_le _
    · rw [List.count_singleton, if_neg (by simpa using same)]
      exact Nat.le_refl _
  | entered waits _ _ =>
    by_cases same : j = i
    · subst same
      cases there.symm.trans waits
      exact ⟨.between, (at_enter waits ..).mpr (by simp), by simp [Stage.left]⟩
    · refine ⟨stage, (at_enter waits ..).mpr (by rwa [if_neg same]), ?_⟩
      rw [List.count_singleton, if_neg (by simpa using same)]
      exact Nat.le_refl _
  | failed waits _ _ => exact left_finish there waits _
  | whole waits _ => exact left_finish there waits _
  | ended between => exact left_finish there between _

theorem left_run (L : Link σ) (k : Socket) {stage : Stage} (there : r.At i c stage)
    (schedule : List Nat) :
    ∃ later, (r.run L k schedule).At i c later ∧ later.left ≤ stage.left - schedule.count i := by
  induction schedule generalizing r stage with
  | nil => exact ⟨stage, there, Nat.le_refl _⟩
  | cons j rest ih =>
    obtain ⟨first, there₁, fewer₁⟩ := left_turn L k there j
    obtain ⟨later, there₂, fewer₂⟩ := ih there₁
    refine ⟨later, there₂, ?_⟩
    have split : ([j] ++ rest).count i = [j].count i + rest.count i := List.count_append
    rw [← List.singleton_append, split]
    omega

theorem over_run (L : Link σ) (k : Socket) (contests : List Contest) (w : World σ)
    {schedule : List Nat} (enough : ∀ i < contests.length, 2 ≤ schedule.count i) :
    ((Race.start contests w).run L k schedule).Over := by
  have ended := (Ended.start contests w).run L k schedule
  intro p mem
  obtain ⟨i, inside, is⟩ := List.getElem_of_mem mem
  have known : i < contests.length := by rwa [← ended.callers, List.length_map]
  have waits : (Race.start contests w).At i contests[i] .waiting := by
    simp [Race.start, At, known]
  obtain ⟨later, there, fewer⟩ := left_run L k waits schedule
  have none : later.left = 0 := by
    have turns := enough i known
    change later.left ≤ 2 - schedule.count i at fewer
    omega
  have here := (List.getElem?_eq_some_iff.mpr ⟨inside, is⟩).symm.trans there
  cases here
  cases later <;> first | rfl | cases none

theorem Serial.everybody (serial : r.Serial T k w) (finished : r.Over) :
    Contest.inTurn (.disturbed T) k (r.ended.map Ending.contest) w = (r.answers, r.world) := by
  obtain ⟨_, w', _, before, either⟩ := serial
  cases either with
  | inl same => rw [before, same]
  | inr made =>
    obtain ⟨i, c, between⟩ := made.1
    cases finished _ (List.mem_of_getElem? between)

theorem Ended.alike {callers : Nat} (ended : r.Ended (List.replicate callers c)) :
    r.ended.map Ending.contest = List.replicate r.ended.length c := by
  refine List.eq_replicate_iff.mpr ⟨List.length_map _, fun d mem => ?_⟩
  obtain ⟨e, there, rfl⟩ := List.mem_map.mp mem
  exact List.eq_of_mem_replicate (List.mem_of_getElem? (ended.fits e there))

end Race

/-- Callers that all want the same of a socket are answered as if they had come one after the
other, and leave the same world behind with all that was asked of the transport, whatever the
order of their sections, and whatever the transport answers.  One of them binds or connects the
socket at most, and who ends after it is refused; the streams that they get are one. -/
theorem races_are_serial (T : Transport σ) (around : Surroundings σ) (t : σ) {m : Session σ}
    (reached : Reach (.disturbed T) around (start t) m) {n : String} {k : Socket}
    (found : m.find? n = some (.socket k)) (ms : List Meanwhile) (c : Contest) (callers : Nat)
    (schedule : List Nat) :
    let L := Link.disturbed T
    let race := (Race.start (List.replicate callers c) (m.amid ms)).run L k schedule
    c.Settles race.answers ∧
    ((∀ i < callers, 2 ≤ schedule.count i) → race.Over) ∧
    (race.Over →
      (race.ended.map Ending.caller).Perm (List.range callers) ∧
      Contest.inTurn L k (List.replicate callers c) (m.amid ms) = (race.answers, race.world) ∧
      contend L k c callers (m.amid ms) = (race.answers.map Contest.value, race.world)) := by
  intro L race
  obtain ⟨houses, holds⟩ :=
    (Chronicled.start t).reach (Orderly.start t) reached _ (mem_of_find? found) k rfl
  have before : m.world.Told k [] (m.amid ms) := told_amid houses ms
  have holds' : (Law.chronicle False k).holds (m.amid ms) :=
    (Law.chronicle False k).stable holds (.spared before)
  -- The race is serial after every section, so in the end there is a series of all calls.
  have serial : race.Serial T k (m.amid ms) := (Race.Serial.start holds' _).run schedule
  have ended : race.Ended (List.replicate callers c) := (Race.Ended.start _ _).run L k schedule
  refine ⟨?_, fun enough => Race.over_run L k _ _ (by simpa using enough), fun finished => ?_⟩
  · obtain ⟨_, w', _, inTurn, _⟩ := serial
    have settles := Contest.settles_inTurn (T := T) holds' c race.ended.length
    rwa [← ended.alike, inTurn] at settles
  · have everybody := ended.everybody finished
    rw [List.length_replicate] at everybody
    have all : race.ended.length = callers := by
      have length := everybody.length_eq
      rwa [List.length_map, List.length_range] at length
    have inTurn := serial.everybody finished
    rw [ended.alike, all] at inTurn
    refine ⟨everybody, inTurn, ?_⟩
    rw [Contest.contend_inTurn]
    simp only [inTurn, L]

theorem races_are_serial_overtaking :
    let L := Link.disturbed Scripted.transport
    let around : Surroundings Scripted.State := {}
    let t : Scripted.State :=
      { outcomes := fun m => if m = .create then [.failure (.os 24)] else [] }
    let m := (runStep L around (.act (.newSocket .stream) none (some "s") []) (start t)).2
    let k : Socket := ⟨0, ⟨0⟩⟩
    let race :=
      (Race.start (List.replicate 3 (.bind ⟨"cp", "svc"⟩)) m.world).run L k [0, 1, 2, 2, 1]
    race.ended.map Ending.caller = [0, 2, 1] ∧
      race.answers.map Except.toBool = [false, true, false] ∧
      contend L k (.bind ⟨"cp", "svc"⟩) 3 m.world =
        (race.answers.map Contest.value, race.world) := by
  intro L around t m k race
  have reached : Reach L around (start t) m := .act _ _ _ _ .refl
  obtain ⟨_, _, finished⟩ := races_are_serial Scripted.transport around t reached
    (rfl : m.find? "s" = some (.socket k)) [] (.bind ⟨"cp", "svc"⟩) 3 [0, 1, 2, 2, 1]
  exact ⟨by decide +kernel, by decide +kernel, (finished (by decide +kernel)).2.2⟩

end Session

end ProcessorSockets
