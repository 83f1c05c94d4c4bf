import SdbusExamples.LoopSteps

namespace SdbusExamples.LoopDispatch

open LoopQueues LoopRun LoopSteps Runs

variable {Src : Type}

inductive Owner (Src : Type)
  | dbus
  | dbusEvent
  | wake
  | source (p : Src)

def owners (pd : PollData) (sources : List Src) : List (Owner Src) :=
  .dbus :: (if 0 ≤ pd.eventFd then [.dbusEvent] else []) ++ .wake :: sources.map .source

def entry (pd : PollData) (view : Src → Int × Short) (wakeFd : Int) : Owner Src → Pollfd
  | .dbus => ⟨pd.fd, pd.events, 0⟩
  | .dbusEvent => ⟨pd.eventFd, POLLIN, 0⟩
  | .wake => ⟨wakeFd, POLLIN, 0⟩
  | .source p => ⟨(view p).1, (view p).2, 0⟩

theorem pfds_buildPollSet (pd : PollData) (view : Src → Int × Short) (l : EventLoop Src) :
    (buildPollSet pd view l).pfds = (owners pd l.sources).map (entry pd view l.wakeFd) := by
  rw [buildPollSet, owners]
  split_ifs <;> simp [entry, Function.comp_def]

/-- The source and the revents of one entry, if it is the entry of a source
and poll() reported something for it. -/
def readyEntry : Owner Src × Short → Option (Src × Short)
  | (.source p, revents) => if revents = 0 then none else some (p, revents)
  | _ => none

/-- The sources whose own fd got revents, in registration order. -/
def ready (pd : PollData) (sources : List Src) (revents : List Short) : List (Src × Short) :=
  ((owners pd sources).zip revents).filterMap readyEntry

def dispatches [DecidableEq Src] (s : State Src) (a : Action Src) : List (Src × Short) :=
  match a, (next s a).pc with
  | .dispatchNext _, .inDispatch i =>
      (s.loop.sources[i]?).toList.map fun p => (p, s.sourceRevents i)
  | _, _ => []

def dispatched [DecidableEq Src] : State Src → List (Action Src) → List (Src × Short)
  | _, [] => []
  | s, a :: as => dispatches s a ++ dispatched (next s a) as

def reported : Action Src → List Short
  | .poll (.ready revents) => revents
  | _ => []

def reports (as : List (Action Src)) : List Short := as.flatMap reported

/-- The steps after the building of the poll set that belong to the same
iteration of run(), or to its way out of the loop. -/
def SameIteration (as : List (Action Src)) : Prop := .whileTest ∉ as ∧ .callRun ∉ as

def base (pd : PollData) : Nat := if 0 ≤ pd.eventFd then 3 else 2

theorem filterMap_sources (sources : List Src) (revents : List Short) :
    ((sources.map Owner.source).zip revents).filterMap readyEntry =
      (sources.zip revents).filter fun e => e.2 ≠ 0 := by
  induction sources generalizing revents with
  | nil => rfl
  | cons p sources ih =>
      cases revents with
      | nil => rfl
      | cons r revents =>
          by_cases hr : r = 0#16
          · simpa [List.filterMap_cons, readyEntry, hr] using ih revents
          · simpa [List.filterMap_cons, readyEntry, hr] using ih revents

theorem ready_eq (pd : PollData) (sources : List Src) (revents : List Short) :
    ready pd sources revents =
      (sources.zip (revents.drop (base pd))).filter fun e => e.2 ≠ 0 := by
  rw [ready, owners, base, ← filterMap_sources]
  split_ifs
  · match revents with
    | [] | [_] | [_, _] => simp [List.filterMap_cons, readyEntry]
    | _ :: _ :: _ :: rs => simp [List.filterMap_cons, readyEntry]
  · match revents with
    | [] | [_] => simp [List.filterMap_cons, readyEntry]
    | _ :: _ :: rs => simp [List.filterMap_cons, readyEntry]

theorem ready_nil (pd : PollData) (sources : List Src) : ready pd sources [] = [] := by
  simp [ready_eq]

/-- The calls that the pass has made when it has dealt with the first `i` sources. -/
def calls (pd : PollData) (sources : List Src) (revents : List Short) (i : Nat) :
    List (Src × Short) :=
  ((sources.zip (revents.drop (base pd))).take i).filter fun e => e.2 ≠ 0

theorem calls_initial (pd : PollData) (sources : List Src) (revents : List Short) (i : Nat) :
    calls pd sources revents i <+: ready pd sources revents := by
  rw [ready_eq, calls]
  exact (List.take_prefix _ _).filter _

theorem calls_of_length_le (pd : PollData) {sources : List Src} (revents : List Short) {i : Nat}
    (h : sources.length ≤ i) : calls pd sources revents i = ready pd sources revents := by
  rw [ready_eq, calls, List.take_of_length_le]
  rw [List.length_zip]
  omega

theorem calls_succ (pd : PollData) {sources : List Src} {revents : List Short} {i : Nat}
    {p : Src} {r : Short} (hp : sources[i]? = some p) (hr : revents[base pd + i]? = some r) :
    calls pd sources revents (i + 1) =
      calls pd sources revents i ++ if r = 0 then [] else [(p, r)] := by
  have hi : (sources.zip (revents.drop (base pd)))[i]? = some (p, r) := by
    rw [List.getElem?_zip_eq_some, List.getElem?_drop]
    exact ⟨hp, hr⟩
  rw [calls, calls, List.take_add_one, hi, List.filter_append]
  by_cases h0 : r = 0#16 <;> simp [h0]

theorem length_pfds (pd : PollData) (view : Src → Int × Short) (l : EventLoop Src) :
    (buildPollSet pd view l).pfds.length = base pd + l.sources.length := by
  rw [buildPollSet, base]
  split_ifs
  · simp
    omega
  · simp
    omega

theorem firstSourceIdx_buildPollSet (pd : PollData) (view : Src → Int × Short)
    (l : EventLoop Src) : (buildPollSet pd view l).firstSourceIdx = base pd := by
  rw [buildPollSet, base]
  split_ifs <;> rfl

theorem revents_report (p : PollSet) {revents : List Short} {i : Nat}
    (h : revents.length = p.pfds.length) (hi : i < revents.length) :
    revents[i]? = some ((p.report revents).revents i) := by
  have hi' : i < p.pfds.length := h ▸ hi
  have hentry : (p.report revents).pfds[i]? = some { p.pfds[i] with revents := revents[i] } := by
    rw [PollSet.report, List.getElem?_zipWith, List.getElem?_eq_getElem hi',
      List.getElem?_eq_getElem hi]
  rw [PollSet.revents, hentry, List.getElem?_eq_getElem hi]
  rfl

structure Polled (pd : PollData) (view : Src → Int × Short) (l : EventLoop Src)
    (s : State Src) (revents : List Short) : Prop where
  polled : s.polled = (buildPollSet pd view l).report revents
  sources : s.loop.sources = l.sources
  length : revents.length = (buildPollSet pd view l).pfds.length

theorem Polled.sourceRevents {pd : PollData} {view : Src → Int × Short} {l : EventLoop Src}
    {s : State Src} {revents : List Short} (h : Polled pd view l s revents) {i : Nat}
    (hi : i < s.loop.sources.length) : revents[base pd + i]? = some (s.sourceRevents i) := by
  have hlength := h.length
  rw [length_pfds, ← h.sources] at hlength
  rw [revents_report _ h.length (by omega), State.sourceRevents, h.polled]
  rw [← firstSourceIdx_buildPollSet pd view l]
  rfl

/-- How far the iteration that polls for `l` has come, when poll() has
reported `revents` and `done` are the dispatch() calls made. -/
def Progress (pd : PollData) (view : Src → Int × Short) (l : EventLoop Src)
    (s : State Src) (revents : List Short) (done : List (Src × Short)) : Prop :=
  match s.pc with
  | .polling =>
      s.polled = buildPollSet pd view l ∧ s.loop.sources = l.sources ∧ revents = [] ∧ done = []
  | .draining | .processing => Polled pd view l s revents ∧ done = []
  | .dispatching i => Polled pd view l s revents ∧ done = calls pd l.sources revents i
  | .inDispatch i => Polled pd view l s revents ∧ done = calls pd l.sources revents (i + 1)
  | .whileTest => done = ready pd l.sources revents
  | .storeError e | .finalLoad e | .returned e _ => done = [] ∧ (e ≠ .dbusError → revents = [])
  | .destroyed => done = []
  | .outside | .storeRunning | .applyPending | .breakTest | .buildPollSet => False

theorem Progress.of_same {pd : PollData} {view : Src → Int × Short} {l : EventLoop Src}
    {s s' : State Src} {revents : List Short} {done : List (Src × Short)}
    (h : Progress pd view l s revents done) (hpc : s'.pc = s.pc) (hpolled : s'.polled = s.polled)
    (hsources : s'.loop.sources = s.loop.sources) : Progress pd view l s' revents done := by
  have hp (hq : Polled pd view l s revents) : Polled pd view l s' revents :=
    ⟨hpolled.trans hq.polled, hsources.trans hq.sources, hq.length⟩
  rw [Progress, hpc]
  rw [Progress] at h
  cases hs : s.pc <;> rw [hs] at h
  case polling => exact ⟨hpolled.trans h.1, hsources.trans h.2.1, h.2.2⟩
  case draining | processing | dispatching | inDispatch => exact ⟨hp h.1, h.2⟩
  all_goals exact h

theorem Polled.progress {pd : PollData} {view : Src → Int × Short} {l : EventLoop Src}
    {s : State Src} {revents : List Short} (h : Polled pd view l s revents)
    (hpc : s.pc = .draining ∨ s.pc = .processing ∨ s.pc = .dispatching 0) :
    Progress pd view l s revents [] := by
  rw [Progress]
  rcases hpc with hpc | hpc | hpc <;> rw [hpc]
  · exact ⟨h, rfl⟩
  · exact ⟨h, rfl⟩
  · exact ⟨h, by simp [calls]⟩

def Over : Pc → Prop
  | .whileTest | .finalLoad _ | .returned _ _ => True
  | _ => False

def ByDbusError : Pc → Prop
  | .storeError e | .finalLoad e | .returned e _ => e = .dbusError
  | _ => False

theorem Progress.spec {pd : PollData} {view : Src → Int × Short} {l : EventLoop Src}
    {revents : List Short} {done : List (Src × Short)} {s : State Src}
    (h : Progress pd view l s revents done) :
    done <+: ready pd l.sources revents ∧
      (Over s.pc → ¬ ByDbusError s.pc → done = ready pd l.sources revents) ∧
      (ByDbusError s.pc → done = []) := by
  rw [Progress] at h
  cases hpc : s.pc <;> rw [hpc] at h
  case polling =>
    obtain ⟨-, -, -, rfl⟩ := h
    exact ⟨List.nil_prefix, False.elim, False.elim⟩
  case draining | processing =>
    obtain ⟨-, rfl⟩ := h
    exact ⟨List.nil_prefix, False.elim, False.elim⟩
  case dispatching | inDispatch =>
    obtain ⟨-, rfl⟩ := h
    exact ⟨calls_initial pd l.sources revents _, False.elim, False.elim⟩
  case whileTest => exact ⟨h ▸ List.prefix_rfl, fun _ _ => h, False.elim⟩
  case storeError e =>
    obtain ⟨rfl, -⟩ := h
    exact ⟨List.nil_prefix, False.elim, fun _ => rfl⟩
  case finalLoad e | returned e _ =>
    obtain ⟨rfl, hr⟩ := h
    refine ⟨List.nil_prefix, fun _ hne => ?_, fun _ => rfl⟩
    rw [hr hne, ready_nil]
  case destroyed =>
    subst h
    exact ⟨List.nil_prefix, False.elim, False.elim⟩
  all_goals exact h.elim

theorem map_fst_zip_sublist (sources : List Src) (revents : List Short) :
    ((sources.zip revents).map Prod.fst).Sublist sources := by
  induction sources generalizing revents with
  | nil => exact List.Sublist.refl _
  | cons p sources ih =>
      cases revents with
      | nil => exact List.nil_sublist _
      | cons r revents => exact (ih revents).cons_cons p

theorem ready_nodup (pd : PollData) {sources : List Src} (revents : List Short)
    (h : sources.Nodup) : ((ready pd sources revents).map Prod.fst).Nodup := by
  rw [ready_eq]
  exact (h.sublist (map_fst_zip_sublist _ _)).sublist (List.filter_sublist.map _)

variable [DecidableEq Src]

theorem dispatches_dispatchNext (s : State Src) (i : Nat) :
    dispatches s (.dispatchNext i) =
      if s.sourceRevents i = 0 then []
      else (s.loop.sources[i]?).toList.map fun p => (p, s.sourceRevents i) := by
  simp only [dispatches, next, State.dispatchNext]
  by_cases hi : i < s.loop.sources.length
  · rw [if_pos hi]
    by_cases hr : s.sourceRevents i = 0#16
    · simp [hr]
    · simp [hr]
  · simp [hi]

theorem progress_dispatchNext {pd : PollData} {view : Src → Int × Short} {l : EventLoop Src}
    {revents : List Short} (s : State Src) (i : Nat) (hp : Polled pd view l s revents) :
    Progress pd view l (s.dispatchNext i) revents
      (calls pd l.sources revents i ++ dispatches s (.dispatchNext i)) := by
  rw [dispatches_dispatchNext, State.dispatchNext]
  by_cases hi : i < s.loop.sources.length
  · have hsource : l.sources[i]? = some s.loop.sources[i] := by
      rw [← hp.sources, List.getElem?_eq_getElem hi]
    have hcalls := calls_succ pd hsource (hp.sourceRevents hi)
    have hp' (pc : Pc) : Polled pd view l { s with pc } revents := ⟨hp.polled, hp.sources, hp.length⟩
    rw [if_pos hi, List.getElem?_eq_getElem hi]
    by_cases hr : s.sourceRevents i = 0
    · rw [if_pos hr, if_pos hr]
      rw [if_pos hr] at hcalls
      exact ⟨hp' _, hcalls.symm⟩
    · rw [if_neg hr, if_neg hr]
      rw [if_neg hr] at hcalls
      exact ⟨hp' _, hcalls.symm⟩
  · have hnone : s.loop.sources[i]? = none := List.getElem?_eq_none (by omega)
    have hlength : l.sources.length ≤ i := by
      rw [← hp.sources]
      omega
    rw [if_neg hi, hnone]
    simp [Progress, calls_of_length_le pd revents hlength]

theorem progress_poll {pd : PollData} {view : Src → Int × Short} {l : EventLoop Src}
    {revents : List Short} {done : List (Src × Short)} (s : State Src) (r : PollResult)
    (h : Progress pd view l s revents done) (he : enabled s (.poll r)) :
    Progress pd view l (next s (.poll r)) (revents ++ reported (.poll r : Action Src))
      (done ++ dispatches s (.poll r)) := by
  cases r with
  | failed eintr =>
      have hpc : s.pc = .polling := he
      rw [Progress, hpc] at h
      obtain ⟨-, -, rfl, rfl⟩ := h
      cases eintr
      · exact ⟨rfl, fun _ => rfl⟩
      · exact (ready_nil pd l.sources).symm
  | ready rs =>
      have hpc : s.pc = .polling := he.1
      rw [Progress, hpc] at h
      obtain ⟨hpolled, hsources, rfl, rfl⟩ := h
      have hp : Polled pd view l (next s (.poll (.ready rs))) rs := by
        refine ⟨?_, hsources, ?_⟩
        · rw [← hpolled]
          rfl
        · rw [← hpolled]
          exact he.2.1
      refine hp.progress ?_
      simp only [next]
      split_ifs
      · exact Or.inl rfl
      · exact Or.inr (afterDrain_eq _)

theorem progress_drain {pd : PollData} {view : Src → Int × Short} {l : EventLoop Src}
    {revents : List Short} {done : List (Src × Short)} (s : State Src)
    (h : Progress pd view l s revents done) (he : enabled s .drain) :
    Progress pd view l (next s .drain) (revents ++ reported (.drain : Action Src))
      (done ++ dispatches s .drain) := by
  have hpc : s.pc = .draining := he
  rw [Progress, hpc] at h
  obtain ⟨hp, rfl⟩ := h
  have hp' : Polled pd view l s.drain revents := by
    rw [State.drain]
    split_ifs <;> exact ⟨hp.polled, hp.sources, hp.length⟩
  have hmove : s.drain.pc = .draining ∨ s.drain.pc = .processing ∨
      s.drain.pc = .dispatching 0 := by
    rcases s.drain_pc with h | h
    · exact Or.inl (h.trans hpc)
    · rw [h]
      exact Or.inr (afterDrain_eq _)
  simpa [reported, dispatches, next] using hp'.progress hmove

theorem progress_next {pd : PollData} {view : Src → Int × Short} {l : EventLoop Src}
    {revents : List Short} {done : List (Src × Short)} (s : State Src) (a : Action Src)
    (h : Progress pd view l s revents done) (he : enabled s a) (hw : a ≠ .whileTest)
    (hc : a ≠ .callRun) :
    Progress pd view l (next s a) (revents ++ reported a) (done ++ dispatches s a) := by
  cases a with
  | callRun => exact absurd rfl hc
  | whileTest => exact absurd rfl hw
  | storeRunning | applyPending | breakTest | buildPollSet =>
      have hpc := he
      rw [Progress, hpc] at h
      exact h.elim
  | poll r => exact progress_poll s r h he
  | drain => exact progress_drain s h he
  | processed =>
      have hpc : s.pc = .processing := he
      rw [Progress, hpc] at h
      obtain ⟨hp, rfl⟩ := h
      have hp' : Polled pd view l (next s .processed) revents := ⟨hp.polled, hp.sources, hp.length⟩
      simpa [reported, dispatches, next] using hp'.progress (Or.inr (Or.inr rfl))
  | dbusThrow =>
      have hpc : s.pc = .processing := he
      rw [Progress, hpc] at h
      obtain ⟨-, rfl⟩ := h
      exact ⟨rfl, fun hne => absurd rfl hne⟩
  | dispatchNext i =>
      have hpc : s.pc = .dispatching i := he
      rw [Progress, hpc] at h
      obtain ⟨hp, rfl⟩ := h
      simpa [reported, next] using progress_dispatchNext s i hp
  | dispatchReturn i =>
      have hpc : s.pc = .inDispatch i := he
      rw [Progress, hpc] at h
      obtain ⟨hp, rfl⟩ := h
      have hp' : Polled pd view l (s.dispatchReturn i) revents :=
        ⟨hp.polled, (sources_next s (.dispatchReturn i) (by simp)).trans hp.sources, hp.length⟩
      have hprogress : Progress pd view l (s.dispatchReturn i) revents
          (calls pd l.sources revents (i + 1)) := ⟨hp', rfl⟩
      simpa [reported, dispatches, next] using hprogress
  | storeError e =>
      have hpc : s.pc = .storeError e := he
      rw [Progress, hpc] at h
      obtain ⟨rfl, hr⟩ := h
      exact ⟨rfl, fun hne => by rw [hr hne]; rfl⟩
  | finalLoad e =>
      have hpc : s.pc = .finalLoad e := he
      rw [Progress, hpc] at h
      obtain ⟨rfl, hr⟩ := h
      exact ⟨rfl, fun hne => by rw [hr hne]; rfl⟩
  | add p | remove p | retire p | callStop p =>
      simp only [reported, dispatches, List.append_nil]
      exact h.of_same rfl rfl (sources_next s _ (by simp))
  | stopStep i =>
      have hpolled : (s.stopStep i).polled = s.polled := by
        rw [State.stopStep]
        split <;> rfl
      have hsame := h.of_same (s.stopStep_pc i) hpolled (sources_next s (.stopStep i) (by simp))
      simpa [reported, dispatches, next] using hsame
  | destroy =>
      have hidle : s.pc.idle = true := he
      rw [Progress] at h
      cases hpc : s.pc <;> rw [hpc] at h hidle
      case outside => exact h.elim
      case returned => exact h.1 ▸ rfl
      all_goals cases hidle

theorem progress_after {pd : PollData} {view : Src → Int × Short} {l : EventLoop Src}
    {revents : List Short} {done : List (Src × Short)} {s : State Src} {as : List (Action Src)}
    (h : Progress pd view l s revents done) (hv : (system Src).Valid s as)
    (hs : SameIteration as) :
    Progress pd view l ((system Src).after s as) (revents ++ reports as)
      (done ++ dispatched s as) := by
  induction as generalizing s revents done with
  | nil => simpa [reports, dispatched] using h
  | cons a as ih =>
      obtain ⟨hw, hc⟩ := hs
      rw [List.mem_cons, not_or] at hw hc
      have hnext := progress_next s a h hv.1 (Ne.symm hw.1) (Ne.symm hc.1)
      have hlast := ih hnext hv.2 ⟨hw.2, hc.2⟩
      rw [List.append_assoc, List.append_assoc] at hlast
      exact hlast

theorem progress_iteration {pd : PollData} {view : Src → Int × Short} {s : State Src}
    {bs : List (Action Src)} (hv : (system Src).Valid s (.buildPollSet pd view :: bs))
    (hb : SameIteration bs) :
    Progress pd view s.loop ((system Src).after s (.buildPollSet pd view :: bs)) (reports bs)
      (dispatched s (.buildPollSet pd view :: bs)) := by
  have hstart : Progress pd view s.loop (next s (.buildPollSet pd view)) [] [] :=
    ⟨rfl, rfl, rfl, rfl⟩
  exact progress_after hstart hv.2 hb

/-- In every iteration the dispatch() calls are, in this order, those for the
sources whose own fd got revents, with these revents; an iteration that D-Bus
processing breaks off makes none. -/
theorem dispatch_fidelity (wakeFd : Int) (as bs : List (Action Src)) (pd : PollData)
    (view : Src → Int × Short)
    (hv : (system Src).Valid (initial wakeFd) (as ++ .buildPollSet pd view :: bs))
    (hb : SameIteration bs) :
    let s := (system Src).after (initial wakeFd) as
    let s' := (system Src).after (initial wakeFd) (as ++ .buildPollSet pd view :: bs)
    let expected := ready pd s.loop.sources (reports bs)
    let done := dispatched s (.buildPollSet pd view :: bs)
    (expected.map Prod.fst).Nodup ∧ done <+: expected ∧
      (Over s'.pc → ¬ ByDbusError s'.pc → done = expected) ∧
      (ByDbusError s'.pc → done = []) := by
  intro s s' expected done
  rw [System.valid_append] at hv
  have hnodup : s.loop.sources.Nodup :=
    (system Src).invariant (fun s a h _ => nodup_next s a h) (by simp [initial, EventLoop.init])
      hv.1
  have hs' : s' = (system Src).after s (.buildPollSet pd view :: bs) := System.after_append _ _ _ _
  refine ⟨ready_nodup pd _ hnodup, ?_⟩
  rw [hs']
  exact (progress_iteration hv.2 hb).spec

theorem dispatch_fidelity_eventFd :
    dispatched ((system Nat).after (initial 3)
        [.add 0, .add 1, .callRun, .storeRunning, .whileTest, .applyPending, .breakTest])
      [.buildPollSet ⟨5, POLLIN, 6⟩ (fun _ => (7, POLLIN)),
        .poll (.ready [0, 0, POLLIN, POLLHUP, POLLIN]), .drain, .drain, .dispatchNext 0,
        .remove 1, .dispatchReturn 0, .dispatchNext 1, .dispatchReturn 1, .dispatchNext 2] =
      ready ⟨5, POLLIN, 6⟩ [0, 1] [0, 0, POLLIN, POLLHUP, POLLIN] :=
  (dispatch_fidelity 3
    [.add 0, .add 1, .callRun, .storeRunning, .whileTest, .applyPending, .breakTest]
    [.poll (.ready [0, 0, POLLIN, POLLHUP, POLLIN]), .drain, .drain, .dispatchNext 0,
      .remove 1, .dispatchReturn 0, .dispatchNext 1, .dispatchReturn 1, .dispatchNext 2]
    ⟨5, POLLIN, 6⟩ (fun _ => (7, POLLIN)) (by decide) (by simp [SameIteration])).2.2.1
    trivial id

/-- A source that poll() has reported is not dispatched when D-Bus processing throws. -/
theorem dbus_error_skips_dispatch :
    ¬ ∀ (wakeFd : Int) (as bs : List (Action Nat)) (pd : PollData) (view : Nat → Int × Short),
      (system Nat).Valid (initial wakeFd) (as ++ .buildPollSet pd view :: bs) →
      SameIteration bs →
      Over ((system Nat).after (initial wakeFd) (as ++ .buildPollSet pd view :: bs)).pc →
      dispatched ((system Nat).after (initial wakeFd) as) (.buildPollSet pd view :: bs) =
        ready pd ((system Nat).after (initial wakeFd) as).loop.sources (reports bs) := by
  intro h
  have h := h 3 [.add 0, .callRun, .storeRunning, .whileTest, .applyPending, .breakTest]
    [.poll (.ready [POLLIN, POLLIN, POLLIN]), .drain, .drain, .dbusThrow, .storeError .dbusError]
    ⟨5, POLLIN, -1⟩ (fun _ => (7, POLLIN)) (by decide) (by simp [SameIteration]) trivial
  exact absurd h (by decide)

end SdbusExamples.LoopDispatch
