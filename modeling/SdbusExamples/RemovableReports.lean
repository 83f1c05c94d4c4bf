import Mathlib.Logic.Relation
import SdbusExamples.LatestEvents
import SdbusExamples.RemovableMonitor
import SdbusExamples.Runs

namespace SdbusExamples.RemovableReports

open LatestEvents PathMaps RemovableMonitor Runs Variants

inductive Event
  | interfacesAdded (objectPath : String) (interfacesAndProperties : Interfaces)
      (drives : String → Option PropertyMap) (r : Replies)
  | interfacesRemoved (objectPath : String) (interfaces : List String)
  | propertiesChanged (objectPath interfaceName : String) (changedProperties : PropertyMap)
      (r : Replies)

/-- `created` comes before the check in the constructor of the watcher and
tells what the drive has answered. -/
inductive Observation
  | created (objectPath drive : String) (driveProperties : Option PropertyMap)
  | reported (report : Report)
  | removed (objectPath : String)

structure World where
  watchers : Watchers
  trace : List Observation

def creation (watchers : Watchers) (objectPath : String) (interfacesAndProperties : Interfaces)
    (drives : String → Option PropertyMap) : List Observation :=
  match admission interfacesAndProperties drives with
  | .removable drive => if objectPath ∈ watchers then [] else [.created objectPath drive (drives drive)]
  | _ => []

def reporting (report : Option Report) : List Observation := (report.map .reported).toList

def next (w : World) : Event → World
  | .interfacesAdded objectPath interfacesAndProperties drives r =>
      let result := onInterfacesAdded w.watchers objectPath interfacesAndProperties drives r
      ⟨result.1, w.trace ++ creation w.watchers objectPath interfacesAndProperties drives ++
        reporting result.2.1⟩
  | .interfacesRemoved objectPath interfaces =>
      ⟨onInterfacesRemoved w.watchers objectPath interfaces,
        if "org.freedesktop.UDisks2.Block" ∈ interfaces then w.trace ++ [.removed objectPath]
        else w.trace⟩
  | .propertiesChanged objectPath interfaceName changedProperties r =>
      let result := onPropertiesChanged w.watchers objectPath interfaceName changedProperties r
      ⟨result.1, w.trace ++ reporting result.2.1⟩

def system : System World Event := ⟨fun _ _ => True, next⟩

def start : World := ⟨∅, []⟩

def lastCreated (objectPath : String) (trace : List Observation) :
    Option (String × Option PropertyMap) :=
  latest (fun
    | .created q drive driveProperties =>
        if q = objectPath then some (some (drive, driveProperties)) else none
    | _ => none) none trace

def reportedSince (objectPath : String) (b : Bool) (trace : List Observation) : Bool :=
  latest (fun
    | .reported r => if r.objectPath = objectPath then some true else none
    | .removed q => if q = objectPath then some false else none
    | _ => none) b trace

def OnRemovable (objectPath : String) (trace : List Observation) : Prop :=
  ∃ drive driveProperties, lastCreated objectPath trace = some (drive, some driveProperties) ∧
    drive ≠ "/" ∧ isRemovable driveProperties = some true

def Filesystem (r : Report) : Prop :=
  idUsage r.blockProperties = some "filesystem" ∨ r.filesystemProperties.isSome = true

def WhenReady (pre : List Observation) (o : Observation) : Prop :=
  ∀ r, o = .reported r → OnRemovable r.objectPath pre ∧ Filesystem r

/-- Between two reports for a path its block is removed. -/
def Once (trace : List Observation) : Prop :=
  ∀ pre r mid r' post, trace = pre ++ .reported r :: mid ++ .reported r' :: post →
    r'.objectPath = r.objectPath → .removed r.objectPath ∈ mid

/-- What leaves the callback during the construction of a watcher is a
std::exception, if it is an exception. -/
def Caught (w : World) : Event → Prop
  | .interfacesAdded objectPath interfacesAndProperties drives r =>
      objectPath ∉ w.watchers → (∃ drive, admission interfacesAndProperties drives = .removable drive) →
        (report objectPath r).isSome = true → r.callback ≠ .throwsOther
  | _ => True

theorem filesystem_of_report {objectPath : String} {r : Replies} {rep : Report}
    (h : report objectPath r = some rep) : Filesystem rep := by
  obtain ⟨blockProps, hb, h⟩ := Option.bind_eq_some_iff.1 h
  obtain ⟨usage, hu, h⟩ := Option.bind_eq_some_iff.1 h
  split_ifs at h with hready
  obtain rfl := Option.some.inj h
  refine hready.imp (fun he => ?_) id
  rw [← he]
  exact hu

/-- What the handlers are made of. A watcher is lost when an exception leaves
its constructor. -/
inductive Move (lossy : Prop) : World → World → Prop
  | create (watchers : Watchers) (trace : List Observation) (path drive : String)
      (driveProperties : PropertyMap) (hnew : path ∉ watchers) (hdrive : drive ≠ "/")
      (hremovable : isRemovable driveProperties = some true) :
      Move lossy ⟨watchers, trace⟩
        ⟨watchers.insert path ⟨drive, false⟩, trace ++ [.created path drive driveProperties]⟩
  | report (watchers : Watchers) (trace : List Observation) (w : Watcher) (r : Report)
      (hw : watchers[r.objectPath]? = some w) (hfirst : w.reported = false)
      (hready : Filesystem r) :
      Move lossy ⟨watchers, trace⟩
        ⟨watchers.insert r.objectPath { w with reported := true }, trace ++ [.reported r]⟩
  | remove (watchers : Watchers) (trace : List Observation) (path : String) :
      Move lossy ⟨watchers, trace⟩ ⟨watchers.erase path, trace ++ [.removed path]⟩
  | lose (watchers : Watchers) (trace : List Observation) (path : String) (hl : lossy) :
      Move lossy ⟨watchers, trace⟩ ⟨watchers.erase path, trace⟩

abbrev Moves (lossy : Prop) : World → World → Prop := Relation.ReflTransGen (Move lossy)

theorem check_moves (lossy : Prop) {watchers : Watchers} (trace : List Observation) {path : String}
    {w : Watcher} (hw : watchers[path]? = some w) (r : Replies) :
    Moves lossy ⟨watchers, trace⟩
      ⟨watchers.insert path (checkAndReportIfReady path w r).1,
        trace ++ reporting (checkAndReportIfReady path w r).2.1⟩ := by
  rcases check_cases path w r with ⟨rep, hfirst, hrep, he⟩ | ⟨-, he⟩
  · obtain rfl := report_objectPath hrep
    rw [he]
    exact .single (.report watchers trace w rep hw hfirst (filesystem_of_report hrep))
  · rw [he, insert_self_path hw, reporting, Option.map_none, Option.toList_none, List.append_nil]

theorem addWatcher_moves {lossy : Prop} {watchers : Watchers} (trace : List Observation)
    {path drive : String} {driveProperties : PropertyMap} (hnew : path ∉ watchers)
    (hdrive : drive ≠ "/") (hremovable : isRemovable driveProperties = some true) (r : Replies)
    (hl : (report path r).isSome = true → r.callback = .throwsOther → lossy) :
    Moves lossy ⟨watchers, trace⟩
      ⟨(addWatcher watchers path drive r).1,
        trace ++ [.created path drive driveProperties] ++
          reporting (addWatcher watchers path drive r).2.1⟩ := by
  have hcreate : Move lossy ⟨watchers, trace⟩ _ :=
    .create watchers trace path drive driveProperties hnew hdrive hremovable
  have hthere : (watchers.insert path (⟨drive, false⟩ : Watcher))[path]? = some ⟨drive, false⟩ := by
    rw [getElem?_insert_path, if_pos rfl]
  have hcheck := check_moves lossy (trace ++ [.created path drive driveProperties]) hthere r
  rw [insert_insert_path] at hcheck
  rw [addWatcher]
  rcases check_cases path ⟨drive, false⟩ r with ⟨rep, -, hrep, he⟩ | ⟨-, he⟩
  · rw [he] at hcheck ⊢
    by_cases hother : r.callback = .throwsOther
    · have hlost := Move.lose (watchers.insert path ⟨drive, true⟩)
        (trace ++ [.created path drive driveProperties] ++ reporting (some rep)) path
        (hl (by rw [hrep]; rfl) hother)
      rw [erase_insert_path hnew] at hlost
      rw [decide_eq_false (not_not.2 hother)]
      exact .tail (.head hcreate hcheck) hlost
    · rw [decide_eq_true hother]
      exact .head hcreate hcheck
  · rw [he] at hcheck ⊢
    exact .head hcreate hcheck

theorem next_moves (w : World) (e : Event) : Moves (¬ Caught w e) w (next w e) := by
  obtain ⟨watchers, trace⟩ := w
  cases e with
  | interfacesAdded path interfaces drives r =>
      simp only [next, onInterfacesAdded, creation]
      cases ha : admission interfaces drives with
      | passedOver => simp [reporting, Relation.ReflTransGen.refl]
      | throws => simp [reporting, Relation.ReflTransGen.refl]
      | removable drive =>
          obtain ⟨hdrive, driveProperties, hanswer, hremovable⟩ := admission_removable ha
          by_cases hmem : path ∈ watchers
          · simp [hmem, reporting, Relation.ReflTransGen.refl]
          · simp only [hmem, if_false, hanswer]
            refine addWatcher_moves trace hmem hdrive hremovable r (fun hrep hother hc => ?_)
            exact hc hmem ⟨drive, ha⟩ hrep hother
  | interfacesRemoved path interfaces =>
      simp only [next, onInterfacesRemoved]
      split_ifs
      · exact .single (.remove watchers trace path)
      · exact .refl
  | propertiesChanged path interfaceName changed r =>
      simp only [next, onPropertiesChanged]
      cases hw : watchers[path]? with
      | none => simp [reporting, Relation.ReflTransGen.refl]
      | some watcher =>
          simp only [Watcher.onPropertiesChanged]
          split_ifs
          · exact check_moves _ trace hw r
          · simp [reporting, insert_self_path hw, Relation.ReflTransGen.refl]

theorem lastCreated_created (path q drive : String) (driveProperties : Option PropertyMap)
    (trace : List Observation) :
    lastCreated path (trace ++ [.created q drive driveProperties]) =
      if q = path then some (drive, driveProperties) else lastCreated path trace := by
  rw [lastCreated, latest_append, latest_cons, latest_nil]
  by_cases h : q = path
  · simp only [if_pos h, Option.getD_some]
  · simp only [if_neg h, Option.getD_none]
    rfl

theorem lastCreated_other (path : String) (trace : List Observation) {o : Observation}
    (h : ∀ q drive driveProperties, o ≠ .created q drive driveProperties) :
    lastCreated path (trace ++ [o]) = lastCreated path trace := by
  rw [lastCreated, latest_append, latest_cons, latest_nil]
  cases o with
  | created q drive driveProperties => exact absurd rfl (h q drive driveProperties)
  | reported r => rfl
  | removed q => rfl

theorem reportedSince_append (path : String) (b : Bool) (xs ys : List Observation) :
    reportedSince path b (xs ++ ys) = reportedSince path (reportedSince path b xs) ys :=
  latest_append _ b xs ys

theorem reportedSince_reported (path : String) (b : Bool) (r : Report) :
    reportedSince path b [.reported r] = if r.objectPath = path then true else b := by
  rw [reportedSince, latest_cons, latest_nil]
  by_cases h : r.objectPath = path
  · simp only [if_pos h, Option.getD_some]
  · simp only [if_neg h, Option.getD_none]

theorem reportedSince_removed (path q : String) (b : Bool) :
    reportedSince path b [.removed q] = if q = path then false else b := by
  rw [reportedSince, latest_cons, latest_nil]
  by_cases h : q = path
  · simp only [if_pos h, Option.getD_some]
  · simp only [if_neg h, Option.getD_none]

structure Removable (w : World) : Prop where
  watchers : ∀ path watcher, w.watchers[path]? = some watcher → OnRemovable path w.trace
  reports : Each WhenReady w.trace

theorem OnRemovable.concat {path : String} {trace : List Observation} (h : OnRemovable path trace)
    {o : Observation} (ho : ∀ q drive driveProperties, o ≠ .created q drive driveProperties) :
    OnRemovable path (trace ++ [o]) := by
  obtain ⟨drive, driveProperties, hlast, hdrive, hremovable⟩ := h
  refine ⟨drive, driveProperties, ?_, hdrive, hremovable⟩
  rw [lastCreated_other path trace ho, hlast]

theorem Removable.move {lossy : Prop} {w w' : World} (hw : Removable w) (h : Move lossy w w') :
    Removable w' := by
  obtain ⟨hwatchers, hreports⟩ := hw
  cases h with
  | create watchers trace path drive driveProperties hnew hdrive hremovable =>
      refine ⟨fun q watcher hq => ?_, each_concat hreports (by rintro r ⟨⟩)⟩
      by_cases hpath : path = q
      · refine ⟨drive, driveProperties, ?_, hdrive, hremovable⟩
        rw [lastCreated_created, if_pos hpath]
      · rw [getElem?_insert_path, if_neg hpath] at hq
        obtain ⟨drive', driveProperties', hlast, hrest⟩ := hwatchers q watcher hq
        refine ⟨drive', driveProperties', ?_, hrest⟩
        rw [lastCreated_created, if_neg hpath, hlast]
  | report watchers trace watcher r hr hfirst hready =>
      have hon := hwatchers r.objectPath watcher hr
      refine ⟨fun q watcher' hq => ?_, each_concat hreports ?_⟩
      · apply OnRemovable.concat _ (by rintro _ _ _ ⟨⟩)
        rw [getElem?_insert_path] at hq
        split_ifs at hq with hpath
        · rw [← hpath]
          exact hon
        · exact hwatchers q watcher' hq
      · rintro r' ⟨⟩
        exact ⟨hon, hready⟩
  | remove watchers trace path =>
      refine ⟨fun q watcher hq => ?_, each_concat hreports (by rintro r ⟨⟩)⟩
      apply OnRemovable.concat _ (by rintro _ _ _ ⟨⟩)
      rw [getElem?_erase_path] at hq
      split_ifs at hq
      exact hwatchers q watcher hq
  | lose watchers trace path hl =>
      refine ⟨fun q watcher hq => ?_, hreports⟩
      rw [getElem?_erase_path] at hq
      split_ifs at hq
      exact hwatchers q watcher hq

def First (pre : List Observation) (o : Observation) : Prop :=
  ∀ r, o = .reported r → reportedSince r.objectPath false pre = false

structure Latched (w : World) : Prop where
  latch : ∀ path, reportedSince path false w.trace = true →
    ∃ watcher, w.watchers[path]? = some watcher ∧ watcher.reported = true
  reports : Each First w.trace

theorem Latched.not_reported {w : World} (h : Latched w) {path : String}
    (hw : ∀ watcher, w.watchers[path]? = some watcher → watcher.reported = false) :
    reportedSince path false w.trace = false := by
  rw [← Bool.not_eq_true]
  intro hr
  obtain ⟨watcher, hp, hreported⟩ := h.latch path hr
  rw [hw watcher hp] at hreported
  exact Bool.false_ne_true hreported

theorem Latched.move {w w' : World} (hw : Latched w) (h : Move False w w') : Latched w' := by
  cases h with
  | create watchers trace path drive driveProperties hnew hdrive hremovable =>
      refine ⟨fun q hq => ?_, each_concat hw.reports (by rintro r ⟨⟩)⟩
      rw [reportedSince_append] at hq
      obtain ⟨watcher, hp, hreported⟩ := hw.latch q hq
      refine ⟨watcher, ?_, hreported⟩
      rw [getElem?_insert_path, if_neg, hp]
      rintro rfl
      exact hnew ((mem_iff_getElem? _).2 ⟨watcher, hp⟩)
  | report watchers trace watcher r hr hfirst hready =>
      refine ⟨fun q hq => ?_, each_concat hw.reports ?_⟩
      · rw [getElem?_insert_path]
        split_ifs with hpath
        · exact ⟨_, rfl, rfl⟩
        · rw [reportedSince_append, reportedSince_reported, if_neg hpath] at hq
          exact hw.latch q hq
      · rintro r' ⟨⟩
        apply hw.not_reported
        intro watcher' hr'
        rw [Option.some.inj (hr'.symm.trans hr), hfirst]
  | remove watchers trace path =>
      refine ⟨fun q hq => ?_, each_concat hw.reports (by rintro r ⟨⟩)⟩
      rw [reportedSince_append, reportedSince_removed] at hq
      split_ifs at hq with hpath
      rw [getElem?_erase_path, if_neg hpath]
      exact hw.latch q hq
  | lose watchers trace path hl => exact hl.elim

theorem removed_mem {path : String} {mid : List Observation}
    (h : reportedSince path true mid = false) : .removed path ∈ mid := by
  obtain ⟨xs, o, ys, rfl, ho, -⟩ := exists_last_of_latest h Bool.false_ne_true
  cases o with
  | created => cases ho
  | reported r =>
      simp only at ho
      split_ifs at ho
      cases ho
  | removed q =>
      simp only at ho
      split_ifs at ho with hq
      rw [hq]
      simp

theorem once_of_first {trace : List Observation} (h : Each First trace) : Once trace := by
  intro pre r mid r' post htrace hpath
  have hfirst := h (pre ++ .reported r :: mid) (.reported r') post htrace r' rfl
  rw [hpath, ← List.singleton_append, ← List.append_assoc, reportedSince_append,
    reportedSince_append, reportedSince_reported, if_pos rfl] at hfirst
  exact removed_mem hfirst

theorem moves_keep {lossy : Prop} {J : World → Prop}
    (hmove : ∀ w w', J w → Move lossy w w' → J w') {w w' : World} (hw : J w)
    (h : Moves lossy w w') : J w' := by
  induction h with
  | refl => exact hw
  | tail _ hlast ih => exact hmove _ _ ih hlast

/-- The watcher that is not stored cannot keep a second watcher for the path
from reporting again; apart from that there is one report an insertion. -/
theorem reports_once_when_ready (es : List Event) :
    Each WhenReady (system.after start es).trace ∧
      (system.Along Caught start es → Once (system.after start es).trace) := by
  constructor
  · have hstart : Removable start := ⟨by rintro path watcher ⟨⟩, each_nil _⟩
    have hstep : ∀ w e, Removable w → system.enabled w e → Removable (next w e) :=
      fun w e hw _ => moves_keep (fun _ _ hw h => hw.move h) hw (next_moves w e)
    exact (system.invariant hstep hstart (system.along_true start es)).reports
  · intro hes
    have hstart : Latched start := ⟨by rintro path ⟨⟩, each_nil _⟩
    have hstep : ∀ w e, Latched w → system.enabled w e → Caught w e → Latched (next w e) := by
      intro w e hw _ hc
      have hmoves := next_moves w e
      rw [eq_false (not_not.2 hc)] at hmoves
      exact moves_keep (fun _ _ hw h => hw.move h) hw hmoves
    exact once_of_first
      (system.invariant_along hstep hstart (system.along_true start es) hes).reports

def stickPath : String := "/org/freedesktop/UDisks2/block_devices/sda1"

def stickProperties : PropertyMap :=
  .ofList [("Drive", Variant.plain (.o "/org/freedesktop/UDisks2/drives/stick")),
    ("IdUsage", Variant.plain (.s "filesystem"))]

def driveOfStick : PropertyMap := .ofList [("Removable", Variant.plain (.b true))]

def inserted (callback : CallbackResult) : Event :=
  .interfacesAdded stickPath (.ofList [("org.freedesktop.UDisks2.Block", stickProperties)])
    (fun _ => some driveOfStick) ⟨some stickProperties, none, some driveOfStick, callback⟩

def pulled : Event := .interfacesRemoved stickPath ["org.freedesktop.UDisks2.Block"]

theorem reports_once_when_ready_reinserted :
    Each WhenReady (system.after start [inserted .throwsStd, pulled, inserted .returns]).trace ∧
      Once (system.after start [inserted .throwsStd, pulled, inserted .returns]).trace := by
  have h := reports_once_when_ready [inserted .throwsStd, pulled, inserted .returns]
  refine ⟨h.1, h.2 ⟨?_, trivial, ?_, trivial⟩⟩
  · rintro - - - ⟨⟩
  · rintro - - - ⟨⟩

/-- UDisks2 starts anew and announces the stick once more. -/
theorem once_fails_when_callback_throws : ¬ ∀ es, Once (system.after start es).trace := by
  intro h
  have hmem := h [inserted .throwsOther, inserted .returns]
    [.created stickPath "/org/freedesktop/UDisks2/drives/stick" (some driveOfStick)]
    ⟨stickPath, stickProperties, some driveOfStick, none⟩
    [.created stickPath "/org/freedesktop/UDisks2/drives/stick" (some driveOfStick)]
    ⟨stickPath, stickProperties, some driveOfStick, none⟩ [] rfl rfl
  rw [List.mem_singleton] at hmem
  cases hmem

end SdbusExamples.RemovableReports
