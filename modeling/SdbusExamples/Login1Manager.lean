import SdbusExamples.Runs
import SdbusExamples.SnapshotStreams
import Mathlib.Logic.Function.Basic

namespace SdbusExamples.Login1Manager

open Function LatestEvents Runs SnapshotStreams

inductive Kind
  | seat
  | session
  | user
deriving DecidableEq

/-- seats_, sessions_ and users_. Of the proxies only the presence matters. -/
abbrev Stores := Kind → List String

/-- `constructs` is false when the constructor of the proxy throws, before
there is an entry for it. -/
def onNew (k : Kind) (constructs : Bool) (stores : Stores) (objectPath : String) : Stores :=
  if objectPath ∈ stores k then stores
  else if constructs then update stores k (stores k ++ [objectPath])
  else stores

def onRemoved (k : Kind) (stores : Stores) (objectPath : String) : Stores :=
  update stores k ((stores k).filter (· ≠ objectPath))

def onSeatNew : Bool → Stores → String → Stores := onNew .seat
def onSessionNew : Bool → Stores → String → Stores := onNew .session
def onUserNew : Bool → Stores → String → Stores := onNew .user
def onSeatRemoved : Stores → String → Stores := onRemoved .seat
def onSessionRemoved : Stores → String → Stores := onRemoved .session
def onUserRemoved : Stores → String → Stores := onRemoved .user

def handleNew : Kind → Bool → Stores → String → Stores
  | .seat => onSeatNew
  | .session => onSessionNew
  | .user => onUserNew

def handleRemoved : Kind → Stores → String → Stores
  | .seat => onSeatRemoved
  | .session => onSessionRemoved
  | .user => onUserRemoved

/-- The messages of logind to the client: its signals, and the reply to the
GetAllAsync of the constructor, which is an error or not. -/
inductive Message
  | new (k : Kind) (objectPath : String)
  | removed (k : Kind) (objectPath : String)
  | reply (ok : Bool)
deriving DecidableEq

inductive Phase
  | constructing
  | running
  | enumerating (k : Kind)
deriving DecidableEq

/-- `asked` says that the reply is still owed; `listed` are the kinds of which
the client has taken over the whole list. -/
structure World where
  daemon : Kind → List String
  asked : Bool
  bus : List Message
  phase : Phase
  stores : Stores
  listed : List Kind

inductive Action
  | exports (k : Kind) (objectPath : String)
  | withdraws (k : Kind) (objectPath : String)
  | replies (ok : Bool)
  | registerProxy
  | deliver (constructs : Bool)
  | list (throwsAt : Option Nat)
deriving DecidableEq

/-- The loops of the handler of the reply are in this order. -/
def Kind.next : Kind → Phase
  | .seat => .enumerating .session
  | .session => .enumerating .user
  | .user => .running

/-- A signal is sent to the client if its match rules are installed. -/
def send (w : World) (m : Message) : List Message :=
  if w.phase = .constructing then w.bus else w.bus ++ [m]

def handle (w : World) (constructs : Bool) : Message → World
  | .new k path => { w with stores := handleNew k constructs w.stores path }
  | .removed k path => { w with stores := handleRemoved k w.stores path }
  | .reply true => { w with phase := .enumerating .seat }
  | .reply false => w

/-- One of the three calls with the loop over its reply. `throwsAt` is the entry
at which an error comes up, the first one also when the call itself fails; the
error ends the handler. -/
def list (w : World) (k : Kind) : Option Nat → World
  | none => { w with
      stores := (w.daemon k).foldl (handleNew k true) w.stores
      listed := k :: w.listed
      phase := k.next }
  | some n => { w with
      stores := ((w.daemon k).take n).foldl (handleNew k true) w.stores
      phase := .running }

def enabled (w : World) : Action → Prop
  | .exports k path => path ∉ w.daemon k
  | .withdraws k path => path ∈ w.daemon k
  | .replies _ => w.asked = true
  | .registerProxy => w.phase = .constructing
  | .deliver _ => w.phase = .running ∧ w.bus ≠ []
  | .list _ => ∃ k, w.phase = .enumerating k

def next (w : World) : Action → World
  | .exports k path => { w with
      daemon := update w.daemon k (w.daemon k ++ [path])
      bus := send w (.new k path) }
  | .withdraws k path => { w with
      daemon := update w.daemon k ((w.daemon k).filter (· ≠ path))
      bus := send w (.removed k path) }
  | .replies ok => { w with asked := false, bus := w.bus ++ [.reply ok] }
  | .registerProxy => { w with phase := .running }
  | .deliver constructs =>
      match w.bus with
      | [] => w
      | m :: bus => handle { w with bus := bus } constructs m
  | .list throwsAt =>
      match w.phase with
      | .enumerating k => list w k throwsAt
      | _ => w

def system : System World Action := ⟨enabled, next⟩

instance (w : World) : (a : Action) → Decidable (system.enabled w a)
  | .exports k path => inferInstanceAs (Decidable (path ∉ w.daemon k))
  | .withdraws k path => inferInstanceAs (Decidable (path ∈ w.daemon k))
  | .replies _ => inferInstanceAs (Decidable (w.asked = true))
  | .registerProxy => inferInstanceAs (Decidable (w.phase = .constructing))
  | .deliver _ => inferInstanceAs (Decidable (w.phase = .running ∧ w.bus ≠ []))
  | .list _ =>
      match h : w.phase with
      | .enumerating k => .isTrue ⟨k, h⟩
      | .constructing => .isFalse fun ⟨_, hk⟩ => by simp [h] at hk
      | .running => .isFalse fun ⟨_, hk⟩ => by simp [h] at hk

def initial (daemon : Kind → List String) : World :=
  ⟨daemon, true, [], .constructing, fun _ => [], []⟩

def Constructs : Action → Prop
  | .deliver constructs => constructs = true
  | _ => True

def tells (k : Kind) (path : String) : Message → Option Bool
  | .new k' path' => if k' = k ∧ path' = path then some true else none
  | .removed k' path' => if k' = k ∧ path' = path then some false else none
  | .reply _ => none

theorem mem_handleNew (k k' : Kind) (constructs : Bool) (stores : Stores) (path q : String) :
    q ∈ handleNew k constructs stores path k' ↔
      q ∈ stores k' ∨ (k = k' ∧ path = q ∧ constructs = true) := by
  have hnew : handleNew k constructs stores path = onNew k constructs stores path := by
    cases k <;> rfl
  rw [hnew, onNew]
  split_ifs with hmem hc
  · constructor
    · exact Or.inl
    · rintro (h | ⟨rfl, rfl, -⟩)
      · exact h
      · exact hmem
  · by_cases hk : k' = k
    · subst hk
      simp [hc, eq_comm]
    · simp [hk, Ne.symm hk]
  · simp [hc]

theorem mem_handleRemoved (k k' : Kind) (stores : Stores) (path q : String) :
    q ∈ handleRemoved k stores path k' ↔ q ∈ stores k' ∧ ¬ (k = k' ∧ path = q) := by
  have hremoved : handleRemoved k stores path = onRemoved k stores path := by
    cases k <;> rfl
  rw [hremoved, onRemoved]
  by_cases hk : k' = k
  · subst hk
    simp [ne_comm]
  · simp [hk, Ne.symm hk]

theorem mem_foldl_handleNew (k k' : Kind) (stores : Stores) (paths : List String) (q : String) :
    q ∈ paths.foldl (handleNew k true) stores k' ↔ q ∈ stores k' ∨ (k = k' ∧ q ∈ paths) := by
  induction paths generalizing stores with
  | nil => simp
  | cons path paths ih =>
      rw [List.foldl_cons, ih, mem_handleNew, List.mem_cons]
      constructor
      · rintro ((h | ⟨hk, rfl, -⟩) | ⟨hk, h⟩)
        · exact Or.inl h
        · exact Or.inr ⟨hk, Or.inl rfl⟩
        · exact Or.inr ⟨hk, Or.inr h⟩
      · rintro (h | ⟨hk, rfl | h⟩)
        · exact Or.inl (Or.inl h)
        · exact Or.inl (Or.inr ⟨hk, rfl, rfl⟩)
        · exact Or.inr ⟨hk, h⟩

abbrev source (w : World) (k : Kind) (path : String) : Bool := decide (path ∈ w.daemon k)

abbrev copy (w : World) (k : Kind) (path : String) : Bool := decide (path ∈ w.stores k)

structure Inv (w : World) : Prop where
  quiet : w.phase = .constructing → ∀ k path, ∀ m ∈ w.bus, tells k path m = none
  fresh : w.phase = .constructing → w.listed = [] ∧ ∀ k, w.stores k = []
  trails : ∀ k path, Trails (tells k path) (source w k path) (copy w k path) w.bus

def Complete (w : World) : Prop :=
  ∀ k ∈ w.listed, ∀ path, Synced (tells k path) (source w k path) (copy w k path) w.bus

theorem inv_initial (daemon : Kind → List String) : Inv (initial daemon) := by
  refine ⟨fun _ k path m hm => ?_, fun _ => ⟨rfl, fun k => rfl⟩, fun k path => ?_⟩
  · cases hm
  · exact trails_empty _ fun e he => by cases he

theorem inv_sends {w : World} (w' : World) (h : Inv w) (m : Message) (hphase : w'.phase = w.phase)
    (hbus : w'.bus = send w m) (hstores : w'.stores = w.stores) (hlisted : w'.listed = w.listed)
    (hsource : ∀ k path, source w' k path = (tells k path m).getD (source w k path)) :
    Inv w' ∧ (Complete w → Complete w') := by
  by_cases hc : w.phase = .constructing
  · have hsend : w'.bus = w.bus := by rw [hbus, send, if_pos hc]
    have hempty : ∀ k path, copy w' k path = false := by
      intro k path
      rw [copy, hstores, (h.fresh hc).2 k]
      rfl
    refine ⟨⟨fun _ => ?_, fun _ => ?_, fun k path => ?_⟩, fun _ k hk => ?_⟩
    · rw [hsend]
      exact h.quiet hc
    · rw [hlisted, hstores]
      exact h.fresh hc
    · rw [hempty, hsend]
      exact trails_empty _ (h.quiet hc k path)
    · rw [hlisted, (h.fresh hc).1] at hk
      cases hk
  · have hsend : w'.bus = w.bus ++ [m] := by rw [hbus, send, if_neg hc]
    have hcopy : ∀ k path, copy w' k path = copy w k path := by
      intro k path
      rw [copy, hstores]
    refine ⟨⟨fun hc' => ?_, fun hc' => ?_, fun k path => ?_⟩, fun hw k hk path => ?_⟩
    · exact absurd (hphase ▸ hc') hc
    · exact absurd (hphase ▸ hc') hc
    · rw [hsource, hcopy, hsend]
      exact (h.trails k path).change m
    · rw [hsource, hcopy, hsend]
      exact (hw k (hlisted ▸ hk) path).change m

theorem source_exports (w : World) (k k' : Kind) (path q : String) :
    source (next w (.exports k path)) k' q = (tells k' q (.new k path)).getD (source w k' q) := by
  by_cases hk : k' = k
  · subst hk
    by_cases hq : q = path
    · simp [source, next, tells, hq]
    · simp [source, next, tells, hq, Ne.symm hq]
  · simp [source, next, tells, hk, Ne.symm hk]

theorem source_withdraws (w : World) (k k' : Kind) (path q : String) :
    source (next w (.withdraws k path)) k' q =
      (tells k' q (.removed k path)).getD (source w k' q) := by
  by_cases hk : k' = k
  · subst hk
    by_cases hq : q = path
    · simp [source, next, tells, hq]
    · simp [source, next, tells, hq, Ne.symm hq]
  · simp [source, next, tells, hk, Ne.symm hk]

theorem copy_handle (w : World) (m : Message) (k : Kind) (path : String) :
    copy (handle w true m) k path = (tells k path m).getD (copy w k path) := by
  rw [Bool.eq_iff_iff, copy, decide_eq_true_iff]
  cases m with
  | new k' path' =>
      rw [handle, mem_handleNew, tells]
      by_cases hk : k' = k ∧ path' = path
      · simp [hk]
      · simp only [if_neg hk, Option.getD_none, decide_eq_true_iff]
        tauto
  | removed k' path' =>
      rw [handle, mem_handleRemoved, tells]
      by_cases hk : k' = k ∧ path' = path
      · simp [hk]
      · simp [hk]
  | reply ok => cases ok <;> simp [handle, tells]

theorem copy_handle_throws (w : World) (k' : Kind) (path' : String) (k : Kind) (path : String) :
    copy (handle w false (.new k' path')) k path = copy w k path := by
  rw [copy, copy, Bool.eq_iff_iff, decide_eq_true_iff, decide_eq_true_iff]
  simp [handle, mem_handleNew]

theorem frame_handle (w : World) (constructs : Bool) (m : Message) :
    (handle w constructs m).daemon = w.daemon ∧ (handle w constructs m).bus = w.bus ∧
      (handle w constructs m).listed = w.listed ∧
      (w.phase = .running → (handle w constructs m).phase ≠ .constructing) := by
  cases m with
  | reply ok => cases ok <;> simp +contextual [handle]
  | new k path | removed k path => simp +contextual [handle]

theorem inv_handle {w : World} (h : Inv w) {m : Message} {bus : List Message}
    (hbus : w.bus = m :: bus) (hphase : w.phase = .running) (constructs : Bool) :
    Inv (handle { w with bus := bus } constructs m) ∧
      (constructs = true → Complete w →
        Complete (handle { w with bus := bus } constructs m)) := by
  obtain ⟨hdaemon, hrest, hlisted, hrunning⟩ := frame_handle { w with bus := bus } constructs m
  have hsource : ∀ k path, source (handle { w with bus := bus } constructs m) k path =
      source w k path := by
    intro k path
    rw [source, hdaemon]
  have hne := hrunning hphase
  refine ⟨⟨fun hc => absurd hc hne, fun hc => absurd hc hne, fun k path => ?_⟩,
    fun hconstructs hw k hk path => ?_⟩
  · have htrails := h.trails k path
    rw [hbus] at htrails
    rw [hsource, hrest]
    cases constructs with
    | true =>
        rw [copy_handle]
        exact htrails.deliver
    | false =>
        cases m with
        | new k' path' =>
            rw [copy_handle_throws]
            apply htrails.drop
            rw [tells]
            split_ifs <;> simp
        | removed k' path' =>
            rw [show handle { w with bus := bus } false (.removed k' path') =
              handle { w with bus := bus } true (.removed k' path') from rfl, copy_handle]
            exact htrails.deliver
        | reply ok =>
            rw [show handle { w with bus := bus } false (.reply ok) =
              handle { w with bus := bus } true (.reply ok) by cases ok <;> rfl, copy_handle]
            exact htrails.deliver
  · subst hconstructs
    have hsynced := hw k (hlisted ▸ hk) path
    rw [hbus] at hsynced
    rw [hsource, hrest, copy_handle]
    exact hsynced.deliver

theorem inv_list {w : World} (h : Inv w) (k : Kind) (throwsAt : Option Nat) :
    Inv (list w k throwsAt) ∧ (Complete w → Complete (list w k throwsAt)) := by
  cases throwsAt with
  | none =>
      have hcopy (k' : Kind) (path : String) : copy (list w k none) k' path =
          if k = k' then copy w k' path || source w k' path else copy w k' path := by
        rw [Bool.eq_iff_iff, copy, decide_eq_true_iff, list, mem_foldl_handleNew]
        by_cases hk : k = k'
        · subst hk
          simp
        · simp [hk]
      have hphase : ¬ (list w k none).phase = .constructing := by
        cases k <;> simp [list, Kind.next]
      refine ⟨⟨fun hc => absurd hc hphase, fun hc => absurd hc hphase, fun k' path => ?_⟩,
        fun hw k' hk' path => ?_⟩
      · rw [hcopy]
        split_ifs with hk
        · exact (h.trails k' path).snapshot.trails
        · exact h.trails k' path
      · rw [hcopy]
        split_ifs with hk
        · exact (h.trails k' path).snapshot
        · rcases List.mem_cons.1 hk' with rfl | hk'
          · exact absurd rfl hk
          · exact hw k' hk' path
  | some n =>
      have hcopy (k' : Kind) (path : String) : copy (list w k (some n)) k' path = true ↔
          copy w k' path = true ∨ k = k' ∧ path ∈ (w.daemon k).take n := by
        rw [copy, decide_eq_true_iff, list, mem_foldl_handleNew, decide_eq_true_iff]
      have hphase : ¬ (list w k (some n)).phase = .constructing := by simp [list]
      refine ⟨⟨fun hc => absurd hc hphase, fun hc => absurd hc hphase, fun k' path => ?_⟩,
        fun hw k' hk' path => ?_⟩
      · by_cases hpath : k = k' ∧ path ∈ (w.daemon k).take n
        · have hsource : source (list w k (some n)) k' path = true := by
            rw [source, decide_eq_true_iff, ← hpath.1]
            exact List.mem_of_mem_take hpath.2
          rw [hsource, (hcopy k' path).2 (Or.inr hpath)]
          have htrails := h.trails k' path
          rw [show source w k' path = true from hsource] at htrails
          exact htrails.copied
        · apply (h.trails k' path).of_le
          intro hc
          exact ((hcopy k' path).1 hc).resolve_right hpath
      · have hsynced := hw k' hk' path
        by_cases hpath : k = k' ∧ path ∈ (w.daemon k).take n
        · have hsource : source w k' path = true := by
            rw [source, decide_eq_true_iff, ← hpath.1]
            exact List.mem_of_mem_take hpath.2
          have hsnapshot := hsynced.trails.snapshot
          rw [hsource, Bool.or_true] at hsnapshot
          rw [show source (list w k (some n)) k' path = true from hsource,
            (hcopy k' path).2 (Or.inr hpath)]
          exact hsnapshot
        · have heq : copy (list w k (some n)) k' path = copy w k' path := by
            rw [Bool.eq_iff_iff, hcopy, or_iff_left hpath]
          rw [heq]
          exact hsynced

theorem inv_next (w : World) (a : Action) (h : Inv w) (he : enabled w a) :
    Inv (next w a) ∧ (Constructs a → Complete w → Complete (next w a)) := by
  cases a with
  | exports k path =>
      have hsends := inv_sends (next w (.exports k path)) h (.new k path) rfl rfl rfl rfl
        (source_exports w k · path ·)
      exact ⟨hsends.1, fun _ => hsends.2⟩
  | withdraws k path =>
      have hsends := inv_sends (next w (.withdraws k path)) h (.removed k path) rfl rfl rfl
        rfl (source_withdraws w k · path ·)
      exact ⟨hsends.1, fun _ => hsends.2⟩
  | replies ok =>
      have hsource (k : Kind) (path : String) :
          source w k path = (tells k path (.reply ok)).getD (source w k path) := rfl
      refine ⟨⟨fun hc k path m hm => ?_, h.fresh, fun k path => ?_⟩, fun _ hw k hk path => ?_⟩
      · rcases List.mem_append.1 hm with hm | hm
        · exact h.quiet hc k path m hm
        · rw [List.mem_singleton.1 hm]
          rfl
      · exact (h.trails k path).change (.reply ok)
      · exact (hw k hk path).change (.reply ok)
  | registerProxy =>
      refine ⟨⟨fun hc => ?_, fun hc => ?_, h.trails⟩, fun _ hw => hw⟩
      · simp [next] at hc
      · simp [next] at hc
  | deliver constructs =>
      obtain ⟨hphase, hne⟩ := he
      obtain ⟨m, bus, hbus⟩ := List.exists_cons_of_ne_nil hne
      have hnext : next w (.deliver constructs) = handle { w with bus := bus } constructs m := by
        rw [next, hbus]
      rw [hnext]
      exact inv_handle h hbus hphase constructs
  | list throwsAt =>
      obtain ⟨k, hphase⟩ := he
      have hnext : next w (.list throwsAt) = list w k throwsAt := by
        rw [next, hphase]
      rw [hnext]
      have hlist := inv_list h k throwsAt
      exact ⟨hlist.1, fun _ => hlist.2⟩

end SdbusExamples.Login1Manager
