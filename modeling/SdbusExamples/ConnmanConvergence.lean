import SdbusExamples.ConnmanDeadlock
import SdbusExamples.SnapshotStreams

namespace SdbusExamples.ConnmanConvergence

open ConnmanDeadlock ConnmanManager Function LatestEvents LockOrders Runs SnapshotStreams

def tells (map : Clients) (path : String) : Message → Option Bool
  | .technologyAdded p => if map = .technologies ∧ p = path then some true else none
  | .technologyRemoved p => if map = .technologies ∧ p = path then some false else none
  | .servicesChanged changed removed =>
      if map = .services ∧ path ∈ removed then some false
      else if map = .services ∧ path ∈ changed then some true
      else none
  | .other => none

def Maps.put (maps : Maps) (map : Clients) (path : String) : Maps :=
  if path ∈ maps map then maps else maps.add map path

def change (objects : Maps) : Message → Maps
  | .technologyAdded path => Maps.put objects .technologies path
  | .technologyRemoved path => objects.remove .technologies path
  | .servicesChanged changed removed =>
      removed.foldl (Maps.remove · .services) (changed.foldl (Maps.put · .services) objects)
  | .other => objects

/-- `answered` are the calls of the constructor that connmand has answered. -/
structure World where
  client : State
  objects : Maps
  bus : List Message
  answered : List Clients

inductive Action
  | emits (m : Message)
  | answers (map : Clients)
  | delivers
  | step (t : Thread)
  | throws (t : Thread)

/-- The code of the constructor while GetTechnologies or GetServices is in progress. -/
def waits : Clients → Code
  | .technologies => .unlock .connection :: (call ++ [.unlock .maps])
  | .services => [.unlock .connection, .unlock .maps]

def Asked (w : World) (map : Clients) : Prop :=
  w.client.todo .calling = waits map ∧ map ∉ w.answered

instance (w : World) (map : Clients) : Decidable (Asked w map) :=
  inferInstanceAs (Decidable (_ ∧ _))

def enabled (w : World) : Action → Prop
  | .emits _ => True
  | .answers map => Asked w map
  | .delivers => w.bus ≠ [] ∧ Enabled w.client (.message .other)
  | .step t => Enabled w.client (.step t) ∧
      (t = .calling → ¬ Asked w .technologies ∧ ¬ Asked w .services)
  | .throws t => Enabled w.client (.throws t)

instance (w : World) : (a : Action) → Decidable (enabled w a)
  | .emits _ => .isTrue trivial
  | .answers map => inferInstanceAs (Decidable (Asked w map))
  | .delivers =>
      inferInstanceAs (Decidable (w.bus ≠ [] ∧ ConnmanManager.Enabled w.client (.message .other)))
  | .step t => inferInstanceAs (Decidable (ConnmanManager.Enabled w.client (.step t) ∧
      (t = .calling → ¬ Asked w .technologies ∧ ¬ Asked w .services)))
  | .throws t => inferInstanceAs (Decidable (ConnmanManager.Enabled w.client (.throws t)))

/-- The reply has the objects there are when connmand answers; the constructor
then has them to go through. -/
def answer (w : World) (map : Clients) : World :=
  { w with
    client := w.client.setTodo .calling
      (.unlock .connection :: (ensureAll map (w.objects map) ++ (waits map).tail))
    answered := map :: w.answered }

def next (n : Nat) (w : World) : Action → World
  | .emits m => { w with
      objects := change w.objects m
      bus := if w.client.registered then w.bus ++ [m] else w.bus }
  | .answers map => answer w map
  | .delivers =>
      match w.bus with
      | [] => w
      | m :: bus => { w with client := handle n w.client (.message m), bus }
  | .step t => { w with client := handle n w.client (.step t) }
  | .throws t => { w with client := handle n w.client (.throws t) }

def system (n : Nat) : System World Action := ⟨enabled, next n⟩

instance (n : Nat) (w : World) (a : Action) : Decidable ((system n).enabled w a) :=
  inferInstanceAs (Decidable (enabled w a))

def initial (own : Nat) (objects : Maps) : World := ⟨.start own [] [], objects, [], []⟩

theorem mem_add (maps : Maps) (map map' : Clients) (path p : String) :
    p ∈ maps.add map path map' ↔ p ∈ maps map' ∨ map' = map ∧ p = path := by
  by_cases hm : map' = map
  · subst hm
    simp [Maps.add]
  · simp [Maps.add, hm]

theorem mem_remove (maps : Maps) (map map' : Clients) (path p : String) :
    p ∈ maps.remove map path map' ↔ p ∈ maps map' ∧ ¬ (map' = map ∧ p = path) := by
  by_cases hm : map' = map
  · subst hm
    simp [Maps.remove]
  · simp [Maps.remove, hm]

theorem mem_put (maps : Maps) (map map' : Clients) (path p : String) :
    p ∈ Maps.put maps map path map' ↔ p ∈ maps map' ∨ map' = map ∧ p = path := by
  rw [Maps.put]
  split_ifs with h
  · constructor
    · exact Or.inl
    · rintro (hp | ⟨rfl, rfl⟩)
      · exact hp
      · exact h
  · exact mem_add maps map map' path p

theorem mem_foldl_put (paths : List String) (maps : Maps) (map map' : Clients) (p : String) :
    p ∈ paths.foldl (Maps.put · map) maps map' ↔ p ∈ maps map' ∨ map' = map ∧ p ∈ paths := by
  induction paths generalizing maps with
  | nil => simp
  | cons path paths ih =>
      rw [List.foldl_cons, ih, mem_put, List.mem_cons]
      tauto

theorem mem_foldl_remove (paths : List String) (maps : Maps) (map map' : Clients) (p : String) :
    p ∈ paths.foldl (Maps.remove · map) maps map' ↔
      p ∈ maps map' ∧ ¬ (map' = map ∧ p ∈ paths) := by
  induction paths generalizing maps with
  | nil => simp
  | cons path paths ih =>
      rw [List.foldl_cons, ih, mem_remove, List.mem_cons]
      tauto

theorem mem_change (objects : Maps) (m : Message) (map : Clients) (path : String) :
    decide (path ∈ change objects m map) =
      (tells map path m).getD (decide (path ∈ objects map)) := by
  rw [Bool.eq_iff_iff, decide_eq_true_iff]
  cases m with
  | technologyAdded p =>
      rw [change, mem_put, tells]
      by_cases h : map = .technologies ∧ p = path
      · simp [h.1, h.2]
      · rw [if_neg h, Option.getD_none, decide_eq_true_iff]
        have h' : ¬ (map = .technologies ∧ path = p) := fun h' => h ⟨h'.1, h'.2.symm⟩
        simp [h']
  | technologyRemoved p =>
      rw [change, mem_remove, tells]
      by_cases h : map = .technologies ∧ p = path
      · simp [h.1, h.2]
      · rw [if_neg h, Option.getD_none, decide_eq_true_iff]
        have h' : ¬ (map = .technologies ∧ path = p) := fun h' => h ⟨h'.1, h'.2.symm⟩
        simp [h']
  | servicesChanged changed removed =>
      rw [change, mem_foldl_remove, mem_foldl_put, tells]
      by_cases hr : map = .services ∧ path ∈ removed
      · simp [hr]
      · by_cases hc : map = .services ∧ path ∈ changed
        · have hr' : path ∉ removed := fun h => hr ⟨hc.1, h⟩
          rw [if_neg hr, if_pos hc]
          simp [hc, hr']
        · rw [if_neg hr, if_neg hc]
          simp [hr, hc]
  | other => simp [change, tells]

/-- An operation of the constructor before it locks `maps_mutex_`. -/
def Starting : Op Mutex Act → Prop
  | .lock .connection | .unlock .connection | .act .registerProxy => True
  | _ => False

/-- An operation of code that holds `maps_mutex_`. -/
def Locked : Op Mutex Act → Prop
  | .lock .connection | .unlock .connection => True
  | .act (.ensure _ _) | .act (.insert _ _) | .act (.erase _ _) => True
  | _ => False

/-- What the constructor has left to do, by how often it holds `maps_mutex_` and
by the answers it has got. -/
inductive Loads : Nat → List Clients → Code → Prop
  | starts {c : Code} (h : ∀ op ∈ c, Starting op) :
      Loads 0 [] (c ++ .lock .maps :: (call ++ (call ++ [.unlock .maps])))
  | asks : Loads 1 [] (call ++ (call ++ [.unlock .maps]))
  | waits : Loads 1 [] (waits .technologies)
  | lists {c : Code} (h : ∀ op ∈ c, Locked op) :
      Loads 1 [.technologies] (c ++ (call ++ [.unlock .maps]))
  | waitsAgain : Loads 1 [.technologies] (ConnmanConvergence.waits .services)
  | listsAgain {c : Code} (h : ∀ op ∈ c, Locked op) :
      Loads 1 [.services, .technologies] (c ++ [.unlock .maps])
  | loaded : Loads 0 [.services, .technologies] []

theorem locked_calls (n : Nat) : ∀ op ∈ calls n, Locked op := by
  induction n with
  | zero => exact fun _ h => nomatch h
  | succ n ih =>
      rw [calls, List.forall_mem_cons, List.forall_mem_cons]
      exact ⟨trivial, trivial, ih⟩

theorem starting_calls (n : Nat) : ∀ op ∈ calls n, Starting op := by
  induction n with
  | zero => exact fun _ h => nomatch h
  | succ n ih =>
      rw [calls, List.forall_mem_cons, List.forall_mem_cons]
      exact ⟨trivial, trivial, ih⟩

theorem locked_ensureAll (map : Clients) (paths : List String) :
    ∀ op ∈ ensureAll map paths, Locked op := by
  simp [ensureAll, Locked]

theorem locked_step {n : Nat} {s : State} {t : Thread} {op : Op Mutex Act} {rest : Code}
    (htodo : s.todo t = op :: rest) (hop : Locked op) :
    ∃ c, (s.step n t).todo t = c ++ rest ∧ (∀ op ∈ c, Locked op) ∧
      (s.step n t).held t .maps = s.held t .maps := by
  have hnil : ∀ op ∈ ([] : Code), Locked op := fun _ h => nomatch h
  match op, hop with
  | .lock .connection, _ => exact ⟨[], by simp [State.step, htodo], hnil, by simp [State.step, htodo]⟩
  | .unlock .connection, _ =>
      exact ⟨[], by simp [State.step, htodo], hnil, by simp [State.step, htodo]⟩
  | .act (.insert map path), _ =>
      exact ⟨[], by simp [State.step, htodo, State.perform], hnil,
        by simp [State.step, htodo, State.perform, State.setTodo]⟩
  | .act (.erase map path), _ =>
      exact ⟨[], by simp [State.step, htodo, State.perform], hnil,
        by simp [State.step, htodo, State.perform, State.setTodo]⟩
  | .act (.ensure map path), _ =>
      by_cases hmem : path ∈ s.clients map
      · exact ⟨[], by simp [State.step, htodo, State.perform, hmem], hnil,
          by simp [State.step, htodo, State.perform, hmem, State.setTodo]⟩
      · refine ⟨calls n ++ [.act (.insert map path)], ?_, ?_, ?_⟩
        · simp [State.step, htodo, State.perform, hmem]
        · rw [List.forall_mem_append, List.forall_mem_singleton]
          exact ⟨locked_calls n, trivial⟩
        · simp [State.step, htodo, State.perform, hmem, State.setTodo]

theorem starting_step {n : Nat} {s : State} {t : Thread} {op : Op Mutex Act} {rest : Code}
    (htodo : s.todo t = op :: rest) (hop : Starting op) :
    (s.step n t).todo t = rest ∧ (s.step n t).held t .maps = s.held t .maps := by
  match op, hop with
  | .lock .connection, _ | .unlock .connection, _ => simp [State.step, htodo]
  | .act .registerProxy, _ => simp [State.step, htodo, State.perform, State.setTodo]

theorem loads_step {n : Nat} {w : World}
    (h : Loads (w.client.held .calling .maps) w.answered (w.client.todo .calling))
    (he : enabled w (.step .calling)) :
    Loads ((w.client.step n .calling).held .calling .maps) w.answered
      ((w.client.step n .calling).todo .calling) := by
  have hasked := he.2 rfl
  have hne := he.1.1
  generalize hcode : w.client.todo .calling = code at h hne
  generalize hheld : w.client.held .calling .maps = held at h
  generalize ha : w.answered = answered at h
  have hlock (rest : Code) (hrest : w.client.todo .calling = .lock .maps :: rest) :
      (w.client.step n .calling).todo .calling = rest ∧
        (w.client.step n .calling).held .calling .maps = held + 1 := by
    simp [State.step, hrest, hheld]
  have hunlock (rest : Code) (hrest : w.client.todo .calling = .unlock .maps :: rest) :
      (w.client.step n .calling).todo .calling = rest ∧
        (w.client.step n .calling).held .calling .maps = held - 1 := by
    simp [State.step, hrest, hheld]
  cases h with
  | @starts c hc =>
      cases c with
      | nil =>
          obtain ⟨htodo, hmaps⟩ := hlock _ hcode
          rw [htodo, hmaps]
          exact .asks
      | cons op c =>
          rw [List.forall_mem_cons] at hc
          obtain ⟨htodo, hmaps⟩ := starting_step (n := n) hcode hc.1
          rw [htodo, hmaps, hheld]
          exact .starts hc.2
  | asks =>
      obtain ⟨c, htodo, -, hmaps⟩ := locked_step (n := n) hcode trivial
      have hc : (w.client.step n .calling).todo .calling = waits .technologies := by
        simp [State.step, hcode, call, waits]
      rw [hc, hmaps, hheld]
      exact .waits
  | waits => exact absurd ⟨hcode, by simp [ha]⟩ hasked.1
  | @lists c hc =>
      cases c with
      | nil =>
          obtain ⟨c, htodo, -, hmaps⟩ := locked_step (n := n) hcode trivial
          have hc : (w.client.step n .calling).todo .calling = ConnmanConvergence.waits .services := by
            simp [State.step, hcode, call, ConnmanConvergence.waits]
          rw [hc, hmaps, hheld]
          exact .waitsAgain
      | cons op c =>
          rw [List.forall_mem_cons] at hc
          rw [List.cons_append] at hcode
          obtain ⟨d, htodo, hd, hmaps⟩ := locked_step (n := n) hcode hc.1
          rw [htodo, hmaps, hheld, ← List.append_assoc]
          exact .lists (List.forall_mem_append.2 ⟨hd, hc.2⟩)
  | waitsAgain => exact absurd ⟨hcode, by simp [ha]⟩ hasked.2
  | @listsAgain c hc =>
      cases c with
      | nil =>
          obtain ⟨htodo, hmaps⟩ := hunlock _ hcode
          rw [htodo, hmaps]
          exact .loaded
      | cons op c =>
          rw [List.forall_mem_cons] at hc
          rw [List.cons_append] at hcode
          obtain ⟨d, htodo, hd, hmaps⟩ := locked_step (n := n) hcode hc.1
          rw [htodo, hmaps, hheld, ← List.append_assoc]
          exact .listsAgain (List.forall_mem_append.2 ⟨hd, hc.2⟩)
  | loaded => exact absurd rfl hne

/-- What will still be done to the maps: the actions the threads have left, then
the messages on their way. -/
inductive Change
  | act (a : Act)
  | message (m : Message)

def sets (map : Clients) (path : String) : Change → Option Bool
  | .act (.ensure map' p) | .act (.insert map' p) =>
      if map = map' ∧ p = path then some true else none
  | .act (.erase map' p) => if map = map' ∧ p = path then some false else none
  | .act .registerProxy | .act .unregisterProxy => none
  | .message m => tells map path m

def acts (code : Code) : List Change :=
  code.filterMap fun
    | .act a => some (.act a)
    | _ => none

def future (w : World) : List Change :=
  acts (w.client.todo .calling) ++ (acts (w.client.todo .eventLoop) ++ w.bus.map .message)

@[simp] theorem acts_append (c d : Code) : acts (c ++ d) = acts c ++ acts d :=
  List.filterMap_append

@[simp] theorem acts_nil : acts [] = [] := rfl

@[simp] theorem acts_lock (m : Mutex) (c : Code) : acts (.lock m :: c) = acts c := rfl

@[simp] theorem acts_unlock (m : Mutex) (c : Code) : acts (.unlock m :: c) = acts c := rfl

@[simp] theorem acts_act (a : Act) (c : Code) : acts (.act a :: c) = .act a :: acts c := rfl

@[simp] theorem acts_calls (n : Nat) : acts (calls n) = [] := by
  induction n with
  | zero => rfl
  | succ n ih => simpa [calls] using ih

@[simp] theorem acts_call : acts call = [] := rfl

theorem acts_map (f : String → Act) (paths : List String) :
    acts ((paths.map f).map .act) = paths.map fun p => .act (f p) := by
  induction paths with
  | nil => rfl
  | cons p paths ih => simpa using ih

theorem acts_ensureAll (map : Clients) (paths : List String) :
    acts (ensureAll map paths) = paths.map fun path => .act (.ensure map path) :=
  acts_map (Act.ensure map) paths

@[simp] theorem acts_waits (map : Clients) : acts (waits map) = [] := by
  cases map <;> rfl

theorem latest_acts {map : Clients} {path : String} (f : String → Act) (v : Bool)
    (hf : ∀ p, sets map path (.act (f p)) = if p = path then some v else none)
    (paths : List String) (b : Bool) :
    latest (sets map path) b (paths.map fun p => .act (f p)) = if path ∈ paths then v else b := by
  induction paths generalizing b with
  | nil => rfl
  | cons p paths ih =>
      rw [List.map_cons, latest_cons, ih, hf]
      by_cases hp : p = path
      · subst hp
        simp
      · simp [hp, Ne.symm hp]

theorem latest_acts_of_ne {map : Clients} {path : String} (f : String → Act)
    (hf : ∀ p, sets map path (.act (f p)) = none) (paths : List String) (b : Bool) :
    latest (sets map path) b (paths.map fun p => .act (f p)) = b := by
  apply latest_of_untouched
  intro e he
  obtain ⟨p, -, rfl⟩ := List.mem_map.1 he
  exact hf p

theorem latest_ensureAll (map map' : Clients) (path : String) (paths : List String) (b : Bool) :
    latest (sets map path) b (acts (ensureAll map' paths)) =
      if map = map' ∧ path ∈ paths then true else b := by
  rw [acts_ensureAll]
  by_cases hm : map = map'
  · rw [latest_acts (Act.ensure map') true fun p => by simp [sets, hm]]
    simp [hm]
  · rw [latest_acts_of_ne (Act.ensure map') fun p => by simp [sets, hm]]
    simp [hm]

theorem latest_erases (map map' : Clients) (path : String) (paths : List String) (b : Bool) :
    latest (sets map path) b (paths.map fun p => .act (.erase map' p)) =
      if map = map' ∧ path ∈ paths then false else b := by
  by_cases hm : map = map'
  · rw [latest_acts (Act.erase map') false fun p => by simp [sets, hm]]
    simp [hm]
  · rw [latest_acts_of_ne (Act.erase map') fun p => by simp [sets, hm]]
    simp [hm]

theorem latest_handler (map : Clients) (path : String) (m : Message) (b : Bool) :
    latest (sets map path) b (acts (m.handler ++ [.unlock .connection])) =
      latest (sets map path) b [.message m] := by
  cases m with
  | technologyAdded p =>
      have hacts : acts ((Message.technologyAdded p).handler ++ [.unlock .connection]) =
          [.act (.ensure .technologies p)] := rfl
      rw [hacts]
      rfl
  | technologyRemoved p => simp [Message.handler, onTechnologyRemoved, sets, tells]
  | servicesChanged changed removed =>
      have hacts : acts ((Message.servicesChanged changed removed).handler ++
          [.unlock .connection]) =
          acts (ensureAll .services changed) ++ removed.map fun p => .act (.erase .services p) := by
        simp only [Message.handler, onServicesChanged, acts_append, acts_lock, acts_unlock,
          acts_nil, acts_map, List.append_nil, List.cons_append]
      rw [hacts, latest_append, latest_ensureAll, latest_erases, latest_cons, latest_nil, sets,
        tells]
      by_cases hr : map = .services ∧ path ∈ removed
      · simp [hr]
      · simp only [if_neg hr]
        split_ifs <;> rfl
  | other => simp [Message.handler, sets, tells]

abbrev source (w : World) (map : Clients) (path : String) : Bool := decide (path ∈ w.objects map)

abbrev copy (w : World) (map : Clients) (path : String) : Bool :=
  decide (path ∈ w.client.clients map)

structure Pristine (own : Nat) (w : World) : Prop where
  calling : w.client.todo .calling = connmanManagerClient own [] []
  idle : w.client.held .calling .maps = 0
  eventLoop : w.client.todo .eventLoop = []
  clients : ∀ map, w.client.clients map = []
  bus : w.bus = []
  answered : w.answered = []

def Handling (op : Op Mutex Act) : Prop := Locked op ∨ op = .lock .maps ∨ op = .unlock .maps

structure Inv (own : Nat) (w : World) : Prop where
  disciplined : Disciplined w.client
  handling : ∀ op ∈ w.client.todo .eventLoop, Handling op
  loads : Loads (w.client.held .calling .maps) w.answered (w.client.todo .calling)
  pristine : w.client.registered = false → Pristine own w
  trails : ∀ map path, Trails (sets map path) (source w map path) (copy w map path) (future w)
  synced : ∀ map ∈ w.answered, ∀ path,
    Synced (sets map path) (source w map path) (copy w map path) (future w)

theorem Inv.of_future {own : Nat} {w w' : World} (h : Inv own w) (hd : Disciplined w'.client)
    (hh : ∀ op ∈ w'.client.todo .eventLoop, Handling op)
    (hl : Loads (w'.client.held .calling .maps) w'.answered (w'.client.todo .calling))
    (hp : w'.client.registered = false → Pristine own w') (hobjects : w'.objects = w.objects)
    (hanswered : w'.answered = w.answered)
    (hkeys : ∀ map path,
      (copy w' map path = copy w map path ∧
        ∀ b, latest (sets map path) b (future w') = latest (sets map path) b (future w)) ∨
      ∃ e, (∀ b, latest (sets map path) b (e :: future w') =
          latest (sets map path) b (future w)) ∧
        copy w' map path = (sets map path e).getD (copy w map path)) :
    Inv own w' := by
  refine ⟨hd, hh, hl, hp, fun map path => ?_, fun map hmap path => ?_⟩
  · have ht := h.trails map path
    rw [source, hobjects]
    rcases hkeys map path with ⟨hc, hf⟩ | ⟨e, hf, hc⟩
    · rw [hc]
      exact ht.congr hf
    · rw [hc]
      exact (ht.congr hf).deliver
  · have hs := h.synced map (hanswered ▸ hmap) path
    rw [source, hobjects]
    rcases hkeys map path with ⟨hc, hf⟩ | ⟨e, hf, hc⟩
    · rw [hc]
      exact hs.congr hf
    · rw [hc]
      exact (hs.congr hf).deliver

theorem acts_of_loads {held : Nat} {answered : List Clients} {code : Code}
    (h : Loads held answered code) (hheld : held = 0) (map : Clients) (path : String) :
    ∀ e ∈ acts code, sets map path e = none := by
  cases h with
  | @starts c hc =>
      have hstarting : ∀ e ∈ acts c, sets map path e = none := by
        intro e he
        obtain ⟨op, hop, hact⟩ := List.mem_filterMap.1 he
        match op, hc op hop, hact with
        | .act .registerProxy, _, hact =>
            cases hact
            rfl
      simpa [call] using hstarting
  | loaded => exact fun e he => nomatch he
  | asks | waits | lists | waitsAgain | listsAgain => exact absurd hheld Nat.one_ne_zero

theorem loads_start (own : Nat) : Loads 0 [] (connmanManagerClient own [] []) := by
  have hcode : connmanManagerClient own [] [] = (.act .registerProxy :: calls own) ++
      .lock .maps :: (call ++ (call ++ [.unlock .maps])) := by
    simp [connmanManagerClient, ensureAll, call]
  rw [hcode]
  apply Loads.starts
  rw [List.forall_mem_cons]
  exact ⟨trivial, starting_calls own⟩

theorem Pristine.quiet {own : Nat} {w : World} (h : Pristine own w) (map : Clients) (path : String) :
    copy w map path = false ∧ ∀ e ∈ future w, sets map path e = none := by
  refine ⟨by simp [copy, h.clients], fun e he => ?_⟩
  rw [future, h.calling, h.eventLoop, h.bus, acts_nil, List.map_nil, List.append_nil,
    List.append_nil] at he
  exact acts_of_loads (loads_start own) rfl map path e he

theorem inv_of_pristine {own : Nat} {w : World} (h : Pristine own w) (hd : Disciplined w.client) :
    Inv own w := by
  refine ⟨hd, ?_, ?_, fun _ => h, fun map path => ?_, fun map hmap => ?_⟩
  · rw [h.eventLoop]
    exact fun _ hop => nomatch hop
  · rw [h.idle, h.answered, h.calling]
    exact loads_start own
  · obtain ⟨hcopy, hquiet⟩ := h.quiet map path
    rw [hcopy]
    exact trails_empty _ hquiet
  · rw [h.answered] at hmap
    cases hmap

theorem inv_initial (own : Nat) (objects : Maps) : Inv own (initial own objects) :=
  inv_of_pristine ⟨rfl, rfl, rfl, fun _ => rfl, rfl, rfl⟩ (disciplined_start own [] [])

theorem inv_emits {own n : Nat} {w : World} (h : Inv own w) (m : Message) :
    Inv own (next n w (.emits m)) := by
  cases hr : w.client.registered with
  | false =>
      have hp := h.pristine hr
      refine inv_of_pristine ⟨hp.calling, hp.idle, hp.eventLoop, hp.clients, ?_, hp.answered⟩
        h.disciplined
      simp [next, hr, hp.bus]
  | true =>
      have hfuture : future (next n w (.emits m)) = future w ++ [.message m] := by
        simp [future, next, hr]
      have hsource (map : Clients) (path : String) : source (next n w (.emits m)) map path =
          (sets map path (.message m)).getD (source w map path) := mem_change w.objects m map path
      refine ⟨h.disciplined, h.handling, h.loads, fun hr' => ?_, fun map path => ?_,
        fun map hmap path => ?_⟩
      · exact absurd (hr.symm.trans hr') (by simp)
      · rw [hsource, hfuture]
        exact (h.trails map path).change (.message m)
      · rw [hsource, hfuture]
        exact (h.synced map hmap path).change (.message m)

theorem todo_setTodo_other (s : State) {t u : Thread} (h : u ≠ t) (code : Code) :
    (s.setTodo t code).todo u = s.todo u := update_of_ne h ..

theorem loads_answer {held : Nat} {answered : List Clients} {code : Code} {map : Clients}
    (h : Loads held answered code) (hcode : code = waits map) (hmap : map ∉ answered)
    (paths : List String) :
    held = 1 ∧ Loads held (map :: answered)
      (.unlock .connection :: (ensureAll map paths ++ (waits map).tail)) := by
  have hlocked : ∀ op ∈ Op.unlock Mutex.connection :: ensureAll map paths, Locked op := by
    rw [List.forall_mem_cons]
    exact ⟨trivial, locked_ensureAll map paths⟩
  cases h with
  | @starts c hc =>
      have hlock : Op.lock Mutex.maps ∈ waits map := by
        rw [← hcode]
        simp
      cases map <;> simp [waits, call] at hlock
  | asks => cases map <;> simp [call, waits] at hcode
  | waits =>
      cases map with
      | technologies => exact ⟨rfl, .lists hlocked⟩
      | services => simp [call, ConnmanConvergence.waits] at hcode
  | @lists c hc =>
      have hlength := congrArg List.length hcode
      cases map with
      | technologies => simp at hmap
      | services => simp [call, waits] at hlength
  | waitsAgain =>
      cases map with
      | technologies => simp at hmap
      | services => exact ⟨rfl, .listsAgain hlocked⟩
  | listsAgain | loaded => cases map <;> simp at hmap

theorem disciplined_answer {w : World} (h : Disciplined w.client) {map : Clients}
    (hcode : w.client.todo .calling = waits map) (hheld : w.client.held .calling .maps = 1) :
    Disciplined (answer w map).client := by
  obtain ⟨rest, hrest⟩ : ∃ rest, waits map = .unlock .connection :: rest := by
    cases map <;> exact ⟨_, rfl⟩
  have hfollows := h.follows .calling
  rw [hcode, hrest] at hfollows
  apply h.set h.exclusive (h.single .calling) (fun _ _ => rfl)
  · rw [hrest]
    refine ⟨hfollows.1, follows_ensureAll _ (fun path l hl => ?_) hfollows.2⟩
    rw [List.mem_singleton.1 hl, update_of_ne (by decide), hheld]
    exact Nat.one_pos
  · exact fun ht => nomatch ht

theorem inv_answers {own : Nat} {w : World} (h : Inv own w) {map : Clients} (he : Asked w map) :
    Inv own (answer w map) := by
  obtain ⟨hheld, hloads⟩ := loads_answer h.loads he.1 he.2 (w.objects map)
  have htodo : (answer w map).client.todo .calling =
      .unlock .connection :: (ensureAll map (w.objects map) ++ (waits map).tail) :=
    w.client.todo_setTodo .calling _
  have hother : (answer w map).client.todo .eventLoop = w.client.todo .eventLoop :=
    todo_setTodo_other w.client (by decide) _
  have htail : acts (waits map).tail = [] := by
    cases map <;> rfl
  have hfuture : future (answer w map) =
      acts (ensureAll map (w.objects map)) ++ future w := by
    rw [future, future, htodo, hother, he.1, acts_waits, acts_unlock, acts_append, htail,
      List.append_nil, List.nil_append]
    rfl
  have hkey (map' : Clients) (path : String) (b : Bool) (hne : map' ≠ map) :
      latest (sets map' path) b (future (answer w map)) = latest (sets map' path) b (future w) := by
    rw [hfuture, latest_append, latest_ensureAll, if_neg fun hm => hne hm.1]
  have hown (path : String) : Synced (sets map path) (source w map path) (copy w map path)
      (future (answer w map)) := by
    rw [hfuture]
    apply (h.trails map path).replied
    rw [latest_ensureAll]
    by_cases hpath : path ∈ w.objects map <;> simp [source, hpath]
  refine ⟨disciplined_answer h.disciplined he.1 hheld, ?_, ?_, fun hr => ?_,
    fun map' path => ?_, fun map' hmap' path => ?_⟩
  · rw [hother]
    exact h.handling
  · rw [htodo]
    exact hloads
  · have hp := h.pristine hr
    exact absurd (hp.idle.symm.trans hheld) (by simp)
  · by_cases hm : map' = map
    · subst hm
      exact (hown path).trails
    · exact (h.trails map' path).congr fun b => hkey map' path b hm
  · by_cases hm : map' = map
    · subst hm
      exact hown path
    · have hmem : map' ∈ w.answered := (List.mem_cons.1 hmap').resolve_left hm
      exact (h.synced map' hmem path).congr fun b => hkey map' path b hm

theorem handling_handler (m : Message) :
    ∀ op ∈ m.handler ++ [.unlock .connection], Handling op := by
  have hensure (map : Clients) (paths : List String) : ∀ op ∈ ensureAll map paths, Handling op :=
    fun op hop => Or.inl (locked_ensureAll map paths op hop)
  have hunlock : ∀ op ∈ [Op.unlock Mutex.connection], Handling op := by simp [Handling, Locked]
  rw [List.forall_mem_append]
  refine ⟨?_, hunlock⟩
  cases m with
  | technologyAdded path =>
      rw [Message.handler, onTechnologyAdded, List.cons_append, List.forall_mem_cons,
        List.forall_mem_append]
      exact ⟨Or.inr (Or.inl rfl), hensure _ _, by simp [Handling]⟩
  | technologyRemoved path => simp [Message.handler, onTechnologyRemoved, Handling, Locked]
  | servicesChanged changed removed =>
      have herase : ∀ op ∈ (removed.map (Act.erase .services)).map Op.act, Handling op := by
        simp [Handling, Locked]
      rw [Message.handler, onServicesChanged, List.cons_append, List.cons_append,
        List.forall_mem_cons, List.forall_mem_append, List.forall_mem_append]
      exact ⟨Or.inr (Or.inl rfl), ⟨hensure _ _, herase⟩, by simp [Handling]⟩
  | other =>
      intro op hop
      cases hop

theorem inv_delivers {own n : Nat} {w : World} (h : Inv own w) {m : Message} {bus : List Message}
    (hbus : w.bus = m :: bus) (he : Enabled w.client (.message m)) :
    Inv own { w with client := handle n w.client (.message m), bus } := by
  have hr : w.client.registered = true := by
    by_contra hr
    rw [Bool.not_eq_true] at hr
    rw [(h.pristine hr).bus] at hbus
    cases hbus
  have htodo : (handle n w.client (.message m)).todo .eventLoop =
      m.handler ++ [.unlock .connection] := by
    rw [handle, hr]
    exact w.client.todo_setTodo .eventLoop _
  have hne : Thread.calling ≠ .eventLoop := by decide
  have hcalling : (handle n w.client (.message m)).todo .calling = w.client.todo .calling := by
    rw [handle, hr]
    exact todo_setTodo_other w.client hne (m.handler ++ [.unlock .connection])
  have hheld : (handle n w.client (.message m)).held .calling = w.client.held .calling := by
    rw [handle]
    exact acquire_other _ hne Mutex.connection
  refine h.of_future (disciplined_handle (n := n) h.disciplined he) ?_ ?_ ?_ rfl rfl fun map path => ?_
  · rw [htodo]
    exact handling_handler m
  · rw [hcalling, hheld]
    exact h.loads
  · intro hr'
    exact absurd (hr.symm.trans hr') (by simp)
  · left
    refine ⟨rfl, fun b => ?_⟩
    have hidle : w.client.todo .eventLoop = [] := he.1
    rw [future, future, htodo, hcalling, hidle, hbus, latest_append, latest_append, latest_append,
      latest_handler]
    rfl

theorem perform_spec (n : Nat) (s : State) {t : Thread} {a : Act} {rest : Code}
    (htodo : s.todo t = .act a :: rest) (map : Clients) (path : String) :
    (acts ((s.step n t).todo t) = acts rest ∧
      decide (path ∈ (s.step n t).clients map) =
        (sets map path (.act a)).getD (decide (path ∈ s.clients map))) ∨
    ((s.step n t).clients = s.clients ∧ ∃ a', acts ((s.step n t).todo t) = .act a' :: acts rest ∧
      sets map path (.act a') = sets map path (.act a)) := by
  have hstep : s.step n t = s.perform n t rest a := by rw [State.step, htodo]
  rw [hstep]
  cases a with
  | registerProxy | unregisterProxy => exact Or.inl ⟨by simp [State.perform, State.setTodo], rfl⟩
  | ensure map' p =>
      by_cases hmem : p ∈ s.clients map'
      · left
        rw [State.perform, if_pos hmem]
        refine ⟨by simp, ?_⟩
        rw [sets]
        split_ifs with hkey
        · obtain ⟨rfl, rfl⟩ := hkey
          exact decide_eq_true hmem
        · rfl
      · right
        rw [State.perform, if_neg hmem]
        exact ⟨rfl, .insert map' p, by simp, rfl⟩
  | insert map' p =>
      left
      refine ⟨by simp [State.perform, State.setTodo], ?_⟩
      rw [Bool.eq_iff_iff, decide_eq_true_iff, State.perform, mem_add, sets]
      by_cases hkey : map = map' ∧ p = path
      · simp [hkey.1, hkey.2]
      · have hkey' : ¬ (map = map' ∧ path = p) := fun h => hkey ⟨h.1, h.2.symm⟩
        simp [hkey, hkey']
  | erase map' p =>
      left
      refine ⟨by simp [State.perform, State.setTodo], ?_⟩
      rw [Bool.eq_iff_iff, decide_eq_true_iff, State.perform, mem_remove, sets]
      by_cases hkey : map = map' ∧ p = path
      · simp [hkey.1, hkey.2]
      · have hkey' : ¬ (map = map' ∧ path = p) := fun h => hkey ⟨h.1, h.2.symm⟩
        simp [hkey, hkey']

theorem mutex_spec (n : Nat) (s : State) {t : Thread} {op : Op Mutex Act} {rest : Code}
    (htodo : s.todo t = op :: rest) (hop : ∀ a, op ≠ .act a) :
    acts ((s.step n t).todo t) = acts (s.todo t) ∧ (s.step n t).clients = s.clients ∧
      (s.step n t).registered = s.registered := by
  rw [State.step, htodo]
  cases op with
  | lock m => simp [State.setTodo]
  | unlock m => simp [State.setTodo]
  | act a => exact absurd rfl (hop a)

/-- The proxy is registered by the first action of the constructor, and stays
registered. -/
theorem registered_step {own n : Nat} {w : World} (h : Inv own w) {t : Thread}
    {op : Op Mutex Act} {rest : Code} (htodo : w.client.todo t = op :: rest) :
    (w.client.step n t).registered = true := by
  have hunregister : op ≠ .act .unregisterProxy := by
    rintro rfl
    cases t with
    | calling =>
        have hloads := h.loads
        rw [htodo] at hloads
        generalize hcode : Op.act Act.unregisterProxy :: rest = code at hloads
        generalize w.client.held .calling .maps = held at hloads
        generalize w.answered = answered at hloads
        cases hloads with
        | @starts c hc | @lists c hc | @listsAgain c hc =>
            cases c with
            | nil => simp [call] at hcode
            | cons op c =>
                rw [List.cons_append, List.cons.injEq] at hcode
                have hop := hc op List.mem_cons_self
                rw [← hcode.1] at hop
                exact hop
        | asks => simp [call] at hcode
        | waits | waitsAgain => simp [waits] at hcode
        | loaded => cases hcode
    | eventLoop =>
        have hop := h.handling (.act .unregisterProxy) (htodo ▸ List.mem_cons_self)
        simp [Handling, Locked] at hop
  have hregistered (a : Act) (hop : op = .act a) : (w.client.step n t).registered = true ∨
      (w.client.step n t).registered = w.client.registered ∧ a ≠ .registerProxy := by
    subst hop
    rw [State.step, htodo]
    cases a with
    | registerProxy => exact Or.inl rfl
    | unregisterProxy => exact absurd rfl hunregister
    | insert map path | erase map path => exact Or.inr ⟨rfl, by simp⟩
    | ensure map path =>
        simp only [State.perform]
        split_ifs <;> exact Or.inr ⟨rfl, by simp⟩
  cases hr : w.client.registered with
  | true =>
      by_cases hact : ∃ a, op = .act a
      · obtain ⟨a, hop⟩ := hact
        rcases hregistered a hop with hreg | ⟨hreg, -⟩
        · exact hreg
        · exact hreg.trans hr
      · have hop : ∀ a, op ≠ .act a := fun a ha => hact ⟨a, ha⟩
        rw [(mutex_spec n w.client htodo hop).2.2, hr]
  | false =>
      have hp := h.pristine hr
      cases t with
      | eventLoop =>
          rw [hp.eventLoop] at htodo
          cases htodo
      | calling =>
          have hop : op = .act .registerProxy := by
            have hcode := hp.calling
            rw [htodo, connmanManagerClient] at hcode
            exact (List.cons.inj hcode).1
          rcases hregistered .registerProxy hop with hreg | ⟨-, hne⟩
          · exact hreg
          · exact absurd rfl hne

/-- While the thread of the event loop changes a map, the constructor has
nothing left to do to it. -/
theorem quiet_of_act {own : Nat} {w : World} (h : Inv own w) {a : Act} {rest : Code}
    (htodo : w.client.todo .eventLoop = .act a :: rest) (map : Clients) (path : String) :
    ∀ e ∈ acts (w.client.todo .calling), sets map path e = none := by
  have hfollows := h.disciplined.follows .eventLoop
  rw [htodo] at hfollows
  have hmaps : 0 < w.client.held .eventLoop .maps := by
    apply hfollows.1 .maps
    have hop := h.handling (.act a) (htodo ▸ List.mem_cons_self)
    cases a <;> simp [Handling, Locked, guards] at hop ⊢
  apply acts_of_loads h.loads
  by_contra hne
  have ht := h.disciplined.exclusive .calling .eventLoop .maps (Nat.pos_of_ne_zero hne) hmaps
  cases ht

theorem handling_step {own n : Nat} {w : World} (h : Inv own w) {op : Op Mutex Act} {rest : Code}
    (htodo : w.client.todo .eventLoop = op :: rest) :
    ∀ op ∈ (w.client.step n .eventLoop).todo .eventLoop, Handling op := by
  have hall := h.handling
  rw [htodo, List.forall_mem_cons] at hall
  rcases hall.1 with hop | rfl | rfl
  · obtain ⟨c, hc, hlocked, -⟩ := locked_step (n := n) htodo hop
    rw [hc, List.forall_mem_append]
    exact ⟨fun op hop => Or.inl (hlocked op hop), hall.2⟩
  · simpa [State.step, htodo] using hall.2
  · simpa [State.step, htodo] using hall.2

theorem future_split {own n : Nat} {w : World} (h : Inv own w) {t : Thread} {a : Act} {rest : Code}
    (htodo : w.client.todo t = .act a :: rest) (map : Clients) (path : String) :
    ∃ pre post, (∀ e ∈ pre, sets map path e = none) ∧
      future w = pre ++ (.act a :: (acts rest ++ post)) ∧
      future { w with client := w.client.step n t } =
        pre ++ (acts ((w.client.step n t).todo t) ++ post) := by
  have hacts : acts (w.client.todo t) = .act a :: acts rest := by rw [htodo, acts_act]
  cases t with
  | calling =>
      refine ⟨[], acts (w.client.todo .eventLoop) ++ w.bus.map .message, ?_, ?_, ?_⟩
      · exact fun _ he => nomatch he
      · rw [future, hacts]
        rfl
      · rw [future, (step_other n w.client (show Thread.eventLoop ≠ .calling by decide)).2]
        rfl
  | eventLoop =>
      refine ⟨acts (w.client.todo .calling), w.bus.map .message, quiet_of_act h htodo map path,
        ?_, ?_⟩
      · rw [future, hacts]
        rfl
      · rw [future, (step_other n w.client (show Thread.calling ≠ .eventLoop by decide)).2]

theorem future_step {own n : Nat} {w : World} (h : Inv own w) {t : Thread} {op : Op Mutex Act}
    {rest : Code} (htodo : w.client.todo t = op :: rest) (map : Clients) (path : String) :
    let w' : World := { w with client := w.client.step n t }
    (copy w' map path = copy w map path ∧
      ∀ b, latest (sets map path) b (future w') = latest (sets map path) b (future w)) ∨
    ∃ e, (∀ b, latest (sets map path) b (e :: future w') = latest (sets map path) b (future w)) ∧
      copy w' map path = (sets map path e).getD (copy w map path) := by
  intro w'
  by_cases hact : ∃ a, op = .act a
  · obtain ⟨a, rfl⟩ := hact
    obtain ⟨pre, post, hpre, hfuture, hfuture'⟩ := future_split h htodo map path
    rcases perform_spec n w.client htodo map path with ⟨hacts, hcopy⟩ | ⟨hclients, a', hacts, hsets⟩
    · right
      refine ⟨.act a, fun b => ?_, hcopy⟩
      rw [hfuture, hfuture', hacts]
      simp only [latest_append, latest_cons, latest_of_untouched hpre]
    · left
      refine ⟨by simp [copy, w', hclients], fun b => ?_⟩
      rw [hfuture, hfuture', hacts]
      simp only [latest_append, List.cons_append, latest_cons, hsets]
  · have hop : ∀ a, op ≠ .act a := fun a ha => hact ⟨a, ha⟩
    obtain ⟨hacts, hclients, -⟩ := mutex_spec n w.client htodo hop
    left
    refine ⟨by simp [copy, w', hclients], fun b => ?_⟩
    congr 1
    cases t with
    | calling =>
        rw [future, future, hacts,
          (step_other n w.client (show Thread.eventLoop ≠ .calling by decide)).2]
    | eventLoop =>
        rw [future, future, hacts,
          (step_other n w.client (show Thread.calling ≠ .eventLoop by decide)).2]

theorem inv_step {own n : Nat} {w : World} (h : Inv own w) {t : Thread} (he : enabled w (.step t)) :
    Inv own { w with client := w.client.step n t } := by
  obtain ⟨op, rest, htodo⟩ := List.exists_cons_of_ne_nil he.1.1
  have hd : Disciplined (handle n w.client (.step t)) := disciplined_handle h.disciplined he.1
  have hp : (w.client.step n t).registered = false →
      Pristine own { w with client := w.client.step n t } :=
    fun hr => absurd ((registered_step h htodo).symm.trans hr) (by simp)
  refine h.of_future hd ?_ ?_ hp rfl rfl (future_step h htodo)
  · cases t with
    | calling =>
        show ∀ op ∈ (w.client.step n .calling).todo .eventLoop, Handling op
        rw [(step_other n w.client (show Thread.eventLoop ≠ .calling by decide)).2]
        exact h.handling
    | eventLoop => exact handling_step h htodo
  · cases t with
    | calling => exact loads_step h.loads he
    | eventLoop =>
        obtain ⟨hheld, hcalling⟩ := step_other n w.client (show Thread.calling ≠ .eventLoop by decide)
        show Loads ((w.client.step n .eventLoop).held .calling .maps) w.answered
          ((w.client.step n .eventLoop).todo .calling)
        rw [hheld, hcalling]
        exact h.loads

def Succeeds : Action → Prop
  | .throws _ => False
  | _ => True

theorem inv_next (own n : Nat) (w : World) (a : Action) (h : Inv own w) (he : enabled w a)
    (hs : Succeeds a) : Inv own (next n w a) := by
  cases a with
  | emits m => exact inv_emits h m
  | answers map => exact inv_answers h he
  | delivers =>
      obtain ⟨m, bus, hbus⟩ := List.exists_cons_of_ne_nil he.1
      rw [next, hbus]
      exact inv_delivers h hbus he.2
  | step t => exact inv_step h he
  | throws t => exact hs.elim

end SdbusExamples.ConnmanConvergence
