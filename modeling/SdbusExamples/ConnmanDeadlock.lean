import SdbusExamples.ConnmanManager

namespace SdbusExamples.ConnmanDeadlock

open ConnmanManager Function LockOrders Runs

def Stuck (s : State) : Prop := Deadlocked s.held fun t => wanted (s.todo t)

/-- Both threads keep to the order in which they take the mutexes, and a
handler locks `maps_mutex_` first. -/
structure Disciplined (s : State) : Prop where
  exclusive : Exclusive s.held
  single : ∀ t, s.held t .maps ≤ 1
  follows : ∀ t, Follows (rank t) (guards t) (s.held t) (s.todo t)
  entry : .lock .maps ∉ (s.todo .eventLoop).tail

/-- A synchronous call comes before the code unlocks `maps_mutex_`. -/
def callsAhead (n : Nat) : Maps → Code → Bool
  | _, [] => false
  | _, .lock .connection :: _ => true
  | _, .lock .maps :: _ | _, .unlock .maps :: _ => false
  | clients, .unlock .connection :: ops => callsAhead n clients ops
  | clients, .act (.ensure map path) :: ops =>
      if path ∈ clients map then callsAhead n clients ops
      else decide (0 < n) || callsAhead n (clients.add map path) ops
  | clients, .act (.insert map path) :: ops => callsAhead n (clients.add map path) ops
  | clients, .act (.erase map path) :: ops => callsAhead n (clients.remove map path) ops
  | clients, .act _ :: ops => callsAhead n clients ops

/-- The constructor holds `maps_mutex_` with a call still to make. -/
def Loading (n : Nat) (s : State) : Prop :=
  0 < s.held .calling .maps ∧ callsAhead n s.clients (s.todo .calling) = true

/-- A handler runs that has not locked `maps_mutex_` yet. -/
def Entered (s : State) : Prop :=
  wanted (s.todo .eventLoop) = some .maps ∧ 0 < s.held .eventLoop .connection

/-- No handler starts while the constructor loads the maps, and the constructor
does not start to while a handler is about to lock them. -/
def Apart (n : Nat) (s : State) : Event → Prop
  | .message m => s.registered = true → m ≠ .other → ¬ Loading n s
  | .step .calling => wanted (s.todo .calling) = some .maps → ¬ Entered s
  | _ => True

instance (n : Nat) (s : State) : Decidable (Loading n s) := inferInstanceAs (Decidable (_ ∧ _))

instance (s : State) : Decidable (Entered s) := inferInstanceAs (Decidable (_ ∧ _))

instance (n : Nat) (s : State) : (e : Event) → Decidable (Apart n s e)
  | .message m => inferInstanceAs (Decidable (s.registered = true → m ≠ .other → ¬ Loading n s))
  | .step .calling =>
      inferInstanceAs (Decidable (wanted (s.todo .calling) = some .maps → ¬ Entered s))
  | .step .eventLoop | .throws _ => inferInstanceAs (Decidable True)

theorem loading_and_entered_of_stuck {n : Nat} {s : State} (h : Disciplined s) (hs : Stuck s) :
    Loading n s ∧ Entered s := by
  have horder : ∀ t l, wanted (s.todo t) = some l → InOrder (rank t) (s.held t) l :=
    fun t l hl => inOrder_of_follows (h.follows t) hl
  obtain ⟨t, u, l, l', hne, hl, hul, hl', htl', hlt, hgt⟩ :=
    opposite_of_deadlocked h.exclusive horder hs
  have hloading : wanted (s.todo .calling) = some .connection → 0 < s.held .calling .maps →
      Loading n s := by
    intro hconnection hheld
    obtain ⟨rest, hrest⟩ := lock_of_wanted hconnection
    refine ⟨hheld, ?_⟩
    rw [hrest]
    rfl
  cases t <;> cases u <;> cases l <;> cases l' <;> simp [rank] at hne hlt hgt
  · exact ⟨hloading hl htl', hl', hul⟩
  · exact ⟨hloading hl' hul, hl, htl'⟩

theorem inOrder_connection {t : Thread} {held : Mutex → Nat} {map : Clients} {path : String}
    (h : ∀ l ∈ guards t (.ensure map path), 0 < held l) : InOrder (rank t) held .connection := by
  cases t with
  | calling =>
      by_cases hc : 0 < held .connection
      · exact Or.inl hc
      · right
        intro l hl
        cases l with
        | connection => exact absurd hl hc
        | maps => exact Nat.zero_lt_one
  | eventLoop => exact Or.inl (h .connection (by simp [guards]))

theorem follows_calls {t : Thread} {held : Mutex → Nat} {ops : Code} (n : Nat)
    (ho : InOrder (rank t) held .connection) (h : Follows (rank t) (guards t) held ops) :
    Follows (rank t) (guards t) held (calls n ++ ops) := by
  induction n with
  | zero => exact h
  | succ n ih => exact follows_section ho ih

theorem follows_ensureAll {t : Thread} {held : Mutex → Nat} {ops : Code} {map : Clients}
    (paths : List String) (hheld : ∀ path, ∀ l ∈ guards t (.ensure map path), 0 < held l)
    (h : Follows (rank t) (guards t) held ops) :
    Follows (rank t) (guards t) held (ensureAll map paths ++ ops) := by
  apply follows_acts _ h
  intro a ha
  obtain ⟨path, -, rfl⟩ := List.mem_map.1 ha
  exact hheld path

theorem follows_locked {t : Thread} {held : Mutex → Nat} {body ops : Code}
    (ho : InOrder (rank t) held .maps) (hfree : held .maps = 0)
    (hbody : ∀ ops' : Code, Follows (rank t) (guards t) (update held .maps 1) ops' →
      Follows (rank t) (guards t) (update held .maps 1) (body ++ ops'))
    (h : Follows (rank t) (guards t) held ops) :
    Follows (rank t) (guards t) held (.lock .maps :: (body ++ .unlock .maps :: ops)) := by
  refine ⟨ho, ?_⟩
  rw [hfree]
  refine hbody _ ⟨by simp, ?_⟩
  rwa [update_idem, update_self, Nat.sub_self, ← hfree, update_eq_self]

theorem follows_connmanManagerClient (own : Nat) (technologies services : List String) :
    Follows (rank .calling) (guards .calling) (fun _ => 0)
      (connmanManagerClient own technologies services) := by
  have hmaps : ∀ map path, ∀ l ∈ guards .calling (.ensure map path),
      0 < update (fun _ => 0) Mutex.maps 1 l := by
    simp [guards]
  have ho := inOrder_connection (hmaps .technologies "")
  have hidle : ∀ m, InOrder (rank .calling) (fun _ => 0) m :=
    fun m => Or.inr fun l hl => absurd hl (Nat.lt_irrefl 0)
  have hbody : ∀ ops : Code,
      Follows (rank .calling) (guards .calling) (update (fun _ => 0) .maps 1) ops →
      Follows (rank .calling) (guards .calling) (update (fun _ => 0) .maps 1)
        ((call ++ ensureAll .technologies technologies ++ call ++ ensureAll .services services) ++
          ops) := by
    intro ops h
    simp only [List.append_assoc]
    apply follows_section ho
    apply follows_ensureAll technologies (hmaps .technologies)
    apply follows_section ho
    exact follows_ensureAll services (hmaps .services) h
  have hlocked := follows_locked (hidle .maps) rfl hbody
    (show Follows (rank .calling) (guards .calling) (fun _ => 0) [] from fun _ => rfl)
  have hcalls := follows_calls own (hidle .connection) hlocked
  simp only [List.append_assoc] at hcalls
  simp only [connmanManagerClient, List.append_assoc, List.cons_append]
  exact ⟨by simp [guards], hcalls⟩

def processing : Mutex → Nat := update (fun _ => 0) .connection 1

theorem follows_processed :
    Follows (rank .eventLoop) (guards .eventLoop) processing [.unlock .connection] := by
  refine ⟨by simp [processing], fun l => ?_⟩
  cases l <;> rfl

theorem follows_locked_handler {body : Code}
    (hbody : ∀ ops : Code,
      Follows (rank .eventLoop) (guards .eventLoop) (update processing .maps 1) ops →
      Follows (rank .eventLoop) (guards .eventLoop) (update processing .maps 1) (body ++ ops)) :
    Follows (rank .eventLoop) (guards .eventLoop) processing
      (.lock .maps :: body ++ [.unlock .maps] ++ [.unlock .connection]) := by
  have ho : InOrder (rank .eventLoop) processing .maps := by
    right
    intro l hl
    cases l with
    | connection => exact Nat.zero_lt_one
    | maps => exact absurd hl (Nat.lt_irrefl 0)
  simpa only [List.append_assoc, List.cons_append, List.nil_append] using
    follows_locked ho rfl hbody follows_processed

theorem follows_handler (m : Message) :
    Follows (rank .eventLoop) (guards .eventLoop) processing
      (m.handler ++ [.unlock .connection]) := by
  have hheld : ∀ l, 0 < update processing .maps 1 l := by
    intro l
    cases l <;> exact Nat.zero_lt_one
  cases m with
  | technologyAdded path =>
      exact follows_locked_handler fun ops h => follows_ensureAll [path] (fun _ l _ => hheld l) h
  | technologyRemoved path =>
      exact follows_locked_handler fun ops h =>
        follows_acts (fun _ (_ : _ ∈ [Act.erase .technologies path]) l _ => hheld l) h
  | servicesChanged changed removed =>
      have hbody : ∀ ops : Code,
          Follows (rank .eventLoop) (guards .eventLoop) (update processing .maps 1) ops →
          Follows (rank .eventLoop) (guards .eventLoop) (update processing .maps 1)
            ((ensureAll .services changed ++ (removed.map (Act.erase .services)).map .act) ++
              ops) := by
        intro ops h
        rw [List.append_assoc]
        apply follows_ensureAll changed fun _ l _ => hheld l
        exact follows_acts (fun _ _ l _ => hheld l) h
      exact follows_locked_handler hbody
  | other => exact follows_processed

theorem entry_handler (m : Message) :
    Op.lock Mutex.maps ∉ (m.handler ++ [Op.unlock Mutex.connection]).tail := by
  cases m <;> simp [Message.handler, onTechnologyAdded, onTechnologyRemoved, onServicesChanged,
    ensureAll]

theorem Disciplined.set {s : State} (h : Disciplined s) {t : Thread} {held : Held Thread Mutex}
    {ops : Code} {registered : Bool} {clients : Maps} (hex : Exclusive held)
    (hsingle : held t .maps ≤ 1) (hother : ∀ u, u ≠ t → held u = s.held u)
    (hself : Follows (rank t) (guards t) (held t) ops)
    (hentry : t = .eventLoop → Op.lock Mutex.maps ∉ ops.tail) :
    Disciplined ⟨held, update s.todo t ops, registered, clients⟩ := by
  refine ⟨hex, fun u => ?_, fun u => ?_, ?_⟩
  · show held u .maps ≤ 1
    by_cases hu : u = t
    · rwa [hu]
    · rw [hother u hu]
      exact h.single u
  · show Follows (rank u) (guards u) (held u) (update s.todo t ops u)
    by_cases hu : u = t
    · subst hu
      rwa [update_self]
    · rw [update_of_ne hu, hother u hu]
      exact h.follows u
  · show Op.lock Mutex.maps ∉ (update s.todo t ops .eventLoop).tail
    by_cases hu : Thread.eventLoop = t
    · rw [← hu, update_self]
      exact hentry hu.symm
    · rw [update_of_ne hu]
      exact h.entry

theorem not_mem_rest {s : State} (h : Disciplined s) {t : Thread} {op : Op Mutex Act} {rest : Code}
    (htodo : s.todo t = op :: rest) : t = .eventLoop → Op.lock Mutex.maps ∉ rest := by
  rintro rfl
  have := h.entry
  rwa [htodo] at this

theorem not_mem_calls (n : Nat) : Op.lock Mutex.maps ∉ calls n := by
  induction n with
  | zero => exact List.not_mem_nil
  | succ n ih => simpa [calls] using ih

theorem free_other {s : State} {t u : Thread} {m : Mutex} (h : s.Free t m) (hu : u ≠ t) :
    s.held u m = 0 := by
  cases u with
  | calling => exact h.1 (Or.inl hu.symm)
  | eventLoop => exact h.2 (Or.inl hu.symm)

theorem disciplined_lock {s : State} (h : Disciplined s) {t : Thread} {m : Mutex} {rest : Code}
    (htodo : s.todo t = .lock m :: rest) (hfree : s.Free t m) :
    Disciplined { s.setTodo t rest with held := acquire s.held t m } := by
  have hfollows := h.follows t
  rw [htodo] at hfollows
  apply h.set
  · exact exclusive_acquire h.exclusive fun u hu => free_other hfree hu
  · rw [acquire_self]
    cases m with
    | connection =>
        rw [update_of_ne (by decide)]
        exact h.single t
    | maps =>
        have hzero : s.held t .maps = 0 := by
          cases t with
          | calling => exact hfree.1 (Or.inr rfl)
          | eventLoop => exact hfree.2 (Or.inr rfl)
        have hone : update (s.held t) .maps (s.held t .maps + 1) .maps = 1 := by
          rw [update_self, hzero]
        exact Nat.le_of_eq hone
  · exact fun u hu => acquire_other _ hu m
  · rw [acquire_self]
    exact hfollows.2
  · exact fun ht hmem => not_mem_rest h htodo ht (List.mem_of_mem_tail hmem)

theorem disciplined_unlock {s : State} (h : Disciplined s) {t : Thread} {m : Mutex} {rest : Code}
    (htodo : s.todo t = .unlock m :: rest) :
    Disciplined { s.setTodo t rest with held := release s.held t m } := by
  have hfollows := h.follows t
  rw [htodo] at hfollows
  apply h.set
  · exact exclusive_release h.exclusive t m
  · have hsingle := h.single t
    rw [release_self]
    cases m with
    | connection => rwa [update_of_ne (by decide)]
    | maps =>
        rw [update_self]
        omega
  · exact fun u hu => release_other _ hu m
  · rw [release_self]
    exact hfollows.2
  · exact fun ht hmem => not_mem_rest h htodo ht (List.mem_of_mem_tail hmem)

theorem disciplined_perform {s : State} (h : Disciplined s) (n : Nat) {t : Thread} {a : Act}
    {rest : Code} (htodo : s.todo t = .act a :: rest) :
    Disciplined (s.perform n t rest a) := by
  have hfollows := h.follows t
  rw [htodo] at hfollows
  have hrest := not_mem_rest h htodo
  have hkeep : ∀ registered clients,
      Disciplined ⟨s.held, update s.todo t rest, registered, clients⟩ := fun registered clients =>
    h.set h.exclusive (h.single t) (fun _ _ => rfl) hfollows.2
      fun ht hmem => hrest ht (List.mem_of_mem_tail hmem)
  cases a with
  | registerProxy => exact hkeep true s.clients
  | unregisterProxy => exact hkeep false s.clients
  | insert map path => exact hkeep s.registered (s.clients.add map path)
  | erase map path => exact hkeep s.registered (s.clients.remove map path)
  | ensure map path =>
      rw [State.perform]
      split_ifs
      · exact hkeep s.registered s.clients
      · apply h.set h.exclusive (h.single t) fun _ _ => rfl
        · apply follows_calls n (inOrder_connection hfollows.1)
          refine ⟨?_, hfollows.2⟩
          cases t <;> exact hfollows.1
        · intro ht hmem
          have hmem := List.mem_of_mem_tail hmem
          rw [List.mem_append, List.mem_cons] at hmem
          rcases hmem with hmem | hmem | hmem
          · exact not_mem_calls n hmem
          · cases hmem
          · exact hrest ht hmem

theorem follows_unwind {s : State} {t : Thread} (hc : 0 < s.held t .connection) :
    Follows (rank t) (guards t) (s.held t) (s.unwind t) := by
  have hreleased : Follows (rank t) (guards t) (fun _ => 0)
      (if t = .calling then [.act .unregisterProxy] else []) := by
    split_ifs
    · exact ⟨by simp [guards], fun _ => rfl⟩
    · exact fun _ => rfl
  rw [State.unwind, List.cons_append, List.cons_append, List.append_assoc]
  refine ⟨hc, ?_⟩
  apply follows_releases
  · refine Nat.le_of_eq ?_
    rw [update_of_ne (by decide)]
  · apply follows_releases
    · refine Nat.le_of_eq ?_
      rw [update_of_ne (by decide), update_self]
    · convert hreleased using 2 with m
      cases m with
      | connection => simp
      | maps => simp

theorem not_mem_unwind (s : State) (t : Thread) : Op.lock Mutex.maps ∉ s.unwind t := by
  simp only [State.unwind, List.mem_append, List.mem_cons, List.mem_replicate]
  split_ifs <;> simp

theorem disciplined_handle {n : Nat} {s : State} {e : Event} (h : Disciplined s)
    (he : Enabled s e) : Disciplined (handle n s e) := by
  cases e with
  | step t =>
      show Disciplined (s.step n t)
      rw [State.step]
      cases htodo : s.todo t with
      | nil => exact absurd htodo he.1
      | cons op rest =>
          cases op with
          | lock m =>
              have hfree : s.Free t m := by simpa [htodo, wanted] using he.2
              exact disciplined_lock h htodo hfree
          | unlock m => exact disciplined_unlock h htodo
          | act a => exact disciplined_perform h n htodo
  | message m =>
      have hidle : ∀ l, s.held .eventLoop l = 0 := by
        have hfollows := h.follows .eventLoop
        rwa [he.1] at hfollows
      have hprocessing : acquire s.held .eventLoop .connection .eventLoop = processing := by
        rw [acquire_self, hidle, processing]
        congr 1
        exact funext hidle
      apply h.set
      · exact exclusive_acquire h.exclusive fun u hu => free_other he.2 hu
      · rw [hprocessing]
        exact Nat.zero_le 1
      · exact fun u hu => acquire_other _ hu Mutex.connection
      · rw [hprocessing]
        split_ifs
        · exact follows_handler m
        · exact follows_processed
      · intro _
        split_ifs
        · exact entry_handler m
        · exact List.not_mem_nil
  | throws t =>
      have hc : 0 < s.held t .connection := by
        have hfollows := h.follows t
        cases htodo : s.todo t with
        | nil => simp [Enabled, State.Calling, htodo] at he
        | cons op rest =>
            have hop : op = Op.unlock Mutex.connection := by
              simpa [htodo] using he.1
            rw [htodo, hop] at hfollows
            exact hfollows.1
      exact h.set h.exclusive (h.single t) (fun _ _ => rfl) (follows_unwind hc)
        fun _ hmem => not_mem_unwind s t (List.mem_of_mem_tail hmem)

theorem step_other (n : Nat) (s : State) {t u : Thread} (hu : u ≠ t) :
    (s.step n t).held u = s.held u ∧ (s.step n t).todo u = s.todo u := by
  have htodo : ∀ ops, update s.todo t ops u = s.todo u := fun ops => update_of_ne hu ops s.todo
  rw [State.step]
  cases s.todo t with
  | nil => exact ⟨rfl, rfl⟩
  | cons op rest =>
      cases op with
      | lock m => exact ⟨acquire_other _ hu m, htodo rest⟩
      | unlock m => exact ⟨release_other _ hu m, htodo rest⟩
      | act a =>
          cases a with
          | ensure map path =>
              simp only [State.perform]
              split_ifs
              · exact ⟨rfl, htodo _⟩
              · exact ⟨rfl, htodo _⟩
          | registerProxy | unregisterProxy | insert map path | erase map path =>
              exact ⟨rfl, htodo rest⟩

theorem callsAhead_calls (n : Nat) (clients : Maps) (k : Nat) (ops : Code) :
    callsAhead n clients (calls k ++ ops) = (decide (0 < k) || callsAhead n clients ops) := by
  cases k <;> rfl

theorem callsAhead_unwind (n : Nat) (s : State) (clients : Maps) (t : Thread) :
    callsAhead n clients (s.unwind t) = false := by
  have hunregister : callsAhead n clients
      (if t = .calling then [.act .unregisterProxy] else []) = false := by
    split_ifs <;> rfl
  have hconnection : ∀ k, callsAhead n clients (List.replicate k (.unlock .connection) ++
      if t = .calling then [.act .unregisterProxy] else []) = false := by
    intro k
    induction k with
    | zero => exact hunregister
    | succ k ih => exact ih
  rw [State.unwind, List.cons_append, List.cons_append, List.append_assoc]
  cases s.held t .maps with
  | zero => exact hconnection _
  | succ k => rfl

theorem held_perform (n : Nat) (s : State) (t : Thread) (rest : Code) (a : Act) :
    (s.perform n t rest a).held = s.held := by
  cases a with
  | ensure map path =>
      rw [State.perform]
      split_ifs <;> rfl
  | registerProxy | unregisterProxy | insert map path | erase map path => rfl

theorem callsAhead_perform (n : Nat) (s : State) (t : Thread) (rest : Code) (a : Act) :
    callsAhead n (s.perform n t rest a).clients ((s.perform n t rest a).todo t) =
      callsAhead n s.clients (.act a :: rest) := by
  cases a with
  | ensure map path =>
      by_cases hmem : path ∈ s.clients map
      · simp only [State.perform, if_pos hmem, State.setTodo, update_self, callsAhead]
      · simp only [State.perform, if_neg hmem, State.setTodo, update_self, callsAhead,
          callsAhead_calls]
  | registerProxy | unregisterProxy | insert map path | erase map path =>
      simp only [State.perform, State.setTodo, update_self, callsAhead]

theorem loading_of_step {n : Nat} {s : State} (h : Disciplined s)
    (hl : Loading n (s.step n .calling)) : Loading n s ∨ wanted (s.todo .calling) = some .maps := by
  obtain ⟨hheld, hahead⟩ := hl
  cases htodo : s.todo .calling with
  | nil =>
      simp only [State.step, htodo] at hheld hahead
      left
      refine ⟨hheld, ?_⟩
      rwa [htodo]
  | cons op rest =>
      cases op with
      | lock m =>
          cases m with
          | maps => exact Or.inr rfl
          | connection =>
              simp only [State.step, htodo, acquire_self] at hheld
              rw [update_of_ne (by decide)] at hheld
              left
              refine ⟨hheld, ?_⟩
              rw [htodo]
              rfl
      | unlock m =>
          simp only [State.step, htodo, release_self] at hheld hahead
          cases m with
          | maps =>
              have hsingle := h.single .calling
              rw [update_self] at hheld
              omega
          | connection =>
              rw [update_of_ne (by decide)] at hheld
              left
              refine ⟨hheld, ?_⟩
              rw [htodo]
              simpa only [State.setTodo, update_self, callsAhead] using hahead
      | act a =>
          simp only [State.step, htodo] at hheld hahead
          rw [held_perform] at hheld
          rw [callsAhead_perform] at hahead
          left
          refine ⟨hheld, ?_⟩
          rw [htodo]
          exact hahead

theorem not_entered_of_not_mem {s : State} (h : Op.lock Mutex.maps ∉ s.todo .eventLoop) :
    ¬ Entered s := by
  rintro ⟨hwanted, -⟩
  obtain ⟨rest, hrest⟩ := lock_of_wanted hwanted
  rw [hrest] at h
  exact h List.mem_cons_self

theorem not_entered_step {n : Nat} {s : State} (h : Disciplined s)
    (hne : s.todo .eventLoop ≠ []) : ¬ Entered (s.step n .eventLoop) := by
  apply not_entered_of_not_mem
  cases htodo : s.todo .eventLoop with
  | nil => exact absurd htodo hne
  | cons op rest =>
      have hrest : Op.lock Mutex.maps ∉ rest := not_mem_rest h htodo rfl
      cases op with
      | lock m => simpa only [State.step, htodo, State.setTodo, update_self] using hrest
      | unlock m => simpa only [State.step, htodo, State.setTodo, update_self] using hrest
      | act a =>
          cases a with
          | ensure map path =>
              simp only [State.step, htodo, State.perform]
              split_ifs
              · simpa only [State.setTodo, update_self] using hrest
              · have hcalls := not_mem_calls n
                simp [State.setTodo, hrest, hcalls]
          | registerProxy | unregisterProxy | insert map path | erase map path =>
              simpa only [State.step, htodo, State.perform, State.setTodo, update_self] using hrest

def Crossed (n : Nat) (s : State) : Prop := Loading n s ∧ Entered s

theorem not_crossed_handle {n : Nat} {s : State} {e : Event} (h : Disciplined s)
    (hs : ¬ Crossed n s) (he : Enabled s e) (ha : Apart n s e) : ¬ Crossed n (handle n s e) := by
  rintro ⟨hloading, hentered⟩
  cases e with
  | step t =>
      cases t with
      | eventLoop => exact not_entered_step h he.1 hentered
      | calling =>
          have hother := step_other n s (show Thread.eventLoop ≠ .calling by decide)
          have hbefore : Entered s := by
            rw [Entered, ← hother.1, ← hother.2]
            exact hentered
          rcases loading_of_step h hloading with hl | hlock
          · exact hs ⟨hl, hbefore⟩
          · exact ha hlock hbefore
  | message m =>
      have hheld : acquire s.held .eventLoop .connection .calling = s.held .calling :=
        acquire_other _ (by decide) _
      have hbefore : Loading n s := by
        simpa only [Loading, handle, hheld, State.setTodo,
          update_of_ne (show Thread.calling ≠ .eventLoop by decide)] using hloading
      by_cases hr : s.registered = true ∧ m ≠ .other
      · exact ha hr.1 hr.2 hbefore
      · have hnone : (if s.registered then m.handler else []) = [] := by
          by_cases hregistered : s.registered = true
          · have hm : m = .other := by
              by_contra hm
              exact hr ⟨hregistered, hm⟩
            rw [hm, if_pos hregistered]
            rfl
          · exact if_neg hregistered
        apply not_entered_of_not_mem _ hentered
        simp [handle, State.setTodo, hnone]
  | throws t =>
      cases t with
      | calling =>
          have hahead := hloading.2
          simp only [handle, State.setTodo, update_self] at hahead
          rw [callsAhead_unwind] at hahead
          cases hahead
      | eventLoop =>
          apply not_entered_of_not_mem _ hentered
          simpa only [handle, State.setTodo, update_self] using not_mem_unwind s .eventLoop

theorem stuck_of_lock {s : State} {rest : Code} (hheld : 0 < s.held .calling .maps)
    (he : Entered s) (htodo : s.todo .calling = .lock .connection :: rest) : Stuck s := by
  have hwanted : wanted (s.todo .calling) = some .connection := by
    rw [htodo]
    rfl
  exact ⟨.calling, .eventLoop, .connection, .maps, by decide, hwanted, he.2, he.1, hheld⟩

theorem crossed_perform {n : Nat} {s : State} {a : Act} {rest : Code} (hc : Crossed n s)
    (htodo : s.todo .calling = .act a :: rest) : Crossed n (s.perform n .calling rest a) := by
  obtain ⟨⟨hheld, hahead⟩, hentered⟩ := hc
  refine ⟨⟨?_, ?_⟩, ?_⟩
  · rwa [held_perform]
  · rwa [callsAhead_perform, ← htodo]
  · have hother := step_other n s (show Thread.eventLoop ≠ .calling by decide)
    simp only [State.step, htodo] at hother
    rwa [Entered, hother.1, hother.2]

/-- The constructor alone runs into the deadlock. -/
def StuckAhead (n : Nat) (s : State) : Prop :=
  ∃ k, (system n).Valid s (List.replicate k (.step .calling)) ∧
    Stuck ((system n).after s (List.replicate k (.step .calling)))

theorem stuckAhead_of_perform {n : Nat} {s : State} {a : Act} {rest : Code}
    (htodo : s.todo .calling = .act a :: rest)
    (h : StuckAhead n (s.perform n .calling rest a)) : StuckAhead n s := by
  obtain ⟨k, hvalid, hstuck⟩ := h
  have hnext : (system n).next s (.step .calling) = s.perform n .calling rest a := by
    show s.step n .calling = _
    rw [State.step, htodo]
  have henabled : Enabled s (.step .calling) := by
    simp [Enabled, htodo, wanted]
  refine ⟨k + 1, ⟨henabled, ?_⟩, ?_⟩
  · rwa [hnext]
  · rwa [List.replicate_succ, System.after_cons, hnext]

theorem stuckAhead_of_crossed {n : Nat} {s : State} (h : Disciplined s) (hc : Crossed n s) :
    StuckAhead n s := by
  obtain ⟨ops, hops⟩ : ∃ ops, s.todo .calling = ops := ⟨_, rfl⟩
  have hahead := hc.1.2
  rw [hops] at hahead
  induction ops generalizing s with
  | nil => cases hahead
  | cons op rest ih =>
      cases op with
      | lock m =>
          cases m with
          | connection => exact ⟨0, trivial, stuck_of_lock hc.1.1 hc.2 hops⟩
          | maps => cases hahead
      | unlock m =>
          cases m with
          | maps => cases hahead
          | connection =>
              have hfollows := h.follows .calling
              rw [hops] at hfollows
              cases h.exclusive .calling .eventLoop .connection hfollows.1 hc.2.2
      | act a =>
          have hrest : ∀ s' : State, s'.todo .calling = rest → Disciplined s' → Crossed n s' →
              StuckAhead n s' := by
            intro s' htodo hd hcrossed
            apply ih hd hcrossed htodo
            rw [← htodo]
            exact hcrossed.1.2
          have hnext := disciplined_perform h n hops
          have hcrossed := crossed_perform hc hops
          apply stuckAhead_of_perform hops
          cases a with
          | registerProxy | unregisterProxy | insert map path | erase map path =>
              exact hrest _ (by simp [State.perform]) hnext hcrossed
          | ensure map path =>
              by_cases hmem : path ∈ s.clients map
              · exact hrest _ (by simp [State.perform, hmem]) hnext hcrossed
              · have htodo : (s.perform n .calling rest (.ensure map path)).todo .calling =
                    calls n ++ .act (.insert map path) :: rest := by
                  simp [State.perform, hmem]
                cases n with
                | zero =>
                    apply stuckAhead_of_perform htodo
                    exact hrest _ (by simp [State.perform]) (disciplined_perform hnext 0 htodo)
                      (crossed_perform hcrossed htodo)
                | succ n => exact ⟨0, trivial, stuck_of_lock hcrossed.1.1 hcrossed.2 htodo⟩

theorem disciplined_start (own : Nat) (technologies services : List String) :
    Disciplined (.start own technologies services) := by
  refine ⟨fun t u l ht => absurd ht (Nat.lt_irrefl 0), fun _ => Nat.zero_le 1, fun t => ?_,
    List.not_mem_nil⟩
  cases t with
  | calling => exact follows_connmanManagerClient own technologies services
  | eventLoop => exact fun _ => rfl

/-- In a run whose steps keep the handlers apart from the loading of the maps,
the two threads never wait for each other. -/
theorem never_stuck (own n : Nat) (technologies services : List String) {events : List Event}
    (hv : (system n).Valid (.start own technologies services) events)
    (ha : (system n).Along (Apart n) (.start own technologies services) events) :
    (system n).Always (fun s => ¬ Stuck s) (.start own technologies services) events := by
  rintro bs ⟨cs, rfl⟩
  rw [System.valid_append] at hv
  rw [System.along_append] at ha
  have hstart : ¬ Crossed n (.start own technologies services) :=
    fun hc => absurd hc.1.1 (Nat.lt_irrefl 0)
  have hinv : Disciplined ((system n).after (.start own technologies services) bs) ∧
      ¬ Crossed n ((system n).after (.start own technologies services) bs) :=
    (system n).invariant_along
      (J := fun s => Disciplined s ∧ ¬ Crossed n s)
      (fun s e hj he hp => ⟨disciplined_handle hj.1 he, not_crossed_handle hj.1 hj.2 he hp⟩)
      ⟨disciplined_start own technologies services, hstart⟩ hv.1 ha.1
  exact fun hstuck => hinv.2 (loading_and_entered_of_stuck hinv.1 hstuck)

/-- The constructor finishes before the first technology is added. -/
theorem never_stuck_loaded :
    (system 1).Always (fun s => ¬ Stuck s) (.start 6 [] [])
      (List.replicate 19 (.step .calling) ++
        [.message (.technologyAdded "/net/connman/technology/wifi"), .step .eventLoop]) :=
  never_stuck 6 1 [] [] (by decide) (by decide)

/-- TechnologyAdded is handled after the proxy is registered, while the
constructor holds `maps_mutex_` and is about to call GetTechnologies. -/
theorem stuck_in_window :
    ¬ ∀ (own n : Nat) (technologies services : List String) (events : List Event),
      (system n).Valid (.start own technologies services) events →
      (system n).Always (fun s => ¬ Stuck s) (.start own technologies services) events := by
  intro h
  apply h 0 0 [] [] [.step .calling, .step .calling,
    .message (.technologyAdded "/net/connman/technology/wifi")] (by decide) _ List.prefix_rfl
  exact ⟨.calling, .eventLoop, .connection, .maps, by decide, by decide, by decide, by decide,
    by decide⟩

end SdbusExamples.ConnmanDeadlock
