import FormulaMap.Proofs.Analysis.Permits

/-!
# Turns

A record is asked about when its task gets a permit, and that happens once to every task of a
complete run, in whatever order the tasks take their turns; so what is posted is what comes of
asking about every record once.  Whichever turns are given to a fan-out, it is a complete run, and
every complete run comes of some turns.
-/

namespace FormulaMap
namespace Analysis

theorem Phase.eq_joined {phase : Phase} (h : phase.isJoined = true) : phase = .joined := by
  cases phase with
  | joined => rfl
  | waiting => cases h
  | asking => cases h
  | ended result => cases h

/-- The record of a task, once it has been asked about. -/
def Task.called (t : Task) : Option MethodRecord :=
  match t.phase with
  | .waiting => none
  | _ => some t.record

/-- The posts of a task, once its record has been asked about. -/
def Task.posts (ask : Asking) (t : Task) : List Http.Post :=
  match t.phase with
  | .waiting => []
  | _ => (ask t.record).posts

/-- Filling in an empty list at a place adds its members to those that are there. -/
theorem flatten_set_perm {α : Type} {lists : List (List α)} {place : Nat} (more : List α)
    (found : lists[place]? = some []) :
    (lists.set place more).flatten.Perm (lists.flatten ++ more) := by
  induction lists generalizing place with
  | nil => simp at found
  | cons first rest ih =>
      cases place with
      | zero =>
          rw [List.getElem?_cons_zero, Option.some.injEq] at found
          subst found
          exact List.perm_append_comm
      | succ place =>
          rw [List.getElem?_cons_succ] at found
          rw [List.set_cons_succ, List.flatten_cons, List.flatten_cons, List.append_assoc]
          exact (ih found).append_left first

/-- Who has been asked about and what has been posted, at every moment of a run. -/
structure Counted (ask : Nat → Asking) (records : List MethodRecord) (s : State) : Prop where
  isOpen : s.isOpen = true
  records : s.tasks.map (·.record) = records
  asked : s.asked.Perm ((s.tasks.map Task.called).filterMap id)
  posted : s.posted.Perm (s.tasks.mapIdx fun place t => t.posts (ask place)).flatten

theorem counted_initial (ask : Nat → Asking) (ids : Nat → Nat) (permits : Nat)
    (records : List MethodRecord) :
    Counted ask records (State.initial ids permits records) where
  isOpen := rfl
  records := by
    apply List.ext_getElem?
    intro place
    rw [State.initial, map_mapIdx, List.getElem?_mapIdx]
    exact Option.map_id'
  asked := by
    have hnone : ((State.initial ids permits records).tasks.map Task.called).filterMap id = [] := by
      rw [List.filterMap_eq_nil_iff]
      intro called hcalled
      obtain ⟨t, ht, rfl⟩ := List.mem_map.mp hcalled
      obtain ⟨place, hlt, rfl⟩ := List.mem_mapIdx.mp ht
      rfl
    rw [hnone]
    exact .nil
  posted := by
    have hnone : ((State.initial ids permits records).tasks.mapIdx
        fun place t => t.posts (ask place)).flatten = [] := by
      rw [List.flatten_eq_nil_iff]
      intro posts hposts
      obtain ⟨place, hlt, rfl⟩ := List.mem_mapIdx.mp hposts
      simp [State.initial, Task.posts]
    rw [hnone]
    exact .nil

namespace State

theorem takeResult_asked (s : State) (place : Nat) (task : Task) (result : TaskResult) :
    (s.takeResult place task result).isOpen = s.isOpen ∧
      (s.takeResult place task result).asked = s.asked ∧
      (s.takeResult place task result).posted = s.posted := by
  cases result with
  | ok outcome => exact ⟨rfl, rfl, rfl⟩
  | error payload =>
      simp only [takeResult]
      split
      · exact ⟨rfl, rfl, rfl⟩
      · exact ⟨rfl, rfl, rfl⟩

end State

namespace Counted

variable {ask : Nat → Asking} {records : List MethodRecord} {s : State}

/-- A task that has been asked about and one that has not stay so in the phases that follow. -/
theorem setPhase (h : Counted ask records s) {place : Nat} {task : Task} {phase : Phase}
    (found : s.tasks[place]? = some task)
    (hcalled : Task.called { task with phase := phase } = task.called)
    (hposts : Task.posts (ask place) { task with phase := phase } = task.posts (ask place)) :
    Counted ask records (s.setPhase place phase) where
  isOpen := h.isOpen
  records := by
    rw [← h.records]
    exact State.map_setPhase found rfl
  asked := by
    rw [State.map_setPhase found hcalled]
    exact h.asked
  posted := by
    rw [State.mapIdx_setPhase found hposts]
    exact h.posted

/-- A task that gets a permit asks about its record. -/
theorem acquire (h : Counted ask records s) {place number : Nat} {record : MethodRecord}
    (found : s.tasks[place]? = some ⟨number, record, .waiting⟩) :
    Counted ask records { s.setPhase place .asking with
      free := s.free - 1
      asked := s.asked ++ [record]
      posted := s.posted ++ (ask place record).posts } where
  isOpen := h.isOpen
  records := by
    rw [← h.records]
    exact State.map_setPhase found rfl
  asked := by
    have hnone : (s.tasks.map Task.called)[place]? = some none := by
      rw [List.getElem?_map, found]
      rfl
    have hcalled : (s.setPhase place .asking).tasks.map Task.called =
        (s.tasks.map Task.called).set place (some record) := by
      rw [State.tasks_setPhase .asking found, List.map_set]
      rfl
    change (s.asked ++ [record]).Perm
      (((s.setPhase place .asking).tasks.map Task.called).filterMap id)
    rw [hcalled]
    exact ((List.perm_append_singleton _ _).trans (h.asked.cons record)).trans
      (filterMap_set_perm hnone).symm
  posted := by
    have hnone : (s.tasks.mapIdx fun place t => t.posts (ask place))[place]? = some [] := by
      rw [List.getElem?_mapIdx, found]
      rfl
    have hposts : ((s.setPhase place .asking).tasks.mapIdx fun place t => t.posts (ask place)) =
        (s.tasks.mapIdx fun place t => t.posts (ask place)).set place
          (ask place record).posts := by
      rw [State.tasks_setPhase .asking found, List.mapIdx_set]
      rfl
    change (s.posted ++ (ask place record).posts).Perm
      ((s.setPhase place .asking).tasks.mapIdx fun place t => t.posts (ask place)).flatten
    rw [hposts]
    exact (h.posted.append_right _).trans (flatten_set_perm _ hnone).symm

/-- One step keeps count. -/
theorem step {a : Action} {t : State} (h : Counted ask records s)
    (hstep : s.step (ask a.place) a = some t) : Counted ask records t := by
  cases State.move_of_step hstep with
  | acquire found isOpen free => exact h.acquire found
  | turnAway found closed =>
      rw [h.isOpen] at closed
      cases closed
  | @finish place _ record found =>
      have hkept : Counted ask records (s.setPhase place (.ended (ask place record).result)) :=
        h.setPhase found rfl rfl
      exact { hkept with }
  | @join place id record result found =>
      have hkept : Counted ask records (s.setPhase place .joined) := h.setPhase found rfl rfl
      obtain ⟨htasks, -⟩ :=
        State.takeResult_frame (s.setPhase place .joined) place ⟨id, record, .joined⟩ result
      obtain ⟨hopen, hasked, hposted⟩ :=
        State.takeResult_asked (s.setPhase place .joined) place ⟨id, record, .joined⟩ result
      refine ⟨hopen.trans hkept.isOpen, ?_, ?_, ?_⟩
      · rw [htasks]
        exact hkept.records
      · rw [htasks, hasked]
        exact hkept.asked
      · rw [htasks, hposted]
        exact hkept.posted

/-- So does a run of any length. -/
theorem run {t : State} (h : Counted ask records s)
    (hrun : Relation.ReflTransGen (StepAt ask) s t) : Counted ask records t := by
  induction hrun with
  | refl => exact h
  | tail _ hlast ih =>
      obtain ⟨a, ha⟩ := hlast
      exact ih.step ha

theorem steps {ask : Asking} (h : Counted (fun _ => ask) records s) (actions : List Action) :
    Counted (fun _ => ask) records (s.run ask actions) :=
  h.run (s.reaches_runAt (fun _ => ask) actions)

theorem length_tasks (h : Counted ask records s) : s.tasks.length = records.length := by
  rw [← h.records, List.length_map]

/-- In the end every record has been asked about once. -/
theorem asked_perm (h : Counted ask records s) (hcomplete : s.isComplete = true) :
    s.asked.Perm records := by
  have hcalled : s.tasks.map Task.called = (s.tasks.map (·.record)).map some := by
    rw [List.map_map, List.map_inj_left]
    intro t ht
    rw [Task.called, Phase.eq_joined (List.all_eq_true.mp hcomplete t ht)]
    rfl
  have hasked := h.asked
  rw [hcalled, List.filterMap_map, h.records] at hasked
  simpa using hasked

/-- In the end what comes of asking about every record has been posted once. -/
theorem posted_perm (h : Counted ask records s) (hcomplete : s.isComplete = true) :
    s.posted.Perm (records.mapIdx fun place record => (ask place record).posts).flatten := by
  have hposts : (s.tasks.mapIdx fun place t => t.posts (ask place)) =
      records.mapIdx fun place record => (ask place record).posts := by
    rw [← h.records]
    apply List.ext_getElem?
    intro place
    rw [List.getElem?_mapIdx, List.getElem?_mapIdx, List.getElem?_map, Option.map_map]
    apply Option.map_congr
    intro t ht
    have hjoined : t.phase.isJoined = true :=
      List.all_eq_true.mp hcomplete t (List.mem_of_getElem? ht)
    rw [Task.posts, Phase.eq_joined hjoined]
    rfl
  rw [← hposts]
  exact h.posted

end Counted

/-! ## A fan-out with given turns is a complete run -/

/-- After a change at one place an entry is the new one or was there before. -/
theorem eq_or_of_getElem?_set {α : Type} {xs : List α} {place other : Nat} {x y : α}
    (found : (xs.set place x)[other]? = some y) :
    (other = place ∧ y = x) ∨ (other ≠ place ∧ xs[other]? = some y) := by
  by_cases hsame : place = other
  · subst hsame
    have hbound : place < xs.length := by
      simpa using (List.getElem?_eq_some_iff.mp found).1
    rw [List.getElem?_set_self hbound] at found
    exact .inl ⟨rfl, (Option.some.inj found).symm⟩
  · rw [List.getElem?_set_ne hsame] at found
    exact .inr ⟨fun heq => hsame heq.symm, found⟩

namespace State

variable {ask : Asking} {s : State}

@[simp]
theorem run_nil : s.run ask [] = s := rfl

@[simp]
theorem run_cons (a : Action) (rest : List Action) :
    s.run ask (a :: rest) = ((s.step ask a).getD s).run ask rest := rfl

theorem run_append (actions rest : List Action) :
    s.run ask (actions ++ rest) = (s.run ask actions).run ask rest :=
  List.foldl_append

theorem getElem?_setPhase {place : Nat} {task : Task} (phase : Phase)
    (found : s.tasks[place]? = some task) :
    (s.setPhase place phase).tasks[place]? = some { task with phase := phase } := by
  have hbound : place < s.tasks.length := (List.getElem?_eq_some_iff.mp found).1
  rw [tasks_setPhase phase found, List.getElem?_set_self hbound]

/-- Where a task was told to end it does not ask afterwards, and elsewhere nothing changes. -/
theorem eq_of_finish {place other : Nat} {t : Task}
    (found : ((s.step ask (.finish place)).getD s).tasks[other]? = some t)
    (hasking : t.phase.isAsking = true) : other ≠ place ∧ s.tasks[other]? = some t := by
  cases hstep : s.step ask (.finish place) with
  | none =>
      rw [hstep, Option.getD_none] at found
      refine ⟨?_, found⟩
      rintro rfl
      obtain ⟨id, record, phase⟩ := t
      cases phase with
      | asking =>
          have hfinish : (s.step ask (.finish other)).isSome := isSome_step_finish found
          rw [hstep] at hfinish
          cases hfinish
      | waiting => cases hasking
      | ended result => cases hasking
      | joined => cases hasking
  | some next =>
      rw [hstep, Option.getD_some] at found
      cases move_of_step hstep with
      | @finish _ id record hbefore =>
          change (s.setPhase place (.ended (ask record).result)).tasks[other]? = some t at found
          rw [tasks_setPhase _ hbefore] at found
          rcases eq_or_of_getElem?_set found with ⟨-, rfl⟩ | hother
          · cases hasking
          · exact hother

theorem eq_of_finishes {places : List Nat} {other : Nat} {t : Task}
    (found : (s.run ask (places.map .finish)).tasks[other]? = some t)
    (hasking : t.phase.isAsking = true) : other ∉ places ∧ s.tasks[other]? = some t := by
  induction places generalizing s with
  | nil => exact ⟨List.not_mem_nil, found⟩
  | cons place places ih =>
      obtain ⟨hrest, hbefore⟩ := ih found
      obtain ⟨hne, hstart⟩ := eq_of_finish hbefore hasking
      exact ⟨List.not_mem_cons_of_ne_of_not_mem hne hrest, hstart⟩

/-- Once all calls have ended nobody asks. -/
theorem holders_of_finishes {count : Nat} (hcount : s.tasks.length = count) :
    (s.run ask ((List.range count).map .finish)).holders = 0 := by
  rw [holders, List.countP_eq_zero]
  intro t ht hasking
  obtain ⟨place, found⟩ := List.mem_iff_getElem?.mp ht
  obtain ⟨houtside, hbefore⟩ := eq_of_finishes found hasking
  have hlt := (List.getElem?_eq_some_iff.mp hbefore).1
  exact houtside (List.mem_range.mpr (hcount ▸ hlt))

theorem tasks_join {place id : Nat} {record : MethodRecord} {result : TaskResult}
    (found : s.tasks[place]? = some ⟨id, record, .ended result⟩) :
    ((s.step ask (.join place)).getD s).tasks = s.tasks.set place ⟨id, record, .joined⟩ := by
  simp only [step, found, Option.getD_some]
  rw [(takeResult_frame _ _ _ _).1, tasks_setPhase .joined found]

/-- A task that does not ask is joined by a turn of its own if there is a permit. -/
theorem tasks_turn {place id : Nat} {record : MethodRecord} {phase : Phase}
    (found : s.tasks[place]? = some ⟨id, record, phase⟩) (hopen : s.isOpen = true)
    (hfree : 0 < s.free) (hphase : phase.isAsking = false) :
    (s.run ask (turn place)).tasks = s.tasks.set place ⟨id, record, .joined⟩ := by
  cases phase with
  | waiting =>
      let acquired : State :=
        { s.setPhase place .asking with
          free := s.free - 1
          asked := s.asked ++ [record]
          posted := s.posted ++ (ask record).posts }
      let ended : State :=
        { acquired.setPhase place (.ended (ask record).result) with free := acquired.free + 1 }
      have hasking : acquired.tasks[place]? = some ⟨id, record, .asking⟩ :=
        getElem?_setPhase .asking found
      have hended : ended.tasks[place]? = some ⟨id, record, .ended (ask record).result⟩ :=
        getElem?_setPhase (.ended (ask record).result) hasking
      have hacquire : s.step ask (.acquire place) = some acquired := by
        simp [step, found, hopen, hfree, acquired]
      have hfinish : acquired.step ask (.finish place) = some ended := by
        simp [step, hasking, ended]
      have htasks : ended.tasks =
          s.tasks.set place ⟨id, record, .ended (ask record).result⟩ := by
        change (acquired.setPhase place (.ended (ask record).result)).tasks = _
        rw [tasks_setPhase _ hasking]
        change (s.setPhase place .asking).tasks.set place _ = _
        rw [tasks_setPhase _ found, List.set_set]
      rw [turn, run_cons, hacquire, Option.getD_some, run_cons, hfinish, Option.getD_some, run_cons,
        run_nil, tasks_join hended, htasks, List.set_set]
  | asking => cases hphase
  | ended result =>
      have hacquire : s.step ask (.acquire place) = none := by simp [step, found]
      have hfinish : s.step ask (.finish place) = none := by simp [step, found]
      rw [turn, run_cons, hacquire, Option.getD_none, run_cons, hfinish, Option.getD_none,
        run_cons, run_nil, tasks_join found]
  | joined =>
      have hacquire : s.step ask (.acquire place) = none := by simp [step, found]
      have hfinish : s.step ask (.finish place) = none := by simp [step, found]
      have hjoin : s.step ask (.join place) = none := by simp [step, found]
      rw [turn, run_cons, hacquire, Option.getD_none, run_cons, hfinish, Option.getD_none,
        run_cons, hjoin, Option.getD_none, run_nil, set_same found]

theorem permits_run (ask : Asking) (s : State) (actions : List Action) :
    (s.run ask actions).free + (s.run ask actions).holders = s.free + s.holders := by
  induction actions generalizing s with
  | nil => rfl
  | cons a rest ih =>
      rw [run_cons, ih]
      cases hstep : s.step ask a with
      | none => rfl
      | some next => exact (move_of_step hstep).permits

/-- When nobody asks, the turns of all tasks that were not joined bring a run to its end. -/
theorem isComplete_of_turns {records : List MethodRecord} {places : List Nat}
    (h : Counted (fun _ => ask) records s) (hfree : 0 < s.free) (hidle : s.holders = 0)
    (hplaces : ∀ place ∈ places, place < s.tasks.length)
    (hothers : ∀ (place : Nat) (t : Task), s.tasks[place]? = some t →
      t.phase.isJoined = true ∨ place ∈ places) :
    (s.run ask (places.flatMap turn)).isComplete = true := by
  -- by the places whose turn is still to come; between two turns nobody holds a permit
  induction places generalizing s with
  | nil =>
      rw [isComplete, List.all_eq_true]
      intro t ht
      obtain ⟨place, found⟩ := List.mem_iff_getElem?.mp ht
      rcases hothers place t found with hjoined | hmem
      · exact hjoined
      · cases hmem
  | cons place places ih =>
      have hbound : place < s.tasks.length := hplaces place List.mem_cons_self
      obtain ⟨⟨id, record, phase⟩, found⟩ : ∃ t, s.tasks[place]? = some t :=
        ⟨_, List.getElem?_eq_getElem hbound⟩
      have hphase : phase.isAsking = false :=
        eq_false_of_ne_true (List.countP_eq_zero.mp hidle _ (List.mem_of_getElem? found))
      have htasks : (s.run ask (turn place)).tasks = s.tasks.set place ⟨id, record, .joined⟩ :=
        tasks_turn found h.isOpen hfree hphase
      have hidle' : (s.run ask (turn place)).holders = 0 := by
        rw [holders, htasks, List.countP_eq_zero]
        intro t ht
        rcases List.mem_or_eq_of_mem_set ht with hmem | rfl
        · exact List.countP_eq_zero.mp hidle t hmem
        · exact Bool.false_ne_true
      have hpermits := permits_run ask s (turn place)
      rw [List.flatMap_cons, run_append]
      apply ih (h.steps _) (by omega) hidle'
      · intro other hother
        rw [htasks, List.length_set]
        exact hplaces other (List.mem_cons_of_mem place hother)
      · intro other t hfound
        rw [htasks] at hfound
        rcases eq_or_of_getElem?_set hfound with ⟨-, rfl⟩ | ⟨hne, hbefore⟩
        · exact .inl rfl
        · rcases hothers other t hbefore with hjoined | hmem
          · exact .inl hjoined
          · exact .inr (List.mem_of_ne_of_mem hne hmem)

/-- After the end of a run no step can be taken. -/
theorem run_of_isComplete (hcomplete : s.isComplete = true) (actions : List Action) :
    s.run ask actions = s := by
  have hnone : ∀ a, s.step ask a = none := by
    intro a
    cases hstep : s.step ask a with
    | none => rfl
    | some t =>
        have hjoined : ∀ (place : Nat) (t : Task), s.tasks[place]? = some t →
            t.phase.isJoined = true :=
          fun place t found => List.all_eq_true.mp hcomplete t (List.mem_of_getElem? found)
        cases move_of_step hstep with
        | acquire found => cases hjoined _ _ found
        | turnAway found => cases hjoined _ _ found
        | finish found => cases hjoined _ _ found
        | join found => cases hjoined _ _ found
  induction actions with
  | nil => rfl
  | cons a rest ih => rw [run_cons, hnone a, Option.getD_none, ih]

/-- Every run consists of steps taken one after another. -/
theorem exists_run_eq {t : State} (hrun : Relation.ReflTransGen (Step ask) s t) :
    ∃ actions, s.run ask actions = t := by
  induction hrun with
  | refl => exact ⟨[], rfl⟩
  | tail _ hlast ih =>
      obtain ⟨actions, rfl⟩ := ih
      obtain ⟨a, ha⟩ := hlast
      refine ⟨actions ++ [a], ?_⟩
      rw [run_append, run_cons, run_nil, ha, Option.getD_some]

end State

/-- With any turns a fan-out comes to its end. -/
theorem isComplete_fanOut (ask : Asking) (permits : Nat) (turns : List Action)
    (records : List MethodRecord) : (fanOut ask permits turns records).isComplete = true := by
  let start := State.initial (· + 1) permits records
  let finishes := (List.range records.length).map Action.finish
  have hturns : Counted (fun _ => ask) records (start.run ask turns) :=
    (counted_initial _ (· + 1) permits records).steps turns
  have hrest : Counted (fun _ => ask) records ((start.run ask turns).run ask finishes) :=
    hturns.steps finishes
  have hidle : ((start.run ask turns).run ask finishes).holders = 0 :=
    State.holders_of_finishes hturns.length_tasks
  have hfree : 0 < ((start.run ask turns).run ask finishes).free := by
    have hpermits : start.free + start.holders = max 1 permits := by
      rw [State.holders_initial]
      rfl
    have hafterTurns := State.permits_run ask start turns
    have hafterFinishes := State.permits_run ask (start.run ask turns) finishes
    omega
  rw [fanOut, State.remaining, State.run_append, State.run_append]
  refine State.isComplete_of_turns hrest hfree hidle ?_ ?_
  · intro place hplace
    rw [hrest.length_tasks]
    exact List.mem_range.mp hplace
  · intro place t found
    have hlt := (List.getElem?_eq_some_iff.mp found).1
    rw [hrest.length_tasks] at hlt
    exact .inr (List.mem_range.mpr hlt)

/-- Every complete run is what a fan-out with some turns comes to. -/
theorem exists_turns (ask : Asking) (permits : Nat) (records : List MethodRecord) (s : State)
    (hrun : Relation.ReflTransGen (Step ask) (State.initial (· + 1) permits records) s)
    (hcomplete : s.isComplete = true) : ∃ turns, fanOut ask permits turns records = s := by
  obtain ⟨turns, rfl⟩ := State.exists_run_eq hrun
  refine ⟨turns, ?_⟩
  rw [fanOut, State.run_append, State.run_of_isComplete hcomplete]

theorem counted_fanOut (ask : Asking) (permits : Nat) (turns : List Action)
    (records : List MethodRecord) :
    Counted (fun _ => ask) records (fanOut ask permits turns records) :=
  (counted_initial _ (· + 1) permits records).steps _

/-- With any turns a fan-out asks about every record once. -/
theorem asked_fanOut_perm (ask : Asking) (permits : Nat) (turns : List Action)
    (records : List MethodRecord) :
    (fanOut ask permits turns records).asked.Perm records :=
  (counted_fanOut ask permits turns records).asked_perm
    (isComplete_fanOut ask permits turns records)

/-- What it posts is what comes of asking about every record once. -/
theorem posted_fanOut_perm (ask : Asking) (permits : Nat) (turns : List Action)
    (records : List MethodRecord) :
    (fanOut ask permits turns records).posted.Perm (records.flatMap fun r => (ask r).posts) := by
  have hperm := (counted_fanOut ask permits turns records).posted_perm
    (isComplete_fanOut ask permits turns records)
  rwa [mapIdx_eq_map fun r => (ask r).posts] at hperm

end Analysis
end FormulaMap
