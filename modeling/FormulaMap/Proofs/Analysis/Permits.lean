import FormulaMap.Proofs.Analysis.Order
import FormulaMap.Proofs.Oracle.Faults

/-!
# Permits and progress

A permit is taken when a task begins to ask and given back when the task ends, also by breaking
down, so free permits and asking tasks always make up the number there was at the start.  Hence no
more tasks ask at a time than there are permits, and a fan-out in which some record has no outcome
can always take a step: a task that asks can end, and if none asks there is a permit for one that
waits.  Every step brings the end nearer, so every run can be completed.
-/

namespace FormulaMap
namespace Analysis

/-- Whether a task in this phase holds a permit and asks. -/
def Phase.isAsking : Phase → Bool
  | .asking => true
  | _ => false

/-- How many steps a task in this phase still has before it. -/
def Phase.stepsLeft : Phase → Nat
  | .waiting => 3
  | .asking => 2
  | .ended _ => 1
  | .joined => 0

/-! ## Counting over lists -/

theorem countP_set_add {α : Type} {p : α → Bool} {xs : List α} {place : Nat} {x : α} (y : α)
    (found : xs[place]? = some x) :
    (xs.set place y).countP p + (if p x then 1 else 0) =
      xs.countP p + (if p y then 1 else 0) := by
  obtain ⟨hlt, hx⟩ := List.getElem?_eq_some_iff.mp found
  rw [List.countP_set hlt, hx]
  by_cases hp : p x = true
  · have hpos : 0 < xs.countP p := List.countP_pos_iff.mpr ⟨x, List.mem_of_getElem? found, hp⟩
    rw [if_pos hp]
    omega
  · rw [if_neg hp]
    omega

/-- The sum of a measure over a list. -/
def total {α : Type} (f : α → Nat) (xs : List α) : Nat :=
  xs.foldr (fun x sum => f x + sum) 0

theorem total_set_add {α : Type} {f : α → Nat} {xs : List α} {place : Nat} {x : α} (y : α)
    (found : xs[place]? = some x) : total f (xs.set place y) + f x = total f xs + f y := by
  induction xs generalizing place with
  | nil => simp at found
  | cons head rest ih =>
      cases place with
      | zero =>
          rw [List.getElem?_cons_zero, Option.some.injEq] at found
          subst found
          simp only [total, List.set_cons_zero, List.foldr_cons]
          omega
      | succ place =>
          rw [List.getElem?_cons_succ] at found
          have hrest := ih found
          simp only [total, List.set_cons_succ, List.foldr_cons] at hrest ⊢
          omega

namespace State

/-- The number of tasks that ask; each of them holds a permit. -/
def holders (s : State) : Nat := s.tasks.countP (·.phase.isAsking)

/-- How many steps there can still be. -/
def stepsLeft (s : State) : Nat := total (·.phase.stepsLeft) s.tasks

theorem holders_setPhase {s : State} {place : Nat} {task : Task} (phase : Phase)
    (found : s.tasks[place]? = some task) :
    (s.setPhase place phase).holders + (if task.phase.isAsking then 1 else 0) =
      s.holders + (if phase.isAsking then 1 else 0) := by
  rw [holders, tasks_setPhase phase found]
  exact countP_set_add _ found

theorem stepsLeft_setPhase {s : State} {place : Nat} {task : Task} (phase : Phase)
    (found : s.tasks[place]? = some task) :
    (s.setPhase place phase).stepsLeft + task.phase.stepsLeft =
      s.stepsLeft + phase.stepsLeft := by
  rw [stepsLeft, tasks_setPhase phase found]
  exact total_set_add _ found

/-- Taking a result changes neither the tasks nor the permits. -/
theorem takeResult_frame (s : State) (place : Nat) (task : Task) (result : TaskResult) :
    (s.takeResult place task result).tasks = s.tasks ∧
      (s.takeResult place task result).free = s.free := by
  cases result with
  | ok outcome => exact ⟨rfl, rfl⟩
  | error payload =>
      simp only [takeResult]
      split
      · exact ⟨rfl, rfl⟩
      · exact ⟨rfl, rfl⟩

theorem holders_initial (ids : Nat → Nat) (permits : Nat) (records : List MethodRecord) :
    (initial ids permits records).holders = 0 := by
  rw [holders, List.countP_eq_zero]
  intro t ht
  obtain ⟨place, hlt, rfl⟩ := List.mem_mapIdx.mp ht
  simp [Phase.isAsking]

end State

/-! ## What a step does to permits and to the steps that are left -/

/-- No step loses a permit or makes one. -/
theorem Move.permits {ask : Asking} {s t : State} {a : Action} (h : Move ask s a t) :
    t.free + t.holders = s.free + s.holders := by
  cases h with
  | @acquire place _ _ found isOpen free =>
      have hcount : (s.setPhase place .asking).holders + 0 = s.holders + 1 :=
        State.holders_setPhase .asking found
      change s.free - 1 + (s.setPhase place .asking).holders = s.free + s.holders
      omega
  | @turnAway place _ record found closed =>
      exact congrArg (s.free + ·)
        (State.holders_setPhase (.ended (.ok (shutDown record.name))) found)
  | @finish place _ record found =>
      let ended : Phase := .ended (ask record).result
      have hcount : (s.setPhase place ended).holders + 1 = s.holders + 0 :=
        State.holders_setPhase ended found
      change s.free + 1 + (s.setPhase place ended).holders = s.free + s.holders
      omega
  | @join place _ _ _ found =>
      obtain ⟨htasks, hfree⟩ := State.takeResult_frame (s.setPhase place .joined) _ _ _
      rw [State.holders, htasks, hfree]
      exact congrArg (s.free + ·) (State.holders_setPhase .joined found)

/-- Every step brings the end nearer. -/
theorem Move.stepsLeft_lt {ask : Asking} {s t : State} {a : Action} (h : Move ask s a t) :
    t.stepsLeft < s.stepsLeft := by
  cases h with
  | @acquire place _ _ found isOpen free =>
      have hcount : (s.setPhase place .asking).stepsLeft + 3 = s.stepsLeft + 2 :=
        State.stepsLeft_setPhase .asking found
      change (s.setPhase place .asking).stepsLeft < s.stepsLeft
      omega
  | @turnAway place _ record found closed =>
      have hcount : (s.setPhase place _).stepsLeft + 3 = s.stepsLeft + 1 :=
        State.stepsLeft_setPhase (.ended (.ok (shutDown record.name))) found
      omega
  | @finish place _ record found =>
      let ended : Phase := .ended (ask record).result
      have hcount : (s.setPhase place ended).stepsLeft + 2 = s.stepsLeft + 1 :=
        State.stepsLeft_setPhase ended found
      change (s.setPhase place ended).stepsLeft < s.stepsLeft
      omega
  | @join place _ _ _ found =>
      have hcount : (s.setPhase place .joined).stepsLeft + 1 = s.stepsLeft + 0 :=
        State.stepsLeft_setPhase .joined found
      rw [State.stepsLeft, (State.takeResult_frame (s.setPhase place .joined) _ _ _).1]
      change (s.setPhase place .joined).stepsLeft < s.stepsLeft
      omega

/-- Throughout a run the permits are those of the start. -/
theorem permits_of_run {ask : Nat → Asking} {ids : Nat → Nat} {permits : Nat}
    {records : List MethodRecord} {s : State}
    (hrun : Relation.ReflTransGen (StepAt ask) (State.initial ids permits records) s) :
    s.free + s.holders = max 1 permits := by
  induction hrun with
  | refl => rw [State.holders_initial]; rfl
  | tail _ hlast ih =>
      obtain ⟨a, ha⟩ := hlast
      rw [(State.move_of_step ha).permits, ih]

/-! ## Progress -/

namespace State

variable {s : State} {ask : Asking} {place id : Nat} {record : MethodRecord}

theorem isSome_step_acquire (found : s.tasks[place]? = some ⟨id, record, .waiting⟩)
    (hopen : s.isOpen = true) (hfree : 0 < s.free) : (s.step ask (.acquire place)).isSome := by
  simp [step, found, hopen, hfree]

theorem isSome_step_finish (found : s.tasks[place]? = some ⟨id, record, .asking⟩) :
    (s.step ask (.finish place)).isSome := by
  simp [step, found]

theorem isSome_step_join {result : TaskResult}
    (found : s.tasks[place]? = some ⟨id, record, .ended result⟩) :
    (s.step ask (.join place)).isSome := by
  simp [step, found]

end State

namespace Followed

variable {ask : Nat → Asking} {ids : Nat → Nat} {records : List MethodRecord} {s : State}

/-- A record without an outcome has a task that was not joined. -/
theorem exists_unjoined (h : Followed ask ids records s) (hnone : none ∈ s.slots) :
    ∃ (place : Nat) (task : Task), s.tasks[place]? = some task ∧
      task.phase.isJoined = false := by
  obtain ⟨place, hplace⟩ := List.mem_iff_getElem?.mp hnone
  rw [h.slots, List.getElem?_mapIdx] at hplace
  obtain ⟨task, found, hslot⟩ := Option.map_eq_some_iff.mp hplace
  refine ⟨place, task, found, ?_⟩
  by_contra hjoined
  rw [Task.contribution, if_pos (eq_true_of_ne_false hjoined)] at hslot
  cases hslot

/-- While no task asks, one that waits gets a permit or one that has ended can be joined. -/
theorem exists_step_of_idle (h : Followed ask ids records s) (hfree : 0 < s.free)
    (hidle : s.holders = 0) (hnone : none ∈ s.slots) :
    ∃ place, (s.step (ask place) (.acquire place)).isSome ∨
      (s.step (ask place) (.join place)).isSome := by
  obtain ⟨place, ⟨id, record, phase⟩, found, hjoined⟩ := h.exists_unjoined hnone
  refine ⟨place, ?_⟩
  cases phase with
  | waiting => exact .inl (State.isSome_step_acquire found h.isOpen hfree)
  | asking =>
      have hnotAsking := List.countP_eq_zero.mp hidle _ (List.mem_of_getElem? found)
      exact absurd rfl hnotAsking
  | ended result => exact .inr (State.isSome_step_join found)
  | joined => cases hjoined

/-- A fan-out that has permits is not stuck as long as some record has no outcome. -/
theorem exists_step (h : Followed ask ids records s) (hpermits : 0 < s.free + s.holders)
    (hnone : none ∈ s.slots) : ∃ t, StepAt ask s t := by
  by_cases hidle : s.holders = 0
  · obtain ⟨place, hacquire | hjoin⟩ := h.exists_step_of_idle (by omega) hidle hnone
    · obtain ⟨t, ht⟩ := Option.isSome_iff_exists.mp hacquire
      exact ⟨t, .acquire place, ht⟩
    · obtain ⟨t, ht⟩ := Option.isSome_iff_exists.mp hjoin
      exact ⟨t, .join place, ht⟩
  · obtain ⟨⟨id, record, phase⟩, hmem, hasking⟩ :=
      List.countP_pos_iff.mp (Nat.pos_of_ne_zero hidle)
    obtain ⟨place, found⟩ := List.mem_iff_getElem?.mp hmem
    cases phase with
    | asking =>
        have hfinish : (s.step (ask place) (.finish place)).isSome :=
          State.isSome_step_finish found
        obtain ⟨t, ht⟩ := Option.isSome_iff_exists.mp hfinish
        exact ⟨t, .finish place, ht⟩
    | waiting => cases hasking
    | ended result => cases hasking
    | joined => cases hasking

/-- From every moment on a run can be completed. -/
theorem exists_complete (h : Followed ask ids records s)
    (hdistinct : DistinctBelow records.length ids) (hpermits : 0 < s.free + s.holders) :
    ∃ t, Relation.ReflTransGen (StepAt ask) s t ∧ t.isComplete = true := by
  -- by the number of steps that are left
  induction hsteps : s.stepsLeft using Nat.strongRecOn generalizing s with
  | _ n ih =>
      by_cases hcomplete : s.isComplete = true
      · exact ⟨s, .refl, hcomplete⟩
      · obtain ⟨task, hmem, hjoined⟩ := List.all_eq_false.mp (eq_false_of_ne_true hcomplete)
        obtain ⟨place, found⟩ := List.mem_iff_getElem?.mp hmem
        have hnone : none ∈ s.slots :=
          List.mem_of_getElem? (h.slot_eq_none found (eq_false_of_ne_true hjoined))
        obtain ⟨next, hstep⟩ := h.exists_step hpermits hnone
        obtain ⟨a, ha⟩ := hstep
        have hmove := State.move_of_step ha
        obtain ⟨t, hrun, ht⟩ := ih next.stepsLeft (hsteps ▸ hmove.stepsLeft_lt)
          (h.step hdistinct ⟨a, ha⟩) (hmove.permits ▸ hpermits) rfl
        exact ⟨t, .head ⟨a, ha⟩ hrun, ht⟩

/-! ## What the outcomes can be -/

/-- What is in a slot is what the record comes to. -/
theorem exists_settled_of_mem_slots (h : Followed ask ids records s) {outcome : MethodOutcome}
    (hmem : some outcome ∈ s.slots) :
    ∃ (place : Nat) (task : Task), s.tasks[place]? = some task ∧
      outcome = settled task.id task.record (ask place task.record).result := by
  obtain ⟨place, hplace⟩ := List.mem_iff_getElem?.mp hmem
  rw [h.slots, List.getElem?_mapIdx] at hplace
  obtain ⟨task, found, hslot⟩ := Option.map_eq_some_iff.mp hplace
  refine ⟨place, task, found, ?_⟩
  rw [Task.contribution] at hslot
  split at hslot
  · exact (Option.some.inj hslot).symm
  · cases hslot

end Followed

/-- A record comes to a failure of transport by a fault of its call or by breaking down. -/
theorem settled_askAt_eq_transport {a : Analyzer}
    {answers : Nat → Http.Posting (Except Payload Oracle.Answer)} {place id : Nat}
    {record : MethodRecord} {name error : String} {raw : Option String}
    (h : settled id record (a.askAt answers place record).result =
      .failed name .transport error raw) :
    (∃ fault : Oracle.CallFault, error = fault.message) ∨
      ∃ payload, error = "oracle task failed: " ++ breakdown id payload := by
  cases hanswer : (answers place).result with
  | error payload =>
      rw [settled_askAt_of_error hanswer, taskFailure, MethodOutcome.failed,
        MethodOutcome.failed, MethodOutcome.mk.injEq, Outcome.failed.injEq] at h
      exact .inr ⟨payload, h.2.2.1.symm⟩
  | ok answer =>
      rw [settled_askAt_of_ok hanswer] at h
      obtain ⟨fault, -, herror⟩ := Oracle.outcomeOf_eq_transport h
      exact .inl ⟨fault, herror⟩

/-- No record comes to the failure of a task that got no permit. -/
theorem settled_askAt_ne_shutDown (a : Analyzer)
    (answers : Nat → Http.Posting (Except Payload Oracle.Answer)) (place id : Nat)
    (record : MethodRecord) (name : String) :
    settled id record (a.askAt answers place record).result ≠ shutDown name := by
  intro h
  rcases settled_askAt_eq_transport h with ⟨fault, herror⟩ | ⟨payload, herror⟩
  · apply Oracle.head?_message_ne fault
    rw [← herror]
    simp
  · have hchars := congrArg String.toList herror
    simp [String.toList_append] at hchars

/-- No record comes to the failure of a record without outcome. -/
theorem settled_askAt_ne_noResult (a : Analyzer)
    (answers : Nat → Http.Posting (Except Payload Oracle.Answer)) (place id : Nat)
    (record : MethodRecord) (name : String) :
    settled id record (a.askAt answers place record).result ≠
      taskFailure name "no result produced" := by
  intro h
  rcases settled_askAt_eq_transport h with ⟨fault, herror⟩ | ⟨payload, herror⟩
  · apply Oracle.head?_message_ne fault
    rw [← herror]
    simp
  · have hchars := congrArg String.toList herror
    cases payload with
    | words text => simp [breakdown, String.toList_append] at hchars
    | other => simp [breakdown, String.toList_append] at hchars

/-- In every reachable state of a fan-out, whatever its calls come to and whatever the order of the
steps, no more tasks ask than there are permits, and free permits and asking tasks make up all of
them.  As long as some record has no outcome a step can be taken, one other than the end of a call
if no call is under way; each step brings the end nearer, and the run can be completed.  No task
is turned away, no record is left without outcome and no broken task without record. -/
theorem reachable_permits_and_progress (a : Analyzer)
    (answers : Nat → Http.Posting (Except Payload Oracle.Answer)) (records : List MethodRecord)
    (ids : Nat → Nat) (s : State) (hids : DistinctBelow records.length ids)
    (hrun : Relation.ReflTransGen (StepAt (a.askAt answers))
      (State.initial ids a.concurrency records) s) :
    s.holders ≤ max 1 a.concurrency ∧
    s.free + s.holders = max 1 a.concurrency ∧
    (none ∈ s.slots →
      (∃ t, StepAt (a.askAt answers) s t) ∧
      (s.holders = 0 → ∃ place,
        (s.step (a.askAt answers place) (.acquire place)).isSome ∨
        (s.step (a.askAt answers place) (.join place)).isSome)) ∧
    (∀ t, StepAt (a.askAt answers) s t → t.stepsLeft < s.stepsLeft) ∧
    (∃ t, Relation.ReflTransGen (StepAt (a.askAt answers)) s t ∧ t.isComplete = true) ∧
    s.isOpen = true ∧
    (∀ name, shutDown name ∉ s.seen ∧ some (shutDown name) ∉ s.slots ∧
      ∀ t ∈ s.tasks, t.phase ≠ .ended (.ok (shutDown name))) ∧
    (s.isComplete = true →
      none ∉ s.slots ∧ ∀ name, taskFailure name "no result produced" ∉ s.outcomes) ∧
    s.untracked = [] := by
  have hfollowed := (followed_initial (a.askAt answers) ids a.concurrency records).run hids hrun
  have hpermits := permits_of_run hrun
  have hpositive : 0 < s.free + s.holders := by omega
  have hslot : ∀ name, some (shutDown name) ∉ s.slots := by
    intro name hmem
    obtain ⟨place, task, -, heq⟩ := hfollowed.exists_settled_of_mem_slots hmem
    exact settled_askAt_ne_shutDown a answers place task.id task.record name heq.symm
  refine ⟨by omega, hpermits, ?_, ?_, hfollowed.exists_complete hids hpositive,
    hfollowed.isOpen, ?_, ?_, hfollowed.untracked⟩
  · intro hnone
    refine ⟨hfollowed.exists_step hpositive hnone, ?_⟩
    intro hidle
    exact hfollowed.exists_step_of_idle (by omega) hidle hnone
  · rintro t ⟨action, haction⟩
    exact (State.move_of_step haction).stepsLeft_lt
  · intro name
    refine ⟨?_, hslot name, ?_⟩
    · intro hseen
      have hmem := hfollowed.seen.mem_iff.mp hseen
      rw [List.mem_filterMap] at hmem
      obtain ⟨slot, hin, hsome⟩ := hmem
      rw [id] at hsome
      exact hslot name (hsome ▸ hin)
    · intro t ht hphase
      obtain ⟨place, found⟩ := List.mem_iff_getElem?.mp ht
      apply settled_askAt_ne_shutDown a answers place t.id t.record name
      rw [← hfollowed.ended place t _ found hphase]
      rfl
  · intro hcomplete
    constructor
    · rw [hfollowed.slots_of_complete hcomplete]
      intro hnone
      obtain ⟨place, hlt, heq⟩ := List.mem_mapIdx.mp hnone
      cases heq
    · intro name
      rw [hfollowed.outcomes_of_complete hcomplete]
      intro hmem
      obtain ⟨place, hlt, heq⟩ := List.mem_mapIdx.mp hmem
      exact settled_askAt_ne_noResult a answers place _ _ name heq

/-- A call that breaks down while it holds the only permit leaves it to the next call. -/
theorem permits_after_breakdown :
    let record : MethodRecord :=
      ⟨"area", "A = 2 * r", NameSet.empty, NameSet.empty, "double area() \x7b\x7d", 1⟩
    let a : Analyzer := ⟨⟨.numericTyped, false⟩, ⟨"model", .nan, .strip⟩, 0⟩
    let answers : Nat → Http.Posting (Except Payload Oracle.Answer) := fun place =>
      pure (if place = 0 then .error (.words "index out of range") else .ok (.ok "\x7b\x7d"))
    let s := (State.initial (· + 1) a.concurrency [record, record]).runAt (a.askAt answers)
      [.acquire 0, .finish 0, .acquire 1]
    DistinctBelow 2 (· + 1) ∧
      Relation.ReflTransGen (StepAt (a.askAt answers))
        (State.initial (· + 1) a.concurrency [record, record]) s ∧
      s.holders = 1 ∧ s.free + s.holders = 1 ∧ none ∈ s.slots ∧
      (∃ t, StepAt (a.askAt answers) s t) ∧ s.untracked = [] := by
  intro record a answers s
  have hids : DistinctBelow 2 (· + 1) := by
    intro i hi j hj heq
    dsimp only at heq
    omega
  have hrun : Relation.ReflTransGen (StepAt (a.askAt answers))
      (State.initial (· + 1) a.concurrency [record, record]) s :=
    State.reaches_runAt (a.askAt answers) _ _
  have hnone : none ∈ s.slots := by decide
  obtain ⟨-, hpermits, hprogress, -, -, -, -, -, huntracked⟩ :=
    reachable_permits_and_progress a answers [record, record] (· + 1) s hids hrun
  exact ⟨hids, hrun, by decide, hpermits, hnone, (hprogress hnone).1, huntracked⟩

end Analysis
end FormulaMap
