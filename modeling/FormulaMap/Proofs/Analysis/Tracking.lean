import FormulaMap.Analysis.FanOut
import Mathlib.Data.List.Basic
import Mathlib.Logic.Relation

/-!
# Tasks are tracked through a fan-out

Whatever steps a fan-out takes, in whatever order, its tasks keep their numbers and records, a
task that has ended did so with what comes of asking about its record, and the slots are filled
exactly for the tasks that were joined.  A task that broke down is known by its number alone; its
record is found because the numbers of the tasks are distinct.

What comes of asking is given for each place, so that calls about equal records may end in
different ways; a backend that answers equal requests alike is the case in which all places agree.
-/

namespace FormulaMap
namespace Analysis

/-- The outcome that the result of a task stands for. -/
def settled (id : Nat) (record : MethodRecord) : TaskResult → MethodOutcome
  | .ok outcome => outcome
  | .error payload => taskFailure record.name (breakdown id payload)

/-- What the slot of a task's record holds: something as soon as the task was joined. -/
def Task.contribution (ask : Asking) (t : Task) : Option MethodOutcome :=
  if t.phase.isJoined then some (settled t.id t.record (ask t.record).result) else none

/-- All that a step can do. -/
inductive Move (ask : Asking) (s : State) : Action → State → Prop where
  | acquire {place id : Nat} {record : MethodRecord}
      (found : s.tasks[place]? = some ⟨id, record, .waiting⟩)
      (isOpen : s.isOpen = true) (free : 0 < s.free) :
      Move ask s (.acquire place)
        { s.setPhase place .asking with
          free := s.free - 1
          asked := s.asked ++ [record]
          posted := s.posted ++ (ask record).posts }
  | turnAway {place id : Nat} {record : MethodRecord}
      (found : s.tasks[place]? = some ⟨id, record, .waiting⟩) (closed : s.isOpen = false) :
      Move ask s (.acquire place) (s.setPhase place (.ended (.ok (shutDown record.name))))
  | finish {place id : Nat} {record : MethodRecord}
      (found : s.tasks[place]? = some ⟨id, record, .asking⟩) :
      Move ask s (.finish place)
        { s.setPhase place (.ended (ask record).result) with free := s.free + 1 }
  | join {place id : Nat} {record : MethodRecord} {result : TaskResult}
      (found : s.tasks[place]? = some ⟨id, record, .ended result⟩) :
      Move ask s (.join place)
        ((s.setPhase place .joined).takeResult place ⟨id, record, .joined⟩ result)

theorem State.move_of_step {ask : Asking} {s t : State} {a : Action} (h : s.step ask a = some t) :
    Move ask s a t := by
  cases a with
  | acquire place =>
      simp only [State.step] at h
      split at h
      · next id record found =>
          by_cases hopen : s.isOpen = true
          · rw [if_pos hopen] at h
            by_cases hfree : 0 < s.free
            · rw [if_pos hfree] at h
              cases h
              exact .acquire found hopen hfree
            · rw [if_neg hfree] at h
              cases h
          · rw [if_neg hopen] at h
            cases h
            exact .turnAway found (eq_false_of_ne_true hopen)
      · cases h
  | finish place =>
      simp only [State.step] at h
      split at h
      · next id record found =>
          cases h
          exact .finish found
      · cases h
  | join place =>
      simp only [State.step] at h
      split at h
      · next id record result found =>
          cases h
          exact .join found
      · cases h

/-! ## Lists by place -/

theorem map_mapIdx {α β γ : Type} (f : Nat → α → β) (g : β → γ) (xs : List α) :
    (xs.mapIdx f).map g = xs.mapIdx fun place x => g (f place x) := by
  apply List.ext_getElem?
  intro place
  rw [List.getElem?_map, List.getElem?_mapIdx, List.getElem?_mapIdx, Option.map_map]
  rfl

/-- What does not depend on the place is the same as without places. -/
theorem mapIdx_eq_map {α β : Type} (f : α → β) (xs : List α) :
    (xs.mapIdx fun _ x => f x) = xs.map f := by
  apply List.ext_getElem?
  intro place
  rw [List.getElem?_mapIdx, List.getElem?_map]

/-- Writing again what stands at a place changes nothing. -/
theorem set_same {α : Type} {xs : List α} {place : Nat} {x : α}
    (found : xs[place]? = some x) : xs.set place x = xs := by
  obtain ⟨hlt, rfl⟩ := List.getElem?_eq_some_iff.mp found
  exact List.set_getElem_self hlt

/-- Filling an empty place adds its entry to those that are there. -/
theorem filterMap_set_perm {α : Type} {xs : List (Option α)} {place : Nat} {x : α}
    (found : xs[place]? = some none) :
    ((xs.set place (some x)).filterMap id).Perm (x :: xs.filterMap id) := by
  induction xs generalizing place with
  | nil => simp at found
  | cons head rest ih =>
      cases place with
      | zero =>
          rw [List.getElem?_cons_zero, Option.some.injEq] at found
          subst found
          simp
      | succ place =>
          rw [List.getElem?_cons_succ] at found
          cases head with
          | none => simpa using ih found
          | some first =>
              have hswap := (ih found).cons first
              simpa using hswap.trans (List.Perm.swap x first _)

/-- The numbers of the first places differ from each other. -/
def DistinctBelow (count : Nat) (f : Nat → Nat) : Prop :=
  ∀ i < count, ∀ j < count, f i = f j → i = j

/-- With distinct numbers each number leads back to its own place. -/
theorem lookup_mapIdx {α : Type} {xs : List α} {f g : Nat → Nat} {place : Nat}
    (hplace : place < xs.length) (hdistinct : DistinctBelow xs.length f) :
    (xs.mapIdx fun i _ => (f i, g i)).lookup (f place) = some (g place) := by
  induction xs generalizing f g place with
  | nil => simp at hplace
  | cons x rest ih =>
      rw [List.mapIdx_cons]
      cases place with
      | zero => simp
      | succ place =>
          have hne : f (place + 1) ≠ f 0 := by
            intro heq
            have := hdistinct (place + 1) hplace 0 (by simp) heq
            omega
          rw [List.lookup_cons, beq_false_of_ne hne]
          apply ih (f := fun i => f (i + 1)) (g := fun i => g (i + 1))
            (Nat.lt_of_succ_lt_succ hplace)
          intro i hi j hj heq
          have := hdistinct (i + 1) (by simpa using hi) (j + 1) (by simpa using hj) heq
          omega

/-! ## Bringing a task into a phase -/

namespace State

theorem tasks_setPhase {s : State} {place : Nat} {task : Task} (phase : Phase)
    (found : s.tasks[place]? = some task) :
    (s.setPhase place phase).tasks = s.tasks.set place { task with phase := phase } := by
  rw [setPhase, List.modify_eq_set_getElem?, found]
  rfl

/-- Afterwards a task is the one in the new phase or an old one at its place. -/
theorem eq_or_of_tasks_setPhase {s : State} {place other : Nat} {task t : Task} {phase : Phase}
    (found : s.tasks[place]? = some task)
    (h : (s.setPhase place phase).tasks[other]? = some t) :
    (other = place ∧ t = { task with phase := phase }) ∨ s.tasks[other]? = some t := by
  rw [tasks_setPhase phase found] at h
  by_cases hsame : place = other
  · subst hsame
    rw [List.getElem?_set_self (List.getElem?_eq_some_iff.mp found).1] at h
    exact .inl ⟨rfl, (Option.some.inj h).symm⟩
  · rw [List.getElem?_set_ne hsame] at h
    exact .inr h

/-- What does not depend on the phase is the same in every phase. -/
theorem map_setPhase {α : Type} {s : State} {place : Nat} {task : Task} {phase : Phase}
    {f : Task → α} (found : s.tasks[place]? = some task)
    (hf : f { task with phase := phase } = f task) :
    (s.setPhase place phase).tasks.map f = s.tasks.map f := by
  rw [tasks_setPhase phase found, List.map_set, hf]
  apply set_same
  rw [List.getElem?_map, found]
  rfl

/-- What depends on the place and not on the phase is the same in every phase. -/
theorem mapIdx_setPhase {α : Type} {s : State} {place : Nat} {task : Task} {phase : Phase}
    {f : Nat → Task → α} (found : s.tasks[place]? = some task)
    (hf : f place { task with phase := phase } = f place task) :
    (s.setPhase place phase).tasks.mapIdx f = s.tasks.mapIdx f := by
  rw [tasks_setPhase phase found, List.mapIdx_set, hf]
  apply set_same
  rw [List.getElem?_mapIdx, found]
  rfl

end State

/-! ## Runs whose calls are given by place -/

/-- The place of the task that takes a step. -/
def Action.place : Action → Nat
  | .acquire place => place
  | .finish place => place
  | .join place => place

/-- Whether a step leads from one state to another, given what comes of asking about the record at
each place. -/
def StepAt (ask : Nat → Asking) (s t : State) : Prop :=
  ∃ a, s.step (ask a.place) a = some t

/-- What holds of a fan-out at every moment. -/
structure Followed (ask : Nat → Asking) (ids : Nat → Nat) (records : List MethodRecord)
    (s : State) : Prop where
  tasks : s.tasks.map (fun t => (t.id, t.record)) =
    records.mapIdx fun place record => (ids place, record)
  isOpen : s.isOpen = true
  places : s.places = records.mapIdx fun place _ => (ids place, place)
  ended : ∀ place t result, s.tasks[place]? = some t → t.phase = .ended result →
    result = (ask place t.record).result
  slots : s.slots = s.tasks.mapIdx fun place t => t.contribution (ask place)
  seen : s.seen.Perm (s.slots.filterMap id)
  untracked : s.untracked = []

theorem followed_initial (ask : Nat → Asking) (ids : Nat → Nat) (permits : Nat)
    (records : List MethodRecord) :
    Followed ask ids records (State.initial ids permits records) where
  tasks := map_mapIdx _ _ _
  isOpen := rfl
  places := rfl
  ended := by
    intro place t result found hphase
    rw [State.initial, List.getElem?_mapIdx] at found
    obtain ⟨record, -, rfl⟩ := Option.map_eq_some_iff.mp found
    cases hphase
  slots := by
    apply List.ext_getElem?
    intro place
    rw [State.initial, List.getElem?_map, List.getElem?_mapIdx, List.getElem?_mapIdx,
      Option.map_map]
    rfl
  seen := by
    simp [State.initial]
  untracked := rfl

namespace Followed

variable {ask : Nat → Asking} {ids : Nat → Nat} {records : List MethodRecord} {s : State}

/-- The task at a place has the number and the record of that place. -/
theorem task_eq (h : Followed ask ids records s) {place : Nat} {task : Task}
    (found : s.tasks[place]? = some task) :
    records[place]? = some task.record ∧ task.id = ids place := by
  have hpair : (s.tasks.map fun t => (t.id, t.record))[place]? =
      some (task.id, task.record) := by
    rw [List.getElem?_map, found]
    rfl
  rw [h.tasks, List.getElem?_mapIdx] at hpair
  obtain ⟨record, hrecord, heq⟩ := Option.map_eq_some_iff.mp hpair
  rw [Prod.mk.injEq] at heq
  rw [hrecord, heq.2]
  exact ⟨rfl, heq.1.symm⟩

/-- A phase that fills no slot, and ends a task only with what comes of its record, keeps the
invariant. -/
theorem setPhase (h : Followed ask ids records s) {place : Nat} {task : Task} {phase : Phase}
    (found : s.tasks[place]? = some task)
    (hended : ∀ result, phase = .ended result → result = (ask place task.record).result)
    (hslot : Task.contribution (ask place) { task with phase := phase } =
      task.contribution (ask place)) :
    Followed ask ids records (s.setPhase place phase) where
  tasks := by
    rw [← h.tasks]
    exact State.map_setPhase found rfl
  isOpen := h.isOpen
  places := h.places
  ended := by
    intro other t result hother hphase
    rcases State.eq_or_of_tasks_setPhase found hother with ⟨rfl, rfl⟩ | hold
    · exact hended result hphase
    · exact h.ended other t result hold hphase
  slots := h.slots.trans (State.mapIdx_setPhase found hslot).symm
  seen := h.seen
  untracked := h.untracked

/-- Until a task is joined nothing has been put into its slot. -/
theorem slot_eq_none (h : Followed ask ids records s) {place : Nat} {task : Task}
    (found : s.tasks[place]? = some task) (hphase : task.phase.isJoined = false) :
    s.slots[place]? = some none := by
  rw [h.slots, List.getElem?_mapIdx, found, Option.map_some, Task.contribution, hphase]
  rfl

/-- The result of a task is taken for its own record, also if the task broke down. -/
theorem takeResult_eq (h : Followed ask ids records s)
    (hdistinct : DistinctBelow records.length ids)
    {place id : Nat} {record : MethodRecord} {result : TaskResult}
    (found : s.tasks[place]? = some ⟨id, record, .ended result⟩) :
    (s.setPhase place .joined).takeResult place ⟨id, record, .joined⟩ result =
      (s.setPhase place .joined).take place (settled id record result) := by
  cases result with
  | ok outcome => rfl
  | error payload =>
      obtain ⟨hrecord, hid⟩ := h.task_eq found
      have hlt : place < records.length := (List.getElem?_eq_some_iff.mp hrecord).1
      have hhome : (s.setPhase place .joined).places.lookup id = some place := by
        change s.places.lookup id = some place
        rw [h.places, show id = ids place from hid]
        exact lookup_mapIdx (g := fun i => i) hlt hdistinct
      have htask : (s.setPhase place .joined).tasks[place]? =
          some ⟨id, record, .joined⟩ := by
        have hbound : place < s.tasks.length := (List.getElem?_eq_some_iff.mp found).1
        rw [State.tasks_setPhase .joined found, List.getElem?_set_self hbound]
      simp only [State.takeResult, hhome, htask]
      rfl

/-- Joining a task fills its slot with what its record comes to. -/
theorem join (h : Followed ask ids records s) {place id : Nat} {record : MethodRecord}
    {result : TaskResult} (found : s.tasks[place]? = some ⟨id, record, .ended result⟩) :
    Followed ask ids records
      ((s.setPhase place .joined).take place (settled id record result)) where
  tasks := by
    rw [← h.tasks]
    exact State.map_setPhase found rfl
  isOpen := h.isOpen
  places := h.places
  ended := by
    intro other t result' hother hphase
    rcases State.eq_or_of_tasks_setPhase found hother with ⟨rfl, rfl⟩ | hold
    · cases hphase
    · exact h.ended other t result' hold hphase
  slots := by
    have hresult : result = (ask place record).result := h.ended place _ result found rfl
    change s.slots.set place _ = (s.setPhase place .joined).tasks.mapIdx _
    rw [State.tasks_setPhase .joined found, List.mapIdx_set, h.slots, hresult]
    rfl
  seen := by
    have hfill := filterMap_set_perm (x := settled id record result)
      (h.slot_eq_none found rfl)
    exact ((List.perm_append_singleton _ _).trans (h.seen.cons _)).trans hfill.symm
  untracked := h.untracked

/-- One step keeps the invariant. -/
theorem step {t : State} (h : Followed ask ids records s)
    (hdistinct : DistinctBelow records.length ids) (hstep : StepAt ask s t) :
    Followed ask ids records t := by
  obtain ⟨a, ha⟩ := hstep
  cases State.move_of_step ha with
  | acquire found isOpen free =>
      have hkept : Followed ask ids records (s.setPhase _ .asking) :=
        h.setPhase found (by simp) rfl
      exact { hkept with }
  | turnAway found closed =>
      rw [h.isOpen] at closed
      cases closed
  | finish found =>
      have hkept : Followed ask ids records (s.setPhase _ (.ended (ask _ _).result)) :=
        h.setPhase found (fun result heq => (Phase.ended.inj heq).symm) rfl
      exact { hkept with }
  | join found =>
      rw [h.takeResult_eq hdistinct found]
      exact h.join found

/-- So does a run of any length. -/
theorem run {t : State} (h : Followed ask ids records s)
    (hdistinct : DistinctBelow records.length ids)
    (hrun : Relation.ReflTransGen (StepAt ask) s t) : Followed ask ids records t := by
  induction hrun with
  | refl => exact h
  | tail _ hlast ih => exact ih.step hdistinct hlast

end Followed

/-! ## Runs in which equal records come to the same -/

/-- What holds of a fan-out at every moment. -/
structure Tracked (ask : Asking) (ids : Nat → Nat) (records : List MethodRecord) (s : State) :
    Prop where
  tasks : s.tasks.map (fun t => (t.id, t.record)) =
    records.mapIdx fun place record => (ids place, record)
  isOpen : s.isOpen = true
  places : s.places = records.mapIdx fun place _ => (ids place, place)
  ended : ∀ t ∈ s.tasks, ∀ result, t.phase = .ended result → result = (ask t.record).result
  slots : s.slots = s.tasks.map (Task.contribution ask)
  seen : s.seen.Perm (s.slots.filterMap id)
  untracked : s.untracked = []

/-- It is the invariant of a run whose calls are the same at every place. -/
theorem followed_iff_tracked {ask : Asking} {ids : Nat → Nat} {records : List MethodRecord}
    {s : State} :
    Followed (fun _ => ask) ids records s ↔ Tracked ask ids records s := by
  have hslots : (s.tasks.mapIdx fun _ t => t.contribution ask) =
      s.tasks.map (Task.contribution ask) := mapIdx_eq_map _ _
  constructor
  · intro h
    refine ⟨h.tasks, h.isOpen, h.places, ?_, h.slots.trans hslots, h.seen, h.untracked⟩
    intro t ht result hphase
    obtain ⟨place, found⟩ := List.mem_iff_getElem?.mp ht
    exact h.ended place t result found hphase
  · intro h
    refine ⟨h.tasks, h.isOpen, h.places, ?_, h.slots.trans hslots.symm, h.seen, h.untracked⟩
    intro place t result found hphase
    exact h.ended t (List.mem_of_getElem? found) result hphase

theorem tracked_initial (ask : Asking) (ids : Nat → Nat) (permits : Nat)
    (records : List MethodRecord) :
    Tracked ask ids records (State.initial ids permits records) :=
  followed_iff_tracked.mp (followed_initial _ ids permits records)

/-- A run of any length keeps the invariant. -/
theorem Tracked.run {ask : Asking} {ids : Nat → Nat} {records : List MethodRecord} {s t : State}
    (h : Tracked ask ids records s)
    (hdistinct : DistinctBelow records.length ids)
    (hrun : Relation.ReflTransGen (Step ask) s t) : Tracked ask ids records t :=
  followed_iff_tracked.mp ((followed_iff_tracked.mpr h).run hdistinct hrun)

/-- Takes steps one after another, given what comes of asking at each place; a step that cannot be
taken is left out. -/
def State.runAt (ask : Nat → Asking) (s : State) (actions : List Action) : State :=
  actions.foldl (fun s a => (s.step (ask a.place) a).getD s) s

/-- Taking steps one after another is a run. -/
theorem State.reaches_runAt (ask : Nat → Asking) (s : State) (actions : List Action) :
    Relation.ReflTransGen (StepAt ask) s (s.runAt ask actions) := by
  induction actions generalizing s with
  | nil => exact .refl
  | cons a rest ih =>
      cases hstep : s.step (ask a.place) a with
      | none =>
          simpa [runAt, hstep] using ih s
      | some t =>
          have hrest := ih t
          rw [runAt, List.foldl_cons, hstep]
          exact .head ⟨a, hstep⟩ hrest

theorem State.reaches_run (ask : Asking) (s : State) (actions : List Action) :
    Relation.ReflTransGen (Step ask) s (s.run ask actions) :=
  s.reaches_runAt (fun _ => ask) actions

end Analysis
end FormulaMap
