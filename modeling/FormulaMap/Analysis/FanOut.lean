import FormulaMap.Decimal.Digits
import FormulaMap.Http.Exchange
import FormulaMap.Mapping.Outcome
import FormulaMap.Record.Basic
import FormulaMap.Text.Shown

/-!
# Asking about many methods at once

Every record gets a task of its own.  A task waits for one of a fixed number of permits, holds it
while it asks, and gives it back when it has ended, whether with an outcome or by breaking down.
Ended tasks are joined one at a time, in any order; each then fills the slot of its record, so the
outcomes come in the order of the records whatever the order of the tasks.
-/

namespace FormulaMap
namespace Analysis

/-- What a task that breaks down leaves behind. -/
inductive Payload where
  | words (text : String)
  /-- Something without a text. -/
  | other
  deriving DecidableEq, Repr

/-- What a task ends with: an outcome, or what it left behind when it broke down. -/
abbrev TaskResult := Except Payload MethodOutcome

/-- What comes of asking about each record. -/
abbrev Asking := MethodRecord → Http.Posting TaskResult

/-- How far a task has come. -/
inductive Phase where
  /-- It waits for a permit. -/
  | waiting
  /-- It holds a permit and asks. -/
  | asking
  /-- It has ended. -/
  | ended (result : TaskResult)
  /-- Its result has been taken. -/
  | joined

/-- Whether the result has been taken. -/
def Phase.isJoined : Phase → Bool
  | .joined => true
  | _ => false

/-- A task: its number among all tasks there ever were, its record and how far it has come. -/
structure Task where
  id : Nat
  record : MethodRecord
  phase : Phase

/-- The state of a fan-out: the tasks, in the order of their records; the permits that are free,
and whether permits are still given out; which record each task number belongs to; the records
that have been asked about, in the order in which this began, and the posts that were handed over
meanwhile; the outcomes so far, by record and in the order in which they were taken; and the numbers
of failed tasks that belong to no record. -/
structure State where
  tasks : List Task
  free : Nat
  isOpen : Bool
  places : List (Nat × Nat)
  asked : List MethodRecord
  posted : List Http.Post
  slots : List (Option MethodOutcome)
  seen : List MethodOutcome
  untracked : List Nat

/-- One step of a fan-out, by the place of the task that takes it. -/
inductive Action where
  | acquire (place : Nat)
  | finish (place : Nat)
  | join (place : Nat)
  deriving DecidableEq

/-- The failure of a method whose task did not end with an outcome. -/
def taskFailure (name reason : String) : MethodOutcome :=
  .failed name .transport ("oracle task failed: " ++ reason) none

/-- The reason given for a task that broke down.  The text it left behind is shown between
quotes. -/
def breakdown (id : Nat) : Payload → String
  | .words text => "task " ++ Decimal.text id ++ " panicked with message " ++ Text.shown text
  | .other => "task " ++ Decimal.text id ++ " panicked"

/-- The failure of a method whose task got no permit because none are given out any more. -/
def shutDown (name : String) : MethodOutcome :=
  .failed name .transport "oracle fan-out shut down" none

/-- The greatest number of permits there can be. -/
def maxPermits : Nat := Nat.pow 2 61 - 1

namespace State

/-- The start: every record has a waiting task, and there is at least one permit. -/
def initial (ids : Nat → Nat) (permits : Nat) (records : List MethodRecord) : State where
  tasks := records.mapIdx fun place record => ⟨ids place, record, .waiting⟩
  free := max 1 permits
  isOpen := true
  places := records.mapIdx fun place _ => (ids place, place)
  asked := []
  posted := []
  slots := records.map fun _ => none
  seen := []
  untracked := []

/-- Brings a task into a phase. -/
def setPhase (s : State) (place : Nat) (phase : Phase) : State :=
  { s with tasks := s.tasks.modify place fun t => { t with phase := phase } }

/-- Takes an outcome for a record. -/
def take (s : State) (place : Nat) (outcome : MethodOutcome) : State :=
  { s with slots := s.slots.set place (some outcome), seen := s.seen ++ [outcome] }

/-- Takes the result of a task.  One that broke down is known by its number alone. -/
def takeResult (s : State) (place : Nat) (task : Task) : TaskResult → State
  | .ok outcome => s.take place outcome
  | .error payload =>
    match s.places.lookup task.id with
    | none => { s with untracked := s.untracked ++ [task.id] }
    | some home =>
      let name := ((s.tasks[home]?).map (·.record.name)).getD ""
      s.take home (taskFailure name (breakdown task.id payload))

/-- The state after a step, if the step can be taken. -/
def step (ask : Asking) (s : State) : Action → Option State
  | .acquire place =>
    match s.tasks[place]? with
    | some ⟨_, record, .waiting⟩ =>
      if s.isOpen then
        if 0 < s.free then
          some { s.setPhase place .asking with
            free := s.free - 1
            asked := s.asked ++ [record]
            posted := s.posted ++ (ask record).posts }
        else none
      else some (s.setPhase place (.ended (.ok (shutDown record.name))))
    | _ => none
  | .finish place =>
    match s.tasks[place]? with
    | some ⟨_, record, .asking⟩ =>
      some { s.setPhase place (.ended (ask record).result) with free := s.free + 1 }
    | _ => none
  | .join place =>
    match s.tasks[place]? with
    | some ⟨id, record, .ended result⟩ =>
      some ((s.setPhase place .joined).takeResult place ⟨id, record, .joined⟩ result)
    | _ => none

/-- Whether every task has been joined. -/
def isComplete (s : State) : Bool := s.tasks.all (·.phase.isJoined)

/-- The outcomes of a fan-out, one for each record. -/
def outcomes (s : State) : List MethodOutcome :=
  (s.slots.zip s.tasks).map fun (slot, task) =>
    slot.getD (taskFailure task.record.name "no result produced")

/-- The steps of one task. -/
def turn (place : Nat) : List Action := [.acquire place, .finish place, .join place]

/-- The steps of one task after another, in the order of the records. -/
def schedule (count : Nat) : List Action := (List.range count).flatMap turn

/-- Steps that bring a run to its end: the calls that are under way end, which frees all permits,
and then one task after another does what it still has to do. -/
def remaining (count : Nat) : List Action :=
  (List.range count).map .finish ++ schedule count

/-- Takes steps one after another; a step that cannot be taken is left out. -/
def run (ask : Asking) (s : State) (actions : List Action) : State :=
  actions.foldl (fun s a => (s.step ask a).getD s) s

end State

/-- Whether a step leads from one state to another. -/
def Step (ask : Asking) (s t : State) : Prop :=
  ∃ a, s.step ask a = some t

/-- Asks about all records, with a number of permits.  The order in which the tasks take their turns
may be given, as far as it matters; whatever is then still to be done follows. -/
def fanOut (ask : Asking) (permits : Nat) (turns : List Action) (records : List MethodRecord) :
    State :=
  (State.initial (· + 1) permits records).run ask (turns ++ State.remaining records.length)

end Analysis
end FormulaMap
