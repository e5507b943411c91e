import FormulaMap.Analysis.Analyzer
import FormulaMap.Proofs.Analysis.Tracking
import Mathlib.Data.List.Forall2

/-!
# Outcomes follow the records

However the tasks of a fan-out take turns, a run in which all of them were joined gives the outcome
of every record in the place of that record, and nothing else decides it than the record and the
answer to its request.  Only the number of a task that broke down shows in its outcome.
-/

namespace FormulaMap
namespace Analysis

/-- Answering requests by a backend that breaks down on some of them, whatever it posts. -/
def answering (backend : Oracle.Request → Http.Posting Oracle.Answer)
    (breaks : Oracle.Request → Option Payload) (request : Oracle.Request) :
    Http.Posting (Except Payload Oracle.Answer) := do
  let answer ← backend request
  match breaks request with
  | some payload => pure (.error payload)
  | none => pure (.ok answer)

/-- Asking with an answer for each place, so that equal requests may be answered differently. -/
def Analyzer.askAt (a : Analyzer) (answers : Nat → Http.Posting (Except Payload Oracle.Answer))
    (place : Nat) : Asking :=
  a.ask fun _ => answers place

/-- Two outcomes are equal but for the numbers of tasks that broke down. -/
def AlikeButForNumbers (a b : MethodOutcome) : Prop :=
  a = b ∨ ∃ name payload n n',
    a = taskFailure name (breakdown n payload) ∧ b = taskFailure name (breakdown n' payload)

theorem settled_alike (n n' : Nat) (record : MethodRecord) (result : TaskResult) :
    AlikeButForNumbers (settled n record result) (settled n' record result) := by
  cases result with
  | ok outcome => exact Or.inl rfl
  | error payload => exact Or.inr ⟨record.name, payload, n, n', rfl, rfl⟩

/-- What comes of a record is the outcome of its call, or a failure that names the breakdown. -/
theorem settled_ask (a : Analyzer) (backend : Oracle.Request → Http.Posting Oracle.Answer)
    (breaks : Oracle.Request → Option Payload) (id : Nat) (record : MethodRecord) :
    settled id record (a.ask (answering backend breaks) record).result =
      match breaks (a.client.requestFor record) with
      | none => a.client.mapFormula (fun r => (backend r).result) record
      | some payload =>
        .failed record.name .transport ("oracle task failed: " ++ breakdown id payload) none := by
  unfold Analyzer.ask answering
  simp only [Http.Posting.result_bind]
  cases breaks (a.client.requestFor record) with
  | none => rfl
  | some payload => rfl

/-- A record whose call is answered comes to what the answer gives. -/
theorem settled_askAt_of_ok {a : Analyzer}
    {answers : Nat → Http.Posting (Except Payload Oracle.Answer)} {place id : Nat}
    {record : MethodRecord} {answer : Oracle.Answer} (h : (answers place).result = .ok answer) :
    settled id record (a.askAt answers place record).result =
      Oracle.outcomeOf a.client.contract record answer := by
  rw [Analyzer.askAt, Analyzer.ask, Http.Posting.result_bind, h]
  rfl

theorem settled_askAt_of_error {a : Analyzer}
    {answers : Nat → Http.Posting (Except Payload Oracle.Answer)} {place id : Nat}
    {record : MethodRecord} {payload : Payload} (h : (answers place).result = .error payload) :
    settled id record (a.askAt answers place record).result =
      taskFailure record.name (breakdown id payload) := by
  rw [Analyzer.askAt, Analyzer.ask, Http.Posting.result_bind, h]
  rfl

/-- A list that is made from another by place, beside that other. -/
theorem zip_mapIdx {α β : Type} (f : Nat → α → β) (xs : List α) :
    (xs.mapIdx f).zip xs = xs.mapIdx fun place x => (f place x, x) := by
  apply List.ext_getElem
  · simp
  · intro place _ _
    simp

namespace Followed

variable {ask : Nat → Asking} {ids : Nat → Nat} {records : List MethodRecord} {s : State}

/-- Once all tasks are joined every slot is filled. -/
theorem slots_of_complete (h : Followed ask ids records s) (hcomplete : s.isComplete = true) :
    s.slots = s.tasks.mapIdx fun place t =>
      some (settled t.id t.record (ask place t.record).result) := by
  rw [h.slots]
  apply List.ext_getElem?
  intro place
  rw [List.getElem?_mapIdx, List.getElem?_mapIdx]
  apply Option.map_congr
  intro t ht
  have hjoined : t.phase.isJoined = true :=
    List.all_eq_true.mp hcomplete t (List.mem_of_getElem? ht)
  simp [Task.contribution, hjoined]

theorem outcomes_of_complete (h : Followed ask ids records s)
    (hcomplete : s.isComplete = true) :
    s.outcomes =
      s.tasks.mapIdx fun place t => settled t.id t.record (ask place t.record).result := by
  rw [State.outcomes, h.slots_of_complete hcomplete, zip_mapIdx, map_mapIdx]
  rfl

/-- The outcomes of a complete run stand in the order of the records. -/
theorem outcomes_eq_mapIdx (h : Followed ask ids records s)
    (hcomplete : s.isComplete = true) :
    s.outcomes =
      records.mapIdx fun place record => settled (ids place) record (ask place record).result := by
  calc
    s.outcomes = (s.tasks.map fun t => (t.id, t.record)).mapIdx
        fun place p => settled p.1 p.2 (ask place p.2).result := by
      rw [h.outcomes_of_complete hcomplete]
      apply List.ext_getElem?
      intro place
      rw [List.getElem?_mapIdx, List.getElem?_mapIdx, List.getElem?_map, Option.map_map]
      rfl
    _ = _ := by
      rw [h.tasks, List.mapIdx_mapIdx]
      rfl

/-- Each outcome of a complete run was taken once. -/
theorem seen_perm_outcomes (h : Followed ask ids records s) (hcomplete : s.isComplete = true) :
    s.seen.Perm s.outcomes := by
  have hslots : s.slots = s.outcomes.map some := by
    rw [h.slots_of_complete hcomplete, h.outcomes_of_complete hcomplete, map_mapIdx]
  have hfilled : s.slots.filterMap id = s.outcomes := by
    rw [hslots, List.filterMap_map]
    exact List.filterMap_some
  rw [← hfilled]
  exact h.seen

end Followed

namespace Tracked

variable {ask : Asking} {ids : Nat → Nat} {records : List MethodRecord} {s : State}

theorem outcomes_eq_mapIdx (h : Tracked ask ids records s) (hcomplete : s.isComplete = true) :
    s.outcomes =
      records.mapIdx fun place record => settled (ids place) record (ask record).result :=
  (followed_iff_tracked.mpr h).outcomes_eq_mapIdx hcomplete

theorem seen_perm_outcomes (h : Tracked ask ids records s) (hcomplete : s.isComplete = true) :
    s.seen.Perm s.outcomes :=
  (followed_iff_tracked.mpr h).seen_perm_outcomes hcomplete

end Tracked

/-- A complete run gives the outcome of every record in its place, whatever the order of the
steps: that of its call, or a failure of transport under the name of the record if the call broke
down.  Every outcome was taken exactly once.  Another complete run, with other task numbers and
another number of permits, gives the same outcomes but for the numbers of tasks that broke
down. -/
theorem complete_run_outcomes (a : Analyzer)
    (backend : Oracle.Request → Http.Posting Oracle.Answer)
    (breaks : Oracle.Request → Option Payload) (records : List MethodRecord) (permits : Nat)
    (ids : Nat → Nat) (s : State) (hids : DistinctBelow records.length ids)
    (hrun : Relation.ReflTransGen (Step (a.ask (answering backend breaks)))
      (State.initial ids permits records) s)
    (hcomplete : s.isComplete = true) :
    s.outcomes = records.mapIdx (fun place record =>
      match breaks (a.client.requestFor record) with
      | none => a.client.mapFormula (fun r => (backend r).result) record
      | some payload =>
        .failed record.name .transport
          ("oracle task failed: " ++ breakdown (ids place) payload) none) ∧
    s.seen.Perm s.outcomes ∧
    ∀ (permits' : Nat) (ids' : Nat → Nat) (s' : State), DistinctBelow records.length ids' →
      Relation.ReflTransGen (Step (a.ask (answering backend breaks)))
        (State.initial ids' permits' records) s' →
      s'.isComplete = true → List.Forall₂ AlikeButForNumbers s.outcomes s'.outcomes := by
  have htracked := (tracked_initial _ ids permits records).run hids hrun
  have houtcomes := htracked.outcomes_eq_mapIdx hcomplete
  refine ⟨?_, htracked.seen_perm_outcomes hcomplete, ?_⟩
  · rw [houtcomes]
    simp only [settled_ask]
  · intro permits' ids' s' hids' hrun' hcomplete'
    have htracked' := (tracked_initial _ ids' permits' records).run hids' hrun'
    rw [houtcomes, htracked'.outcomes_eq_mapIdx hcomplete']
    rw [List.forall₂_iff_get]
    refine ⟨by simp, ?_⟩
    intro place hplace hplace'
    simpa using settled_alike _ _ _ _

/-- Two methods of one name break down, the later one first, and each failure finds its place. -/
theorem complete_run_outcomes_of_breakdowns :
    let record : MethodRecord :=
      ⟨"area", "A = 2 * r", NameSet.empty, NameSet.empty, "double area() \x7b\x7d", 1⟩
    let a : Analyzer := ⟨⟨.numericTyped, false⟩, ⟨"model", .nan, .strip⟩, 2⟩
    let ask := a.ask
      (answering (fun _ => pure (.ok "")) fun _ => some (.words "index out of range"))
    let s := (State.initial (fun place => 9 - place) 2 [record, record]).run ask
      [.acquire 1, .acquire 0, .finish 1, .join 1, .finish 0, .join 0]
    DistinctBelow 2 (fun place => 9 - place) ∧ s.isComplete = true ∧
      s.outcomes =
        [taskFailure "area" (breakdown 9 (.words "index out of range")),
          taskFailure "area" (breakdown 8 (.words "index out of range"))] ∧
      s.seen.Perm s.outcomes := by
  intro record a ask s
  have hids : DistinctBelow 2 (fun place => 9 - place) := by
    intro i hi j hj heq
    dsimp only at heq
    omega
  have hcomplete : s.isComplete = true := by decide
  have hrun : Relation.ReflTransGen (Step ask)
      (State.initial (fun place => 9 - place) 2 [record, record]) s :=
    State.reaches_run ask _ _
  have h := complete_run_outcomes a (fun _ => pure (.ok ""))
    (fun _ => some (.words "index out of range")) [record, record] 2 (fun place => 9 - place) s
    hids hrun hcomplete
  exact ⟨hids, hcomplete, h.1, h.2.1⟩

end Analysis
end FormulaMap
