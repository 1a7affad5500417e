import FleetSizing.Job
import Mathlib.Algebra.GroupWithZero.Nat
import Mathlib.Logic.Relation

/-! The tasks of a job, one for each resource. A limited number of them runs at once, their history
entries are written in any order between them, and their outcomes are picked up in any order. -/
namespace FleetSizing

/-- How far a task has come. -/
inductive Stage (α : Type) where
  | waiting
  /-- At work, with these entries still to write. -/
  | running (left : List (Entry α))
  | ended
  /-- Its outcome was picked up. -/
  | joined

/-- The work on one resource. -/
structure Task (α : Type) where
  outcome : Outcome α
  stage : Stage α

namespace Task

variable {α : Type}

def isRunning (t : Task α) : Bool :=
  match t.stage with
  | .running _ => true
  | _ => false

def isJoined (t : Task α) : Bool :=
  match t.stage with
  | .joined => true
  | _ => false

theorem eq_of_isJoined {t : Task α} (h : t.isJoined) : t = ⟨t.outcome, .joined⟩ := by
  obtain ⟨o, stage⟩ := t
  cases stage with
  | joined => rfl
  | waiting => cases h
  | running left => cases h
  | ended => cases h

/-- Entries still to write. -/
def left (t : Task α) : List (Entry α) :=
  match t.stage with
  | .waiting => t.outcome.history
  | .running left => left
  | .ended | .joined => []

/-- Steps still to take. -/
def steps (t : Task α) : Nat :=
  match t.stage with
  | .waiting => t.outcome.history.length + 3
  | .running left => left.length + 2
  | .ended => 1
  | .joined => 0

end Task

/-- All tasks of a job and what they have done so far. -/
structure Pool (α : Type) where
  /-- In the order of the resources. -/
  tasks : List (Task α)
  /-- Outcomes with the places of their tasks, as they were picked up. -/
  arrivals : List (Nat × Outcome α) := []
  /-- History entries with the places of the tasks that wrote them. -/
  writes : List (Nat × Entry α) := []

namespace Pool

variable {α : Type}

/-- Before any task has started. -/
def start (outcomes : List (Outcome α)) : Pool α := { tasks := outcomes.map (⟨·, .waiting⟩) }

def running (p : Pool α) : Nat := p.tasks.countP (·.isRunning)

def put (p : Pool α) (i : Nat) (t : Task α) : Pool α := { p with tasks := p.tasks.set i t }

/-- The task at a place writes an entry. -/
def record (p : Pool α) (i : Nat) (e : Entry α) : Pool α := { p with writes := p.writes ++ [(i, e)] }

/-- The outcome of the task at a place is picked up. -/
def receive (p : Pool α) (i : Nat) (o : Outcome α) : Pool α :=
  { p with arrivals := p.arrivals ++ [(i, o)] }

/-- What one task can do next. -/
inductive Step (limit : Nat) : Pool α → Pool α → Prop
  | start {p i o} : p.tasks[i]? = some ⟨o, .waiting⟩ → p.running < limit →
      Step limit p (p.put i ⟨o, .running o.history⟩)
  | write {p i o e left} : p.tasks[i]? = some ⟨o, .running (e :: left)⟩ →
      Step limit p ((p.record i e).put i ⟨o, .running left⟩)
  | finish {p i o} : p.tasks[i]? = some ⟨o, .running []⟩ → Step limit p (p.put i ⟨o, .ended⟩)
  | join {p i o} : p.tasks[i]? = some ⟨o, .ended⟩ →
      Step limit p ((p.receive i o).put i ⟨o, .joined⟩)

/-- Any number of steps. -/
def Reaches (limit : Nat) : Pool α → Pool α → Prop := Relation.ReflTransGen (Step limit)

/-- All outcomes were picked up. -/
def Done (p : Pool α) : Prop := ∀ t ∈ p.tasks, t.isJoined

def fanOut (p : Pool α) : FanOut α := ⟨p.arrivals, p.writes.map (·.2)⟩

/-- What the task at a place has written so far. -/
def written (p : Pool α) (i : Nat) : List (Entry α) := (p.writes.filter (·.1 = i)).map (·.2)

/-- Exactly the outcomes of the joined tasks have arrived, and what a task has written is the start of
its history. -/
structure Consistent (p : Pool α) : Prop where
  arrived : ∀ i o, (i, o) ∈ p.arrivals ↔ p.tasks[i]? = some ⟨o, .joined⟩
  written : ∀ i t, p.tasks[i]? = some t → p.written i ++ t.left = t.outcome.history
  unwritten : ∀ i, p.tasks[i]? = none → p.written i = []

variable {p q : Pool α} {limit i j : Nat} {o : Outcome α} {t : Task α}

/-- What every step has in common: one task moves on, and writes some of what it had left. -/
structure Moves (p q : Pool α) (i : Nat) (t t' : Task α) (es : List (Entry α)) : Prop where
  here : p.tasks[i]? = some t
  tasks : q.tasks = p.tasks.set i t'
  outcome : t'.outcome = t.outcome
  steps : t'.steps < t.steps
  left : t.left = es ++ t'.left
  writes : q.writes = p.writes ++ es.map (i, ·)
  arrivals : q.arrivals = p.arrivals ++ if t'.isJoined then [(i, t.outcome)] else []

theorem Step.moves (h : Step limit p q) : ∃ i t t' es, Moves p q i t t' es := by
  cases h with
  | @start i o ht _ =>
    exact ⟨i, _, ⟨o, .running o.history⟩, [], ht, rfl, rfl, Nat.lt_succ_self _, rfl,
      (List.append_nil _).symm, (List.append_nil _).symm⟩
  | @write i o e left ht =>
    exact ⟨i, _, ⟨o, .running left⟩, [e], ht, rfl, rfl, Nat.lt_succ_self _, rfl, rfl,
      (List.append_nil _).symm⟩
  | @finish i o ht =>
    exact ⟨i, _, ⟨o, .ended⟩, [], ht, rfl, rfl, Nat.lt_succ_self _, rfl,
      (List.append_nil _).symm, (List.append_nil _).symm⟩
  | @join i o ht =>
    exact ⟨i, _, ⟨o, .joined⟩, [], ht, rfl, rfl, Nat.lt_succ_self _, rfl,
      (List.append_nil _).symm, rfl⟩

namespace Moves

variable {t' : Task α} {es : List (Entry α)}

theorem getElem?_tasks (h : Moves p q i t t' es) (j : Nat) :
    q.tasks[j]? = if j = i then some t' else p.tasks[j]? := by
  have hlt := (List.getElem?_eq_some_iff.mp h.here).1
  rw [h.tasks]
  by_cases hj : j = i
  · subst hj
    simp [hlt]
  · simp [hj, List.getElem?_set_ne (Ne.symm hj)]

theorem written (h : Moves p q i t t' es) (j : Nat) :
    q.written j = p.written j ++ if j = i then es else [] := by
  by_cases hj : j = i
  · simp [Pool.written, h.writes, hj, List.filter_map, Function.comp_def]
  · simp [Pool.written, h.writes, hj, Ne.symm hj]

theorem outcomes (h : Moves p q i t t' es) :
    q.tasks.map (·.outcome) = p.tasks.map (·.outcome) := by
  apply List.ext_getElem?
  intro j
  rw [List.getElem?_map, List.getElem?_map, h.getElem?_tasks]
  split
  · rename_i hj
    rw [hj, h.here, Option.map_some, Option.map_some, h.outcome]
  · rfl

/-- The moved task was not joined before, and its outcome has arrived if it is now. -/
theorem arrived (h : Moves p q i t t' es) :
    ¬ t.isJoined ∧ ∀ o, some t' = some ⟨o, .joined⟩ ↔
      (i, o) ∈ if t'.isJoined then [(i, t.outcome)] else [] := by
  have hsteps := h.steps
  have houtcome := h.outcome
  obtain ⟨o, stage⟩ := t
  obtain ⟨o', stage'⟩ := t'
  obtain rfl : o' = o := houtcome
  constructor
  · cases stage <;> simp_all [Task.steps, Task.isJoined]
  · intro o
    cases stage' <;> simp [Task.isJoined, eq_comm]

end Moves

theorem consistent_start (outcomes : List (Outcome α)) : (start outcomes).Consistent := by
  refine ⟨?_, ?_, fun _ _ => rfl⟩
  · intro i o
    simp [start]
  · intro i t ht
    simp only [start, List.getElem?_map, Option.map_eq_some_iff] at ht
    obtain ⟨o, -, rfl⟩ := ht
    rfl

theorem consistent_step (h : Step limit p q) (hp : p.Consistent) : q.Consistent := by
  obtain ⟨i, t, t', es, hmoves⟩ := h.moves
  refine ⟨?_, ?_, ?_⟩
  · intro j o
    obtain ⟨hbefore, hafter⟩ := hmoves.arrived
    rw [hmoves.getElem?_tasks, hmoves.arrivals, List.mem_append, hp.arrived]
    by_cases hj : j = i
    · subst hj
      rw [if_pos rfl, hmoves.here, hafter, or_iff_right]
      rintro ⟨rfl⟩
      exact hbefore rfl
    · rw [if_neg hj, or_iff_left]
      intro hmem
      split at hmem
      · exact hj (congrArg Prod.fst (List.mem_singleton.mp hmem))
      · cases hmem
  · intro j u hu
    rw [hmoves.getElem?_tasks] at hu
    rw [hmoves.written]
    split at hu
    · rename_i hj
      obtain rfl := Option.some.inj hu
      rw [if_pos hj, List.append_assoc, ← hmoves.left, hmoves.outcome]
      exact hp.written j t (hj ▸ hmoves.here)
    · rename_i hj
      rw [if_neg hj, List.append_nil]
      exact hp.written j u hu
  · intro j hj
    rw [hmoves.getElem?_tasks] at hj
    rw [hmoves.written]
    split at hj
    · cases hj
    · rename_i hne
      rw [if_neg hne, List.append_nil]
      exact hp.unwritten j hj

theorem consistent_reaches (h : Reaches limit p q) (hp : p.Consistent) : q.Consistent := by
  induction h with
  | refl => exact hp
  | tail _ hstep ih => exact consistent_step hstep ih

theorem outcomes_reaches (h : Reaches limit p q) :
    q.tasks.map (·.outcome) = p.tasks.map (·.outcome) := by
  induction h with
  | refl => rfl
  | tail _ hstep ih =>
    obtain ⟨i, t, t', es, hmoves⟩ := hstep.moves
    rw [hmoves.outcomes, ih]

/-- Steps still to take. -/
def remaining (p : Pool α) : Nat := (p.tasks.map (·.steps)).sum

theorem remaining_step (h : Step limit p q) : q.remaining < p.remaining := by
  obtain ⟨i, t, t', es, hmoves⟩ := h.moves
  obtain ⟨hlt, ht⟩ := List.getElem?_eq_some_iff.mp hmoves.here
  have hsteps := hmoves.steps
  let others := ((p.tasks.take i).map (·.steps)).sum + ((p.tasks.drop (i + 1)).map (·.steps)).sum
  have hbefore : p.remaining = others + t.steps := by
    have hsplit : p.tasks = p.tasks.take i ++ t :: p.tasks.drop (i + 1) := by
      rw [← ht]
      simp
    have hsum := congrArg (fun ts => (ts.map (·.steps)).sum) hsplit
    simp only [List.map_append, List.map_cons, List.sum_append, List.sum_cons] at hsum
    simp only [remaining, others]
    omega
  have hafter : q.remaining = others + t'.steps := by
    rw [remaining, hmoves.tasks, List.set_eq_take_append_cons_drop, if_pos hlt]
    simp only [List.map_append, List.map_cons, List.sum_append, List.sum_cons, others]
    omega
  omega

/-- As long as some outcome is missing, some task can move on. -/
theorem exists_step (hlimit : 0 < limit) (h : ¬ p.Done) : ∃ q, Step limit p q := by
  have hrunning : ∀ t ∈ p.tasks, t.isRunning → ∃ q, Step limit p q := by
    rintro ⟨o, stage⟩ ht hrun
    obtain ⟨i, hi⟩ := List.mem_iff_getElem?.mp ht
    cases stage with
    | running left =>
      cases left with
      | nil => exact ⟨_, .finish hi⟩
      | cons e left => exact ⟨_, .write hi⟩
    | waiting => simp [Task.isRunning] at hrun
    | ended => simp [Task.isRunning] at hrun
    | joined => simp [Task.isRunning] at hrun
  simp only [Done, Classical.not_forall] at h
  obtain ⟨⟨o, stage⟩, ht, hjoined⟩ := h
  obtain ⟨i, hi⟩ := List.mem_iff_getElem?.mp ht
  cases stage with
  | waiting =>
    -- Without a free place some task is at work.
    by_cases hfree : p.running < limit
    · exact ⟨_, .start hi hfree⟩
    · have hpos : 0 < p.running := by omega
      obtain ⟨t, ht, hrun⟩ := List.countP_pos_iff.mp hpos
      exact hrunning t ht hrun
  | running left => exact hrunning _ ht rfl
  | ended => exact ⟨_, .join hi⟩
  | joined => exact (hjoined rfl).elim

/-- However far the tasks have come, they can all end. -/
theorem exists_done (hlimit : 0 < limit) (p : Pool α) : ∃ q, Reaches limit p q ∧ q.Done := by
  induction hn : p.remaining using Nat.strongRecOn generalizing p with
  | _ n ih =>
    by_cases hdone : p.Done
    · exact ⟨p, .refl, hdone⟩
    · obtain ⟨q, hstep⟩ := exists_step hlimit hdone
      obtain ⟨q', hreaches, hdone'⟩ := ih _ (hn ▸ remaining_step hstep) q rfl
      exact ⟨q', .head hstep hreaches, hdone'⟩

end Pool

end FleetSizing
