import FleetSizing.Proofs.Report.Postponed
import Mathlib.Data.List.Nodup

/-! Samples come with their times, so the order in which a source delivers them does not matter, as long as no
two are of the same time. -/
namespace FleetSizing

variable {α : Type}

/-- Samples of different times are ascending by time in one order only. -/
theorem byTime_perm {xs ys : List (Sample α)} (hperm : xs.Perm ys)
    (hdistinct : (ys.map (·.timestamp)).Nodup) : byTime xs = byTime ys := by
  have hsame : (byTime xs).Perm (byTime ys) :=
    (List.mergeSort_perm _ _).trans (hperm.trans (List.mergeSort_perm _ _).symm)
  refine hsame.eq_of_pairwise (fun a b ha hb hab hba => ?_) (pairwise_byTime xs) (pairwise_byTime ys)
  have ha' : a ∈ ys := hperm.mem_iff.mp (mem_byTime.mp ha)
  exact List.inj_on_of_nodup_map hdistinct ha' (mem_byTime.mp hb) (Int.le_antisymm hab hba)

variable [Scalar α] {e : Engine α} {r : Resource} {b : Batch α} {samples : List (Sample α)}

namespace Engine

/-- The history once a resource is processed; one that fails leaves it as it is. -/
def recorded (e : Engine α) (r : Resource) (p : Option Postponement) (b : Batch α) (h : History α) :
    History α :=
  match e.process r p b with
  | .ok c => h.upsertAll c.history
  | .error _ => h

/-- What a task writes is what its samples call for, unless it ends before it reads them. -/
theorem upsertAll_history_run {read : String → Except EngineError (Batch α)} {p : Option Postponement}
    (hp : e.postponement? r = .ok p) (hpartial : p.filter (·.coversAll) = none) (hread : read r.id = .ok b)
    (h : History α) : h.upsertAll (e.run read r).history = e.recorded r p b h := by
  simp only [run, runM, hp, hpartial, hread, pure_bind, recorded]
  cases e.process r p b <;> rfl

/-- All that is looked at besides the columns is the series in order of time. -/
theorem validate_perm (hperm : samples.Perm b.samples) (hdistinct : (b.samples.map (·.timestamp)).Nodup) :
    e.validate { b with samples } = e.validate b := by
  have hmissing : ∀ required, Batch.missing { b with samples } required = b.missing required :=
    fun _ => rfl
  rw [validate, validate, byTime_perm hperm hdistinct, hmissing]

theorem process_eq_of_validate_eq {p : Option Postponement} {b b' : Batch α}
    (h : e.validate b' = e.validate b) : e.process r p b' = e.process r p b := by
  rw [process, process, h]

/-- The order of samples of different times changes neither what is reported, recorded and counted for a
resource, or why it fails, nor the history that is left, whatever kinds are postponed. -/
theorem process_reordered (e : Engine α) (r : Resource) (p : Option Postponement) (b : Batch α)
    (samples : List (Sample α)) (hperm : samples.Perm b.samples)
    (hdistinct : (b.samples.map (·.timestamp)).Nodup) :
    e.process r p { b with samples } = e.process r p b ∧
    (∀ h : History α, e.recorded r p { b with samples } h = e.recorded r p b h) ∧
    e.run (fun _ => .ok { b with samples }) r = e.run (fun _ => .ok b) r := by
  have hprocess : ∀ q, e.process r q { b with samples } = e.process r q b := fun _ =>
    process_eq_of_validate_eq (validate_perm hperm hdistinct)
  refine ⟨hprocess p, fun h => ?_, ?_⟩
  · rw [recorded, recorded, hprocess]
  · simp only [run, runM, pure_bind, hprocess]

end Engine

theorem process_reordered_idle : Idle.readings.reverse.Perm Idle.batch.samples ∧
    (Idle.batch.samples.map (·.timestamp)).Nodup ∧
    ∃ c, Idle.engine.process Idle.resource (some Idle.postponement)
        { Idle.batch with samples := Idle.readings.reverse } = .ok c ∧
      c.report.actions = [.shutdown] := by
  have hperm : Idle.readings.reverse.Perm Idle.batch.samples := List.reverse_perm _
  have hdistinct : (Idle.batch.samples.map (·.timestamp)).Nodup := by decide
  obtain ⟨c, hc, hactions, -⟩ := Idle.run_resource
  obtain ⟨p, b, hp, -, hread, hprocess⟩ := Engine.run_eq_completed hc
  obtain rfl : some Idle.postponement = p := Except.ok.inj (Idle.postponement?_resource.symm.trans hp)
  obtain rfl : Idle.batch = b := Except.ok.inj hread
  refine ⟨hperm, hdistinct, c, ?_, hactions⟩
  rw [(Engine.process_reordered Idle.engine Idle.resource (some Idle.postponement) Idle.batch
    Idle.readings.reverse hperm hdistinct).1, hprocess]

end FleetSizing
