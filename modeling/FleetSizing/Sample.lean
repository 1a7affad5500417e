import FleetSizing.Scalar

/-! Utilization readings of a resource. -/
namespace FleetSizing

/-- One row of readings; loads are percentages, `-1` where there is no baseline. -/
structure Sample (α : Type) where
  resource : String
  shape : String
  /-- Seconds since 1970-01-01, of universal time. -/
  timestamp : Int
  cpu : α
  memory : α
  network : α
  iops : α
  peakIops : α
  deriving BEq, Inhabited

/-- Columns that rows of readings carry. -/
def standardColumns : List String :=
  ["instance_id", "instance_type", "timestamp", "cpu_load", "memory_load", "net_output_load",
   "avg_disk_iops", "max_disk_iops"]

/-- Rows of one resource and the columns their source provided. -/
structure Batch (α : Type) where
  columns : List String
  samples : List (Sample α)
  deriving BEq

namespace Batch

variable {α : Type}

/-- Required columns the batch lacks. -/
def missing (b : Batch α) (required : List String) : List String :=
  required.filter (!b.columns.contains ·)

end Batch

/-- Ascending by time; rows of one time keep their order. -/
def byTime {α : Type} (samples : List (Sample α)) : List (Sample α) :=
  samples.mergeSort (fun a b => a.timestamp ≤ b.timestamp)

theorem mem_byTime {α : Type} {samples : List (Sample α)} {s : Sample α} : s ∈ byTime samples ↔ s ∈ samples :=
  List.mem_mergeSort

theorem timestamp_le_trans {α : Type} (a b c : Sample α) (hab : decide (a.timestamp ≤ b.timestamp))
    (hbc : decide (b.timestamp ≤ c.timestamp)) : decide (a.timestamp ≤ c.timestamp) :=
  decide_eq_true (Int.le_trans (of_decide_eq_true hab) (of_decide_eq_true hbc))

theorem timestamp_le_total {α : Type} (a b : Sample α) :
    decide (a.timestamp ≤ b.timestamp) || decide (b.timestamp ≤ a.timestamp) := by
  simpa using Int.le_total a.timestamp b.timestamp

theorem pairwise_byTime {α : Type} (samples : List (Sample α)) :
    (byTime samples).Pairwise fun a b => a.timestamp ≤ b.timestamp :=
  (List.pairwise_mergeSort timestamp_le_trans timestamp_le_total samples).imp of_decide_eq_true

end FleetSizing
