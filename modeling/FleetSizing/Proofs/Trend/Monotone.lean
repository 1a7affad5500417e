import FleetSizing.Proofs.Stats.Ranks
import FleetSizing.Proofs.Trend.Uniform

/-! More load never turns the direction of a metric downwards. -/
namespace FleetSizing

namespace Direction

variable {d d' : Direction} {x y : Rat}

theorem exists_holds (x : Rat) : ∃ d : Direction, d.Holds x := by
  by_cases h20 : x ≤ 20
  · exact ⟨strongDown, h20⟩
  by_cases h30 : x < 30
  · exact ⟨down, not_le.mp h20, h30⟩
  by_cases h70 : x ≤ 70
  · exact ⟨steady, not_lt.mp h30, h70⟩
  by_cases h80 : x < 80
  · exact ⟨up, not_le.mp h70, h80⟩
  · exact ⟨strongUp, not_lt.mp h80⟩

theorem holds_ofThreshold (x : Rat) : (ofThreshold x).Holds x := by
  obtain ⟨d, hd⟩ := exists_holds x
  rwa [ofThreshold_of_holds hd]

/-- Directions stand in the order of their readings. -/
theorem Holds.doubleWeight_le (hx : d.Holds x) (hy : d'.Holds y) (hle : x ≤ y) :
    d.doubleWeight ≤ d'.doubleWeight := by
  cases d <;> cases d' <;> grind [Holds, doubleWeight]

theorem ofThreshold_mono (h : x ≤ y) : (ofThreshold x).doubleWeight ≤ (ofThreshold y).doubleWeight :=
  (holds_ofThreshold x).doubleWeight_le (holds_ofThreshold y) h

end Direction

namespace MetricTrend

variable {metric : Metric} {xs ys : List Rat}

/-- Of two series of readings with a baseline, one of which is nowhere below the other, it has no lower
threshold, no lower percentile and no lower direction. -/
theorem ofValues_mono (metric : Metric) (hle : List.Forall₂ (· ≤ ·) xs ys)
    (hxs : (ofValues metric xs).excluded = false) (hys : (ofValues metric ys).excluded = false) :
    (ofValues metric xs).threshold ≤ (ofValues metric ys).threshold ∧
      List.Forall₂ (· ≤ ·) (ofValues metric xs).percentiles (ofValues metric ys).percentiles ∧
      (ofValues metric xs).direction.doubleWeight ≤ (ofValues metric ys).direction.doubleWeight := by
  obtain ⟨hthreshold, hladder, hdirection⟩ := ofValues_of_included hxs
  obtain ⟨hthreshold', hladder', hdirection'⟩ := ofValues_of_included hys
  have hsorted := Stats.sorted_mono hle
  have hmono : (ofValues metric xs).threshold ≤ (ofValues metric ys).threshold := by
    rw [hthreshold, hthreshold']
    exact Stats.percentileOfSorted_mono hsorted _
  refine ⟨hmono, ?_, ?_⟩
  · rw [hladder, hladder']
    exact Stats.ladder_mono hsorted
  · rw [hdirection, hdirection']
    exact Direction.ofThreshold_mono hmono

/-! Readings that grow, and thereby change the order they are sorted in. -/
namespace Growing

def before : List Rat := [10, 90, 20]

def after : List Rat := [95, 90, 25]

end Growing

theorem ofValues_mono_growing : List.Forall₂ (· ≤ ·) Growing.before Growing.after ∧
    (ofValues .cpu Growing.before).excluded = false ∧ (ofValues .cpu Growing.after).excluded = false ∧
    (ofValues .cpu Growing.before).threshold ≤ (ofValues .cpu Growing.after).threshold ∧
    (ofValues .cpu Growing.before).direction.doubleWeight ≤
      (ofValues .cpu Growing.after).direction.doubleWeight := by
  have hle : List.Forall₂ (· ≤ ·) Growing.before Growing.after := by
    norm_num [Growing.before, Growing.after]
  have hbefore : (ofValues .cpu Growing.before).excluded = false :=
    excluded_of_nonneg (by decide) (by norm_num [Growing.before])
  have hafter : (ofValues .cpu Growing.after).excluded = false :=
    excluded_of_nonneg (by decide) (by norm_num [Growing.after])
  obtain ⟨hthreshold, -, hdirection⟩ := ofValues_mono .cpu hle hbefore hafter
  exact ⟨hle, hbefore, hafter, hthreshold, hdirection⟩

end MetricTrend

end FleetSizing
