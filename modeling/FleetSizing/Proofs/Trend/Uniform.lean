import FleetSizing.Proofs.Cluster.Division
import FleetSizing.Proofs.Report.Decision

/-! Readings that all lie alike have one trend, whatever regimes are found among them. -/
namespace FleetSizing

namespace Direction

/-- The readings of a direction. -/
def Holds (d : Direction) (x : Rat) : Prop :=
  match d with
  | strongDown => x ≤ 20
  | down => 20 < x ∧ x < 30
  | steady => 30 ≤ x ∧ x ≤ 70
  | up => 70 < x ∧ x < 80
  | strongUp => 80 ≤ x

variable {d : Direction} {lo hi x : Rat}

theorem ofThreshold_of_holds (h : d.Holds x) : ofThreshold x = d := by
  have hbuckets : ofThreshold x = if x ≤ 20 then strongDown else if x < 30 then down
      else if x ≤ 70 then steady else if x < 80 then up else strongUp := rfl
  rw [hbuckets]
  cases d with
  | strongDown => exact if_pos h
  | down => rw [if_neg (not_le.mpr h.1), if_pos h.2]
  | steady =>
    have hlow : ¬ x ≤ 20 := by linarith [h.1]
    rw [if_neg hlow, if_neg (not_lt.mpr h.1), if_pos h.2]
  | up =>
    have hlow : ∀ y : Rat, y ≤ 70 → ¬ x ≤ y := fun y hy => by linarith [h.1]
    rw [if_neg (hlow 20 (by norm_num)), if_neg fun hlt => hlow 30 (by norm_num) (le_of_lt hlt),
      if_neg (hlow 70 le_rfl), if_pos h.2]
  | strongUp =>
    have hlow : ∀ y : Rat, y < 80 → ¬ x ≤ y := fun y hy => not_le.mpr (lt_of_lt_of_le hy h)
    rw [if_neg (hlow 20 (by norm_num)), if_neg fun hlt => hlow 30 (by norm_num) (le_of_lt hlt),
      if_neg (hlow 70 (by norm_num)), if_neg (not_lt.mpr h)]

/-- The readings of a direction have no gap. -/
theorem Holds.between (hlo : d.Holds lo) (hhi : d.Holds hi) (hle : lo ≤ x) (hge : x ≤ hi) : d.Holds x := by
  cases d with
  | strongDown => exact le_trans hge hhi
  | down => exact ⟨lt_of_lt_of_le hlo.1 hle, lt_of_le_of_lt hge hhi.2⟩
  | steady => exact ⟨le_trans hlo.1 hle, le_trans hge hhi.2⟩
  | up => exact ⟨lt_of_lt_of_le hlo.1 hle, lt_of_le_of_lt hge hhi.2⟩
  | strongUp => exact le_trans hlo hle

end Direction

namespace MetricTrend

variable {metric : Metric} {values : List Rat} {d : Direction}

theorem effective_of_noBaseline (hne : values ≠ []) (h : ∀ x ∈ values, x = -1) :
    (ofValues metric values).effective = .steady := by
  have hmean : Stats.mean values = -1 := by
    obtain ⟨hlo, hhi⟩ := Stats.mean_mem hne fun x hx => ⟨ge_of_eq (h x hx), le_of_eq (h x hx)⟩
    exact le_antisymm hhi hlo
  have hclose : Scalar.abs (Stats.mean values - noBaseline) < Scalar.epsilon := by
    rw [hmean]
    simpa [Scalar.abs, noBaseline] using Scalar.epsilon_pos
  unfold ofValues
  simp only
  rw [if_pos hclose]
  rfl

/-- What a trend is made of where there is a baseline. -/
theorem ofValues_of_included (h : (ofValues metric values).excluded = false) :
    let sorted := (Stats.sorted values).toArray
    (ofValues metric values).threshold = Stats.percentileOfSorted sorted ((90 : Nat) : Rat) ∧
      (ofValues metric values).percentiles = Stats.ladder sorted ∧
      (ofValues metric values).direction = .ofThreshold (ofValues metric values).threshold := by
  unfold ofValues at h ⊢
  simp only at h ⊢
  split at h
  · cases h
  · rename_i hfar
    simp only [if_neg hfar, and_self]

/-- There is a baseline where no reading is negative. -/
theorem excluded_of_nonneg (hne : values ≠ []) (h : ∀ x ∈ values, 0 ≤ x) :
    (ofValues metric values).excluded = false := by
  obtain ⟨lo, hlo, hi, -, hbounds⟩ := Stats.exists_bounds hne
  have hmean : 0 ≤ Stats.mean values := le_trans (h lo hlo) (Stats.mean_mem hne hbounds).1
  have hfar : ¬ Scalar.abs (Stats.mean values - noBaseline) < Scalar.epsilon := by
    have heps := Scalar.epsilon_lt_one
    have hdistance : Stats.mean values - noBaseline = Stats.mean values + 1 := by
      rw [show (noBaseline : Rat) = -1 from rfl, sub_neg_eq_add]
    rw [hdistance, Scalar.abs, if_neg (not_lt.mpr (by simpa using by linarith))]
    linarith
  unfold ofValues
  simp only
  rw [if_neg hfar]

/-- Readings of one direction have it as their trend. -/
theorem effective_of_holds (hne : values ≠ []) (h : ∀ x ∈ values, 0 ≤ x ∧ d.Holds x) :
    (ofValues metric values).effective = d := by
  have hincluded : (ofValues metric values).excluded = false := excluded_of_nonneg hne fun x hx => (h x hx).1
  obtain ⟨hthreshold, -, hdirection⟩ := ofValues_of_included hincluded
  obtain ⟨lo, hlo, hi, hhi, hbounds⟩ := Stats.exists_bounds hne
  obtain ⟨hle, hge⟩ := Stats.percentileOfSorted_sorted_mem hne hbounds ((90 : Nat) : Rat)
  rw [effective, hincluded, if_neg Bool.false_ne_true, hdirection, hthreshold]
  exact Direction.ofThreshold_of_holds ((h lo hlo).2.between (h hi hhi).2 hle hge)

end MetricTrend

/-- All readings of a metric lie alike: none has a baseline, or all have one and share a direction. -/
def Metric.LiesIn (m : Metric) (d : Direction) (samples : List (Sample Rat)) : Prop :=
  (d = .steady ∧ ∀ s ∈ samples, m.reading s = -1) ∨ ∀ s ∈ samples, 0 ≤ m.reading s ∧ d.Holds (m.reading s)

variable {samples part : List (Sample Rat)} {direction : Metric → Direction}

theorem Metric.LiesIn.subset {m : Metric} {d : Direction} (h : m.LiesIn d samples) (hpart : part ⊆ samples) :
    m.LiesIn d part :=
  h.imp (fun hn => ⟨hn.1, fun s hs => hn.2 s (hpart hs)⟩) fun hd s hs => hd s (hpart hs)

namespace Trend

theorem key_of_liesIn (hne : samples ≠ []) (h : ∀ m : Metric, m.LiesIn (direction m) samples) :
    (ofSamples samples).key = Metric.all.map direction := by
  have heffective : ∀ m : Metric,
      (MetricTrend.ofValues m (samples.map m.reading)).effective = direction m := by
    intro m
    rcases h m with ⟨hsteady, hnone⟩ | hholds
    · rw [hsteady]
      exact MetricTrend.effective_of_noBaseline (by simpa using hne) (by simpa using hnone)
    · exact MetricTrend.effective_of_holds (by simpa using hne) (by simpa using hholds)
  simp only [key, ofSamples, heffective, Metric.all, List.map_cons, List.map_nil]

/-- Trends that share their directions are one trend, if no two do. -/
theorem eq_nil_or_singleton {α : Type} {ts : List (Trend α)} {k : List Direction} (hnodup : (ts.map key).Nodup)
    (h : ∀ t ∈ ts, t.key = k) : ts = [] ∨ ∃ t, ts = [t] ∧ t.key = k := by
  match ts with
  | [] => exact Or.inl rfl
  | [t] => exact Or.inr ⟨t, rfl, h t List.mem_cons_self⟩
  | t :: u :: ts =>
    have hsame : t.key = u.key := by
      rw [h t List.mem_cons_self, h u (List.mem_cons_of_mem _ List.mem_cons_self)]
    simp [hsame] at hnodup

end Trend

namespace ClusterModel

/-- Regimes of readings that lie alike have one trend, with their directions, and it is not split. -/
theorem trends_of_liesIn (search : ClusterSearch) (hne : samples ≠ [])
    (h : ∀ m : Metric, m.LiesIn (direction m) samples) :
    ∃ t, (find search samples).trends samples = [t] ∧ t.key = Metric.all.map direction ∧
      Trend.actionOf? ((find search samples).trends samples) ≠ some .split := by
  have hkeys : ∀ t ∈ (find search samples).trends samples, t.key = Metric.all.map direction := by
    intro t ht
    obtain ⟨part, hpart, hsubset, hkey⟩ := exists_part (labelled_find search samples) hne ht
    exact hkey.trans (Trend.key_of_liesIn hpart fun m => (h m).subset hsubset)
  have hne' := (find_isDivision search samples).trends_ne_nil hne
  obtain ⟨t, ht, hkey⟩ := (Trend.eq_nil_or_singleton (nodup_keys_trends _ samples) hkeys).resolve_left hne'
  refine ⟨t, ht, hkey, ?_⟩
  rw [ht]
  intro hsplit
  rcases Trend.resizeAction?_cases hsplit with ha | ha | ha <;> cases ha

/-! A busy processor, an idle memory, no network to speak of and a disk under some pressure. -/
namespace Pressed

def reading (t : Int) (cpu memory iops : Rat) : Sample Rat := ⟨"i-1", "m5.large", t, cpu, memory, -1, iops, -1⟩

def series : List (Sample Rat) := [reading 0 99 0 71, reading 300 80 20 79, reading 600 85 5 75]

def buckets : Metric → Direction
  | .cpu => .strongUp | .memory => .strongDown | .network => .steady | .iops => .up

end Pressed

theorem trends_of_liesIn_pressed : Pressed.series ≠ [] ∧
    (∀ m : Metric, m.LiesIn (Pressed.buckets m) Pressed.series) ∧
    ∃ t, (find ⟨3, 2, 2⟩ Pressed.series).trends Pressed.series = [t] ∧
      t.key = [.strongUp, .strongDown, .steady, .up] := by
  have hne : Pressed.series ≠ [] := List.cons_ne_nil _ _
  have hlies : ∀ m : Metric, m.LiesIn (Pressed.buckets m) Pressed.series := by
    intro m
    cases m with
    | network => exact Or.inl ⟨rfl, by simp [Pressed.series, Pressed.reading, Metric.reading]⟩
    | cpu | memory | iops =>
      right
      norm_num [Pressed.series, Pressed.reading, Pressed.buckets, Metric.reading, Direction.Holds]
  obtain ⟨t, ht, hkey, -⟩ := trends_of_liesIn ⟨3, 2, 2⟩ hne hlies
  exact ⟨hne, hlies, t, ht, hkey⟩

end ClusterModel

end FleetSizing
