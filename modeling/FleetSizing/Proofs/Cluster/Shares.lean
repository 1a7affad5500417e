import FleetSizing.Proofs.Cluster.Elbow
import FleetSizing.Proofs.Report.Offers
import FleetSizing.Proofs.Report.Postponed
import FleetSizing.Proofs.Trend.Distinct

/-! Shares of time add up to one: those of the regimes, those of the trends that are told apart, and those
that weigh the shapes of a split. -/
namespace FleetSizing

namespace ClusterModel

variable {m : ClusterModel Rat} {samples : List (Sample Rat)} {size limit : Nat} {total : Rat}

theorem tells_sizes {cs : List (Cluster Rat)} {n : Rat} (h : ∀ c ∈ cs, c.probability = some ((c.size : Rat) / n)) :
    Tells (cs.map (·.probability)) (((cs.map (·.size)).sum : Nat) / n) := by
  induction cs with
  | nil => exact ⟨[], rfl, by simp⟩
  | cons c cs ih =>
    rw [List.map_cons, h c List.mem_cons_self, List.map_cons, List.sum_cons, Rat.natCast_add, add_div]
    exact (ih fun d hd => h d (List.mem_cons_of_mem c hd)).cons

/-- The shares of several regimes. -/
theorem IsDivision.tells (h : m.IsDivision size limit) (hsize : 0 < size) (hmany : 1 < m.clusters.length) :
    Tells (m.clusters.map (·.probability)) 1 := by
  have hshares : ∀ c ∈ m.clusters, c.probability = some ((c.size : Rat) / (size : Rat)) := by
    intro c hc
    rw [h.probability c hc, if_pos hmany]
  have htells := tells_sizes hshares
  rwa [h.sum_sizes, div_self (Nat.cast_ne_zero.mpr (Nat.ne_of_gt hsize))] at htells

/-- Regimes without samples have no share to lose. -/
theorem tells_filterMap {cs : List (Cluster Rat)} {f : Nat → Cluster Rat → Option (Trend Rat)}
    (hkept : ∀ i c, 0 < c.size → ∃ t, f i c = some t ∧ t.probability = some (c.probability.getD 0))
    (hdropped : ∀ i c, ¬ 0 < c.size → f i c = none)
    (hempty : ∀ c ∈ cs, ¬ 0 < c.size → c.probability = some 0)
    (h : Tells (cs.map (·.probability)) total) :
    Tells (((cs.mapIdx f).filterMap id).map (·.probability)) total := by
  induction cs generalizing f total with
  | nil => exact h
  | cons c cs ih =>
    rw [List.map_cons] at h
    obtain ⟨w, rest, hw, hrest, rfl⟩ := h.cases_cons
    have htail := ih (f := fun i => f (i + 1)) (fun i => hkept (i + 1)) (fun i => hdropped (i + 1))
      (fun d hd => hempty d (List.mem_cons_of_mem c hd)) hrest
    rw [List.mapIdx_cons]
    by_cases hsize : 0 < c.size
    · obtain ⟨t, ht, hshare⟩ := hkept 0 c hsize
      rw [List.filterMap_cons_some (f := id) ht, List.map_cons, hshare, hw]
      exact htail.cons
    · have hzero := hempty c List.mem_cons_self hsize
      rw [hw] at hzero
      rw [List.filterMap_cons_none (f := id) (hdropped 0 c hsize), Option.some.inj hzero, zero_add]
      exact htail

theorem IsDivision.tells_trends (h : m.IsDivision size limit) (hsize : 0 < size)
    (hmany : 1 < m.clusters.length) : Tells ((m.trends samples).map (·.probability)) 1 := by
  rw [trends, if_neg (Nat.not_le.mpr hmany)]
  apply Trend.tells_distinct
  refine tells_filterMap ?_ ?_ ?_ (h.tells hsize hmany)
  · intro i c hc
    exact ⟨_, if_pos hc, rfl⟩
  · intro i c hc
    exact if_neg hc
  · intro c hc hnone
    rw [h.probability c hc, if_pos hmany, Nat.eq_zero_of_not_pos hnone]
    simp

end ClusterModel

namespace Engine

variable {α : Type} [Scalar α] {e : Engine α} {r : Resource} {current : Shape α} {trends : List (Trend α)}
  {d : Decision α} {report : Report α} {samples : List (Sample α)}

/-- A split is reported with one shape for each of several trends, weighed by its share. -/
def Weighs (trends : List (Trend α)) (report : Report α) : Prop :=
  .split ∈ report.actions → 2 ≤ trends.length ∧
    report.offers.map (·.probability) = trends.map fun t => some (t.probability.getD ((0 : Nat) : α))

theorem split_weighs (h : e.split r current trends = some d) :
    d.offers.map (·.probability) = trends.map fun t => some (t.probability.getD ((0 : Nat) : α)) := by
  simp only [split, Option.map_eq_some_iff] at h
  obtain ⟨os, hos, rfl⟩ := h
  have hparts := forall₂_of_mapM hos
  clear hos
  induction hparts with
  | nil => rfl
  | cons ho _ ih =>
    simp only [splitOffer, Option.map_eq_some_iff] at ho
    obtain ⟨s, -, rfl⟩ := ho
    simpa using ih

theorem resizeFor_weighs (h : e.resizeFor r current trends = some d) (hd : d.action = .split) :
    2 ≤ trends.length ∧
      d.offers.map (·.probability) = trends.map fun t => some (t.probability.getD ((0 : Nat) : α)) := by
  obtain ⟨htwo, hparts⟩ := (resizeFor_fits h).2.splits hd
  refine ⟨hparts.length_eq ▸ htwo, ?_⟩
  unfold resizeFor at h
  split at h
  · exact split_weighs h
  · rename_i a hsplit ha
    obtain ⟨t, -, ht⟩ := Option.bind_eq_some_iff.mp h
    obtain ⟨haction, -⟩ : d.action.isResize ∧ e.Fits current trends d.action d.offers :=
      resize_fits (isResize_of_actionOf? ha hsplit) ht
    rw [hd] at haction
    cases haction
  · cases h

theorem decide_weighs (samples : List (Sample α)) :
    Weighs (e.trendsOf samples) (e.decide r samples current).1 := by
  intro hsplit
  by_cases hidle : (e.settings.schedule samples).isIdle
  · rw [decide_of_isIdle hidle] at hsplit
    simp at hsplit
  · rw [decide_of_not_isIdle hidle] at hsplit ⊢
    rw [offers_settled]
    have hlisted := mem_of_mem_settled hsplit rfl
    obtain ⟨d, hdecision, hd⟩ : ∃ d, e.resizeFor r current (e.trendsOf samples) = some d ∧ d.action = .split := by
      rcases List.mem_append.mp hlisted with hschedule | hresize
      · split at hschedule <;> simp at hschedule
      · simpa using hresize
    simp only [hdecision, Option.map_some]
    exact resizeFor_weighs hdecision hd

/-- A split that is not postponed keeps its shapes, as they are offered for nothing else. -/
theorem Weighs.withoutPostponed (p : Postponement) (hbacks : e.Backs current trends report)
    (h : Weighs trends report) : Weighs trends (report.withoutPostponed p) := by
  intro hsplit
  have hleft := Report.not_covered_of_mem_withoutPostponed hsplit
  unfold Report.withoutPostponed at hsplit ⊢
  simp only at hsplit ⊢
  split at hsplit
  · rename_i hnone
    rw [if_pos hnone]
    exact h hsplit
  · rename_i hsome
    have hmem : .split ∈ report.actions := List.mem_of_mem_filter (mem_of_mem_settled hsplit rfl)
    have hshapes : ¬ (report.actions.filter p.coversAction).any (· != .schedule) := by
      intro hdropped
      obtain ⟨a, ha, hschedule⟩ := List.any_eq_true.mp hdropped
      obtain ⟨ha, hcovered⟩ := List.mem_filter.mp ha
      have hoffers := offersShapes_of_coversAction hcovered (by simpa using hschedule)
      obtain rfl := hbacks.lone a ha _ hmem hoffers rfl
      exact hleft hcovered
    rw [if_neg hsome, offers_settled, if_neg hshapes]
    exact h hmem

theorem run_weighs {read : String → Except EngineError (Batch α)} {c : Completed α}
    (h : e.run read r = .completed c) : ∃ b samples current, read r.id = .ok b ∧
      e.validate b = .ok (samples, current) ∧ Weighs (e.trendsOf samples) c.report := by
  obtain ⟨p, b, -, -, hread, hprocess⟩ := run_eq_completed h
  obtain ⟨samples, current, hv, hreport, -⟩ := process_eq_ok hprocess
  have hpriced : Weighs (e.trendsOf samples) (e.price r current (e.decide r samples current).1) :=
    decide_weighs samples
  have hbacks : e.Backs current (e.trendsOf samples)
      (e.price r current (e.decide r samples current).1) := (decide_backs samples).price
  refine ⟨b, samples, current, hread, hv, ?_⟩
  rw [hreport]
  cases p with
  | none => exact hpriced
  | some p => exact hpriced.withoutPostponed p hbacks

end Engine

namespace ClusterModel

theorem two_le_of_several {α : Type} [Scalar α] [Scalar.Cancels α] {search : ClusterSearch}
    {samples : List (Sample α)} (h : 1 < (find search samples).clusters.length) : 2 ≤ samples.length := by
  rcases find_cases search samples with ⟨curve, hfind⟩ | ⟨k, curve, -, -, htwo, -⟩
  · rw [hfind] at h
    cases Nat.lt_irrefl 1 h
  · rwa [length_points] at htwo

/-- Several regimes tell the shares of their trends. -/
theorem find_tells {search : ClusterSearch} {samples : List (Sample Rat)}
    (h : 1 < (find search samples).clusters.length) :
    Tells ((find search samples).clusters.map (·.probability)) 1 ∧
      Tells (((find search samples).trends samples).map (·.probability)) 1 := by
  have hpos : 0 < samples.length := Nat.lt_of_lt_of_le Nat.two_pos (two_le_of_several h)
  have hdivision := find_isDivision search samples
  exact ⟨hdivision.tells hpos h, hdivision.tells_trends hpos h⟩

/-- Regimes divide the samples, whether loads are doubles or exact. Their exact shares, if there are
several, add up to one, still do so once equal trends are one, and then are the weights of a split. -/
theorem find_divides (search : ClusterSearch) (readings : List (Sample Float)) (samples : List (Sample Rat))
    (e : Engine Rat) (read : String → Except EngineError (Batch Rat)) (r : Resource) :
    let found := find search readings
    let m := find search samples
    (found.IsDivision readings.length (max search.maxClusters 1) ∧
      (found.clusters.map (·.size)).sum = readings.length) ∧
    (m.IsDivision samples.length (max search.maxClusters 1) ∧
      (m.clusters.map (·.size)).sum = samples.length) ∧
    (1 < m.clusters.length → Tells (m.clusters.map (·.probability)) 1 ∧
      Tells ((m.trends samples).map (·.probability)) 1) ∧
    ((m.trends samples).map Trend.key).Nodup ∧
    ∀ c, e.run read r = .completed c → .split ∈ c.report.actions →
      ∃ b series current, read r.id = .ok b ∧ e.validate b = .ok (series, current) ∧
        c.report.offers.map (·.probability) = (e.trendsOf series).map (·.probability) ∧
        Tells (c.report.offers.map (·.probability)) 1 := by
  intro found m
  have hfound : found.IsDivision _ _ := find_isDivision search readings
  have hm : m.IsDivision _ _ := find_isDivision search samples
  refine ⟨⟨hfound, hfound.sum_sizes⟩, ⟨hm, hm.sum_sizes⟩, find_tells, nodup_keys_trends m samples, ?_⟩
  intro c hrun hsplit
  obtain ⟨b, series, current, hread, hv, hweighs⟩ := Engine.run_weighs hrun
  obtain ⟨htwo, hoffers⟩ := hweighs hsplit
  have hseveral : Tells ((e.trendsOf series).map (·.probability)) 1 := by
    refine (find_tells ?_).2
    by_contra hone
    rw [Engine.trendsOf, trends, if_pos (Nat.not_lt.mp hone)] at htwo
    exact absurd htwo (by simp)
  have hshares : c.report.offers.map (·.probability) = (e.trendsOf series).map (·.probability) := by
    obtain ⟨ws, hws, -⟩ := hseveral
    rw [hoffers]
    refine List.map_congr_left fun t ht => ?_
    obtain ⟨w, -, hw⟩ := List.mem_map.mp (hws ▸ List.mem_map_of_mem ht)
    rw [← hw]
    rfl
  exact ⟨b, series, current, hread, hv, hshares, hshares ▸ hseveral⟩

end ClusterModel

/-! A resource with two loads far apart, for one half of the time each, and a shape for either of them. -/
namespace Mixed

open ClusterModel.Apart (search samples)

def small : Shape Rat := ⟨"m5.large", .aws, 2, 8, 0, 0, "", "", ""⟩

def large : Shape Rat := ⟨"m5.xlarge", .aws, 4, 16, 0, 0, "", "", ""⟩

def resource : Resource := ⟨"i-1", "", "", []⟩

def settings : Settings Rat :=
  { Settings.default with
    minAllowedDays := 0
    activityThreshold := 5
    maxClusters := 3
    minClusterSamples := 2
    smoothingWindow := 1 }

def engine : Engine Rat where
  shapes := .ofList [small, large]
  prices := .ofList []
  rules := []
  settings
  customer := "acme"
  now := default

def read (_ : String) : Except EngineError (Batch Rat) := .ok ⟨standardColumns, samples⟩

theorem validate_samples : engine.validate ⟨standardColumns, samples⟩ = .ok (samples, small) := by
  refine Engine.validate_eq_ok_iff.mpr
    ⟨by decide, List.mergeSort_of_pairwise (by decide), _, _, rfl, rfl, ?_, rfl⟩
  decide +kernel

def fit : Fit Rat := KMeans.fit (ClusterModel.points search.smoothing samples) 2

theorem labels_fit : fit.labels = [0, 1] ∧ fit.centroids.length = 2 := by
  simp only [fit, ClusterModel.Apart.points_samples, KMeans.fit, KMeans.seeds,
    ClusterModel.Apart.mergeSort_points]
  decide +kernel

theorem find_samples : ClusterModel.find search samples =
    .ofFit fit 2 (ClusterModel.triedCurve search samples) := by
  rw [ClusterModel.find_of_not_uniform ClusterModel.Apart.not_uniform,
    ClusterModel.Apart.clusterCount_triedCurve]
  exact if_neg (by decide)

def reading (load : Rat) : Sample Rat := ⟨"i-1", "m5.large", 0, load, load, 0, 0, 0⟩

/-- The trend of half of the time. -/
def trend (load : Rat) (centroid : Rat × Rat) : Trend Rat :=
  (Trend.ofSamples [reading load]).withRegime (1 / 2) centroid

variable (p q : Rat × Rat)

theorem key_trend : (trend 10 p).key ≠ (trend 90 q).key := by
  have hkey : ∀ load p, (trend load p).key = (Trend.ofSamples [reading load]).key := fun _ _ => rfl
  rw [hkey, hkey]
  simp only [Trend.ofSamples, MetricTrend.ofValues, Stats.sorted_alone]
  decide +kernel

theorem trendsOf_samples : ∃ p q, engine.trendsOf samples = [trend 10 p, trend 90 q] := by
  obtain ⟨hlabels, hlength⟩ := labels_fit
  obtain ⟨c, d, hcentroids⟩ := List.length_eq_two.mp hlength
  refine ⟨ClusterModel.roundedCentroid c, ClusterModel.roundedCentroid d, ?_⟩
  have hschedule : engine.settings.schedule samples = .alwaysRun :=
    Settings.schedule_of_busy (by decide) (by decide)
  have hactive : Engine.activeSamples .alwaysRun samples = samples := rfl
  have hhalf : ((1 : Nat) : Rat) / ((2 : Nat) : Rat) = 1 / 2 := by norm_num
  rw [Engine.trendsOf, hschedule, hactive]
  change (ClusterModel.find search samples).trends samples = _
  rw [find_samples, ClusterModel.trends, ClusterModel.ofFit, hcentroids, hlabels]
  change Trend.distinct [(Trend.ofSamples [reading 10]).withRegime (((1 : Nat) : Rat) / ((2 : Nat) : Rat)) _,
    (Trend.ofSamples [reading 90]).withRegime (((1 : Nat) : Rat) / ((2 : Nat) : Rat)) _] = _
  rw [hhalf]
  exact if_neg (key_trend _ _)

/-- Either part needs a shape of its own. -/
theorem eligible_parts :
    let low := Requirement.forSplitPart (.ofSamples [reading 10]) small settings.targetUtilization
    let high := Requirement.forSplitPart (.ofSamples [reading 90]) small settings.targetUtilization
    (Selection.eligible [] settings small low small ∧ ¬ Selection.eligible [] settings small low large) ∧
    (¬ Selection.eligible [] settings small high small ∧ Selection.eligible [] settings small high large) := by
  simp only [Trend.ofSamples, MetricTrend.ofValues, Stats.sorted_alone]
  decide +kernel

theorem splitOffer_trends : engine.splitOffer resource small (trend 10 p) = some ⟨small, some (1 / 2)⟩ ∧
    engine.splitOffer resource small (trend 90 q) = some ⟨large, some (1 / 2)⟩ := by
  have hlist : ShapeCatalog.list engine.shapes small.cloud = [small, large] :=
    List.mergeSort_of_pairwise (by decide)
  obtain ⟨⟨hlow, hlow'⟩, hhigh, hhigh'⟩ := eligible_parts
  have hsmall : engine.candidates resource small
      (.forSplitPart (trend 10 p) small engine.settings.targetUtilization) = [small] :=
    Engine.candidates_of_filter hlist
      ((List.filter_cons_of_pos hlow).trans (congrArg (small :: ·) (List.filter_cons_of_neg hlow'))) (by decide)
  have hlarge : engine.candidates resource small
      (.forSplitPart (trend 90 q) small engine.settings.targetUtilization) = [large] :=
    Engine.candidates_of_filter hlist
      ((List.filter_cons_of_neg hhigh).trans (List.filter_cons_of_pos hhigh')) (by decide)
  constructor
  · rw [Engine.splitOffer, hsmall]
    rfl
  · rw [Engine.splitOffer, hlarge]
    rfl

theorem resizeFor_trends : engine.resizeFor resource small [trend 10 p, trend 90 q] =
    some ⟨.split, [⟨small, some (1 / 2)⟩, ⟨large, some (1 / 2)⟩]⟩ := by
  obtain ⟨hsmall, hlarge⟩ := splitOffer_trends p q
  rw [Engine.resizeFor, show Trend.actionOf? [trend 10 p, trend 90 q] = some .split from rfl]
  simp [Engine.split, hsmall, hlarge]

theorem run_resource : ∃ c, engine.run read resource = .completed c ∧ c.report.actions = [.split] ∧
    c.report.offers = [⟨small, some (1 / 2)⟩, ⟨large, some (1 / 2)⟩] := by
  obtain ⟨p, q, htrends⟩ := trendsOf_samples
  have hdecide := Engine.decide_of_busy (by decide) (by decide) (htrends ▸ resizeFor_trends p q)
  refine ⟨_, Engine.run_of_valid rfl rfl validate_samples, ?_⟩
  rw [hdecide]
  exact ⟨rfl, rfl⟩

end Mixed

theorem find_divides_mixed : ∃ c,
    Mixed.engine.run Mixed.read Mixed.resource = .completed c ∧ c.report.actions = [.split] ∧
      c.report.offers.map (·.shape.name) = ["m5.large", "m5.xlarge"] ∧
      c.report.offers.map (·.probability) = [some (1 / 2), some (1 / 2)] ∧
      Tells (c.report.offers.map (·.probability)) 1 := by
  obtain ⟨c, hrun, hactions, hoffers⟩ := Mixed.run_resource
  have hsplit : .split ∈ c.report.actions := by
    rw [hactions]
    exact List.mem_singleton.mpr rfl
  obtain ⟨-, -, -, -, hweights⟩ :=
    ClusterModel.find_divides ClusterModel.Apart.search [] [] Mixed.engine Mixed.read Mixed.resource
  obtain ⟨-, -, -, -, -, -, htells⟩ := hweights c hrun hsplit
  exact ⟨c, hrun, hactions, by rw [hoffers]; rfl, by rw [hoffers]; rfl, htells⟩

end FleetSizing
