import FleetSizing.Proofs.Schedule.Busy
import FleetSizing.Proofs.Settings
import FleetSizing.Proofs.Trend.Uniform

/-! A resource whose loads stay in the steady band is left alone, however they move inside it. -/
namespace FleetSizing

/-- A load that asks for no resize. -/
def SteadyLoad (x : Rat) : Prop := 30 ≤ x ∧ x ≤ 70

/-- All processors and memories are loaded steadily; so are network and disk, each unless it has no
baseline at all. -/
structure InBand (samples : List (Sample Rat)) : Prop where
  cpu : ∀ s ∈ samples, SteadyLoad s.cpu
  memory : ∀ s ∈ samples, SteadyLoad s.memory
  network : (∀ s ∈ samples, s.network = -1) ∨ ∀ s ∈ samples, SteadyLoad s.network
  iops : (∀ s ∈ samples, s.iops = -1) ∨ ∀ s ∈ samples, SteadyLoad s.iops

theorem InBand.subset {samples part : List (Sample Rat)} (h : InBand samples) (hpart : part ⊆ samples) :
    InBand part :=
  ⟨fun s hs => h.cpu s (hpart hs), fun s hs => h.memory s (hpart hs),
    h.network.imp (fun hn s hs => hn s (hpart hs)) fun hn s hs => hn s (hpart hs),
    h.iops.imp (fun hn s hs => hn s (hpart hs)) fun hn s hs => hn s (hpart hs)⟩

theorem InBand.liesIn {samples : List (Sample Rat)} (h : InBand samples) (m : Metric) :
    m.LiesIn .steady samples := by
  have hsteady : ∀ {x : Rat}, SteadyLoad x → 0 ≤ x ∧ Direction.steady.Holds x :=
    fun hx => ⟨le_trans (by norm_num) hx.1, hx⟩
  cases m with
  | cpu => exact Or.inr fun s hs => hsteady (h.cpu s hs)
  | memory => exact Or.inr fun s hs => hsteady (h.memory s hs)
  | network => exact h.network.imp (fun hn => ⟨rfl, hn⟩) fun hn s hs => hsteady (hn s hs)
  | iops => exact h.iops.imp (fun hn => ⟨rfl, hn⟩) fun hn s hs => hsteady (hn s hs)

namespace Trend

/-- The directions of a trend that asks for nothing. -/
def steadyKey : List Direction := [.steady, .steady, .steady, .steady]

theorem key_of_inBand {samples : List (Sample Rat)} (hne : samples ≠ []) (h : InBand samples) :
    (ofSamples samples).key = steadyKey :=
  key_of_liesIn hne h.liesIn

theorem resizeAction?_of_steady {α : Type} {t : Trend α} (h : t.key = steadyKey) :
    t.resizeAction? = none := by
  simp only [key, steadyKey, List.cons.injEq, and_true] at h
  obtain ⟨hcpu, hmemory, hnetwork, hiops⟩ := h
  simp [resizeAction?, requiresResize, ioScaleUp, hcpu, hmemory, hnetwork, hiops, Direction.isUp,
    Direction.doubleWeight]

/-- Trends that all ask for nothing are one trend, if no two share their directions. -/
theorem actionOf?_of_steady {α : Type} {ts : List (Trend α)} (hnodup : (ts.map key).Nodup)
    (h : ∀ t ∈ ts, t.key = steadyKey) : actionOf? ts = none := by
  rcases eq_nil_or_singleton hnodup h with rfl | ⟨t, rfl, hkey⟩
  · rfl
  · exact resizeAction?_of_steady hkey

end Trend

theorem Savings.estimate_of_noAction {α : Type} [Scalar α] {price : String → Option α}
    {report : Report α} {shape : String} (h : report.actions = [.noAction]) :
    estimate price report shape = [] := by
  have hnone : collected price report shape = [] := by
    rw [collected, h, List.flatMap_singleton, priced]
    cases price shape <;> rfl
  rw [estimate, hnone]
  exact List.mergeSort_nil

namespace Engine

variable {e : Engine Rat} {r : Resource} {current : Shape Rat} {samples : List (Sample Rat)}

/-- The regimes of steady loads share all directions, so nothing is proposed. -/
theorem decide_of_inBand (hmin : e.settings.minWindowMinutes < minutesPerDay)
    (hthreshold : e.settings.activityThreshold < 30) (hne : samples ≠ []) (h : InBand samples) :
    (e.decide r samples current).1 =
      { resource := r.id, actions := [.noAction], schedule := some [Window.alwaysRun] } := by
  have hschedule : e.settings.schedule samples = .alwaysRun :=
    Settings.schedule_of_busy hmin fun s hs => lt_of_lt_of_le hthreshold (h.cpu s hs).1
  have hactive : activeSamples (.alwaysRun : Schedule Rat) samples = samples := ite_self samples
  have hnone : ∀ m : ClusterModel Rat, m.Labelled samples.length →
      e.resizeFor r current (m.trends samples) = none := by
    intro m hm
    have hsteady : ∀ t ∈ m.trends samples, t.key = Trend.steadyKey := by
      intro t ht
      obtain ⟨part, hpart, hsubset, hkey⟩ := ClusterModel.exists_part hm hne ht
      exact hkey.trans (Trend.key_of_inBand hpart (h.subset hsubset))
    rw [resizeFor, Trend.actionOf?_of_steady (ClusterModel.nodup_keys_trends m samples) hsteady]
  unfold decide
  simp only [hschedule, hactive, hnone _ (ClusterModel.labelled_find _ _)]
  rfl

/-- Steady loads end in a report without a proposal, and nothing is remembered of it. -/
theorem run_of_inBand {read : String → Except EngineError (Batch Rat)} {b : Batch Rat}
    (hsettings : e.settings.fault? = none) (hthreshold : e.settings.activityThreshold < 30)
    (hp : e.postponement? r = .ok none) (hread : read r.id = .ok b)
    (hv : e.validate b = .ok (samples, current)) (h : InBand b.samples) :
    ∃ c, e.run read r = .completed c ∧
      c.report = { resource := r.id, actions := [.noAction], schedule := some [Window.alwaysRun] } ∧
      c.history = [] := by
  obtain ⟨-, hsorted, first, -, hfirst, -⟩ := validate_eq_ok_iff.mp hv
  have hne : samples ≠ [] := List.ne_nil_of_mem (List.mem_of_head? hfirst)
  have hband : InBand samples := h.subset fun s hs => by
    rw [← hsorted, byTime, List.mem_mergeSort] at hs
    exact hs
  have hdecide : (e.decide r samples current).1 = _ :=
    decide_of_inBand (Settings.minWindowMinutes_lt hsettings) hthreshold hne hband
  have hprice : e.price r current (e.decide r samples current).1 =
      { resource := r.id, actions := [.noAction], schedule := some [Window.alwaysRun] } := by
    rw [hdecide, price, Savings.estimate_of_noAction rfl]
    rfl
  refine ⟨_, run_of_valid hp hread hv, hprice, ?_⟩
  exact congrArg (e.entries r none current) hprice

end Engine

/-! Two readings at the edges of the band, most of a week apart, without a network baseline. -/
namespace Level

def shape : Shape Rat := ⟨"m5.large", .aws, 2, 8, 0, 0, "", "", ""⟩

def readings : List (Sample Rat) :=
  [⟨"i-1", "m5.large", 0, 30, 70, -1, 40, -1⟩, ⟨"i-1", "m5.large", 500000, 70, 30, -1, 60, -1⟩]

def resource : Resource := ⟨"i-1", "", "", []⟩

def engine : Engine Rat where
  shapes := .ofList [shape]
  prices := .ofList []
  rules := []
  settings := { Settings.default with minAllowedDays := 5 }
  customer := "acme"
  now := default

theorem stepMinutes_readings : engine.settings.stepMinutes readings = 8333 := by
  have hgaps : Sampling.gaps readings = List.replicate (0 + 1) 500000 := by decide
  rw [Settings.stepMinutes_of_gaps hgaps]
  rfl

theorem validate_readings :
    engine.validate ⟨standardColumns, readings⟩ = .ok (readings, shape) := by
  refine Engine.validate_eq_ok_iff.mpr
    ⟨by decide, List.mergeSort_of_pairwise (by decide), _, _, rfl, rfl, ?_, rfl⟩
  rw [stepMinutes_readings]
  decide

theorem inBand_readings : InBand readings := by
  refine ⟨?_, ?_, Or.inl ?_, Or.inr ?_⟩ <;>
    simp only [readings, SteadyLoad, List.forall_mem_cons] <;> decide

end Level

theorem run_of_inBand_readings : Level.engine.settings.fault? = none ∧ InBand Level.readings ∧
    ∃ c, Level.engine.run (fun _ => .ok ⟨standardColumns, Level.readings⟩) Level.resource =
        .completed c ∧
      c.report = { resource := "i-1", actions := [.noAction], schedule := some [Window.alwaysRun] } ∧
      c.history = [] := by
  have hsettings : Level.engine.settings.fault? = none := by
    rw [← Option.isNone_iff_eq_none]
    decide
  refine ⟨hsettings, Level.inBand_readings, ?_⟩
  exact Engine.run_of_inBand hsettings (by decide) rfl rfl Level.validate_readings
    Level.inBand_readings

end FleetSizing
