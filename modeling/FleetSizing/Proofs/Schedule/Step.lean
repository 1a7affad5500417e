import FleetSizing.Pipeline
import FleetSizing.Proofs.Settings
import FleetSizing.Proofs.Stats.Ranks
import FleetSizing.Proofs.Words

/-! When the step between samples is the interval that their times tell, and the span of a series includes its
last step. Differences are held in 64 bits and minutes in 32, so a series that is long enough has another step,
or none. -/
namespace FleetSizing

variable {α : Type}

namespace Sampling

variable {samples : List (Sample α)} {d : Int}

/-- Differences of consecutive timestamps. -/
def differences (samples : List (Sample α)) : List Int :=
  List.zipWith (fun a b => b.timestamp - a.timestamp) samples samples.tail

theorem exists_of_mem_differences (h : d ∈ differences samples) :
    ∃ a ∈ samples, ∃ b ∈ samples, d = b.timestamp - a.timestamp := by
  obtain ⟨i, hi, rfl⟩ := List.mem_iff_getElem.mp h
  simp only [differences, List.getElem_zipWith]
  exact ⟨_, List.getElem_mem _, _, List.mem_of_mem_tail (List.getElem_mem _), rfl⟩

/-- Gaps are what words hold of the differences, as far as that is positive. -/
theorem gaps_eq (h : ∀ x ∈ samples, isSigned 64 x.timestamp) :
    gaps samples = ((differences samples).map held).filter (0 < ·) := by
  have hheld : (differences samples).map (wrapSigned 64) = (differences samples).map held := by
    refine List.map_congr_left fun d hd => ?_
    obtain ⟨a, ha, b, hb, rfl⟩ := exists_of_mem_differences hd
    exact wrapSigned_sub (h a ha) (h b hb)
  rw [← hheld, differences, List.map_zipWith]
  rfl

theorem map_held (h : ∀ d ∈ differences samples, isSigned 64 d) :
    (differences samples).map held = differences samples := by
  rw [List.map_congr_left fun d hd => held_of_isSigned (h d hd), List.map_id']

end Sampling

namespace Settings

variable {s : Settings α} {gaps : List Int} {samples : List (Sample α)} {n : Nat}

/-- Minutes between samples as gaps tell them: the upper median if it is a minute or more, and else what the
settings say. -/
def IsInterval (s : Settings α) (gaps : List Int) (minutes : Nat) : Prop :=
  (∃ m, Stats.IsUpperMedian gaps m ∧ 60 ≤ m ∧ (minutes : Int) = m / 60) ∨
    ((∀ m, Stats.IsUpperMedian gaps m → m < 60) ∧ minutes = s.recordStepMinutes)

theorem exists_interval (s : Settings α) (gaps : List Int) : ∃ n, s.IsInterval gaps n := by
  by_cases h : ∃ m, Stats.IsUpperMedian gaps m ∧ 60 ≤ m
  · obtain ⟨m, hm, hlong⟩ := h
    exact ⟨(m / 60).toNat, Or.inl ⟨m, hm, hlong, Int.toNat_of_nonneg (by omega)⟩⟩
  · exact ⟨s.recordStepMinutes, Or.inr ⟨fun m hm => not_le.mp fun hlong => h ⟨m, hm, hlong⟩, rfl⟩⟩

variable [Scalar α]

theorem IsInterval.pos (h : s.IsInterval gaps n) (hvalid : s.fault? = none) : 0 < n := by
  rcases h with ⟨m, -, hlong, hn⟩ | ⟨-, rfl⟩
  · omega
  · exact (recordStepMinutes_bounds hvalid).1

/-- The step is what 32 bits hold of the interval that the gaps tell. -/
theorem stepMinutes_eq (hvalid : s.fault? = none) (h : s.IsInterval (Sampling.gaps samples) n) :
    s.stepMinutes samples = n % 2 ^ 32 := by
  obtain ⟨hpos, hday⟩ := recordStepMinutes_bounds hvalid
  have hrecord : max s.recordStepMinutes 1 = s.recordStepMinutes % 2 ^ 32 := by omega
  unfold stepMinutes Sampling.stepMinutes
  rcases h with ⟨m, hm, hlong, hn⟩ | ⟨hshort, rfl⟩
  · rw [Stats.median?_eq_some_iff.mpr hm]
    simp only [if_pos hlong]
    rw [← hn, Int.toNat_natCast]
    rfl
  · cases hm : Stats.median? (Sampling.gaps samples) with
    | none => exact hrecord
    | some m =>
      have hlong : ¬ 60 ≤ m := not_le.mpr (hshort m (Stats.median?_eq_some_iff.mp hm))
      simp only [if_neg hlong]
      exact hrecord

theorem stepMinutes_lt (hvalid : s.fault? = none) : s.stepMinutes samples < 2 ^ 32 := by
  obtain ⟨n, hn⟩ := s.exists_interval (Sampling.gaps samples)
  rw [stepMinutes_eq hvalid hn]
  exact Nat.mod_lt _ (by decide)

end Settings

/-- The times of a series lie between those of its first and its last sample. -/
theorem byTime_bounds {samples : List (Sample α)} {first last x : Sample α}
    (hfirst : (byTime samples).head? = some first) (hlast : (byTime samples).getLast? = some last)
    (hx : x ∈ byTime samples) : first.timestamp ≤ x.timestamp ∧ x.timestamp ≤ last.timestamp := by
  have hordered := pairwise_byTime samples
  constructor
  · obtain ⟨rest, hrest⟩ := List.head?_eq_some_iff.mp hfirst
    rw [hrest] at hx hordered
    rcases List.mem_cons.mp hx with rfl | hx
    · exact le_rfl
    · exact (List.pairwise_cons.mp hordered).1 x hx
  · obtain ⟨front, hfront⟩ := List.getLast?_eq_some_iff.mp hlast
    rw [hfront] at hx hordered
    rcases List.mem_append.mp hx with hx | hx
    · exact (List.pairwise_append.mp hordered).2.2 x hx last (List.mem_singleton_self last)
    · rw [List.mem_singleton.mp hx]

/-- A span includes a minute for the last sample if there is a step and 64 bits hold the sum. -/
theorem Engine.le_span_iff [Scalar α] {step : Nat} {first last : Sample α} (hfirst : isSigned 64 first.timestamp)
    (hlast : isSigned 64 last.timestamp) (hle : first.timestamp ≤ last.timestamp) (hstep : step < 2 ^ 32) :
    last.timestamp - first.timestamp + 60 ≤ span step first last ↔
      0 < step ∧ last.timestamp - first.timestamp + step * 60 < 2 ^ 63 := by
  rw [isSigned_iff] at hfirst hlast
  rw [span, wrapSigned_eq_held (by omega) (by omega), held]
  split_ifs <;> omega

namespace Settings

open Sampling

variable [Scalar α]

/-- The step is the interval that the times of a series tell, there is one, and the span of the series includes
at least a minute for its last sample. -/
structure StepsRight (s : Settings α) (series : List (Sample α)) (first last : Sample α) : Prop where
  interval : s.IsInterval ((differences series).filter (0 < ·)) (s.stepMinutes series)
  pos : 0 < s.stepMinutes series
  span : last.timestamp - first.timestamp + 60 ≤ Engine.span (s.stepMinutes series) first last

variable {s : Settings α} {samples : List (Sample α)} {n : Nat} {first last : Sample α}

/-- Where 64 bits hold all differences, only minutes are lost. -/
theorem stepMinutes_eq_of_held (hvalid : s.fault? = none) (hwords : ∀ x ∈ samples, isSigned 64 x.timestamp)
    (hheld : ∀ d ∈ differences samples, isSigned 64 d)
    (hn : s.IsInterval ((differences samples).filter (0 < ·)) n) : s.stepMinutes samples = n % 2 ^ 32 := by
  apply stepMinutes_eq hvalid
  rwa [gaps_eq hwords, map_held hheld]

theorem stepsRight_iff (hvalid : s.fault? = none) (hwords : ∀ x ∈ samples, isSigned 64 x.timestamp)
    (hfirst : (byTime samples).head? = some first) (hlast : (byTime samples).getLast? = some last) :
    s.StepsRight (byTime samples) first last ↔
      ∃ n, s.IsInterval ((differences (byTime samples)).filter (0 < ·)) n ∧ n < 2 ^ 32 ∧
        last.timestamp - first.timestamp + n * 60 < 2 ^ 63 := by
  have hwords' : ∀ x ∈ byTime samples, isSigned 64 x.timestamp := fun x hx => hwords x (mem_byTime.mp hx)
  have hmem := List.mem_of_mem_head? hfirst
  have hmem' := List.mem_of_mem_getLast? hlast
  have hwidth : s.stepMinutes (byTime samples) < 2 ^ 32 := stepMinutes_lt hvalid
  have hspan := Engine.le_span_iff (hwords' first hmem) (hwords' last hmem')
    (byTime_bounds hfirst hlast hmem').1 hwidth
  constructor
  · intro h
    exact ⟨_, h.interval, hwidth, (hspan.mp h.span).2⟩
  · rintro ⟨n, hn, hlt, hsum⟩
    have hheld : ∀ d ∈ differences (byTime samples), isSigned 64 d := by
      intro d hd
      obtain ⟨a, ha, b, hb, rfl⟩ := exists_of_mem_differences hd
      have ha' := byTime_bounds hfirst hlast ha
      have hb' := byTime_bounds hfirst hlast hb
      rw [isSigned_iff]
      omega
    have hstep : s.stepMinutes (byTime samples) = n := by
      rw [stepMinutes_eq_of_held hvalid hwords' hheld hn, Nat.mod_eq_of_lt hlt]
    refine ⟨hstep.symm ▸ hn, hstep.symm ▸ hn.pos hvalid, hspan.mpr ?_⟩
    rw [hstep]
    exact ⟨hn.pos hvalid, hsum⟩

/-- Nothing is lost of a series that spans less than as many minutes as 32 bits count. -/
theorem stepsRight_of_short (hvalid : s.fault? = none) (hwords : ∀ x ∈ samples, isSigned 64 x.timestamp)
    (hfirst : (byTime samples).head? = some first) (hlast : (byTime samples).getLast? = some last)
    (hshort : last.timestamp - first.timestamp < 60 * 2 ^ 32) : s.StepsRight (byTime samples) first last := by
  obtain ⟨n, hn⟩ := s.exists_interval ((differences (byTime samples)).filter (0 < ·))
  refine (stepsRight_iff hvalid hwords hfirst hlast).mpr ⟨n, hn, ?_⟩
  rcases hn with ⟨m, hm, hlong, hminutes⟩ | ⟨-, rfl⟩
  · obtain ⟨a, ha, b, hb, rfl⟩ := exists_of_mem_differences (List.mem_of_mem_filter hm.mem)
    have ha' := byTime_bounds hfirst hlast ha
    have hb' := byTime_bounds hfirst hlast hb
    omega
  · have hday := (recordStepMinutes_bounds hvalid).2
    omega

/-- The step is what 32 bits hold of the interval that gaps of 64 bits tell. If these bits hold every gap, it is
the interval itself exactly if that is below 2³² minutes, and vanishes exactly if that is a multiple of them. A
series in order of time steps right exactly if its interval is below 2³² minutes and its span with the interval
below 2⁶³ seconds, as for every series of less than 2³² minutes. -/
theorem stepMinutes_tells_interval (s : Settings α) (samples : List (Sample α)) (hvalid : s.fault? = none)
    (hwords : ∀ x ∈ samples, isSigned 64 x.timestamp) :
    (∃ n, s.IsInterval (((differences samples).map held).filter (0 < ·)) n ∧
      s.stepMinutes samples = n % 2 ^ 32) ∧
    ((∀ d ∈ differences samples, isSigned 64 d) →
      ∃ n, s.IsInterval ((differences samples).filter (0 < ·)) n ∧
        (s.stepMinutes samples = n ↔ n < 2 ^ 32) ∧ (s.stepMinutes samples = 0 ↔ 2 ^ 32 ∣ n)) ∧
    ∀ first last, (byTime samples).head? = some first → (byTime samples).getLast? = some last →
      (s.StepsRight (byTime samples) first last ↔
        ∃ n, s.IsInterval ((differences (byTime samples)).filter (0 < ·)) n ∧ n < 2 ^ 32 ∧
          last.timestamp - first.timestamp + n * 60 < 2 ^ 63) ∧
      (last.timestamp - first.timestamp < 60 * 2 ^ 32 → s.StepsRight (byTime samples) first last) := by
  refine ⟨?_, fun hheld => ?_, fun first last hfirst hlast =>
    ⟨stepsRight_iff hvalid hwords hfirst hlast, stepsRight_of_short hvalid hwords hfirst hlast⟩⟩
  · obtain ⟨n, hn⟩ := s.exists_interval (((differences samples).map held).filter (0 < ·))
    exact ⟨n, hn, stepMinutes_eq hvalid (gaps_eq hwords ▸ hn)⟩
  · obtain ⟨n, hn⟩ := s.exists_interval ((differences samples).filter (0 < ·))
    refine ⟨n, hn, ?_⟩
    rw [stepMinutes_eq_of_held hvalid hwords hheld hn]
    omega

end Settings

/-! Three readings of one quarter of an hour, and two readings so far apart that no minutes are left of the time
between them. -/
namespace Apart

def reading (t : Int) : Sample Rat := ⟨"i-1", "m5.large", t, 50, 50, -1, -1, -1⟩

def settings : Settings Rat := .default

def quarter : List (Sample Rat) := [reading 0, reading 300, reading 900]

def millennia : List (Sample Rat) := [reading 0, reading 257698037760]

theorem fault?_settings : settings.fault? = none := by
  rw [← Option.isNone_iff_eq_none]
  decide

end Apart

theorem stepMinutes_tells_interval_quarter : Apart.settings.fault? = none ∧
    (∀ x ∈ Apart.quarter, isSigned 64 x.timestamp) ∧
    Apart.settings.StepsRight (byTime Apart.quarter) (Apart.reading 0) (Apart.reading 900) := by
  have hwords : ∀ x ∈ Apart.quarter, isSigned 64 x.timestamp := by decide
  have hordered : byTime Apart.quarter = Apart.quarter := List.mergeSort_of_pairwise (by decide)
  obtain ⟨-, -, hright⟩ :=
    Settings.stepMinutes_tells_interval Apart.settings Apart.quarter Apart.fault?_settings hwords
  refine ⟨Apart.fault?_settings, hwords, (hright _ _ ?_ ?_).2 (by decide)⟩
  · rw [hordered]
    rfl
  · rw [hordered]
    rfl

/-- As many minutes as 32 bits count are no step at all, and the span of the series ends with its last sample. -/
theorem step_lost : Apart.settings.fault? = none ∧
    (∀ x ∈ Apart.millennia, isSigned 64 x.timestamp) ∧
    Apart.settings.IsInterval ((Sampling.differences Apart.millennia).filter (0 < ·)) 4294967296 ∧
    Apart.settings.stepMinutes Apart.millennia = 0 ∧
    Engine.span (Apart.settings.stepMinutes Apart.millennia) (Apart.reading 0) (Apart.reading 257698037760) =
      257698037760 := by
  have hwords : ∀ x ∈ Apart.millennia, isSigned 64 x.timestamp := by decide
  have hinterval :
      Apart.settings.IsInterval ((Sampling.differences Apart.millennia).filter (0 < ·)) 4294967296 :=
    Or.inl ⟨257698037760, by decide, by decide, by decide⟩
  have hstep : Apart.settings.stepMinutes Apart.millennia = 0 :=
    Settings.stepMinutes_eq_of_held Apart.fault?_settings hwords (by decide) hinterval
  refine ⟨Apart.fault?_settings, hwords, hinterval, hstep, ?_⟩
  rw [hstep]
  decide

end FleetSizing
