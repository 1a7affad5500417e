import FleetSizing.Proofs.Schedule.Partition
import FleetSizing.Proofs.Schedule.Weekdays
import FleetSizing.Proofs.Stats.Bounds

/-! What merging makes of daily windows: each merged window is a daily one on the weekdays of several,
and every daily window lends its weekday to one of them. -/
namespace FleetSizing

namespace Grid

variable {α : Type} [Scalar α] {g : Grid} {minMinutes : Nat} {w : Window α}

theorem exists_run_of_mem_dailyWindows (h : w ∈ g.dailyWindows α minMinutes) :
    ∃ r ∈ g.runs α, r.window g = w := by
  obtain ⟨r, hr, rfl⟩ := List.mem_map.mp (List.mem_filter.mp h).1
  exact ⟨r, hr, rfl⟩

theorem weekdays_of_mem_dailyWindows (h : w ∈ g.dailyWindows α minMinutes) :
    ∃ day, w.weekdays = [day] := by
  obtain ⟨r, -, rfl⟩ := exists_run_of_mem_dailyWindows h
  exact ⟨r.day, Run.window_weekdays⟩

theorem times_of_mem_dailyWindows (h : w ∈ g.dailyWindows α minMinutes) :
    w.start ≠ w.stop ∧ minMinutes ≤ w.duration := by
  obtain ⟨day, hday⟩ := weekdays_of_mem_dailyWindows h
  have hkeeps := (List.mem_filter.mp h).2
  simp only [keepsWindow, Window.isAlwaysRun, hday, Bool.and_eq_true, Bool.or_eq_true,
    bne_iff_ne, decide_eq_true_eq] at hkeeps
  obtain ⟨⟨hne, -⟩, ⟨hlong, -⟩ | hlong⟩ := hkeeps
  · simp at hlong
  · exact ⟨hne, hlong⟩

/-- Probabilities of daily windows are at least even. -/
theorem probability_of_mem_dailyWindows {w : Window Rat} (h : w ∈ g.dailyWindows Rat minMinutes) :
    1 / 2 ≤ w.probability ∧ w.probability ≤ 1 := by
  obtain ⟨r, -, rfl⟩ := exists_run_of_mem_dailyWindows h
  have hkeeps := (List.mem_filter.mp h).2
  simp only [keepsWindow, Bool.and_eq_true, decide_eq_true_eq] at hkeeps
  refine ⟨hkeeps.1.2, ?_⟩
  rw [Run.window_probability]
  exact (Scalar.clamp_mem (by decide)).2

end Grid

namespace Window

/-- A window that has the weekdays of other windows, of one each, and the times of one of them. -/
structure FoldedFrom {α : Type} (members : List (Window α)) (m : Window α) : Prop where
  weekdays : m.weekdays.map ([·]) = members.map (·.weekdays)
  times : ∃ v ∈ members, m.start = v.start ∧ m.stop = v.stop

end Window

namespace WindowFamily

variable {α : Type} {f : WindowFamily α}

theorem map_singleton_flatMap {vs : List (Window α)} (h : ∀ v ∈ vs, ∃ day, v.weekdays = [day]) :
    (vs.flatMap (·.weekdays)).map ([·]) = vs.map (·.weekdays) := by
  induction vs with
  | nil => rfl
  | cons v vs ih =>
    obtain ⟨day, hday⟩ := h v List.mem_cons_self
    rw [List.flatMap_cons, List.map_append, List.map_cons,
      ih fun u hu => h u (List.mem_cons_of_mem _ hu), hday]
    rfl

theorem Orderly.earlier (h : f.Orderly Weekday.RightBefore) : f.Orderly Weekday.Earlier :=
  ⟨h.head_eq, h.chain.imp fun _ _ => Weekday.RightBefore.earlier⟩

theorem Orderly.foldedFrom [Scalar α] (h : f.Orderly Weekday.RightBefore)
    (hdays : ∀ v ∈ f.members, ∃ day, v.weekdays = [day]) :
    Window.FoldedFrom f.members f.group.merged := by
  refine ⟨?_, f.leader, List.mem_cons_self, rfl, rfl⟩
  rw [h.earlier.weekdays_merged]
  exact map_singleton_flatMap hdays

/-- The mean of probabilities lies between their bounds. -/
theorem probability_merged {f : WindowFamily Rat}
    (h : ∀ v ∈ f.members, 1 / 2 ≤ v.probability ∧ v.probability ≤ 1) :
    1 / 2 ≤ f.group.merged.probability ∧ f.group.merged.probability ≤ 1 := by
  have hne : f.members.map (·.probability) ≠ [] := by simp [members]
  obtain ⟨hlo, hhi⟩ := Stats.mean_mem hne (List.forall_mem_map.mpr h)
  rw [Stats.mean, if_neg (by simpa using hne)] at hlo hhi
  have hclamp : f.group.merged.probability = Scalar.sum (f.members.map (·.probability)) /
      ((f.members.map (·.probability)).length : Rat) :=
    Scalar.clamp_eq_self (le_trans (by norm_num) hlo) hhi
  rw [hclamp]
  exact ⟨hlo, hhi⟩

end WindowFamily

namespace Window

variable {α : Type} {tolerance : Nat} {ws : List (Window α)}

theorem orderly_families_of_single (h : ∀ w ∈ ws, ∃ day, w.weekdays = [day]) :
    ∀ f ∈ families tolerance ws, f.Orderly Weekday.RightBefore := by
  apply orderly_families fun _ _ => id
  intro w hw
  obtain ⟨day, hday⟩ := h w hw
  rw [hday]
  exact List.isChain_singleton day

theorem FoldedFrom.length_eq {members : List (Window α)} {m : Window α} (h : FoldedFrom members m) :
    m.weekdays.length = members.length := by
  rw [← List.length_map ([·]), h.weekdays, List.length_map]

theorem sum_length_of_shares {shares : List (List (Window α))} {ms : List (Window α)}
    (h : List.Forall₂ FoldedFrom shares ms) :
    (ms.map (·.weekdays.length)).sum = shares.flatten.length := by
  induction h with
  | nil => rfl
  | cons hfolded _ ih =>
    rw [List.map_cons, List.sum_cons, ih, hfolded.length_eq, List.flatten_cons, List.length_append]

/-- Windows of one weekday each are shared out among the merged windows. -/
theorem exists_shares [Scalar α] (h : ∀ w ∈ ws, ∃ day, w.weekdays = [day]) :
    ∃ shares : List (List (Window α)), shares.flatten.Perm ws ∧
      List.Forall₂ FoldedFrom shares (mergeAdjacent tolerance ws) := by
  refine ⟨(families tolerance ws).map WindowFamily.members, families_perm, ?_⟩
  rw [mergeAdjacent_eq_map, List.forall₂_map_left_iff, List.forall₂_map_right_iff, List.forall₂_same]
  intro f hf
  refine (orderly_families_of_single h f hf).foldedFrom fun v hv => ?_
  exact h v (mem_families_iff.mp ⟨f, hf, hv⟩)

end Window

namespace Grid

variable (α : Type) [Scalar α] (g : Grid)

open Window

/-- A merged window has the times of a daily window, so it lasts long enough and does not stop where it
starts, and its weekdays are days in a row. Each daily window lends its weekday to one merged window,
and the probabilities stay as high as those of daily windows. -/
theorem merged_of_dailyWindows (minMinutes tolerance : Nat) :
    (∀ m ∈ mergeAdjacent tolerance (g.dailyWindows α minMinutes),
      m.start ≠ m.stop ∧ minMinutes ≤ m.duration ∧ m.weekdays ≠ [] ∧ m.weekdays.Nodup ∧
        m.weekdays.IsChain Weekday.RightBefore) ∧
    (∃ shares : List (List (Window α)), shares.flatten.Perm (g.dailyWindows α minMinutes) ∧
      List.Forall₂ FoldedFrom shares (mergeAdjacent tolerance (g.dailyWindows α minMinutes))) ∧
    ((mergeAdjacent tolerance (g.dailyWindows α minMinutes)).map (·.weekdays.length)).sum =
      (g.dailyWindows α minMinutes).length ∧
    ∀ m ∈ mergeAdjacent tolerance (g.dailyWindows Rat minMinutes),
      1 / 2 ≤ m.probability ∧ m.probability ≤ 1 := by
  have hsingle : ∀ w ∈ g.dailyWindows α minMinutes, ∃ day, w.weekdays = [day] :=
    fun w hw => weekdays_of_mem_dailyWindows hw
  obtain ⟨shares, hperm, hfolded⟩ : ∃ shares : List (List (Window α)),
    shares.flatten.Perm (g.dailyWindows α minMinutes) ∧
      List.Forall₂ FoldedFrom shares (mergeAdjacent tolerance (g.dailyWindows α minMinutes)) :=
    exists_shares hsingle
  refine ⟨?_, ⟨shares, hperm, hfolded⟩, ?_, ?_⟩
  · intro m hm
    rw [mergeAdjacent_eq_map] at hm
    obtain ⟨f, hf, rfl⟩ := List.mem_map.mp hm
    have horderly := orderly_families_of_single hsingle f hf
    have hleader : f.leader ∈ g.dailyWindows α minMinutes :=
      mem_families_iff.mp ⟨f, hf, List.mem_cons_self⟩
    obtain ⟨hne, hlong⟩ := times_of_mem_dailyWindows hleader
    obtain ⟨day, hday⟩ := hsingle f.leader hleader
    have hearlier : f.group.merged.weekdays.Pairwise Weekday.Earlier := pairwise_orderedDays _
    refine ⟨hne, hlong, ?_, nodup_of_earlier hearlier, ?_⟩
    · rw [horderly.earlier.weekdays_merged]
      intro hnil
      have hhead := horderly.head_eq
      simp [hnil, hday] at hhead
    · rw [horderly.earlier.weekdays_merged]
      exact horderly.chain
  · rw [sum_length_of_shares hfolded, hperm.length_eq]
  · intro m hm
    rw [mergeAdjacent_eq_map] at hm
    obtain ⟨f, hf, rfl⟩ := List.mem_map.mp hm
    apply WindowFamily.probability_merged
    intro v hv
    exact probability_of_mem_dailyWindows (mem_families_iff.mp ⟨f, hf, hv⟩)

/-- Three slots a day; the middle ones of Monday, Tuesday and Thursday were never observed. -/
def dayShifts : Grid :=
  { nightShift with
    cells := (Array.range 21).map fun i => ⟨if i = 1 ∨ i = 4 ∨ i = 10 then 0 else 1, 0⟩
    size_cells := by
      rw [Array.size_map, Array.size_range]
      rfl }

theorem length_dayShifts : (dayShifts.dailyWindows Rat 60).length = 3 := by
  decide +kernel

theorem merged_of_dailyWindows_dayShifts :
    ((mergeAdjacent 30 (dayShifts.dailyWindows Rat 60)).map (·.weekdays.length)).sum = 3 ∧
      ∃ m ∈ mergeAdjacent 30 (dayShifts.dailyWindows Rat 60),
        60 ≤ m.duration ∧ 1 / 2 ≤ m.probability ∧ m.weekdays ≠ [] := by
  obtain ⟨hshape, -, hsum, hprobability⟩ := merged_of_dailyWindows Rat dayShifts 60 30
  have hne : mergeAdjacent 30 (dayShifts.dailyWindows Rat 60) ≠ [] := by
    intro hnil
    rw [hnil, length_dayShifts] at hsum
    cases hsum
  obtain ⟨m, hm⟩ := List.exists_mem_of_ne_nil _ hne
  obtain ⟨-, hlong, hdays, -⟩ := hshape m hm
  exact ⟨hsum.trans length_dayShifts, m, hm, hlong, (hprobability m hm).1, hdays⟩

end Grid

end FleetSizing
