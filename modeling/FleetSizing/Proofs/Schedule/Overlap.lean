import FleetSizing.Proofs.Schedule.Merged
import FleetSizing.Proofs.Schedule.Patterns
import Mathlib.Data.List.Nodup

/-! When merged windows overlap. A merged window has the times of its first member on the weekdays of all,
and may reach into another window of those days. -/
namespace FleetSizing

namespace Window

variable {α : Type} {tolerance later earlier margin : Nat} {ws : List (Window α)}
  {a b v w : Window α} {d e : Weekday}

/-- Each window closes so many minutes before the other opens, on the clock of the week. -/
def Clear (margin : Nat) (v w : Window α) : Prop :=
  ∀ d ∈ v.weekdays, ∀ e ∈ w.weekdays,
    v.duration + margin ≤ v.elapsed d e w.start.minute ∧
      w.duration + margin ≤ w.elapsed e d v.start.minute

instance : Decidable (Clear margin v w) :=
  inferInstanceAs (Decidable (∀ d ∈ v.weekdays, ∀ e ∈ w.weekdays, _))

instance : Std.Symm (Clear (α := α) margin) where
  symm _ _ h d hd e he := (h e he d hd).symm

theorem elapsed_opening : w.elapsed e e w.start.minute = 0 := by
  rw [elapsed_self (Nat.le_refl _) w.start.minute_lt, Nat.sub_self]

theorem contains_opening (h : d ∈ w.weekdays) : w.contains d w.start.minute := by
  rw [contains_iff w.start.minute_lt]
  exact ⟨d, h, by rw [elapsed_opening]; exact w.duration_pos⟩

/-- Windows do not overlap exactly if each closes before the other opens. -/
theorem apart_iff_clear : Apart v w ↔ Clear 0 v w := by
  constructor
  · intro happart d hd e he
    constructor
    · by_contra hopen
      refine happart e w.start.minute w.start.minute_lt ⟨?_, contains_opening he⟩
      rw [contains_iff w.start.minute_lt]
      exact ⟨d, hd, by omega⟩
    · by_contra hopen
      refine happart d v.start.minute v.start.minute_lt ⟨contains_opening hd, ?_⟩
      rw [contains_iff v.start.minute_lt]
      exact ⟨e, he, by omega⟩
  · rintro hclear day minute hm ⟨hv, hw⟩
    obtain ⟨d, hd, hin⟩ := (contains_iff hm).mp hv
    obtain ⟨e, he, hin'⟩ := (contains_iff hm).mp hw
    obtain ⟨hbefore, hafter⟩ := hclear d hd e he
    have hq := day.clock_lt hm
    have ha := d.clock_lt v.start.minute_lt
    have hb := e.clock_lt w.start.minute_lt
    simp only [elapsed] at *
    generalize day.clock minute = q at *
    generalize d.clock v.start.minute = x at *
    generalize e.clock w.start.minute = y at *
    simp only [minutesPerWeek, minutesPerDay] at *
    omega

theorem Clear.apart (h : Clear margin v w) : Apart v w := by
  refine apart_iff_clear.mpr fun d hd e he => ?_
  obtain ⟨hbefore, hafter⟩ := h d hd e he
  constructor <;> omega

/-- From one opening to another and on to the first again it takes a week. -/
theorem elapsed_add_elapsed (h : 0 < v.elapsed d e w.start.minute) :
    v.elapsed d e w.start.minute + w.elapsed e d v.start.minute = minutesPerWeek := by
  have hv := d.clock_lt v.start.minute_lt
  have hw := e.clock_lt w.start.minute_lt
  simp only [elapsed] at *
  generalize d.clock v.start.minute = x at *
  generalize e.clock w.start.minute = y at *
  simp only [minutesPerWeek, minutesPerDay] at *
  omega

/-- Two windows that open at other times on the same weekdays. -/
theorem elapsed_shift
    (hle : a.start.minute + w.start.minute ≤
      v.elapsed d e w.start.minute + v.start.minute + b.start.minute)
    (hlt : v.elapsed d e w.start.minute + v.start.minute + b.start.minute <
      a.start.minute + w.start.minute + minutesPerWeek) :
    a.elapsed d e b.start.minute + (a.start.minute + w.start.minute) =
      v.elapsed d e w.start.minute + v.start.minute + b.start.minute := by
  have hd := d.index_lt
  have he := e.index_lt
  have ha := a.start.minute_lt
  have hb := b.start.minute_lt
  have hv := v.start.minute_lt
  have hw := w.start.minute_lt
  simp only [elapsed, Weekday.clock, minutesPerWeek, minutesPerDay] at *
  omega

/-- Windows that are clear of each other by as much as their edges move stay apart. -/
theorem Clear.of_keeps (h : Clear (later + earlier) v w) (ha : Keeps later earlier a v)
    (hb : Keeps later earlier b w) : Clear 0 (a.on v.weekdays) (b.on w.weekdays) := by
  intro d hd e he
  obtain ⟨hbefore, hafter⟩ := h d hd e he
  obtain ⟨⟨hopenA, hopenA'⟩, hcloseA, -⟩ := ha
  obtain ⟨⟨hopenB, hopenB'⟩, hcloseB, -⟩ := hb
  have hv := v.duration_pos
  have hw := w.duration_pos
  have hweek := elapsed_add_elapsed (Nat.lt_of_lt_of_le (Nat.lt_add_right _ hv) hbefore)
  simp only [close] at hcloseA hcloseB
  have hshift : a.elapsed d e b.start.minute + (a.start.minute + w.start.minute) =
      v.elapsed d e w.start.minute + v.start.minute + b.start.minute := by
    apply elapsed_shift <;> omega
  have hshift' : b.elapsed e d a.start.minute + (b.start.minute + v.start.minute) =
      w.elapsed e d v.start.minute + w.start.minute + a.start.minute := by
    apply elapsed_shift <;> omega
  show a.duration + 0 ≤ a.elapsed d e b.start.minute ∧ b.duration + 0 ≤ b.elapsed e d a.start.minute
  omega

theorem Apart.irrefl (h : w.weekdays ≠ []) : ¬ Apart w w := by
  obtain ⟨d, hd⟩ := List.exists_mem_of_ne_nil _ h
  intro happart
  exact happart d w.start.minute w.start.minute_lt ⟨contains_opening hd, contains_opening hd⟩

theorem nodup_of_apart (hdays : ∀ v ∈ ws, ∃ d, v.weekdays = [d]) (hapart : ws.Pairwise Apart) :
    ws.Nodup := by
  refine hapart.imp_of_mem fun hv _ hnone => ?_
  rintro rfl
  obtain ⟨d, hd⟩ := hdays _ hv
  exact Apart.irrefl (by simp [hd]) hnone

/-- The same times on two weekdays. -/
theorem clear_on_of_ne (a : Window α) (h : d ≠ e) : Clear 0 (a.on [d]) (a.on [e]) := by
  intro d' hd' e' he'
  obtain rfl := List.mem_singleton.mp hd'
  obtain rfl := List.mem_singleton.mp he'
  have hindex : d'.index ≠ e'.index := fun heq => h (Weekday.index_inj heq)
  have hd := d'.index_lt
  have he := e'.index_lt
  have hstart := a.start.minute_lt
  have hduration := a.duration_le
  show a.duration + 0 ≤ a.elapsed d' e' a.start.minute ∧ a.duration + 0 ≤ a.elapsed e' d' a.start.minute
  simp only [elapsed, Weekday.clock, minutesPerWeek, minutesPerDay] at *
  omega

/-- The members of a family keep apart. -/
theorem clear_on_of_mem {f : WindowFamily α} (h : f.Orderly Weekday.Earlier)
    (hdays : ∀ v ∈ f.members, ∃ d, v.weekdays = [d]) (hv : v ∈ f.members) (hw : w ∈ f.members)
    (hne : v ≠ w) : Clear 0 (f.leader.on v.weekdays) (f.leader.on w.weekdays) := by
  have hnodup : (f.members.map (·.weekdays)).Nodup := by
    rw [← WindowFamily.map_singleton_flatMap hdays]
    exact (nodup_of_earlier (List.isChain_iff_pairwise.mp h.chain)).map (by simp [Function.Injective])
  obtain ⟨d, hd⟩ := hdays v hv
  obtain ⟨e, he⟩ := hdays w hw
  rw [hd, he]
  apply clear_on_of_ne
  rintro rfl
  exact hne (List.inj_on_of_nodup_map hnodup hv hw (hd.trans he.symm))

section

variable [Scalar α]

theorem apart_merged_iff {f f' : WindowFamily α} : Apart f.group.merged f'.group.merged ↔
    ∀ v ∈ f.members, ∀ w ∈ f'.members, Apart (f.leader.on v.weekdays) (f'.leader.on w.weekdays) := by
  constructor
  · rintro happart v hv w hw day minute hm ⟨hin, hin'⟩
    exact happart day minute hm
      ⟨(contains_merged_iff hm).mpr ⟨v, hv, hin⟩, (contains_merged_iff hm).mpr ⟨w, hw, hin'⟩⟩
  · rintro happart day minute hm ⟨hin, hin'⟩
    obtain ⟨v, hv, hc⟩ := (contains_merged_iff hm).mp hin
    obtain ⟨w, hw, hc'⟩ := (contains_merged_iff hm).mp hin'
    exact happart v hv w hw day minute hm ⟨hc, hc'⟩

/-- Merged windows do not overlap exactly if the times that merging gives to two daily windows leave
them apart. -/
theorem pairwise_apart_iff_leads (hdays : ∀ v ∈ ws, ∃ d, v.weekdays = [d]) (hapart : ws.Pairwise Apart) :
    (mergeAdjacent tolerance ws).Pairwise Apart ↔ ∀ a v b w, Leads tolerance ws a v →
      Leads tolerance ws b w → v ≠ w → Clear 0 (a.on v.weekdays) (b.on w.weekdays) := by
  rw [mergeAdjacent_eq_map, List.pairwise_map]
  constructor
  · rintro hmerged a v b w ⟨f, hf, rfl, hv⟩ ⟨f', hf', rfl, hw⟩ hne
    by_cases hsame : f = f'
    · subst hsame
      refine clear_on_of_mem (orderly_families_of_single hdays f hf).earlier ?_ hv hw hne
      exact fun u hu => hdays u (mem_families_iff.mp ⟨f, hf, hu⟩)
    · have : Std.Symm fun f f' : WindowFamily α => Apart f.group.merged f'.group.merged :=
        ⟨fun _ _ h => symm h⟩
      exact apart_iff_clear.mp (apart_merged_iff.mp (hmerged.forall hf hf' hsame) v hv w hw)
  · intro hclear
    have hnodup : ((families tolerance ws).flatMap WindowFamily.members).Nodup :=
      families_perm.nodup_iff.mpr (nodup_of_apart hdays hapart)
    refine (List.nodup_flatMap.mp hnodup).2.imp_of_mem fun hf hf' hdisjoint => ?_
    rw [apart_merged_iff]
    intro v hv w hw
    refine apart_iff_clear.mpr (hclear _ v _ w ⟨_, hf, rfl, hv⟩ ⟨_, hf', rfl, hw⟩ ?_)
    rintro rfl
    exact hdisjoint hv hw

/-- Merging leaves daily windows apart that are clear of each other by as much as it moves edges. -/
theorem pairwise_apart_of_clear (hdays : ∀ v ∈ ws, ∃ d, v.weekdays = [d])
    (hkeeps : ∀ a v, Leads tolerance ws a v → Keeps later earlier a v)
    (hclear : ws.Pairwise (Clear (later + earlier))) : (mergeAdjacent tolerance ws).Pairwise Apart := by
  rw [pairwise_apart_iff_leads hdays (hclear.imp Clear.apart)]
  intro a v b w hv hw hne
  exact (hclear.forall hv.mem hw.mem hne).of_keeps (hkeeps a v hv) (hkeeps b w hw)

end

theorem Leads.keeps_exactly (h : Leads 0 ws a v) : Keeps 0 0 a v := by
  obtain ⟨f, hf, rfl, hm⟩ := h
  rcases List.mem_cons.mp hm with rfl | hfollows
  · exact ⟨Near.refl _, Near.refl _⟩
  · obtain ⟨hstart, hstop⟩ := alike_families f hf v hfollows
    have hleader := f.leader.start.minute_lt
    have hleader' := f.leader.stop.minute_lt
    have hv := v.start.minute_lt
    have hv' := v.stop.minute_lt
    have hopens : f.leader.start.minute = v.start.minute := by
      simp only [minuteDistance] at hstart
      omega
    have hcloses : f.leader.stop.minute = v.stop.minute := by
      simp only [minuteDistance] at hstop
      omega
    have hclose : f.leader.close = v.close := by
      rw [close, close, duration, duration, hopens, hcloses]
    exact ⟨hopens ▸ Near.refl _, hclose ▸ Near.refl _⟩

end Window

namespace Grid

variable (α : Type) [Scalar α] (g : Grid)

open Window

theorem pairwise_apart_dailyWindows (minMinutes : Nat) : (g.dailyWindows α minMinutes).Pairwise Apart :=
  windows_apart.filter _

/-- Merged daily windows do not overlap exactly if the times that merging gives to any two daily windows
leave each of them closed before the other opens. They do where the daily windows are clear of each
other by as much as merging moves edges, and with a tolerance of zero it moves none. -/
theorem merged_pairwise_apart_iff (minMinutes tolerance : Nat) :
    ((mergeAdjacent tolerance (g.dailyWindows α minMinutes)).Pairwise Apart ↔
      ∀ a v b w, Leads tolerance (g.dailyWindows α minMinutes) a v →
        Leads tolerance (g.dailyWindows α minMinutes) b w →
        v ≠ w → Clear 0 (a.on v.weekdays) (b.on w.weekdays)) ∧
    (∀ later earlier,
      (∀ a v, Leads tolerance (g.dailyWindows α minMinutes) a v → Keeps later earlier a v) →
      (g.dailyWindows α minMinutes).Pairwise (Clear (later + earlier)) →
      (mergeAdjacent tolerance (g.dailyWindows α minMinutes)).Pairwise Apart) ∧
    (tolerance = 0 → (mergeAdjacent tolerance (g.dailyWindows α minMinutes)).Pairwise Apart) := by
  have hdays : ∀ w ∈ g.dailyWindows α minMinutes, ∃ day, w.weekdays = [day] :=
    fun w hw => weekdays_of_mem_dailyWindows hw
  have hapart : (g.dailyWindows α minMinutes).Pairwise Apart := pairwise_apart_dailyWindows α g minMinutes
  refine ⟨pairwise_apart_iff_leads hdays hapart, ?_, ?_⟩
  · exact fun later earlier hkeeps hclear => pairwise_apart_of_clear hdays hkeeps hclear
  · intro hzero
    subst hzero
    have hkeeps : ∀ a v, Leads 0 (g.dailyWindows α minMinutes) a v → Keeps 0 0 a v :=
      fun a v => Leads.keeps_exactly
    exact pairwise_apart_of_clear hdays hkeeps (hapart.imp fun h => apart_iff_clear.mp h)

end Grid

/-! Office hours from nine on Monday and from twenty past nine on Tuesday, where a job runs before them
from seven on. -/
namespace Handover

open Window

def busy (stop : Nat) : Weekday → Nat → Bool
  | .mon, slot => 54 ≤ slot && slot < 102
  | .tue, slot => (42 ≤ slot && slot < stop) || (56 ≤ slot && slot < 102)
  | _, _ => false

/-- Slots of ten minutes; the job stops before the given one. -/
def grid (stop : Nat) : Grid := .ofPattern 10 (by decide) (busy stop)

def monday (stop : Nat) : Window Rat :=
  Run.window (grid stop) ⟨.mon, 54, 102, 0⟩

def early (stop : Nat) : Window Rat :=
  Run.window (grid stop) ⟨.tue, 42, stop, 0⟩

def tuesday (stop : Nat) : Window Rat :=
  Run.window (grid stop) ⟨.tue, 56, 102, 0⟩

variable {stop : Nat}

theorem daily_grid (h : stop = 48 ∨ stop = 55) :
    (grid stop).dailyWindows Rat 30 = [monday stop, early stop, tuesday stop] := by
  have hruns : (grid stop).runs Rat =
      [⟨.mon, 54, 102, 0⟩, ⟨.tue, 42, stop, 0⟩, ⟨.tue, 56, 102, 0⟩] := by
    rw [grid, Grid.runs_ofPattern]
    rcases h with rfl | rfl <;> decide
  rw [grid] at hruns ⊢
  rw [Grid.dailyWindows_ofPattern, hruns]
  rcases h with rfl | rfl <;> rfl

theorem families_grid (h : stop = 48 ∨ stop = 55) :
    families 30 ((grid stop).dailyWindows Rat 30) =
      [⟨monday stop, [tuesday stop]⟩, ⟨early stop, []⟩] := by
  have hsorted : [monday stop, early stop, tuesday stop].Pairwise fun v w => opensBefore v w := by
    rcases h with rfl | rfl <;> decide
  rw [daily_grid h, families, List.mergeSort_of_pairwise hsorted]
  rcases h with rfl | rfl <;> rfl

theorem leads_grid (h : stop = 48 ∨ stop = 55) {a v : Window Rat} :
    Leads 30 ((grid stop).dailyWindows Rat 30) a v ↔
      a = monday stop ∧ (v = monday stop ∨ v = tuesday stop) ∨ a = early stop ∧ v = early stop := by
  rw [Leads, families_grid h]
  simp [WindowFamily.members, eq_comm]

end Handover

namespace Grid

open Window

/-- The job runs on until ten past nine. -/
theorem merged_overlap_handover :
    ¬ (mergeAdjacent 30 ((Handover.grid 55).dailyWindows Rat 30)).Pairwise Apart := by
  rw [pairwise_apart_iff_leads (fun w hw => weekdays_of_mem_dailyWindows hw)
    (pairwise_apart_dailyWindows Rat _ 30)]
  intro hclear
  have hoffice := (Handover.leads_grid (Or.inr rfl)).mpr (Or.inl ⟨rfl, Or.inr rfl⟩)
  have hjob := (Handover.leads_grid (Or.inr rfl)).mpr (Or.inr ⟨rfl, rfl⟩)
  have hne : Handover.early 55 ≠ Handover.tuesday 55 :=
    fun h => absurd (congrArg (·.start.minute) h) (by decide)
  exact absurd (hclear _ _ _ _ hjob hoffice hne) (by decide)

/-- The job stops at eight, and the office may open at nine. -/
theorem merged_pairwise_apart_iff_handover :
    (∀ a v, Leads 30 ((Handover.grid 48).dailyWindows Rat 30) a v → Keeps 0 20 a v) ∧
      ((Handover.grid 48).dailyWindows Rat 30).Pairwise (Clear 20) ∧
      (mergeAdjacent 30 ((Handover.grid 48).dailyWindows Rat 30)).Pairwise Apart ∧
      (mergeAdjacent 0 ((Handover.grid 55).dailyWindows Rat 30)).Pairwise Apart := by
  have hkeeps : ∀ a v, Leads 30 ((Handover.grid 48).dailyWindows Rat 30) a v → Keeps 0 20 a v := by
    intro a v hleads
    rcases (Handover.leads_grid (Or.inl rfl)).mp hleads with ⟨rfl, rfl | rfl⟩ | ⟨rfl, rfl⟩ <;>
      decide
  have hclear : ((Handover.grid 48).dailyWindows Rat 30).Pairwise (Clear 20) := by
    rw [Handover.daily_grid (Or.inl rfl)]
    decide
  exact ⟨hkeeps, hclear,
    (merged_pairwise_apart_iff Rat (Handover.grid 48) 30 30).2.1 0 20 hkeeps hclear,
    (merged_pairwise_apart_iff Rat (Handover.grid 55) 30 0).2.2 rfl⟩

end Grid

end FleetSizing
