import FleetSizing.Proofs.Schedule.Families
import Mathlib.Data.List.Pairwise
import Mathlib.Tactic.ByContra

/-! What merging covers. A window takes the times of the first one of its family, and both tell times
apart on a clock that turns once a day: where the two open, or close, on different sides of midnight,
the merged window lies a day off. -/
namespace FleetSizing.Window

variable {α : Type} {tolerance later earlier : Nat} {ws : List (Window α)} {g v w : Window α}
  {d day : Weekday} {minute : Nat}

/-- Minute at which a window closes, counted on past midnight. -/
def close (w : Window α) : Nat := w.start.minute + w.duration

/-- The times of a window on other weekdays. -/
def on (w : Window α) (days : List Weekday) : Window α := { w with weekdays := days }

/-- A minute at most so much later or earlier than another. -/
def Near (later earlier a b : Nat) : Prop := a ≤ b + later ∧ b ≤ a + earlier

instance {later earlier a b : Nat} : Decidable (Near later earlier a b) :=
  inferInstanceAs (Decidable (_ ∧ _))

/-- The times of the first window move no edge of the second by more than so much. -/
def Keeps (later earlier : Nat) (g v : Window α) : Prop :=
  Near later earlier g.start.minute v.start.minute ∧ Near later earlier g.close v.close

instance : Decidable (Keeps later earlier g v) :=
  inferInstanceAs (Decidable (_ ∧ _))

/-- The first window gives its times to the second when windows are merged. -/
def Leads (tolerance : Nat) (ws : List (Window α)) (g v : Window α) : Prop :=
  ∃ f ∈ families tolerance ws, f.leader = g ∧ v ∈ f.members

/-- No minute lies in both windows. -/
def Apart (v w : Window α) : Prop :=
  ∀ day minute, minute < minutesPerDay → ¬ (v.contains day minute ∧ w.contains day minute)

/-- A minute that stays in a window that opens so much later and closes so much earlier. -/
def Deep (later earlier : Nat) (w : Window α) (day : Weekday) (minute : Nat) : Prop :=
  ∃ d, w.weekdays = [d] ∧ later ≤ w.elapsed d day minute ∧
    w.elapsed d day minute + earlier < w.duration

theorem contains_on_iff (h : minute < minutesPerDay) :
    (g.on [d]).contains day minute ↔ g.elapsed d day minute < g.duration := by
  rw [contains_iff h]
  simp only [on, List.mem_singleton, exists_eq_left]
  rfl

instance : Std.Symm (Apart (α := α)) where
  symm _ _ h day minute hm hc := h day minute hm ⟨hc.2, hc.1⟩

/-- Two windows open a fixed time apart. -/
theorem elapsed_eq_of_shift (hle : g.start.minute ≤ v.elapsed d day minute + v.start.minute)
    (hlt : v.elapsed d day minute + v.start.minute < g.start.minute + minutesPerWeek) :
    g.elapsed d day minute = v.elapsed d day minute + v.start.minute - g.start.minute := by
  have hd := d.index_lt
  have hg := g.start.minute_lt
  have hv := v.start.minute_lt
  simp only [elapsed, Weekday.clock, minutesPerWeek, minutesPerDay] at *
  omega

/-- Windows apart, on the clock of the week. -/
theorem Apart.clock {d' : Weekday} (h : Apart v w) (hv : v.weekdays = [d]) (hw : w.weekdays = [d'])
    {q : Nat} (hq : q < minutesPerWeek)
    (hinside : (q + (minutesPerWeek - d'.clock w.start.minute)) % minutesPerWeek < w.duration) :
    v.duration ≤ (q + (minutesPerWeek - d.clock v.start.minute)) % minutesPerWeek := by
  obtain ⟨day, minute, hm, rfl⟩ := Weekday.exists_clock hq
  by_contra hlt
  apply h day minute hm
  rw [contains_iff hm, contains_iff hm, hv, hw]
  exact ⟨⟨d, List.mem_singleton.mpr rfl, Nat.lt_of_not_le hlt⟩, d', List.mem_singleton.mpr rfl, hinside⟩

/-- Another window would not contain a deep minute if it closed so much later or opened so much
earlier. -/
theorem Deep.apart (hdeep : Deep later earlier w day minute) (hm : minute < minutesPerDay)
    (happart : Apart v w) (hv : v.weekdays = [d]) :
    v.duration + later ≤ v.elapsed d day minute ∧
      v.elapsed d day minute + earlier < minutesPerWeek := by
  obtain ⟨d', hw, hopen, hclose⟩ := hdeep
  have hclear := fun {q} => happart.clock hv hw (q := q)
  have hpos := v.duration_pos
  have hduration := w.duration_le
  have hv' := d.clock_lt v.start.minute_lt
  have hw' := d'.clock_lt w.start.minute_lt
  have hq := day.clock_lt hm
  have hnow := hclear hq
  simp only [elapsed] at *
  generalize day.clock minute = q at *
  generalize d.clock v.start.minute = a at *
  generalize d'.clock w.start.minute = b at *
  generalize hx : (q + (minutesPerWeek - a)) % minutesPerWeek = x at *
  generalize hy : (q + (minutesPerWeek - b)) % minutesPerWeek = y at *
  constructor
  · by_contra hnear
    -- The last minute of the other window would lie in this one.
    have hlast := hclear (q := (q + (minutesPerWeek - (x + 1 - v.duration))) % minutesPerWeek)
    simp only [minutesPerWeek, minutesPerDay] at *
    omega
  · by_contra hnear
    -- The first minute of the other window would lie in this one.
    have hfirst := hclear (q := a)
    simp only [minutesPerWeek, minutesPerDay] at *
    omega

/-- The leader's times still cover the deep minutes of a window if they keep its edges. -/
theorem Deep.contains_on (hdeep : Deep later earlier w day minute) (hm : minute < minutesPerDay)
    (hkeeps : Keeps later earlier g w) : (g.on w.weekdays).contains day minute := by
  obtain ⟨d, hw, hopen, hclose⟩ := hdeep
  obtain ⟨⟨hstart, -⟩, -, hstop⟩ := hkeeps
  have hduration := w.duration_le
  have hlt := w.start.minute_lt
  rw [hw, contains_on_iff hm]
  simp only [close] at hstop
  rw [elapsed_eq_of_shift (v := w)]
  · omega
  · omega
  · simp only [minutesPerWeek, minutesPerDay] at *
    omega

/-- And they cover no deep minute of another window. -/
theorem Deep.not_contains_on (hdeep : Deep later earlier w day minute) (hm : minute < minutesPerDay)
    (happart : Apart v w) (hv : v.weekdays = [d]) (hkeeps : Keeps later earlier g v) :
    ¬ (g.on v.weekdays).contains day minute := by
  obtain ⟨hbefore, hafter⟩ := hdeep.apart hm happart hv
  obtain ⟨⟨hstart, hstart'⟩, hstop, -⟩ := hkeeps
  rw [hv, contains_on_iff hm]
  simp only [close] at hstop
  rw [elapsed_eq_of_shift (v := v)]
  · omega
  · omega
  · omega

theorem Near.refl (a : Nat) : Near later earlier a a := ⟨Nat.le_add_right _ _, Nat.le_add_right _ _⟩

theorem exists_leads (hw : w ∈ ws) : ∃ g, Leads tolerance ws g w := by
  obtain ⟨f, hf, hm⟩ := mem_families_iff.mpr hw
  exact ⟨f.leader, f, hf, rfl, hm⟩

theorem Leads.mem (h : Leads tolerance ws g v) : v ∈ ws := by
  obtain ⟨f, hf, -, hm⟩ := h
  exact mem_families_iff.mp ⟨f, hf, hm⟩

theorem Leads.leader_mem (h : Leads tolerance ws g v) : g ∈ ws := by
  obtain ⟨f, hf, rfl, -⟩ := h
  exact mem_families_iff.mp ⟨f, hf, List.mem_cons_self⟩

theorem stop_eq_close : w.stop.minute = w.close ∨ w.stop.minute + minutesPerDay = w.close := by
  have hstart := w.start.minute_lt
  unfold close duration
  simp only [minutesPerDay]
  split <;> omega

/-- A leader that does not keep an edge has it almost a day off, on the other side of midnight. -/
theorem Leads.crosses_midnight (h : Leads tolerance ws g v)
    (hkeeps : ¬ Keeps tolerance tolerance g v) :
    let almost := minutesPerDay - tolerance - 1
    ¬ Near almost almost g.start.minute v.start.minute ∨ ¬ Near almost almost g.close v.close := by
  intro almost
  obtain ⟨f, hf, rfl, hm⟩ := h
  rcases List.mem_cons.mp hm with rfl | hfollows
  · exact (hkeeps ⟨Near.refl _, Near.refl _⟩).elim
  · obtain ⟨hstart, hstop⟩ := alike_families f hf v hfollows
    have hg := f.leader.start.minute_lt
    have hg' := f.leader.stop.minute_lt
    have hv := v.start.minute_lt
    have hv' := v.stop.minute_lt
    have hclose := f.leader.stop_eq_close
    have hclose' := v.stop_eq_close
    simp only [almost, minuteDistance, Keeps, Near, minutesPerDay] at *
    omega

section

variable [Scalar α]

theorem covered_iff_leads (hm : minute < minutesPerDay) :
    (∃ m ∈ mergeAdjacent tolerance ws, m.contains day minute) ↔
      ∃ g v, Leads tolerance ws g v ∧ (g.on v.weekdays).contains day minute := by
  rw [mergeAdjacent, groups_eq_map_families]
  constructor
  · rintro ⟨m, hmem, hc⟩
    simp only [List.map_map, List.mem_map] at hmem
    obtain ⟨f, hf, rfl⟩ := hmem
    obtain ⟨v, hv, hcontains⟩ := (contains_merged_iff hm).mp hc
    exact ⟨f.leader, v, ⟨f, hf, rfl, hv⟩, hcontains⟩
  · rintro ⟨_, v, ⟨f, hf, rfl, hv⟩, hcontains⟩
    refine ⟨f.group.merged, ?_, (contains_merged_iff hm).mpr ⟨v, hv, hcontains⟩⟩
    simp only [List.map_map, List.mem_map]
    exact ⟨f, hf, rfl⟩

/-- Among daily windows that do not overlap, merging covers a deep minute of a window exactly if the
window keeps its edges, or if some window that was moved farther happens to come to lie over it. How
far an edge may move is not tied to the tolerance here. -/
theorem deep_covered_iff (hdays : ∀ v ∈ ws, ∃ d, v.weekdays = [d]) (hapart : ws.Pairwise Apart)
    (hw : w ∈ ws) (hm : minute < minutesPerDay) (hdeep : Deep later earlier w day minute) :
    (∃ m ∈ mergeAdjacent tolerance ws, m.contains day minute) ↔
      (∃ g, Leads tolerance ws g w ∧ Keeps later earlier g w) ∨
        ∃ g v, Leads tolerance ws g v ∧ ¬ Keeps later earlier g v ∧
          (g.on v.weekdays).contains day minute := by
  rw [covered_iff_leads hm]
  constructor
  · rintro ⟨g, v, hleads, hcontains⟩
    by_cases hkeeps : Keeps later earlier g v
    · by_cases hsame : v = w
      · exact Or.inl ⟨g, hsame ▸ hleads, hsame ▸ hkeeps⟩
      · have happart : Apart v w := hapart.forall hleads.mem hw hsame
        obtain ⟨d, hv⟩ := hdays v hleads.mem
        exact (hdeep.not_contains_on hm happart hv hkeeps hcontains).elim
    · exact Or.inr ⟨g, v, hleads, hkeeps, hcontains⟩
  · rintro (⟨g, hleads, hkeeps⟩ | ⟨g, v, hleads, -, hcontains⟩)
    · exact ⟨g, w, hleads, hdeep.contains_on hm hkeeps⟩
    · exact ⟨g, v, hleads, hcontains⟩

/-- Nothing is lost where no two windows open, or close, almost a day apart. -/
theorem deep_covered_of_near
    (hnear : ∀ g ∈ ws, ∀ v ∈ ws, let almost := minutesPerDay - tolerance - 1
      Near almost almost g.start.minute v.start.minute ∧ Near almost almost g.close v.close)
    (hw : w ∈ ws) (hm : minute < minutesPerDay) (hdeep : Deep tolerance tolerance w day minute) :
    ∃ m ∈ mergeAdjacent tolerance ws, m.contains day minute := by
  obtain ⟨g, hleads⟩ : ∃ g, Leads tolerance ws g w := exists_leads hw
  have hkeeps : Keeps tolerance tolerance g w := by
    by_contra hmoved
    obtain ⟨hstart, hclose⟩ := hnear g hleads.leader_mem w hleads.mem
    rcases hleads.crosses_midnight hmoved with h | h
    · exact h hstart
    · exact h hclose
  exact (covered_iff_leads hm).mpr ⟨g, w, hleads, hdeep.contains_on hm hkeeps⟩

end

/-! Monday from midnight to noon, and Tuesday from 23:30 to noon the next day. -/
namespace Midnight

def monday : Window Float := ⟨[.mon], .ofMinute 0, .ofMinute 720, 1⟩

def tuesday : Window Float := ⟨[.tue], .ofMinute 1410, .ofMinute 720, 1⟩

theorem one_weekday : ∀ v ∈ [monday, tuesday], ∃ d, v.weekdays = [d] := by
  rw [List.forall_mem_cons, List.forall_mem_singleton]
  exact ⟨⟨.mon, rfl⟩, .tue, rfl⟩

theorem pairwise_apart : [monday, tuesday].Pairwise Apart := by
  rw [List.pairwise_pair]
  rintro day minute hm ⟨hmonday, htuesday⟩
  cases day <;> simp [contains, monday, tuesday, Weekday.prev] at hmonday htuesday

theorem families_eq : families 30 [monday, tuesday] = [⟨monday, [tuesday]⟩] := by
  rw [families, List.mergeSort_of_pairwise (by decide)]
  rfl

end Midnight

theorem deep_not_covered_midnight :
    (∀ v ∈ [Midnight.monday, Midnight.tuesday], ∃ d, v.weekdays = [d]) ∧
      [Midnight.monday, Midnight.tuesday].Pairwise Apart ∧ Deep 30 30 Midnight.tuesday .wed 360 ∧
      ¬ ∃ m ∈ mergeAdjacent 30 [Midnight.monday, Midnight.tuesday], m.contains .wed 360 := by
  refine ⟨Midnight.one_weekday, Midnight.pairwise_apart, ⟨.tue, rfl, by decide, by decide⟩, ?_⟩
  rw [covered_iff_leads (by decide)]
  rintro ⟨g, v, ⟨f, hf, rfl, hv⟩, hcontains⟩
  rw [Midnight.families_eq, List.mem_singleton] at hf
  subst hf
  simp only [WindowFamily.members, List.mem_cons, List.not_mem_nil, or_false] at hv
  rcases hv with rfl | rfl <;> simp [on, contains, Midnight.monday, Midnight.tuesday] at hcontains

theorem deep_covered_iff_midnight :
    (∀ v ∈ [Midnight.monday, Midnight.tuesday], ∃ d, v.weekdays = [d]) ∧
      [Midnight.monday, Midnight.tuesday].Pairwise Apart ∧ Deep 30 30 Midnight.monday .mon 360 ∧
      ∃ m ∈ mergeAdjacent 30 [Midnight.monday, Midnight.tuesday], m.contains .mon 360 := by
  have hdeep : Deep 30 30 Midnight.monday .mon 360 := ⟨.mon, rfl, by decide, by decide⟩
  have hleads : Leads 30 [Midnight.monday, Midnight.tuesday] Midnight.monday Midnight.monday := by
    refine ⟨⟨Midnight.monday, [Midnight.tuesday]⟩, ?_, rfl, List.mem_cons_self⟩
    rw [Midnight.families_eq]
    exact List.mem_singleton.mpr rfl
  exact ⟨Midnight.one_weekday, Midnight.pairwise_apart, hdeep,
    (deep_covered_iff Midnight.one_weekday Midnight.pairwise_apart List.mem_cons_self (by decide)
      hdeep).mpr (Or.inl ⟨Midnight.monday, hleads, Near.refl _, Near.refl _⟩)⟩

end FleetSizing.Window
