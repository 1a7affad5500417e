import FleetSizing.Proofs.Schedule.Partition

/-! The runs of a week, said without the scan that finds them: maximal stretches of active slots, where
the last one of a day goes on through midnight with the first one of the next. -/
namespace FleetSizing.Run

/-- A stretch of active slots of a day, with no active slot right before or right after it. -/
structure Maximal (active : Nat → Prop) (start stop : Nat) : Prop where
  start_lt : start < stop
  inside : ∀ i, start ≤ i → i < stop → active i
  before : start = 0 ∨ ¬ active (start - 1)
  after : ¬ active stop

/-- The last stretch of a day goes on through midnight for so many slots of the next day. It ends before
it would meet itself a day later. -/
def Continues (slots : Nat) (active : Weekday → Nat → Prop) (day : Weekday) (tail : Nat) : Prop :=
  ∃ start, tail < start ∧ Maximal (active day) start slots ∧ Maximal (active day.next) 0 tail

/-- A maximal stretch that is not the tail of the day before, with a tail where it goes on itself. -/
structure IsRun (slots : Nat) (active : Weekday → Nat → Prop) (r : Run) : Prop where
  maximal : Maximal (active r.day) r.start r.stop
  opens : r.start = 0 → ¬ Continues slots active r.day.prev r.stop
  tail : (r.stop = slots ∧ Continues slots active r.day r.tail) ∨
    (r.tail = 0 ∧ ∀ tail, r.stop = slots → ¬ Continues slots active r.day tail)

section

variable {active : Nat → Prop} {start stop start' stop' i : Nat}

/-- Two maximal stretches that share a slot are the same. -/
theorem Maximal.unique (h : Maximal active start stop) (h' : Maximal active start' stop')
    (hi : start ≤ i ∧ i < stop) (hi' : start' ≤ i ∧ i < stop') : start = start' ∧ stop = stop' := by
  have hstart : ∀ {s t s' t'}, Maximal active s t → Maximal active s' t' → s ≤ i ∧ i < t →
      s' ≤ i ∧ i < t' → s' ≤ s := by
    intro s t s' t' h h' hi hi'
    by_contra hlt
    rcases h'.before with hzero | hbefore
    · omega
    · exact hbefore (h.inside _ (by omega) (by omega))
  have hstop : ∀ {s t s' t'}, Maximal active s t → Maximal active s' t' → s ≤ i ∧ i < t →
      s' ≤ i ∧ i < t' → t ≤ t' := by
    intro s t s' t' h h' hi hi'
    by_contra hlt
    exact h'.after (h.inside _ (by omega) (by omega))
  exact ⟨Nat.le_antisymm (hstart h' h hi' hi) (hstart h h' hi hi'),
    Nat.le_antisymm (hstop h h' hi hi') (hstop h' h hi' hi)⟩

end

section

variable {day : Weekday} {flags : List Bool} {slot : Nat} {r : Run}

/-- No run ends at an active slot, or starts right after one. -/
theorem scan_bounds {rest : List Bool} {opened : Option Nat} (hrest : flags.drop slot = rest)
    (hopened : opened.getD slot = 0 ∨ flags[opened.getD slot - 1]? ≠ some true) :
    ∀ r ∈ scan day slot opened rest,
      (r.start = 0 ∨ flags[r.start - 1]? ≠ some true) ∧ flags[r.stop]? ≠ some true := by
  induction rest generalizing slot opened with
  | nil =>
    cases opened with
    | none => simp [scan]
    | some start =>
      intro r hr
      rw [scan, List.mem_singleton] at hr
      subst hr
      refine ⟨hopened, ?_⟩
      rw [List.getElem?_eq_none (List.drop_eq_nil_iff.mp hrest)]
      simp
  | cons flag rest ih =>
    obtain ⟨-, hflag, hnext⟩ := of_drop_eq_cons hrest
    have hfresh : flag = false → ∀ r ∈ scan day (slot + 1) none rest,
        (r.start = 0 ∨ flags[r.start - 1]? ≠ some true) ∧ flags[r.stop]? ≠ some true := by
      rintro rfl
      exact ih hnext (Or.inr (by simp [hflag]))
    cases opened with
    | none =>
      rw [scan]
      cases flag with
      | true => exact ih hnext hopened
      | false => exact hfresh rfl
    | some start =>
      rw [scan]
      cases flag with
      | true => exact ih hnext hopened
      | false =>
        intro r hr
        rcases List.mem_cons.mp hr with rfl | hr
        · exact ⟨hopened, by simp [hflag]⟩
        · exact hfresh rfl r hr

/-- Runs stand in the order of their slots, with a gap between them. -/
theorem scan_pairwise {rest : List Bool} {opened : Option Nat} (hopened : opened.getD slot ≤ slot) :
    (∀ r ∈ scan day slot opened rest, opened.getD slot ≤ r.start) ∧
      (scan day slot opened rest).Pairwise fun a b => a.stop < b.start := by
  induction rest generalizing slot opened with
  | nil => cases opened <;> simp [scan]
  | cons flag rest ih =>
    have hfresh : (∀ r ∈ scan day (slot + 1) none rest, slot + 1 ≤ r.start) ∧
        (scan day (slot + 1) none rest).Pairwise fun a b => a.stop < b.start := ih (Nat.le_refl _)
    cases opened with
    | none =>
      rw [scan]
      cases flag with
      | true => exact ih (show (some slot).getD (slot + 1) ≤ slot + 1 from Nat.le_succ _)
      | false => exact ⟨fun r hr => Nat.le_of_succ_le (hfresh.1 r hr), hfresh.2⟩
    | some start =>
      rw [scan]
      cases flag with
      | true => exact ih (show (some start).getD (slot + 1) ≤ slot + 1 from Nat.le_succ_of_le hopened)
      | false =>
        obtain ⟨hle, hpairwise⟩ := hfresh
        refine ⟨?_, List.pairwise_cons.mpr ⟨fun r hr => hle r hr, hpairwise⟩⟩
        intro r hr
        rcases List.mem_cons.mp hr with rfl | hr
        · exact Nat.le_refl _
        · exact Nat.le_trans (Nat.le_succ_of_le hopened) (hle r hr)

theorem maximal_of_mem_ofDay (h : r ∈ ofDay day flags) :
    Maximal (fun i => flags[i]? = some true) r.start r.stop := by
  have hdrop : flags.drop 0 = flags := rfl
  obtain ⟨hbefore, hafter⟩ := scan_bounds hdrop (Or.inl rfl) r h
  have hwithin := within_of_mem_ofDay h
  exact ⟨hwithin.start_lt, hwithin.active, hbefore, hafter⟩

/-- The runs of a day are its maximal stretches. -/
theorem mem_ofDay_iff : r ∈ ofDay day flags ↔
    r.day = day ∧ r.tail = 0 ∧ Maximal (fun i => flags[i]? = some true) r.start r.stop := by
  constructor
  · intro h
    have hwithin := within_of_mem_ofDay h
    exact ⟨hwithin.day_eq, hwithin.tail_eq, maximal_of_mem_ofDay h⟩
  · rintro ⟨hday, htail, hmax⟩
    -- Some run has the first slot of the stretch.
    have hactive := hmax.inside r.start (Nat.le_refl _) hmax.start_lt
    have hcount : 0 < (ofDay day flags).countP (·.spans r.start) := by
      rw [countP_ofDay, if_pos hactive]
      exact Nat.one_pos
    obtain ⟨q, hq, hspans⟩ := List.countP_pos_iff.mp hcount
    have hwithin := within_of_mem_ofDay hq
    obtain ⟨hstart, hstop⟩ := (maximal_of_mem_ofDay hq).unique hmax (by simpa [spans] using hspans)
      ⟨Nat.le_refl _, hmax.start_lt⟩
    have heq : q = r := by
      cases q
      cases r
      simp only [mk.injEq]
      exact ⟨hwithin.day_eq.trans hday.symm, hstart, hstop, hwithin.tail_eq.trans htail.symm⟩
    exact heq ▸ hq

theorem pairwise_ofDay : (ofDay day flags).Pairwise fun a b => a.stop < b.start :=
  (scan_pairwise (Nat.le_refl 0)).2

theorem ofDay_eq_append (h : r ∈ ofDay day flags) (hstop : r.stop = flags.length) :
    ∃ init, ofDay day flags = init ++ [r] := by
  obtain ⟨init, rest, heq⟩ := List.append_of_mem h
  cases rest with
  | nil => exact ⟨init, heq⟩
  | cons q rest =>
    have hq : q ∈ ofDay day flags := by simp [heq]
    have hwithin := within_of_mem_ofDay hq
    have hpairwise : (ofDay day flags).Pairwise fun a b => a.stop < b.start := pairwise_ofDay
    simp only [heq, List.pairwise_append, List.pairwise_cons, List.mem_cons] at hpairwise
    have hlt := hpairwise.2.1.1 q (Or.inl rfl)
    have hstart := hwithin.start_lt
    have hle := hwithin.stop_le
    omega

theorem ofDay_eq_cons (h : r ∈ ofDay day flags) (hstart : r.start = 0) :
    ∃ rest, ofDay day flags = r :: rest := by
  obtain ⟨init, rest, heq⟩ := List.append_of_mem h
  cases init with
  | nil => exact ⟨rest, heq⟩
  | cons q init =>
    have hpairwise : (ofDay day flags).Pairwise fun a b => a.stop < b.start := pairwise_ofDay
    simp only [heq, List.cons_append, List.pairwise_cons, List.mem_append, List.mem_cons] at hpairwise
    have hlt := hpairwise.1 r (Or.inr (Or.inl rfl))
    omega

end

section

variable {slots : Nat} {week : Weekday → List Bool} {day : Weekday} {tail : Nat} {r q : Run}

/-- Which slots of the week are active. -/
def activeIn (week : Weekday → List Bool) (day : Weekday) (slot : Nat) : Prop :=
  (week day)[slot]? = some true

theorem takenOver?_iff_continues (hlen : ∀ d, (week d).length = slots) :
    takenOver? slots (fun d => ofDay d (week d)) day = some tail ↔
      Continues slots (activeIn week) day tail := by
  rw [takenOver?_eq_some_iff]
  constructor
  · rintro ⟨init, last, head, rest, hruns, hnext, rfl, -, hstart, rfl, hlt, -⟩
    have hlast := maximal_of_mem_ofDay (hruns ▸ List.mem_append_right init (List.mem_singleton_self last))
    have hhead := maximal_of_mem_ofDay (hnext ▸ List.mem_cons_self)
    rw [hstart] at hhead
    exact ⟨last.start, hlt, hlast, hhead⟩
  · rintro ⟨start, hlt, hlast, hhead⟩
    have hlast' : (⟨day, start, slots, 0⟩ : Run) ∈ ofDay day (week day) :=
      mem_ofDay_iff.mpr ⟨rfl, rfl, hlast⟩
    have hhead' : (⟨day.next, 0, tail, 0⟩ : Run) ∈ ofDay day.next (week day.next) :=
      mem_ofDay_iff.mpr ⟨rfl, rfl, hhead⟩
    obtain ⟨init, hruns⟩ := ofDay_eq_append hlast' (hlen day).symm
    obtain ⟨rest, hnext⟩ := ofDay_eq_cons hhead' rfl
    have hstart := hlast.start_lt
    exact ⟨init, _, _, rest, hruns, hnext, rfl, Nat.ne_of_gt (Nat.zero_lt_of_lt hlt), rfl, rfl, hlt,
      by omega⟩

theorem opens_of_mem_kept (hlen : ∀ d, (week d).length = slots)
    (h : r ∈ kept slots (fun d => ofDay d (week d)) day) (hstart : r.start = 0) :
    ¬ Continues slots (activeIn week) day.prev r.stop := by
  intro hcontinues
  have htaken := (takenOver?_iff_continues hlen).mpr hcontinues
  obtain ⟨rest, hruns⟩ := ofDay_eq_cons (kept_sublist.subset h) hstart
  have hpairwise : (ofDay day (week day)).Pairwise fun a b => a.stop < b.start := pairwise_ofDay
  unfold kept at h
  rw [if_pos (by rw [htaken]; rfl)] at h
  simp only [hruns, List.tail_cons] at h
  rw [hruns, List.pairwise_cons] at hpairwise
  have hlt := hpairwise.1 r h
  omega

theorem isRun_of_mem_joined (hlen : ∀ d, (week d).length = slots)
    (h : r ∈ joined slots (fun d => ofDay d (week d)) day) :
    r.day = day ∧ IsRun slots (activeIn week) r := by
  have hplain : ∀ q ∈ kept slots (fun d => ofDay d (week d)) day,
      (∀ tail, q.stop = slots → ¬ Continues slots (activeIn week) day tail) →
        q.day = day ∧ IsRun slots (activeIn week) q := by
    intro q hq hends
    obtain ⟨rfl, htail, hmax⟩ := mem_ofDay_iff.mp (kept_sublist.subset hq)
    exact ⟨rfl, hmax, opens_of_mem_kept hlen hq, Or.inr ⟨htail, hends⟩⟩
  cases htaken : takenOver? slots (fun d => ofDay d (week d)) day with
  | none =>
    rw [joined_eq_kept htaken] at h
    refine hplain r h fun tail _ hcontinues => ?_
    rw [(takenOver?_iff_continues hlen).mpr hcontinues] at htaken
    cases htaken
  | some tail =>
    obtain ⟨init, last, hkept, hstop, -, hjoined⟩ := joined_eq_append htaken
    rw [hjoined, List.mem_append, List.mem_singleton] at h
    rcases h with hinit | rfl
    · -- Only the last run reaches the end of the day.
      have hr : r ∈ kept slots (fun d => ofDay d (week d)) day := by simp [hkept, hinit]
      refine hplain r hr fun _ hends _ => ?_
      have hpairwise : (kept slots (fun d => ofDay d (week d)) day).Pairwise
        fun a b => a.stop < b.start := pairwise_ofDay.sublist kept_sublist
      rw [hkept, List.pairwise_append] at hpairwise
      have hlt := hpairwise.2.2 r hinit last (List.mem_singleton_self last)
      have hlast : last ∈ kept slots (fun d => ofDay d (week d)) day := by simp [hkept]
      have hstart := (within_of_mem_ofDay (kept_sublist.subset hlast)).start_lt
      omega
    · have hlast : last ∈ kept slots (fun d => ofDay d (week d)) day := by simp [hkept]
      obtain ⟨rfl, -, hmax⟩ := mem_ofDay_iff.mp (kept_sublist.subset hlast)
      have hopens := opens_of_mem_kept hlen hlast
      exact ⟨rfl, hmax, hopens, Or.inl ⟨hstop, (takenOver?_iff_continues hlen).mp htaken⟩⟩

theorem Continues.head {active : Weekday → Nat → Prop} (h : Continues slots active day tail) :
    Maximal (active day.next) 0 tail := by
  obtain ⟨-, -, -, hhead⟩ := h
  exact hhead

theorem Continues.unique {active : Weekday → Nat → Prop} {tail' : Nat}
    (h : Continues slots active day tail) (h' : Continues slots active day tail') : tail = tail' :=
  (h.head.unique h'.head ⟨Nat.le_refl 0, h.head.start_lt⟩ ⟨Nat.le_refl 0, h'.head.start_lt⟩).2

theorem IsRun.covers_start {active : Weekday → Nat → Prop} (h : IsRun slots active r) :
    r.covers r.day r.start := by
  simp [covers, spans, h.maximal.start_lt]

/-- A run is known by its first slot. -/
theorem IsRun.eq_of_covers_start {active : Weekday → Nat → Prop} (hr : IsRun slots active r)
    (hq : IsRun slots active q) (h : q.covers r.day r.start) : q = r := by
  simp only [covers, spans, Bool.or_eq_true, Bool.and_eq_true, beq_iff_eq, decide_eq_true_eq] at h
  rcases h with ⟨hday, hspans⟩ | ⟨hday, htail⟩
  · have hmax := hq.maximal
    rw [hday] at hmax
    obtain ⟨hstart, hstop⟩ :=
      hmax.unique hr.maximal hspans ⟨Nat.le_refl _, hr.maximal.start_lt⟩
    have htail : q.tail = r.tail := by
      rcases hq.tail with ⟨hend, hcontinues⟩ | ⟨hzero, hends⟩ <;>
        rcases hr.tail with ⟨hend', hcontinues'⟩ | ⟨hzero', hends'⟩
      · exact (hday ▸ hcontinues).unique hcontinues'
      · exact (hends' _ (hstop ▸ hend) (hday ▸ hcontinues)).elim
      · exact (hends _ (hstop.trans hend') (hday ▸ hcontinues')).elim
      · rw [hzero, hzero']
    cases q
    cases r
    simp only [mk.injEq]
    exact ⟨hday, hstart, hstop, htail⟩
  · -- The slot would be in the tail of a run of the day before.
    rcases hq.tail with ⟨-, hcontinues⟩ | ⟨hzero, -⟩
    · have hhead := hcontinues.head
      have hmax := hr.maximal
      rw [← hday] at hmax
      obtain ⟨hstart, hstop⟩ :=
        hmax.unique hhead ⟨Nat.le_refl _, hr.maximal.start_lt⟩ ⟨Nat.zero_le _, htail⟩
      refine (hr.opens hstart ?_).elim
      rw [← hday, Weekday.prev_next, hstop]
      exact hcontinues
    · omega

/-- The runs of a week are its maximal stretches, joined across midnight. -/
theorem mem_joinMidnight_iff (hlen : ∀ d, (week d).length = slots) :
    r ∈ joinMidnight slots (fun d => ofDay d (week d)) ↔ IsRun slots (activeIn week) r := by
  constructor
  · intro h
    obtain ⟨d, -, hr⟩ := List.mem_flatMap.mp h
    exact (isRun_of_mem_joined hlen hr).2
  · intro h
    have hactive : (week r.day)[r.start]? = some true :=
      h.maximal.inside r.start (Nat.le_refl _) h.maximal.start_lt
    have hcount : 0 < (joinMidnight slots fun d => ofDay d (week d)).countP
        (·.covers r.day r.start) := by
      rw [countP_covers_joinMidnight, if_pos hactive]
      exact Nat.one_pos
    obtain ⟨q, hq, hcovers⟩ := List.countP_pos_iff.mp hcount
    obtain ⟨d, -, hmem⟩ := List.mem_flatMap.mp hq
    exact h.eq_of_covers_start (isRun_of_mem_joined hlen hmem).2 hcovers ▸ hq

theorem nodup_joinMidnight (hlen : ∀ d, (week d).length = slots) :
    (joinMidnight slots fun d => ofDay d (week d)).Nodup := by
  refine (disjoint_joinMidnight slots week).imp_of_mem fun ha _ hnone => ?_
  rintro rfl
  have hcovers := ((mem_joinMidnight_iff hlen).mp ha).covers_start
  exact hnone _ _ ⟨hcovers, hcovers⟩

end

end FleetSizing.Run

namespace FleetSizing.Grid

variable {α : Type} [Scalar α] {g : Grid} {r : Run}

/-- The runs of a grid are those of its slots that are not idle. -/
theorem mem_runs_iff : r ∈ g.runs α ↔
    r.IsRun g.slots (fun day slot => slot < g.slots ∧ ¬ g.isIdle α day slot) := by
  have hactive : Run.activeIn (g.activeSlots (g.idleMask α)) =
      fun day slot => slot < g.slots ∧ ¬ g.isIdle α day slot := by
    funext day slot
    exact propext getElem?_activeSlots
  rw [← hactive]
  exact Run.mem_joinMidnight_iff fun d => by simp [activeSlots]

theorem nodup_runs : (g.runs α).Nodup :=
  Run.nodup_joinMidnight fun d => by simp [activeSlots]

end FleetSizing.Grid
