import FleetSizing.Proofs.Distinct
import FleetSizing.Proofs.Group.Places
import FleetSizing.Proofs.Scalar.Rational
import FleetSizing.Proofs.Schedule.Week
import Mathlib.Algebra.Order.Ring.Star
import Mathlib.Data.List.Pairwise
import Mathlib.Data.Rat.Star
import Mathlib.Tactic.NormNum.Ineq

/-! Which members of a group lose their resize or their schedule, and what they are left with. The two
passes do not get into each other's way: one reads nothing that the other takes out. -/
namespace FleetSizing

namespace Window

variable {α : Type} [BEq α]

theorem beq_iff {v w : Window α} : v == w ↔
    v.weekdays = w.weekdays ∧ v.start = w.start ∧ v.stop = w.stop ∧ v.probability == w.probability := by
  cases v
  cases w
  change (_ && (_ && (_ && _))) = true ↔ _
  simp

instance [LawfulBEq α] : LawfulBEq (Window α) where
  rfl := by simp [beq_iff]
  eq_of_beq := by
    rintro ⟨_, _, _, _⟩ ⟨_, _, _, _⟩ h
    simpa [beq_iff] using h

instance [LawfulBEq α] : DecidableEq (Window α) := fun v w =>
  decidable_of_iff (v == w) beq_iff_eq

instance [PartialEquivBEq α] : PartialEquivBEq (Window α) where
  symm := by
    intro v w h
    rw [beq_iff] at h ⊢
    exact ⟨h.1.symm, h.2.1.symm, h.2.2.1.symm, BEq.symm h.2.2.2⟩
  trans := by
    intro u v w huv hvw
    rw [beq_iff] at huv hvw ⊢
    exact ⟨huv.1.trans hvw.1, huv.2.1.trans hvw.2.1, huv.2.2.1.trans hvw.2.2.1,
      BEq.trans huv.2.2.2 hvw.2.2.2⟩

end Window

namespace Report

section

variable {α : Type} {r : Report α} {a : Action}

theorem has_withoutResize (h : a ≠ .noAction) : r.withoutResize.has a = (r.has a && !a.isResize) := by
  rw [withoutResize, has_settled h]
  simp [has]

@[simp] theorem customSchedule?_settled : r.settled.customSchedule? = r.customSchedule? := by
  unfold settled
  split <;> rfl

theorem customSchedule?_withoutResize : r.withoutResize.customSchedule? = r.customSchedule? := by
  rw [withoutResize, customSchedule?_settled]
  rfl

theorem proposedSchedule?_withoutResize :
    r.withoutResize.proposedSchedule? = r.proposedSchedule? := by
  rw [proposedSchedule?, has_withoutResize (by decide), customSchedule?_withoutResize]
  simp [proposedSchedule?, Action.isResize]

variable [Scalar α]

theorem has_withoutSchedule (h : a ≠ .noAction) :
    r.withoutSchedule.has a = (r.has a && a != .schedule) := by
  rw [withoutSchedule, has_settled h]
  by_cases hs : a = .schedule <;> simp [has, hs]

theorem proposedSchedule?_withoutSchedule : r.withoutSchedule.proposedSchedule? = none := by
  simp [proposedSchedule?, has_withoutSchedule]

/-- What is left of a report that loses its resize, its schedule, or both. -/
def neutralized (resize schedule : Bool) (r : Report α) : Report α :=
  let stays (a : Action) : Bool := !(resize && a.isResize) && !(schedule && a == .schedule)
  let left : Report α := { r with
    actions := r.actions.filter stays
    schedule := if schedule then some [Window.alwaysRun] else r.schedule
    shapes := if resize then none else r.shapes
    savings := r.savings.map fun os => os.filter (stays ·.action) }
  if resize || schedule then left.settled else left

theorem neutralized_neither : r.neutralized false false = r := by
  simp [neutralized]

theorem withoutResize_eq : r.withoutResize = r.neutralized true false := by
  simp [withoutResize, neutralized]

theorem withoutSchedule_eq : r.withoutSchedule = r.neutralized false true := by
  simp [withoutSchedule, neutralized, bne]

/-- That a report is left without actions does not count when its schedule is taken out. -/
theorem withoutSchedule_settled : r.settled.withoutSchedule = r.withoutSchedule := by
  rw [settled]
  split
  · rename_i hempty
    rw [List.isEmpty_iff] at hempty
    simp [withoutSchedule, settled, hempty]
  · rfl

theorem withoutSchedule_withoutResize :
    r.withoutResize.withoutSchedule = r.neutralized true true := by
  rw [withoutResize, withoutSchedule_settled]
  simp [withoutSchedule, neutralized, Function.comp_def, List.filter_filter, bne, Bool.and_comm]

end

end Report

namespace Group

section

variable {α : Type} {growing : Bool} {group : List (Report α)} {r : Report α}

theorem resizeClashes_eq : resizeClashes growing r = if growing then r.shrinks else r.has .scaleUp := by
  rw [Bool.eq_iff_iff, resizeClashes, List.any_eq_true]
  constructor
  · rintro ⟨a, ha, hclash⟩
    cases growing <;> cases a <;>
      simp_all [acceptable, Action.isResize, Report.shrinks, Report.has]
  · intro h
    cases growing with
    | false => exact ⟨.scaleUp, by simpa [Report.has] using h, rfl⟩
    | true =>
      simp only [if_true, Report.shrinks, Bool.or_eq_true, Report.has, List.contains_iff_mem] at h
      rcases h with hdown | hshut
      · exact ⟨.scaleDown, hdown, rfl⟩
      · exact ⟨.shutdown, hshut, rfl⟩

/-- The custom schedules that members propose. -/
def proposals (group : List (Report α)) : List (List (Window α)) :=
  group.filterMap Report.proposedSchedule?

theorem proposedSchedule?_resized : (resized group r).proposedSchedule? = r.proposedSchedule? := by
  unfold resized
  split
  · exact Report.proposedSchedule?_withoutResize
  · rfl

theorem resizePass_eq : (resizePass group).1 = group.map (resized group) := rfl

theorem proposals_resizePass : proposals (resizePass group).1 = proposals group := by
  rw [resizePass_eq, proposals, List.filterMap_map]
  exact congrArg (List.filterMap · group) (funext fun _ => proposedSchedule?_resized)

end

section

variable {α : Type} [Scalar α] {floor : Option α} {group : List (Report α)} {r : Report α}

theorem runtimeFloor?_resizePass : runtimeFloor? (resizePass group).1 = runtimeFloor? group := by
  have hsame : proposals (resizePass group).1 = proposals group := proposals_resizePass
  rw [proposals, proposals] at hsame
  simp only [runtimeFloor?, hsame]

/-- Runs for less than the floor, if there is one. -/
def tooShort (floor : Option α) (ws : List (Window α)) : Bool := floor.any fun f => (runtime ws : α) < f

theorem scheduleClashes_eq : scheduleClashes floor r = r.proposedSchedule?.any (tooShort floor) := by
  unfold scheduleClashes
  cases floor <;> cases r.proposedSchedule? <;> rfl

theorem scheduleClashes_congr {s : Report α} (h : r.proposedSchedule? = s.proposedSchedule?) :
    scheduleClashes floor r = scheduleClashes floor s := by
  rw [scheduleClashes_eq, scheduleClashes_eq, h]

theorem scheduleClashes_resized : scheduleClashes (runtimeFloor? (resizePass group).1) (resized group r) =
    scheduleClashes (runtimeFloor? group) r := by
  rw [runtimeFloor?_resizePass, scheduleClashes_congr proposedSchedule?_resized]

/-- Both passes decide by the members as they came. -/
theorem agree_eq : agree group r = r.neutralized (resizeClashes (group.any (·.has .scaleUp)) r)
    (scheduleClashes (runtimeFloor? group) r) := by
  rw [agree, scheduleClashes_resized, resized]
  cases resizeClashes (group.any (·.has .scaleUp)) r <;>
    cases scheduleClashes (runtimeFloor? group) r
  · exact Report.neutralized_neither.symm
  · exact Report.withoutSchedule_eq
  · exact Report.withoutResize_eq
  · exact Report.withoutSchedule_withoutResize

theorem counts_passes : (passes group).2 = ⟨group.countP (resizeClashes (group.any (·.has .scaleUp))),
    group.countP (scheduleClashes (runtimeFloor? group))⟩ := by
  have hschedule : (resizePass group).1.countP (scheduleClashes (runtimeFloor? (resizePass group).1)) =
      group.countP (scheduleClashes (runtimeFloor? group)) := by
    rw [resizePass_eq, List.countP_map, ← resizePass_eq]
    exact congrArg (List.countP · group) (funext fun _ => scheduleClashes_resized)
  rw [← hschedule]
  rfl

end

section

variable {α : Type} {group : List (Report α)} {r : Report α}

/-- The longest runtime that a member proposes. -/
def longest (group : List (Report α)) : Nat := ((proposals group).map runtime).foldl max 0

/-- Has to shrink where another member has to grow. -/
def Outgrown (group : List (Report α)) (r : Report α) : Prop :=
  (∃ s ∈ group, s.has .scaleUp) ∧ r.shrinks

instance : Decidable (Outgrown group r) := inferInstanceAs (Decidable (_ ∧ _))

/-- Has a schedule of its own that runs for less than 95 in 100 minutes of the longest. -/
def Outrun (group : List (Report α)) (r : Report α) : Prop :=
  (∃ ws ∈ proposals group, ∃ vs ∈ proposals group, ws ≠ vs) ∧
    ∃ ws ∈ r.proposedSchedule?, 100 * runtime ws < 95 * longest group

instance [DecidableEq (Window α)] : Decidable (Outrun group r) := inferInstanceAs (Decidable (_ ∧ _))

theorem le_foldl_max {ns : List Nat} {n m : Nat} : m ≤ ns.foldl max n ↔ m ≤ n ∨ ∃ k ∈ ns, m ≤ k := by
  induction ns generalizing n with
  | nil => simp
  | cons k ns ih =>
    rw [List.foldl_cons, ih]
    simp [or_assoc]

theorem runtime_le_longest {ws : List (Window α)} (h : ws ∈ proposals group) :
    runtime ws ≤ longest group :=
  le_foldl_max.mpr (Or.inr ⟨_, List.mem_map_of_mem h, Nat.le_refl _⟩)

theorem runtime_le {ws : List (Window α)} (h : ∀ w ∈ ws, w.weekdays.Nodup) :
    runtime ws ≤ ws.length * minutesPerWeek := by
  induction ws with
  | nil => exact Nat.zero_le _
  | cons w ws ih =>
    have hw := Window.weeklyMinutes_le (h w List.mem_cons_self)
    have hws := ih fun v hv => h v (List.mem_cons_of_mem w hv)
    calc runtime (w :: ws) = w.weeklyMinutes + runtime ws := rfl
      _ ≤ minutesPerWeek + ws.length * minutesPerWeek := Nat.add_le_add hw hws
      _ = (w :: ws).length * minutesPerWeek := by rw [List.length_cons, Nat.succ_mul, Nat.add_comm]

/-- Windows with distinct weekdays run for no more minutes than 32 bits hold, unless there are hundreds of
thousands of them. -/
theorem runtime_lt {ws : List (Window α)} (h : ∀ w ∈ ws, w.weekdays.Nodup) (hfew : ws.length ≤ 426088) :
    runtime ws < 2 ^ 32 :=
  calc runtime ws ≤ ws.length * minutesPerWeek := runtime_le h
    _ ≤ 426088 * minutesPerWeek := Nat.mul_le_mul_right _ hfew
    _ < 2 ^ 32 := by decide

theorem exists_longest (group : List (Report α)) :
    longest group = 0 ∨ ∃ ws ∈ proposals group, longest group ≤ runtime ws := by
  rcases le_foldl_max.mp (Nat.le_refl (longest group)) with hnone | ⟨n, hn, hle⟩
  · exact Or.inl (Nat.le_zero.mp hnone)
  · obtain ⟨ws, hws, rfl⟩ := List.mem_map.mp hn
    exact Or.inr ⟨ws, hws, hle⟩

end

theorem runtimeFloor?_eq {α : Type} [Scalar α] [PartialEquivBEq α] {group : List (Report α)} :
    runtimeFloor? group = if (proposals group).Pairwise (· == ·) then none
      else some ((longest group : α) * runtimeShare) := by
  simp only [← length_eraseDups_le_one_iff]
  rfl

section

variable {group : List (Report Rat)} {r : Report Rat}

theorem lt_share_iff {n m : Nat} : (n : Rat) < (m : Rat) * runtimeShare ↔ 100 * n < 95 * m := by
  have hshare : (runtimeShare : Rat) = 95 / 100 := by norm_num [runtimeShare, Scalar.ratio_rat]
  rw [hshare, ← mul_div_assoc, lt_div_iff₀ (by norm_num), mul_comm, mul_comm (m : Rat)]
  exact_mod_cast Iff.rfl

theorem scheduleClashes_iff : scheduleClashes (runtimeFloor? group) r ↔ Outrun group r := by
  have halike : (proposals group).Pairwise (· == ·) ↔
      ¬ ∃ ws ∈ proposals group, ∃ vs ∈ proposals group, ws ≠ vs := by
    constructor
    · rintro hpair ⟨ws, hws, vs, hvs, hne⟩
      have hsymm : Std.Symm fun us vs : List (Window Rat) => (us == vs) = true := ⟨fun _ _ => BEq.symm⟩
      exact hne (beq_iff_eq.mp (hpair.forall_of_forall (fun _ _ => BEq.refl _) hws hvs))
    · intro hnone
      refine List.pairwise_of_forall_mem_list fun ws hws vs hvs => ?_
      by_contra hne
      exact hnone ⟨ws, hws, vs, hvs, fun heq => hne (beq_iff_eq.mpr heq)⟩
  rw [runtimeFloor?_eq, Outrun, scheduleClashes_eq]
  split
  · rename_i hsame
    cases r.proposedSchedule? <;> simp [halike.mp hsame, tooShort]
  · rename_i hother
    rw [and_iff_right (not_not.mp fun h => hother (halike.mpr h))]
    cases r.proposedSchedule? <;> simp [lt_share_iff, tooShort]

theorem resizeClashes_iff {α : Type} {group : List (Report α)} {r : Report α} (hr : r ∈ group) :
    resizeClashes (group.any (·.has .scaleUp)) r ↔ Outgrown group r := by
  rw [resizeClashes_eq, Outgrown, ← List.any_eq_true]
  split
  · rename_i hgrows
    rw [and_iff_right hgrows]
  · rename_i hnone
    rw [iff_false_right fun h => hnone h.1]
    exact fun hgrows => hnone (List.any_eq_true.mpr ⟨r, hr, hgrows⟩)

/-- Of members that are listed once, those that are outgrown lose their resize and those that are outrun
their schedule, and no report changes otherwise. -/
theorem reconcile_neutralizes (day : Day) (history : History Rat) {reports : List (Report Rat)}
    (hnodup : (reports.map (·.resource)).Nodup) :
    let members := reports.filter (·.status == .success)
    let reconciled := reconcile day history reports
    reconciled.1 = reports.map (fun r =>
      if r.status = .success then r.neutralized (Outgrown members r) (Outrun members r) else r) ∧
    reconciled.2.2 = ⟨members.countP (Outgrown members ·), members.countP (Outrun members ·)⟩ ∧
    (∀ r : Report Rat, r.neutralized false false = r) ∧
    (∀ r ∈ members, ∀ ws ∈ r.proposedSchedule?,
      (∀ vs ∈ proposals members, runtime vs ≤ runtime ws) → ¬ Outrun members r) := by
  intro members reconciled
  have hresize : ∀ r ∈ members, resizeClashes (members.any (·.has .scaleUp)) r =
      decide (Outgrown members r) := by
    intro r hr
    rw [Bool.eq_iff_iff, decide_eq_true_iff]
    exact resizeClashes_iff hr
  have hschedule : ∀ r, scheduleClashes (runtimeFloor? members) r = decide (Outrun members r) := by
    intro r
    rw [Bool.eq_iff_iff, decide_eq_true_iff]
    exact scheduleClashes_iff
  refine ⟨?_, ?_, fun r => Report.neutralized_neither, ?_⟩
  · rw [show reconciled.1 = _ from reconcile_of_nodup hnodup]
    refine List.map_congr_left fun r hr => ?_
    split
    · rename_i hsuccess
      have hmember : r ∈ members := List.mem_filter.mpr ⟨hr, by simpa using hsuccess⟩
      rw [agree_eq, hresize r hmember, hschedule]
    · rfl
  · rw [show reconciled.2.2 = _ from counts_passes]
    congr 1
    · exact List.countP_congr fun r hr => by rw [hresize r hr]
    · exact List.countP_congr fun r _ => by rw [hschedule r]
  · rintro r - ws hws hlongest ⟨-, vs, hvs, hshort⟩
    obtain rfl := Option.mem_unique hws hvs
    rcases exists_longest members with hnone | ⟨us, hus, hle⟩
    · omega
    · have hbound := hlongest us hus
      omega

end

/-! A member that has to grow, one with short days that should shrink, and one with long days. -/
namespace Trio

variable {α : Type} [Scalar α]

def days (weekdays : List Weekday) (hours : Nat) : List (Window α) :=
  [.make weekdays (.ofMinute 480) (.ofMinute (480 + 60 * hours)) ((1 : Nat) : α)]

def saving (action : Action) : Saving α :=
  ⟨action, ((60 : Nat) : α), ((40 : Nat) : α), ((40 : Nat) : α), none⟩

omit [Scalar α] in
def growing : Report α := { resource := "i-1", actions := [.scaleUp] }

def short : Report α where
  resource := "i-2"
  actions := [.schedule, .scaleDown]
  schedule := some (days [.mon, .tue, .wed, .thu, .fri] 8)
  shapes := some []
  savings := some [saving .schedule, saving .scaleDown]

def long : Report α where
  resource := "i-3"
  actions := [.schedule]
  schedule := some (days Weekday.all 12)
  savings := some [saving .schedule]

end Trio

theorem reconcile_neutralizes_trio :
    let trio : List (Report Rat) := [Trio.growing, Trio.short, Trio.long]
    let reconciled := reconcile default .empty trio
    (trio.map (·.resource)).Nodup ∧
      reconciled.1.map (·.actions) = [[.scaleUp], [.noAction], [.schedule]] ∧
      reconciled.1.map (·.shapes.isSome) = [false, false, false] ∧
      reconciled.1.map (·.savings.map (·.length)) = [none, some 0, some 1] ∧
      reconciled.2.2 = ⟨1, 1⟩ := by
  intro trio reconciled
  have hnodup : (trio.map (·.resource)).Nodup := by decide
  obtain ⟨hreports, hcounts, -, -⟩ := reconcile_neutralizes default .empty hnodup
  refine ⟨hnodup, ?_, ?_, ?_, ?_⟩
  · rw [show reconciled.1 = _ from hreports]
    decide
  · rw [show reconciled.1 = _ from hreports]
    decide
  · rw [show reconciled.1 = _ from hreports]
    decide
  · rw [show reconciled.2.2 = _ from hcounts]
    decide

end Group

end FleetSizing
