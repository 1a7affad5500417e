import FleetSizing.Proofs.Schedule.Families
import Mathlib.Data.List.Chain

/-! The weekdays of families. Windows are merged in the order of their first weekday, so a family takes
its weekdays in the order of the week, and never goes on from Sunday to Monday. -/
namespace FleetSizing

namespace Weekday

/-- Comes before another day in the week that starts on Monday. -/
def Earlier (a b : Weekday) : Prop := a.index < b.index

/-- Comes right before another day in the week that starts on Monday. -/
def RightBefore (a b : Weekday) : Prop := a.index + 1 = b.index

instance : Trans Earlier Earlier Earlier where
  trans := Nat.lt_trans

theorem RightBefore.earlier {a b : Weekday} (h : RightBefore a b) : Earlier a b := by
  unfold Earlier
  unfold RightBefore at h
  omega

theorem pairwise_all : all.Pairwise Earlier := by
  unfold Earlier
  decide

/-- The day after another one is right after it, unless the week is over. -/
theorem index_next (d : Weekday) : d.RightBefore d.next ∨ (d = .sun ∧ d.next = .mon) := by
  cases d <;> simp [RightBefore, index, next]

end Weekday

namespace Window

variable {α : Type} {days : List Weekday}

theorem pairwise_orderedDays (days : List Weekday) : (orderedDays days).Pairwise Weekday.Earlier :=
  Weekday.pairwise_all.filter _

theorem nodup_of_earlier (h : days.Pairwise Weekday.Earlier) : days.Nodup :=
  h.imp fun hlt heq => Nat.ne_of_lt hlt (congrArg Weekday.index heq)

/-- Days in the order of the week are left as they are. -/
theorem orderedDays_eq_self (h : days.Pairwise Weekday.Earlier) : orderedDays days = days := by
  have hperm : (orderedDays days).Perm days := by
    rw [List.perm_ext_iff_of_nodup (nodup_of_earlier (pairwise_orderedDays days)) (nodup_of_earlier h)]
    exact fun _ => mem_orderedDays
  refine hperm.eq_of_pairwise ?_ (pairwise_orderedDays days) h
  intro a b _ _ hab hba
  exact (Nat.lt_asymm hab hba).elim

/-- Built as windows are, with the weekdays in order. -/
def IsMade [Scalar α] (w : Window α) : Prop :=
  ∃ days start stop probability, w = make days start stop probability

theorem IsMade.pairwise [Scalar α] {w : Window α} (h : w.IsMade) :
    w.weekdays.Pairwise Weekday.Earlier := by
  obtain ⟨days, -, -, -, rfl⟩ := h
  exact pairwise_orderedDays days

theorem firstDay_le {v w : Window α} (h : opensBefore v w) : v.firstDay ≤ w.firstDay := by
  simp only [opensBefore, Bool.or_eq_true, Bool.and_eq_true, decide_eq_true_eq, beq_iff_eq] at h
  omega

theorem firstDay_of_single {w : Window α} {day : Weekday} (h : w.weekdays = [day]) :
    w.firstDay = day.index + 1 := by
  rw [firstDay, h]
  rfl

end Window

namespace WindowFamily

variable {α : Type} {tolerance : Nat} {f : WindowFamily α} {fs : List (WindowFamily α)} {w : Window α}
  {day : Weekday} {R : Weekday → Weekday → Prop}

/-- The family of one window. -/
def lone (w : Window α) : WindowFamily α := ⟨w, []⟩

/-- Weekdays of all members. -/
def days (f : WindowFamily α) : List Weekday := f.members.flatMap (·.weekdays)

theorem weekdays_group : f.group.window.weekdays = f.days := rfl

theorem days_lone : (lone w).days = w.weekdays := by
  simp [lone, days, members]

theorem days_add : (f.add w).days = f.days ++ w.weekdays := by
  rw [days, members_add, List.flatMap_append, List.flatMap_singleton]
  rfl

/-- A window comes to the first family that admits it, or is refused by all and starts its own. -/
theorem place_cases (tolerance : Nat) (w : Window α) (fs : List (WindowFamily α)) :
    (place tolerance w fs = fs ++ [lone w] ∧
      ∀ f ∈ fs, ∀ day, w.weekdays = [day] → ¬ f.group.admits tolerance w day) ∨
    ∃ init f rest day, fs = init ++ f :: rest ∧ w.weekdays = [day] ∧
      f.group.admits tolerance w day ∧ place tolerance w fs = init ++ f.add w :: rest := by
  induction fs with
  | nil => exact Or.inl ⟨rfl, by simp⟩
  | cons f fs ih =>
    by_cases hadmits : ∃ day, w.weekdays = [day] ∧ f.group.admits tolerance w day
    · obtain ⟨day, hday, hadmits⟩ := hadmits
      exact Or.inr ⟨[], f, fs, day, rfl, hday, hadmits, by simp [place, hday, hadmits]⟩
    · have hrefused : ∀ day, w.weekdays = [day] → ¬ f.group.admits tolerance w day :=
        fun day hday hin => hadmits ⟨day, hday, hin⟩
      have hplace : place tolerance w (f :: fs) = f :: place tolerance w fs := by
        rw [place]
        split
        · rename_i day hday
          rw [if_neg (hrefused day hday)]
        · rfl
      rw [hplace]
      rcases ih with ⟨heq, hall⟩ | ⟨init, g, rest, day, rfl, hday, hin, heq⟩
      · exact Or.inl ⟨by rw [heq, List.cons_append], List.forall_mem_cons.mpr ⟨hrefused, hall⟩⟩
      · exact Or.inr ⟨f :: init, g, rest, day, rfl, hday, hin, by rw [heq, List.cons_append]⟩

/-- The weekdays start with the leader's, and each day is related to the next. -/
structure Orderly (R : Weekday → Weekday → Prop) (f : WindowFamily α) : Prop where
  head_eq : f.days.head? = f.leader.weekdays.head?
  chain : f.days.IsChain R

theorem orderly_lone (h : w.weekdays.IsChain R) : (lone w).Orderly R :=
  ⟨by rw [days_lone]; rfl, by rwa [days_lone]⟩

/-- A family that opened no later than a day and does not contain it goes on to it within the week. -/
theorem rightBefore_of_isFollowedBy (hhead : f.days.head? = f.leader.weekdays.head?)
    (hopen : f.leader.firstDay ≤ day.index + 1) (h : f.group.isFollowedBy day) :
    ∃ last, f.days.getLast? = some last ∧ last.RightBefore day := by
  unfold WindowGroup.isFollowedBy at h
  rw [weekdays_group] at h
  split at h
  · rename_i last hlast
    simp only [Bool.and_eq_true, beq_iff_eq, Bool.not_eq_true', List.contains_eq_mem,
      decide_eq_false_iff_not] at h
    obtain ⟨rfl, hnew⟩ := h
    refine ⟨last, hlast, last.index_next.resolve_right ?_⟩
    rintro ⟨-, hmonday⟩
    -- The family opened on Monday, so it has that day.
    obtain ⟨first, hfirst⟩ : ∃ first, f.days.head? = some first := by
      cases hdays : f.days with
      | nil => simp [hdays] at hlast
      | cons d ds => exact ⟨d, rfl⟩
    have hindex : first.index ≤ last.next.index := by
      rw [hhead] at hfirst
      simpa [Window.firstDay, hfirst] using hopen
    have hzero : first.index = last.next.index := by
      rw [hmonday] at hindex ⊢
      exact Nat.le_antisymm hindex (Nat.zero_le _)
    exact hnew (Weekday.index_inj hzero ▸ List.mem_of_head? hfirst)
  · cases h

theorem Orderly.add (hR : ∀ a b, a.RightBefore b → R a b) (h : f.Orderly R)
    (hopen : f.leader.firstDay ≤ day.index + 1) (hday : w.weekdays = [day])
    (hadmits : f.group.admits tolerance w day) : (f.add w).Orderly R := by
  obtain ⟨last, hlast, hnext⟩ := rightBefore_of_isFollowedBy h.head_eq hopen
    (Bool.and_eq_true_iff.mp hadmits).2
  have hne : f.days ≠ [] := by
    intro hnil
    simp [hnil] at hlast
  constructor
  · rw [days_add, List.head?_append_of_ne_nil _ hne]
    exact h.head_eq
  · rw [days_add, hday]
    refine h.chain.append (List.isChain_singleton _) ?_
    intro a ha b hb
    rw [hlast, Option.mem_some_iff] at ha
    rw [List.head?_cons, Option.mem_some_iff] at hb
    exact ha ▸ hb ▸ hR _ _ hnext

theorem Orderly.place (hR : ∀ a b, a.RightBefore b → R a b) (hw : w.weekdays.IsChain R)
    (hopens : ∀ f ∈ fs, f.leader.opensBefore w) (h : ∀ f ∈ fs, f.Orderly R) :
    ∀ f ∈ place tolerance w fs, f.Orderly R := by
  rcases place_cases tolerance w fs with ⟨heq, -⟩ | ⟨init, g, rest, day, rfl, hday, hadmits, heq⟩
  · rw [heq, List.forall_mem_append, List.forall_mem_singleton]
    exact ⟨h, orderly_lone hw⟩
  · have hg : g ∈ init ++ g :: rest := by simp
    have hopen := Window.firstDay_le (hopens g hg)
    rw [Window.firstDay_of_single hday] at hopen
    rw [heq]
    intro f hf
    rcases List.mem_append.mp hf with hf | hf
    · exact h f (by simp [hf])
    · rcases List.mem_cons.mp hf with rfl | hf
      · exact (h g hg).add hR hopen hday hadmits
      · exact h f (by simp [hf])

section

variable [Scalar α]

theorem Orderly.weekdays_merged (h : f.Orderly Weekday.Earlier) : f.group.merged.weekdays = f.days :=
  Window.orderedDays_eq_self (List.isChain_iff_pairwise.mp h.chain)

theorem Orderly.firstDay_merged (h : f.Orderly Weekday.Earlier) :
    f.group.merged.firstDay = f.leader.firstDay := by
  rw [Window.firstDay, h.weekdays_merged, h.head_eq]
  rfl

end

end WindowFamily

namespace Window

variable {α : Type} {tolerance : Nat} {ws : List (Window α)} {R : Weekday → Weekday → Prop}

theorem opensBefore_total (v w : Window α) : opensBefore v w || opensBefore w v := by
  simp only [opensBefore, Bool.or_eq_true, Bool.and_eq_true, decide_eq_true_eq, beq_iff_eq]
  omega

theorem opensBefore_trans (u v w : Window α) (huv : opensBefore u v) (hvw : opensBefore v w) :
    opensBefore u w := by
  simp only [opensBefore, Bool.or_eq_true, Bool.and_eq_true, decide_eq_true_eq, beq_iff_eq] at *
  omega

theorem pairwise_opensBefore (ws : List (Window α)) :
    (ws.mergeSort opensBefore).Pairwise fun v w => opensBefore v w :=
  List.pairwise_mergeSort opensBefore_trans opensBefore_total ws

section

variable {P : List (WindowFamily α) → Prop}
  (hplace : ∀ fs, ∀ w ∈ ws, (∀ f ∈ fs, ∀ v ∈ f.members, opensBefore v w) → P fs →
    P (WindowFamily.place tolerance w fs))

include hplace

theorem foldl_place_induction {vs : List (Window α)} {fs : List (WindowFamily α)}
    (hmem : ∀ w ∈ vs, w ∈ ws) (hsorted : vs.Pairwise fun v w => opensBefore v w)
    (hbefore : ∀ f ∈ fs, ∀ v ∈ f.members, ∀ w ∈ vs, opensBefore v w) (hP : P fs) :
    P (vs.foldl (fun fs w => WindowFamily.place tolerance w fs) fs) := by
  induction vs generalizing fs with
  | nil => exact hP
  | cons w vs ih =>
    obtain ⟨hfirst, hrest⟩ := List.pairwise_cons.mp hsorted
    rw [List.foldl_cons]
    apply ih (fun v hv => hmem v (List.mem_cons_of_mem _ hv)) hrest
    · intro f hf v hv u hu
      have hplaced : v ∈ w :: fs.flatMap WindowFamily.members :=
        WindowFamily.place_perm.mem_iff.mp (List.mem_flatMap.mpr ⟨f, hf, hv⟩)
      rcases List.mem_cons.mp hplaced with rfl | hv
      · exact hfirst u hu
      · obtain ⟨g, hg, hvg⟩ := List.mem_flatMap.mp hv
        exact hbefore g hg v hvg u (List.mem_cons_of_mem _ hu)
    · apply hplace fs w (hmem w List.mem_cons_self) _ hP
      exact fun f hf v hv => hbefore f hf v hv w List.mem_cons_self

/-- What holds of no families and is kept where a window comes to those that opened before it, holds of
the families of windows. -/
theorem families_induction (hnil : P []) : P (families tolerance ws) :=
  foldl_place_induction hplace (fun _ hw => List.mem_mergeSort.mp hw) (pairwise_opensBefore ws)
    (by simp) hnil

end

/-- The weekdays of a family are related as those of the windows are, and as days in a row. -/
theorem orderly_families (hR : ∀ a b, Weekday.RightBefore a b → R a b)
    (hws : ∀ w ∈ ws, w.weekdays.IsChain R) : ∀ f ∈ families tolerance ws, f.Orderly R := by
  apply families_induction (P := fun fs => ∀ f ∈ fs, f.Orderly R)
  · intro fs w hw hbefore hfs
    exact WindowFamily.Orderly.place hR (hws w hw) (fun f hf => hbefore f hf _ List.mem_cons_self) hfs
  · simp

theorem mergeAdjacent_eq_map [Scalar α] : mergeAdjacent tolerance ws =
    (families tolerance ws).map fun f => f.group.merged := by
  rw [mergeAdjacent, groups_eq_map_families, List.map_map]
  rfl

end Window

end FleetSizing
