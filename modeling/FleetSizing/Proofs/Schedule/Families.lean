import FleetSizing.Proofs.Schedule.Week
import FleetSizing.Schedule.Merge

/-! The windows that merging folds into one: each group is made of a family of windows, and every window
belongs to one. -/
namespace FleetSizing

/-- Windows folded into one, which takes its times from the first of them. -/
structure WindowFamily (α : Type) where
  leader : Window α
  followers : List (Window α)

namespace WindowFamily

variable {α : Type} {tolerance : Nat} {f : WindowFamily α} {fs : List (WindowFamily α)} {w : Window α}

def members (f : WindowFamily α) : List (Window α) := f.leader :: f.followers

/-- What merging keeps of a family. -/
def group (f : WindowFamily α) : WindowGroup α :=
  { window := { f.leader with weekdays := f.members.flatMap (·.weekdays) }
    probabilities := f.members.map (·.probability) }

def add (f : WindowFamily α) (w : Window α) : WindowFamily α :=
  { f with followers := f.followers ++ [w] }

/-- Puts a window of one weekday into the first family that admits it, any other into one of its own. -/
def place (tolerance : Nat) (w : Window α) : List (WindowFamily α) → List (WindowFamily α)
  | [] => [⟨w, []⟩]
  | f :: fs =>
    match w.weekdays with
    | [day] => if f.group.admits tolerance w day then f.add w :: fs else f :: place tolerance w fs
    | _ => f :: place tolerance w fs

/-- Every follower opens and closes within a tolerance of the leader, on a clock that turns once a
day. -/
def Alike (tolerance : Nat) (f : WindowFamily α) : Prop :=
  ∀ w ∈ f.followers, minuteDistance f.leader.start.minute w.start.minute ≤ tolerance ∧
    minuteDistance f.leader.stop.minute w.stop.minute ≤ tolerance

theorem members_add : (f.add w).members = f.members ++ [w] := rfl

theorem group_add {day : Weekday} (h : w.weekdays = [day]) :
    (f.add w).group = f.group.add day w.probability := by
  simp only [group, members_add, List.flatMap_append, List.map_append, WindowGroup.add,
    List.flatMap_singleton, List.map_singleton, h]
  rfl

theorem map_group_place :
    (place tolerance w fs).map group = WindowGroup.place tolerance w (fs.map group) := by
  induction fs with
  | nil => simp [place, WindowGroup.place, group, members]
  | cons f fs ih =>
    rw [List.map_cons, place, WindowGroup.place]
    match hdays : w.weekdays with
    | [day] =>
      simp only
      split
      · rw [List.map_cons, group_add hdays]
      · rw [List.map_cons, ih]
    | [] => rw [List.map_cons, ih]
    | _ :: _ :: _ => rw [List.map_cons, ih]

theorem place_perm :
    ((place tolerance w fs).flatMap members).Perm (w :: fs.flatMap members) := by
  induction fs with
  | nil => simp [place, members]
  | cons f fs ih =>
    have hlater : ((f :: place tolerance w fs).flatMap members).Perm
        (w :: (f :: fs).flatMap members) := by
      rw [List.flatMap_cons, List.flatMap_cons]
      exact (ih.append_left f.members).trans List.perm_middle
    rw [place]
    split
    · split
      · rw [List.flatMap_cons, List.flatMap_cons, members_add, List.append_assoc]
        exact List.perm_middle
      · exact hlater
    · exact hlater

theorem alike_place (h : ∀ f ∈ fs, Alike tolerance f) : ∀ f ∈ place tolerance w fs, Alike tolerance f := by
  induction fs with
  | nil =>
    intro f hf
    obtain rfl : f = ⟨w, []⟩ := by simpa [place] using hf
    exact fun v hv => by cases hv
  | cons g fs ih =>
    have hg := h g List.mem_cons_self
    have htail : ∀ f ∈ fs, Alike tolerance f := fun f hf => h f (List.mem_cons_of_mem _ hf)
    have hlater : ∀ f ∈ g :: place tolerance w fs, Alike tolerance f := by
      intro f hf
      rcases List.mem_cons.mp hf with rfl | hf
      · exact hg
      · exact ih htail f hf
    rw [place]
    split
    · split
      · rename_i hadmits
        intro f hf
        rcases List.mem_cons.mp hf with rfl | hf
        · intro v hv
          rcases List.mem_append.mp hv with hv | hv
          · exact hg v hv
          · obtain rfl := List.mem_singleton.mp hv
            simp only [WindowGroup.admits, WindowGroup.isSimilar, Bool.and_eq_true,
              decide_eq_true_eq] at hadmits
            exact hadmits.1
        · exact htail f hf
      · exact hlater
    · exact hlater

end WindowFamily

namespace Window

variable {α : Type} {tolerance : Nat} {ws : List (Window α)}

/-- The families that merging makes of windows, in the order of their opening. -/
def families (tolerance : Nat) (ws : List (Window α)) : List (WindowFamily α) :=
  (ws.mergeSort opensBefore).foldl (fun fs w => WindowFamily.place tolerance w fs) []

theorem map_group_foldl_place (ws : List (Window α)) (fs : List (WindowFamily α)) :
    (ws.foldl (fun fs w => WindowFamily.place tolerance w fs) fs).map WindowFamily.group =
      ws.foldl (fun gs w => WindowGroup.place tolerance w gs) (fs.map WindowFamily.group) := by
  induction ws generalizing fs with
  | nil => rfl
  | cons w ws ih => rw [List.foldl_cons, List.foldl_cons, ih, WindowFamily.map_group_place]

theorem groups_eq_map_families :
    groups tolerance ws = (families tolerance ws).map WindowFamily.group :=
  (map_group_foldl_place _ []).symm

theorem foldl_place_perm (ws : List (Window α)) (fs : List (WindowFamily α)) :
    ((ws.foldl (fun fs w => WindowFamily.place tolerance w fs) fs).flatMap
      WindowFamily.members).Perm (fs.flatMap WindowFamily.members ++ ws) := by
  induction ws generalizing fs with
  | nil => simp
  | cons w ws ih =>
    rw [List.foldl_cons]
    exact (ih _).trans ((WindowFamily.place_perm.append_right ws).trans List.perm_middle.symm)

theorem families_perm : ((families tolerance ws).flatMap WindowFamily.members).Perm ws :=
  (foldl_place_perm _ []).trans (List.mergeSort_perm ws opensBefore)

theorem mem_families_iff {w : Window α} :
    (∃ f ∈ families tolerance ws, w ∈ f.members) ↔ w ∈ ws := by
  rw [← List.mem_flatMap, families_perm.mem_iff]

theorem alike_foldl_place (ws : List (Window α)) {fs : List (WindowFamily α)}
    (h : ∀ f ∈ fs, f.Alike tolerance) :
    ∀ f ∈ ws.foldl (fun fs w => WindowFamily.place tolerance w fs) fs, f.Alike tolerance := by
  induction ws generalizing fs with
  | nil => exact h
  | cons w ws ih => exact ih (WindowFamily.alike_place h)

theorem alike_families : ∀ f ∈ families tolerance ws, f.Alike tolerance :=
  alike_foldl_place _ (by simp)

theorem families_eq_nil : families tolerance ws = [] ↔ ws = [] := by
  constructor
  · intro h
    have hperm : ((families tolerance ws).flatMap WindowFamily.members).Perm ws := families_perm
    rw [h] at hperm
    exact hperm.symm.eq_nil
  · rintro rfl
    simp [families]

theorem mergeAdjacent_eq_nil [Scalar α] : mergeAdjacent tolerance ws = [] ↔ ws = [] := by
  rw [mergeAdjacent, groups_eq_map_families, List.map_map, List.map_eq_nil_iff, families_eq_nil]

theorem mem_orderedDays {days : List Weekday} {d : Weekday} : d ∈ orderedDays days ↔ d ∈ days := by
  simp [orderedDays, Weekday.mem_all]

/-- A merged window contains what the leader's times contain on the weekdays of the members. -/
theorem contains_merged_iff [Scalar α] {f : WindowFamily α} {day : Weekday} {minute : Nat}
    (h : minute < minutesPerDay) :
    f.group.merged.contains day minute ↔
      ∃ v ∈ f.members, ({ f.leader with weekdays := v.weekdays } : Window α).contains day minute := by
  simp only [contains_iff h, WindowGroup.merged, Window.make, WindowFamily.group, mem_orderedDays,
    List.mem_flatMap]
  constructor
  · rintro ⟨d, ⟨v, hv, hd⟩, helapsed⟩
    exact ⟨v, hv, d, hd, helapsed⟩
  · rintro ⟨v, hv, d, hd, helapsed⟩
    exact ⟨d, ⟨v, hv, hd⟩, helapsed⟩

end Window

end FleetSizing
