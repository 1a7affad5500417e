import FleetSizing.Proofs.Schedule.Weekdays
import FleetSizing.Proofs.Stats.Bounds

/-! Merging what has been merged changes nothing. A window that was refused by the families before it is
refused by them again, although they have grown since. -/
namespace FleetSizing

theorem pairwise_replace {β : Type} {R : β → β → Prop} {init rest : List β} {a b : β}
    (h : (init ++ a :: rest).Pairwise R) (hbefore : ∀ x ∈ init, R x a → R x b)
    (hafter : ∀ y ∈ rest, R a y → R b y) : (init ++ b :: rest).Pairwise R := by
  obtain ⟨hinit, hrest, hacross⟩ := List.pairwise_append.mp h
  obtain ⟨hhead, htail⟩ := List.pairwise_cons.mp hrest
  refine List.pairwise_append.mpr ⟨hinit, List.pairwise_cons.mpr ⟨?_, htail⟩, ?_⟩
  · exact fun y hy => hafter y hy (hhead y hy)
  · intro x hx y hy
    rcases List.mem_cons.mp hy with rfl | hy
    · exact hbefore x hx (hacross x hx a List.mem_cons_self)
    · exact hacross x hx y (List.mem_cons_of_mem _ hy)

namespace WindowFamily

variable {α : Type} {tolerance : Nat} {f f' : WindowFamily α} {fs : List (WindowFamily α)}
  {v w : Window α} {day : Weekday}

/-- The family would not take in the window. -/
def Refuses (tolerance : Nat) (f : WindowFamily α) (w : Window α) : Prop :=
  ∀ day, w.weekdays = [day] → ¬ f.group.admits tolerance w day

/-- Families in the order of their leaders, none of which an earlier family would take in. -/
structure Settled (tolerance : Nat) (fs : List (WindowFamily α)) : Prop where
  orderly : ∀ f ∈ fs, f.Orderly Weekday.Earlier
  inOrder : fs.Pairwise fun f f' => f.leader.opensBefore f'.leader
  refused : fs.Pairwise fun f f' => f.Refuses tolerance f'.leader

/-- A family that has taken in a window refuses those that opened earlier. -/
theorem Orderly.refuses_earlier (h : (f.add w).Orderly Weekday.Earlier) (hday : w.weekdays = [day])
    (hleader : f.leader.opensBefore v) (hearlier : v.opensBefore w) :
    (f.add w).Refuses tolerance v := by
  intro day' hday' hadmits
  have hopen := Window.firstDay_le hleader
  have hle := Window.firstDay_le hearlier
  rw [Window.firstDay_of_single hday'] at hopen hle
  rw [Window.firstDay_of_single hday] at hle
  obtain ⟨last, hlast, hnext⟩ := rightBefore_of_isFollowedBy h.head_eq hopen
    (Bool.and_eq_true_iff.mp hadmits).2
  rw [days_add, hday, List.getLast?_concat, Option.some.injEq] at hlast
  subst hlast
  unfold Weekday.RightBefore at hnext
  omega

theorem Settled.place (h : Settled tolerance fs) (hw : w.weekdays.Pairwise Weekday.Earlier)
    (hopens : ∀ f ∈ fs, f.leader.opensBefore w) : Settled tolerance (place tolerance w fs) := by
  have horderly : ∀ f ∈ WindowFamily.place tolerance w fs, f.Orderly Weekday.Earlier :=
    Orderly.place (fun _ _ => Weekday.RightBefore.earlier) hw.isChain hopens h.orderly
  rcases place_cases tolerance w fs with ⟨heq, hall⟩ | ⟨init, g, rest, day, rfl, hday, -, heq⟩
  · rw [heq] at horderly ⊢
    refine ⟨horderly, List.pairwise_append.mpr ⟨h.inOrder, List.pairwise_singleton _ _, ?_⟩,
      List.pairwise_append.mpr ⟨h.refused, List.pairwise_singleton _ _, ?_⟩⟩
    · exact fun f hf => List.forall_mem_singleton.mpr (hopens f hf)
    · exact fun f hf => List.forall_mem_singleton.mpr (hall f hf)
  · rw [heq] at horderly ⊢
    refine ⟨horderly, pairwise_replace h.inOrder (fun _ _ => id) (fun _ _ => id),
      pairwise_replace h.refused (fun _ _ => id) ?_⟩
    -- The family that grew still refuses the leaders after it: they opened before its new member.
    intro f hf _
    have hleaders : g.leader.opensBefore f.leader :=
      (List.pairwise_cons.mp (List.pairwise_append.mp h.inOrder).2.1).1 f hf
    exact (horderly (g.add w) (by simp)).refuses_earlier hday hleaders (hopens f (by simp [hf]))

theorem place_lone_of_refused {vs : List (Window α)} (h : ∀ v ∈ vs, (lone v).Refuses tolerance w) :
    place tolerance w (vs.map lone) = (vs ++ [w]).map lone := by
  rcases place_cases tolerance w (vs.map lone) with ⟨heq, -⟩ | ⟨init, f, rest, day, hfs, hday, hin, -⟩
  · rw [heq, List.map_append]
    rfl
  · have hf : f ∈ vs.map lone := by simp [hfs]
    obtain ⟨v, hv, rfl⟩ := List.mem_map.mp hf
    exact (h v hv day hday hin).elim

/-- Windows that refuse each other stay apart. -/
theorem foldl_place_lone {ws : List (Window α)} (vs : List (Window α))
    (h : (vs ++ ws).Pairwise fun v w => (lone v).Refuses tolerance w) :
    ws.foldl (fun fs w => place tolerance w fs) (vs.map lone) = (vs ++ ws).map lone := by
  induction ws generalizing vs with
  | nil => rw [List.foldl_nil, List.append_nil]
  | cons w ws ih =>
    have hw : ∀ v ∈ vs, (lone v).Refuses tolerance w :=
      fun v hv => (List.pairwise_append.mp h).2.2 v hv w List.mem_cons_self
    rw [List.foldl_cons, place_lone_of_refused hw, ih, List.append_assoc]
    · rfl
    · rwa [List.append_assoc]

section

variable [Scalar α]

/-- A merged window stands for its family among others. -/
theorem Orderly.refuses_merged (h : f.Orderly Weekday.Earlier) (h' : f'.Orderly Weekday.Earlier)
    (hrefuses : f.Refuses tolerance f'.leader) :
    (lone f.group.merged).Refuses tolerance f'.group.merged := by
  intro day hday hadmits
  have hleader : f'.leader.weekdays = [day] := by
    have hhead := h'.head_eq
    rw [h'.weekdays_merged] at hday
    have hsplit : f'.leader.weekdays ++ f'.followers.flatMap (·.weekdays) = [day] := hday
    rw [hday] at hhead
    cases hown : f'.leader.weekdays with
    | nil => simp [hown] at hhead
    | cons d ds =>
      rw [hown, List.cons_append, List.cons.injEq, List.append_eq_nil_iff] at hsplit
      rw [hsplit.1, hsplit.2.1]
  apply hrefuses day hleader
  have hgroup : (lone f.group.merged).group.window.weekdays = f.group.window.weekdays := by
    rw [weekdays_group, weekdays_group, days_lone, h.weekdays_merged]
  simp only [WindowGroup.admits, WindowGroup.isFollowedBy, hgroup] at hadmits ⊢
  exact hadmits

end

end WindowFamily

namespace Window

variable {α : Type} {tolerance : Nat} {ws : List (Window α)}

theorem settled_families (h : ∀ w ∈ ws, w.weekdays.Pairwise Weekday.Earlier) :
    WindowFamily.Settled tolerance (families tolerance ws) := by
  apply families_induction
  · intro fs w hw hbefore hfs
    exact hfs.place (h w hw) fun f hf => hbefore f hf _ List.mem_cons_self
  · exact ⟨by simp, List.Pairwise.nil, List.Pairwise.nil⟩

variable [Scalar α]

theorem families_mergeAdjacent (h : ∀ w ∈ ws, w.weekdays.Pairwise Weekday.Earlier) :
    families tolerance (mergeAdjacent tolerance ws) =
      (mergeAdjacent tolerance ws).map WindowFamily.lone := by
  obtain ⟨horderly, hinOrder, hrefused⟩ :
    WindowFamily.Settled tolerance (families tolerance ws) := settled_families h
  have hsorted : (mergeAdjacent tolerance ws).Pairwise fun v w => opensBefore v w := by
    rw [mergeAdjacent_eq_map, List.pairwise_map]
    refine hinOrder.imp_of_mem fun hf hf' hopens => ?_
    unfold opensBefore
    rw [(horderly _ hf).firstDay_merged, (horderly _ hf').firstDay_merged]
    exact hopens
  have hrefuses : (mergeAdjacent tolerance ws).Pairwise
      fun v w => (WindowFamily.lone v).Refuses tolerance w := by
    rw [mergeAdjacent_eq_map, List.pairwise_map]
    exact hrefused.imp_of_mem fun hf hf' hno => (horderly _ hf).refuses_merged (horderly _ hf') hno
  rw [families, List.mergeSort_of_pairwise hsorted]
  exact WindowFamily.foldl_place_lone [] hrefuses

/-- Merging again takes each merged window for itself. -/
theorem mergeAdjacent_mergeAdjacent (h : ∀ w ∈ ws, w.weekdays.Pairwise Weekday.Earlier) :
    mergeAdjacent tolerance (mergeAdjacent tolerance ws) = (mergeAdjacent tolerance ws).map fun w =>
      make w.weekdays w.start w.stop (Scalar.sum [w.probability] / ((1 : Nat) : α)) := by
  rw [mergeAdjacent_eq_map, families_mergeAdjacent h, List.map_map]
  apply List.map_congr_left
  intro m _
  show make (WindowFamily.lone m).days m.start m.stop _ = _
  rw [WindowFamily.days_lone]
  rfl

theorem pairwise_of_mem_mergeAdjacent {m : Window α} (h : m ∈ mergeAdjacent tolerance ws) :
    m.weekdays.Pairwise Weekday.Earlier := by
  rw [mergeAdjacent_eq_map] at h
  obtain ⟨f, -, rfl⟩ := List.mem_map.mp h
  exact pairwise_orderedDays _

theorem probability_mem {ws : List (Window Rat)} {m : Window Rat} (h : m ∈ mergeAdjacent tolerance ws) :
    ((0 : Nat) : Rat) ≤ m.probability ∧ m.probability ≤ ((1 : Nat) : Rat) := by
  rw [mergeAdjacent_eq_map] at h
  obtain ⟨f, -, rfl⟩ := List.mem_map.mp h
  exact Scalar.clamp_mem (by decide)

/-- When a window opens and closes. -/
def times (w : Window α) : List Weekday × TimeOfDay × TimeOfDay := (w.weekdays, w.start, w.stop)

/-- Merged windows are merged already. -/
theorem times_mergeAdjacent_mergeAdjacent (h : ∀ w ∈ ws, w.IsMade) :
    (mergeAdjacent tolerance (mergeAdjacent tolerance ws)).map times =
      (mergeAdjacent tolerance ws).map times := by
  rw [mergeAdjacent_mergeAdjacent fun w hw => (h w hw).pairwise, List.map_map]
  apply List.map_congr_left
  intro m hm
  show (orderedDays m.weekdays, m.start, m.stop) = _
  rw [orderedDays_eq_self (pairwise_of_mem_mergeAdjacent hm)]
  rfl

/-- In exact arithmetic merged windows keep their probabilities, too. -/
theorem mergeAdjacent_idempotent {ws : List (Window Rat)} (h : ∀ w ∈ ws, w.IsMade) :
    mergeAdjacent tolerance (mergeAdjacent tolerance ws) = mergeAdjacent tolerance ws := by
  rw [mergeAdjacent_mergeAdjacent fun w hw => (h w hw).pairwise]
  refine (List.map_congr_left fun m hm => ?_).trans (List.map_id _)
  obtain ⟨hlo, hhi⟩ := probability_mem hm
  have hmean : Scalar.sum [m.probability] / ((1 : Nat) : Rat) = m.probability :=
    calc Scalar.sum [m.probability] / ((1 : Nat) : Rat) = (m.probability + 0) / 1 := by
          rw [Scalar.sum_cons]
          rfl
      _ = m.probability := by rw [add_zero, div_one]
  rw [hmean, make, orderedDays_eq_self (pairwise_of_mem_mergeAdjacent hm),
    Scalar.clamp_eq_self hlo hhi]
  rfl

/-! A window of two weekdays between shifts of one: it takes in Friday's and Saturday's, while Wednesday's
is taken in by none. -/
namespace Shifts

def week : List (Window Rat) :=
  [make [.mon] (.ofMinute 540) (.ofMinute 1020) 1, make [.thu, .tue] (.ofMinute 540) (.ofMinute 1020) 1,
    make [.wed] (.ofMinute 540) (.ofMinute 1020) 1, make [.fri] (.ofMinute 555) (.ofMinute 1020) 1,
    make [.sat] (.ofMinute 540) (.ofMinute 1035) 1]

theorem isMade_week : ∀ w ∈ week, w.IsMade := by
  intro w hw
  simp only [week, List.mem_cons, List.not_mem_nil, or_false] at hw
  rcases hw with rfl | rfl | rfl | rfl | rfl <;> exact ⟨_, _, _, _, rfl⟩

theorem times_week : (mergeAdjacent 30 week).map times =
    [([.mon], .ofMinute 540, .ofMinute 1020), ([.tue, .thu, .fri, .sat], .ofMinute 540, .ofMinute 1020),
      ([.wed], .ofMinute 540, .ofMinute 1020)] := by
  rw [mergeAdjacent_eq_map, families, List.mergeSort_of_pairwise (by decide)]
  rfl

end Shifts

theorem times_mergeAdjacent_mergeAdjacent_shifts : (∀ w ∈ Shifts.week, w.IsMade) ∧
    (mergeAdjacent 30 (mergeAdjacent 30 Shifts.week)).map times =
      [([.mon], .ofMinute 540, .ofMinute 1020),
        ([.tue, .thu, .fri, .sat], .ofMinute 540, .ofMinute 1020),
        ([.wed], .ofMinute 540, .ofMinute 1020)] :=
  ⟨Shifts.isMade_week,
    (times_mergeAdjacent_mergeAdjacent Shifts.isMade_week).trans Shifts.times_week⟩

end Window

end FleetSizing
