/-! Lists without repeats, such as those in a strict order. -/
namespace FleetSizing

section

variable {β : Type} [BEq β] [LawfulBEq β] {xs ys : List β}

theorem nodup_eraseDups (xs : List β) : xs.eraseDups.Nodup := by
  match xs with
  | [] => simp
  | x :: xs =>
    rw [List.eraseDups_cons, List.nodup_cons]
    exact ⟨by simp, nodup_eraseDups (xs.filter fun y => !y == x)⟩
termination_by xs.length
decreasing_by exact Nat.lt_succ_of_le (List.length_filter_le _ _)

theorem length_eraseDups_congr (h : ∀ x, x ∈ xs ↔ x ∈ ys) :
    xs.eraseDups.length = ys.eraseDups.length := by
  apply List.Perm.length_eq
  rw [List.perm_ext_iff_of_nodup (nodup_eraseDups xs) (nodup_eraseDups ys)]
  simpa using h

end

section

variable {β : Type} [BEq β] {xs : List β}

instance partialEquivBEqList [PartialEquivBEq β] : PartialEquivBEq (List β) where
  symm := by
    intro as bs h
    induction as generalizing bs with
    | nil => cases bs <;> simp_all
    | cons a as ih =>
      cases bs with
      | nil => simp at h
      | cons b bs =>
        simp only [List.cons_beq_cons, Bool.and_eq_true] at h ⊢
        exact ⟨BEq.symm h.1, ih h.2⟩
  trans := by
    intro as bs cs hab hbc
    induction as generalizing bs cs with
    | nil => cases bs <;> simp_all
    | cons a as ih =>
      cases bs with
      | nil => simp at hab
      | cons b bs =>
        cases cs with
        | nil => simp at hbc
        | cons c cs =>
          simp only [List.cons_beq_cons, Bool.and_eq_true] at hab hbc ⊢
          exact ⟨BEq.trans hab.1 hbc.1, ih hab.2 hbc.2⟩

theorem eraseDups_eq_nil_iff : xs.eraseDups = [] ↔ xs = [] := by
  cases xs with
  | nil => simp
  | cons x xs => simp [List.eraseDups_cons]

/-- At most one value is left exactly if all are equal to each other. -/
theorem length_eraseDups_le_one_iff [PartialEquivBEq β] :
    xs.eraseDups.length ≤ 1 ↔ xs.Pairwise (· == ·) := by
  cases xs with
  | nil => simp
  | cons x xs =>
    have hlone : (x :: xs).eraseDups.length ≤ 1 ↔ ∀ y ∈ xs, y == x := by
      rw [List.eraseDups_cons, List.length_cons, Nat.succ_le_succ_iff, Nat.le_zero,
        List.length_eq_zero_iff, eraseDups_eq_nil_iff, List.filter_eq_nil_iff]
      simp
    rw [hlone, List.pairwise_cons]
    constructor
    · intro hall
      refine ⟨fun y hy => BEq.symm (hall y hy), ?_⟩
      exact List.pairwise_of_forall_mem_list fun y hy z hz =>
        BEq.trans (hall y hy) (BEq.symm (hall z hz))
    · exact fun hpair y hy => BEq.symm (hpair.1 y hy)

end

/-- There is one list of some values in an order that is asymmetric on them. -/
theorem eq_of_pairwise {β : Type} {R : β → β → Prop} {xs ys : List β} (hasymm : ∀ p ∈ xs, ∀ q ∈ xs, R p q → ¬ R q p)
    (hmem : ∀ p, p ∈ ys ↔ p ∈ xs) (hxs : xs.Pairwise R) (hys : ys.Pairwise R) : ys = xs := by
  have hnodup : ∀ {zs : List β}, (∀ p ∈ zs, p ∈ xs) → zs.Pairwise R → zs.Nodup := by
    intro zs hsub hzs
    refine hzs.imp_of_mem fun {p q} hp _ hpq heq => ?_
    subst heq
    exact hasymm p (hsub p hp) p (hsub p hp) hpq hpq
  have hperm : ys.Perm xs :=
    (List.perm_ext_iff_of_nodup (hnodup (fun p => (hmem p).mp) hys) (hnodup (fun _ => id) hxs)).mpr hmem
  refine hperm.eq_of_pairwise (fun p q hp hq hpq hqp => ?_) hys hxs
  exact (hasymm p ((hmem p).mp hp) q hq hpq hqp).elim

end FleetSizing
