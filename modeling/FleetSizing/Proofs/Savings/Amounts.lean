import FleetSizing.Proofs.Savings.Estimate
import FleetSizing.Proofs.Scalar.Numbers

/-! What the amounts of savings are in doubles. Against a finite price they are numbers, as long as the prices of
the options are; against any other, none is less than another. -/
namespace FleetSizing

/-- A finite price may be infinite for a month, but it is a number. -/
theorem PriceCatalog.not_isNaN_monthlyFor? {c : PriceCatalog Float} (hrows : ∀ row ∈ c.rows, row.hourly.isFinite)
    {pricing : Pricing} {shape : String} {p : Float} (h : c.monthlyFor? pricing shape = some p) : ¬ p.isNaN := by
  have hlookup : ∀ {customer name region os : String} {hourly : Float},
      c.lookup? customer name region os = some hourly → hourly.isFinite := by
    intro customer name region os hourly h
    obtain ⟨row, hfound, rfl⟩ := Option.map_eq_some_iff.mp h
    exact hrows row (List.mem_of_find?_eq_some hfound)
  obtain ⟨hourly, hhourly, rfl⟩ := Option.map_eq_some_iff.mp h
  have hfinite : hourly.isFinite := by
    rcases Option.or_eq_some_iff.mp (Option.orElse_eq_or.symm.trans hhourly) with h | ⟨-, h⟩
    · exact hlookup h
    · exact hlookup h
  exact DoubleNumber.not_isNaN_mul hfinite (by decide)

namespace Savings

open Float.Model Float.Model.UnpackedFloat DoubleNumber

variable {current p q : Float}

theorem not_isNaN_round2_sub (hcurrent : current.isFinite) (hp : ¬ p.isNaN) :
    ¬ (Scalar.round2 (current - p)).isNaN :=
  not_isNaN_round2 (not_isNaN_sub hcurrent hp)

/-- What is left of an infinite price is infinite, or no number. -/
theorem sub_of_not_isFinite (hcurrent : ¬ current.isFinite) : ∃ s : Sign, ∀ p : Float,
    current - p = .ofModel (.pack (.infinity s)) ∨ current - p = .ofModel (.pack .notANumber) := by
  have hsub : ∀ p : Float, current - p =
      .ofModel (.pack (UnpackedFloat.sub .binary64 current.toModel.unpack p.toModel.unpack)) := fun _ => rfl
  have hfinite : ¬ current.toModel.unpack.isFinite := hcurrent
  cases h : current.toModel.unpack with
  | notANumber =>
    refine ⟨.positive, fun p => Or.inr ?_⟩
    rw [hsub, h]
    rfl
  | infinity s =>
    refine ⟨s, fun p => ?_⟩
    rw [hsub, h]
    exact (sub_infinity s p.toModel.unpack).imp (fun h => by rw [h]) (fun h => by rw [h])
  | zero _ => exact (hfinite (by rw [h]; rfl)).elim
  | finite _ _ _ _ => exact (hfinite (by rw [h]; rfl)).elim

theorem not_round2_sub_lt (hcurrent : ¬ current.isFinite) (p q : Float) :
    ¬ Scalar.round2 (current - p) < Scalar.round2 (current - q) := by
  obtain ⟨s, hsub⟩ := sub_of_not_isFinite hcurrent
  rcases hsub p with hp | hp <;> rcases hsub q with hq | hq <;> rw [hp, hq] <;> cases s <;>
    decide +kernel

theorem isNonneg_coverage (w : Window Float) : IsNonneg w.coverage.toModel.unpack := by
  have hday : IsNonneg (Float.ofNat w.duration * Float.ofNat 60 / Float.ofNat 86400).toModel.unpack :=
    isNonneg_div (isNonneg_mul (isNonneg_ofNat _) (isNonneg_ofNat _)) rfl
  exact isNonneg_mul (isNonneg_div (isNonneg_ofNat w.weekdays.length) rfl) hday

/-- A share of the week is a number between zero and one. -/
theorem isFinite_scheduledShare (windows : List (Window Float)) : (scheduledShare windows).isFinite := by
  have hsum : IsNonneg (Scalar.sum (windows.map Window.coverage) : Float).toModel.unpack := by
    refine isNonneg_sum fun x hx => ?_
    obtain ⟨w, -, rfl⟩ := List.mem_map.mp hx
    exact isNonneg_coverage w
  unfold scheduledShare Scalar.smaller
  generalize Scalar.sum (windows.map Window.coverage) = total at hsum ⊢
  split
  · rfl
  · rename_i hle
    split
    · rename_i hnumber
      have hnan := not_isNaN_of_beq (by simpa using hnumber)
      rw [isNaN_iff_unpack] at hnan
      exact hsum.isFinite hnan (b := (Float.ofNat 1).toModel.unpack) rfl fun hlt => hle (decide_eq_true hlt)
    · rfl

section

variable {price : String → Option Float} {report : Report Float} {a : Action} {j : Nat} {o : Saving Float}
  {shape : String}

theorem exists_amount (h : Makes price report current a j o) : ∃ p, o.amount = Scalar.round2 (current - p) := by
  cases h <;> exact ⟨_, rfl⟩

theorem not_isNaN_amount (hcurrent : current.isFinite) (hprices : ∀ name p, price name = some p → ¬ p.isNaN)
    (hsplit : a = .split → ∀ parts, PartsOf price report.offers parts → ¬ (splitPrice parts).isNaN)
    (h : Makes price report current a j o) : ¬ o.amount.isNaN := by
  cases h with
  | schedule _ => exact not_isNaN_round2_sub hcurrent (not_isNaN_mul hcurrent (isFinite_scheduledShare _))
  | shutdown => exact not_isNaN_round2_sub hcurrent (not_isNaN_ofNat 0)
  | shrink _ hp => exact not_isNaN_round2_sub hcurrent (hprices _ _ hp)
  | resize _ _ hp => exact not_isNaN_round2_sub hcurrent (hprices _ _ hp)
  | split hparts _ => exact not_isNaN_round2_sub hcurrent (hsplit rfl _ hparts)

/-- Amounts compare where prices are numbers, that of a split among them. -/
theorem comparable_of_numbers (hprices : ∀ name p, price name = some p → ¬ p.isNaN)
    (hsplit : .split ∈ report.actions → ∀ parts, PartsOf price report.offers parts → ¬ (splitPrice parts).isNaN) :
    Comparable price report shape := by
  by_cases hcurrent : ∃ current, price shape = some current ∧ current.isFinite
  · obtain ⟨current, hprice, hfinite⟩ := hcurrent
    have hnumber : ∀ o i j, MakesAt price report shape o i j → o.amount.toModel.unpack ≠ .notANumber := by
      rintro o i j ⟨a, current', ha, hprice', ho⟩
      obtain rfl : current = current' := Option.some.inj (hprice.symm.trans hprice')
      refine fun hnan => not_isNaN_amount hfinite hprices (fun hsplits => hsplit ?_) ho (isNaN_iff_unpack.mpr hnan)
      exact hsplits ▸ List.mem_of_getElem? ha
    refine ⟨_, inferInstance, fun x => place x.toModel.unpack, fun o i j o' i' j' ho ho' => ?_⟩
    rw [← lt_iff_place (hnumber o i j ho) (hnumber o' i' j' ho')]
    exact decide_eq_true_iff
  · refine ⟨ℕ, inferInstance, fun _ => 0, fun o i j o' i' j' ho ho' => ?_⟩
    obtain ⟨a, current, -, hprice, ho⟩ := ho
    obtain ⟨a', current', -, hprice', ho'⟩ := ho'
    obtain rfl : current = current' := Option.some.inj (hprice.symm.trans hprice')
    obtain ⟨p, hp⟩ := exists_amount ho
    obtain ⟨q, hq⟩ := exists_amount ho'
    rw [hp, hq]
    simpa using not_round2_sub_lt (fun hfinite => hcurrent ⟨current, hprice, hfinite⟩) p q

end

end Savings

end FleetSizing
