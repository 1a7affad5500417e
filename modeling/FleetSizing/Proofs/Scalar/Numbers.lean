import FleetSizing.Proofs.Scalar.Share

/-! Which operations on doubles give numbers. Rounding and packing keep the sign of a double, and only what is
not a number has none. Numbers compare by their places in a linear order, infinities at its ends. -/
namespace FleetSizing.DoubleNumber

open Float.Model Float.Model.UnpackedFloat

variable {a b : UnpackedFloat}

/-- Sign of a double; what is not a number has none. -/
def sign? : UnpackedFloat → Option Sign
  | .notANumber => none
  | .infinity s | .zero s | .finite s _ _ _ => some s

theorem sign?_roundWithAccuracy {s : Sign} {m : Nat} {e : Int} {accuracy : Accuracy} :
    sign? (roundWithAccuracy .binary64 s m e accuracy) = some s := by
  obtain ⟨⟨cut, e'⟩, hcut⟩ : ∃ p, shiftToTargetExponent .binary64 m e accuracy = p := ⟨_, rfl⟩
  obtain ⟨⟨last, e''⟩, hlast⟩ : ∃ p, shiftToTargetExponent .binary64 cut.roundedMantissa e' .exact = p :=
    ⟨_, rfl⟩
  rcases Nat.eq_zero_or_pos last.mantissa with hzero | hpos
  · rw [roundWithAccuracy, hcut]
    dsimp only
    rw [hlast]
    dsimp only
    rw [dif_pos hzero]
    rfl
  · rw [WholeNumbers.roundWithAccuracy_of_shift hcut hlast hpos]
    rfl

theorem sign?_round {s : Sign} {m : Nat} {e : Int} :
    sign? (UnpackedFloat.round .binary64 s m e) = some s :=
  sign?_roundWithAccuracy

/-- The greatest exponent is the one of infinity, if there is no mantissa. -/
theorem sign?_unpack_packComponents {s : Sign} {exponent : BitVec 11} {mantissa : BitVec 52}
    (h : exponent = -1#11 → mantissa = 0#52) :
    sign? (UnpackedFloat.unpack .binary64 (packComponents .binary64 s exponent mantissa)) = some s := by
  delta UnpackedFloat.unpack
  dsimp only
  by_cases hones : exponent = -1#11
  · rw [if_pos (by rwa [unpackExponent_packComponents]),
      if_pos (by rw [unpackMantissa_packComponents]; exact h hones)]
    exact congrArg some WholeNumbers.unpackSign_packComponents
  rw [if_neg (by rwa [unpackExponent_packComponents])]
  by_cases hzeros : exponent = 0#11
  · rw [if_pos (by rwa [unpackExponent_packComponents])]
    by_cases hnone : mantissa = 0#52
    · rw [dif_pos (by rwa [unpackMantissa_packComponents])]
      exact congrArg some WholeNumbers.unpackSign_packComponents
    · rw [dif_neg (by rwa [unpackMantissa_packComponents])]
      exact congrArg some WholeNumbers.unpackSign_packComponents
  · rw [if_neg (by rwa [unpackExponent_packComponents])]
    exact congrArg some WholeNumbers.unpackSign_packComponents

/-- A packed number is the same, infinite or a zero, but not without a sign. -/
theorem sign?_unpack_pack (u : UnpackedFloat) : sign? (Float.Model.pack u).unpack = sign? u := by
  change sign? (UnpackedFloat.unpack .binary64 (UnpackedFloat.pack .binary64 u)) = sign? u
  cases u with
  | notANumber => rfl
  | infinity s => exact sign?_unpack_packComponents fun _ => rfl
  | zero s => exact sign?_unpack_packComponents fun _ => rfl
  | finite s m e h =>
    rw [WholeNumbers.pack_finite]
    change _ = some s
    by_cases hlarge : 2 ^ 11 ≤ (e + 1023 + 52).toNat + 1
    · rw [if_pos hlarge]
      exact sign?_unpack_packComponents fun _ => rfl
    rw [if_neg hlarge]
    split
    · refine sign?_unpack_packComponents fun hones => ?_
      have hbits := congrArg BitVec.toNat hones
      rw [BitVec.toNat_ofNat, Nat.mod_eq_of_lt (by omega)] at hbits
      rw [hbits] at hlarge
      exact (hlarge (by decide)).elim
    · exact sign?_unpack_packComponents nofun

theorem ne_of_sign? {s : Sign} (h : sign? a = some s) : a ≠ .notANumber := by
  rintro rfl
  cases h

theorem unpack_pack_ne (h : a ≠ .notANumber) : (Float.Model.pack a).unpack ≠ .notANumber := by
  obtain ⟨s, hs⟩ : ∃ s, sign? a = some s := by
    cases a with
    | notANumber => exact (h rfl).elim
    | _ => exact ⟨_, rfl⟩
  exact ne_of_sign? ((sign?_unpack_pack a).trans hs)

theorem normalize_ne (m e : Int) (zeroSign : Sign) :
    UnpackedFloat.normalize .binary64 m e zeroSign ≠ .notANumber := by
  unfold UnpackedFloat.normalize
  split
  · exact ne_of_sign? sign?_round
  · simp
  · exact ne_of_sign? sign?_round

theorem sub_ne (ha : a.isFinite) (hb : b ≠ .notANumber) :
    UnpackedFloat.sub .binary64 a b ≠ .notANumber := by
  cases a with
  | infinity _ => cases ha
  | notANumber => cases ha
  | zero s =>
    cases b with
    | notANumber => exact (hb rfl).elim
    | zero t =>
      dsimp only [UnpackedFloat.sub]
      split <;> nofun
    | _ => nofun
  | finite s m e _ =>
    cases b with
    | notANumber => exact (hb rfl).elim
    | finite t n f _ => exact normalize_ne _ _ _
    | _ => nofun

theorem sub_infinity (s : Sign) (b : UnpackedFloat) :
    UnpackedFloat.sub .binary64 (.infinity s) b = .infinity s ∨
      UnpackedFloat.sub .binary64 (.infinity s) b = .notANumber := by
  cases b with
  | notANumber => exact Or.inr rfl
  | infinity t =>
    dsimp only [UnpackedFloat.sub]
    split
    · exact Or.inl rfl
    · exact Or.inr rfl
  | _ => exact Or.inl rfl

theorem add_ne (ha : a ≠ .notANumber) (hb : b.isFinite) : UnpackedFloat.add .binary64 a b ≠ .notANumber := by
  cases b with
  | infinity _ => cases hb
  | notANumber => cases hb
  | zero t =>
    cases a with
    | notANumber => exact (ha rfl).elim
    | zero s =>
      dsimp only [UnpackedFloat.add]
      split <;> nofun
    | _ => nofun
  | finite t n f _ =>
    cases a with
    | notANumber => exact (ha rfl).elim
    | finite s m e _ => exact normalize_ne _ _ _
    | _ => nofun

theorem mul_ne (ha : a.isFinite) (hb : b.isFinite) : UnpackedFloat.mul .binary64 a b ≠ .notANumber := by
  cases a with
  | infinity _ => cases ha
  | notANumber => cases ha
  | zero _ =>
    cases b with
    | infinity _ => cases hb
    | notANumber => cases hb
    | _ => nofun
  | finite s m e _ =>
    cases b with
    | infinity _ => cases hb
    | notANumber => cases hb
    | zero _ => nofun
    | finite t n f _ => exact ne_of_sign? sign?_roundWithAccuracy

variable {s : Sign} {m : Nat} {e : Int} {h : 0 < m}

theorem mul_finite_ne (ha : a ≠ .notANumber) :
    UnpackedFloat.mul .binary64 a (.finite s m e h) ≠ .notANumber := by
  cases a with
  | notANumber => exact (ha rfl).elim
  | finite t n f _ => exact ne_of_sign? sign?_roundWithAccuracy
  | _ => nofun

theorem div_finite_ne (ha : a ≠ .notANumber) :
    UnpackedFloat.div .binary64 a (.finite s m e h) ≠ .notANumber := by
  cases a with
  | notANumber => exact (ha rfl).elim
  | finite t n f _ => exact ne_of_sign? sign?_roundWithAccuracy
  | _ => nofun

theorem neg_ne (ha : a ≠ .notANumber) : a.neg ≠ .notANumber := by
  cases a with
  | notANumber => exact (ha rfl).elim
  | _ => nofun

/-- What a number compares by, infinities at the ends. -/
def place : UnpackedFloat → ℤ ×ₗ ℤ ×ₗ ℤ
  | .infinity .positive => toLex (2, toLex (0, 0))
  | .infinity .negative => toLex (-2, toLex (0, 0))
  | a => DoubleOrder.key a

theorem lt_iff_place (ha : a ≠ .notANumber) (hb : b ≠ .notANumber) : a.lt b ↔ place a < place b := by
  cases a with
  | notANumber => exact (ha rfl).elim
  | infinity s =>
    cases b with
    | notANumber => exact (hb rfl).elim
    | infinity t =>
      cases s <;> cases t <;> decide
    | zero t => cases s <;> cases t <;> decide
    | finite t n f _ =>
      cases s <;> cases t <;>
        dsimp only [UnpackedFloat.lt, UnpackedFloat.compare, place, DoubleOrder.key] <;>
        simp [DoubleOrder.key_lt_key_iff]
  | zero s =>
    cases b with
    | notANumber => exact (hb rfl).elim
    | infinity t => cases s <;> cases t <;> decide
    | zero t => exact DoubleOrder.lt_iff rfl rfl
    | finite t n f _ => exact DoubleOrder.lt_iff rfl rfl
  | finite s m e _ =>
    cases b with
    | notANumber => exact (hb rfl).elim
    | infinity t =>
      cases s <;> cases t <;>
        dsimp only [UnpackedFloat.lt, UnpackedFloat.compare, place, DoubleOrder.key] <;>
        simp [DoubleOrder.key_lt_key_iff]
    | zero t => exact DoubleOrder.lt_iff rfl rfl
    | finite t n f _ => exact DoubleOrder.lt_iff rfl rfl

/-- Not below zero. -/
def IsNonneg : UnpackedFloat → Prop
  | .infinity s | .finite s _ _ _ => s = .positive
  | .notANumber | .zero _ => True

theorem isNonneg_of_sign? (h : sign? a = some .positive) : IsNonneg a := by
  cases a with
  | infinity _ => exact Option.some.inj h
  | finite _ _ _ _ => exact Option.some.inj h
  | _ => trivial

theorem IsNonneg.unpack_pack (ha : IsNonneg a) : IsNonneg (Float.Model.pack a).unpack := by
  cases a with
  | notANumber => trivial
  | zero s => cases s <;> trivial
  | infinity s =>
    obtain rfl : s = .positive := ha
    exact isNonneg_of_sign? (sign?_unpack_pack _)
  | finite s m e h =>
    obtain rfl : s = .positive := ha
    exact isNonneg_of_sign? (sign?_unpack_pack _)

theorem normalize_nonneg {n : Int} (hn : 0 ≤ n) :
    IsNonneg (UnpackedFloat.normalize .binary64 n e .positive) := by
  unfold UnpackedFloat.normalize
  split
  · rename_i hlt
    rw [Int.compare_eq_lt] at hlt
    omega
  · trivial
  · exact isNonneg_of_sign? sign?_round

theorem IsNonneg.add (ha : IsNonneg a) (hb : IsNonneg b) : IsNonneg (UnpackedFloat.add .binary64 a b) := by
  cases a with
  | notANumber => trivial
  | infinity s =>
    obtain rfl : s = .positive := ha
    cases b with
    | notANumber => trivial
    | infinity t =>
      obtain rfl : t = .positive := hb
      rfl
    | _ => rfl
  | zero s =>
    cases b with
    | zero t =>
      dsimp only [UnpackedFloat.add]
      split <;> trivial
    | _ => exact hb
  | finite s m e _ =>
    obtain rfl : s = .positive := ha
    cases b with
    | notANumber => trivial
    | infinity t => exact hb
    | zero t => rfl
    | finite t n f _ =>
      obtain rfl : t = .positive := hb
      exact normalize_nonneg (Int.add_nonneg (Int.natCast_nonneg _) (Int.natCast_nonneg _))

theorem IsNonneg.mul (ha : IsNonneg a) (hb : IsNonneg b) : IsNonneg (UnpackedFloat.mul .binary64 a b) := by
  cases a with
  | notANumber => trivial
  | infinity s =>
    obtain rfl : s = .positive := ha
    cases b with
    | infinity t | finite t _ _ _ =>
      obtain rfl : t = .positive := hb
      rfl
    | _ => trivial
  | zero s => cases b <;> trivial
  | finite s m e _ =>
    obtain rfl : s = .positive := ha
    cases b with
    | infinity t =>
      obtain rfl : t = .positive := hb
      rfl
    | finite t n f _ =>
      obtain rfl : t = .positive := hb
      exact isNonneg_of_sign? sign?_roundWithAccuracy
    | _ => trivial

theorem IsNonneg.div (ha : IsNonneg a) : IsNonneg (UnpackedFloat.div .binary64 a (.finite .positive m e h)) := by
  cases a with
  | infinity s =>
    obtain rfl : s = .positive := ha
    rfl
  | finite s n f _ =>
    obtain rfl : s = .positive := ha
    exact isNonneg_of_sign? sign?_roundWithAccuracy
  | _ => trivial

/-- Between zero and a finite double. -/
theorem IsNonneg.isFinite (ha : IsNonneg a) (hnumber : a ≠ .notANumber) (hb : b.isFinite) (hle : ¬ b.lt a) :
    a.isFinite := by
  cases a with
  | notANumber => exact (hnumber rfl).elim
  | infinity s =>
    obtain rfl : s = .positive := ha
    exact (hle (DoubleOrder.lt_infinity hb)).elim
  | _ => rfl

theorem isNonneg_ofNat (n : Nat) : IsNonneg (Float.ofNat n).toModel.unpack := by
  rcases Rounding.isRegular_ofNat n with h | h | ⟨m, e, hm, h, -⟩ <;> rw [h] <;> trivial

/-! The same of packed doubles. -/

variable {x y : Float}

theorem isNaN_iff_unpack : x.isNaN ↔ x.toModel.unpack = .notANumber := by
  change x.toModel.unpack.isNaN ↔ _
  cases x.toModel.unpack with
  | notANumber => exact iff_of_true rfl rfl
  | _ => exact iff_of_false nofun nofun

/-- What is equal to itself is a number. -/
theorem not_isNaN_of_beq (h : x == x) : ¬ x.isNaN := by
  rw [isNaN_iff_unpack]
  intro hnan
  change x.toModel.unpack.beq x.toModel.unpack at h
  rw [hnan] at h
  cases h

theorem not_isNaN_sub (hx : x.isFinite) (hy : ¬ y.isNaN) : ¬ (x - y).isNaN := by
  rw [isNaN_iff_unpack] at hy ⊢
  exact unpack_pack_ne (sub_ne hx hy)

theorem not_isNaN_add (hx : ¬ x.isNaN) (hy : y.isFinite) : ¬ (x + y).isNaN := by
  rw [isNaN_iff_unpack] at hx ⊢
  exact unpack_pack_ne (add_ne hx hy)

theorem not_isNaN_mul (hx : x.isFinite) (hy : y.isFinite) : ¬ (x * y).isNaN := by
  rw [isNaN_iff_unpack]
  exact unpack_pack_ne (mul_ne hx hy)

theorem not_isNaN_neg (hx : ¬ x.isNaN) : ¬ (-x).isNaN := by
  rw [isNaN_iff_unpack] at hx ⊢
  exact unpack_pack_ne (neg_ne hx)

theorem not_isNaN_ofNat (n : Nat) : ¬ (Float.ofNat n).isNaN := by
  rw [isNaN_iff_unpack]
  rcases Rounding.isRegular_ofNat n with h | h | ⟨m, e, hm, h, -⟩ <;> rw [h] <;> nofun

theorem not_isNaN_nearestPositive (hx : ¬ x.isNaN) : ¬ (Scalar.nearestPositive x).isNaN := by
  unfold Scalar.nearestPositive
  split
  · simp only
    split
    · exact not_isNaN_ofNat _
    · exact not_isNaN_add (not_isNaN_ofNat _) (by decide)
  · exact hx

theorem not_isNaN_nearestDouble (hx : ¬ x.isNaN) : ¬ (Scalar.nearestDouble x).isNaN := by
  unfold Scalar.nearestDouble
  split
  · exact not_isNaN_neg (not_isNaN_nearestPositive (not_isNaN_neg hx))
  · split
    · exact not_isNaN_nearestPositive hx
    · exact hx

theorem not_isNaN_round2 (hx : ¬ x.isNaN) : ¬ (Scalar.round2 x).isNaN := by
  have hscaled : ¬ (x * Float.ofNat 100).isNaN := by
    rw [isNaN_iff_unpack] at hx ⊢
    exact unpack_pack_ne (mul_finite_ne hx)
  have hnearest := not_isNaN_nearestDouble hscaled
  rw [isNaN_iff_unpack] at hnearest ⊢
  exact unpack_pack_ne (div_finite_ne hnearest)

theorem isNonneg_sum {xs : List Float} (h : ∀ x ∈ xs, IsNonneg x.toModel.unpack) :
    IsNonneg (Scalar.sum xs).toModel.unpack := by
  have hfold : ∀ (ys : List Float) (x : Float), IsNonneg x.toModel.unpack →
      (∀ y ∈ ys, IsNonneg y.toModel.unpack) → IsNonneg (ys.foldl (· + ·) x).toModel.unpack := by
    intro ys
    induction ys with
    | nil => exact fun _ hx _ => hx
    | cons y ys ih =>
      intro x hx hys
      have hy := hys y List.mem_cons_self
      exact ih (x + y) (hx.add hy).unpack_pack fun z hz => hys z (List.mem_cons_of_mem _ hz)
  exact hfold xs _ trivial h

theorem isNonneg_mul (hx : IsNonneg x.toModel.unpack) (hy : IsNonneg y.toModel.unpack) :
    IsNonneg (x * y).toModel.unpack :=
  (hx.mul hy).unpack_pack

theorem isNonneg_div (hx : IsNonneg x.toModel.unpack)
    (hy : y.toModel.unpack = .finite .positive m e h) : IsNonneg (x / y).toModel.unpack := by
  have hdiv : IsNonneg (UnpackedFloat.div .binary64 x.toModel.unpack y.toModel.unpack) := by
    rw [hy]
    exact hx.div
  exact hdiv.unpack_pack

end FleetSizing.DoubleNumber
