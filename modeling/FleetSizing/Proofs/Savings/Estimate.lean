import FleetSizing.Proofs.Distinct
import FleetSizing.Proofs.Placed
import FleetSizing.Savings
import Mathlib.Data.List.Forall2
import Mathlib.Data.Prod.Lex

/-! The options of a report in the order of what they save. Each has a place, by the action that makes it and by the
offered shape it is made from, and equal savings keep the order of their places. -/
namespace FleetSizing

variable {α : Type}

/-- Shapes that an option moves a resource to. -/
def Saving.shapes (o : Saving α) : List String :=
  match o.target with
  | some (.shape name) => [name]
  | some (.split parts) => parts.map (·.shape)
  | some (.schedule _) | none => []

namespace Savings

variable [Scalar α] {price price' : String → Option α} {report : Report α} {current : α} {a : Action} {i j : Nat}
  {o : Saving α} {offers : List (Offer α)} {parts : List (SplitPart α)}

/-- What an offer is as a part of a split, at the price of its shape. -/
def part (offer : Offer α) (p : α) : SplitPart α :=
  ⟨offer.shape.name, Scalar.round2 p, offer.probability.getD ((0 : Nat) : α)⟩

/-- Parts of a split, one for each offer. None of them goes without a price. -/
def PartsOf (price : String → Option α) (offers : List (Offer α)) (parts : List (SplitPart α)) : Prop :=
  List.Forall₂ (fun offer q => ∃ p, price offer.shape.name = some p ∧ q = part offer p) offers parts

/-- Price of a split, by the time that each part serves. -/
def splitPrice (parts : List (SplitPart α)) : α :=
  Scalar.sum (parts.map fun q => q.monthlyPrice * q.probability)

/-- The option that an action makes at a place. -/
inductive Makes (price : String → Option α) (report : Report α) (current : α) :
    Action → Nat → Saving α → Prop where
  | schedule {windows : List (Window α)} : report.customSchedule? = some windows →
      Makes price report current .schedule 0
        (option .schedule current (current * scheduledShare windows) (some (.schedule windows)))
  | shutdown : Makes price report current .shutdown 0 (option .shutdown current ((0 : Nat) : α) none)
  /-- What can be shut down can also shrink. -/
  | shrink {i : Nat} {offer : Offer α} {p : α} : report.offers[i]? = some offer →
      price offer.shape.name = some p → Makes price report current .shutdown (i + 1)
        (option .scaleDown current p (some (.shape offer.shape.name)))
  | resize {a : Action} {i : Nat} {offer : Offer α} {p : α} :
      (a = .scaleUp ∨ a = .scaleDown ∨ a = .changeShape) → report.offers[i]? = some offer →
      price offer.shape.name = some p →
      Makes price report current a i (option a current p (some (.shape offer.shape.name)))
  | split {parts : List (SplitPart α)} : PartsOf price report.offers parts → parts ≠ [] →
      Makes price report current .split 0
        (option .split current (splitPrice parts) (some (.split parts)))

/-- An option at its place in a report: by the action, and among what the action makes. Nothing is made while the
current shape has no price. -/
def MakesAt (price : String → Option α) (report : Report α) (shape : String) (o : Saving α) (i j : Nat) : Prop :=
  ∃ a current, report.actions[i]? = some a ∧ price shape = some current ∧ Makes price report current a j o

/-- The options of a report with their places, the highest saving first. Where neither of two saves more, the one with
the earlier place is first. -/
structure IsEstimate (price : String → Option α) (report : Report α) (shape : String)
    (placed : List (Saving α × (ℕ ×ₗ ℕ))) : Prop where
  mem_iff : ∀ o i j, (o, toLex (i, j)) ∈ placed ↔ MakesAt price report shape o i j
  ordered : placed.Pairwise fun p q =>
    ¬ p.1.amount < q.1.amount ∧ (q.1.amount < p.1.amount ∨ p.2 < q.2)

/-- Amounts of options compare as their images in some linear order. -/
def Comparable (price : String → Option α) (report : Report α) (shape : String) : Prop :=
  ∃ (κ : Type) (_ : LinearOrder κ) (key : α → κ), ∀ o i j o' i' j', MakesAt price report shape o i j →
    MakesAt price report shape o' i' j' → (o.amount < o'.amount ↔ key o.amount < key o'.amount)

theorem makes_schedule_iff : Makes price report current .schedule j o ↔ ∃ windows,
    report.customSchedule? = some windows ∧ j = 0 ∧
      o = option .schedule current (current * scheduledShare windows) (some (.schedule windows)) := by
  constructor
  · intro h
    cases h with
    | schedule hcustom => exact ⟨_, hcustom, rfl, rfl⟩
    | resize ha => simp at ha
  · rintro ⟨windows, hcustom, rfl, rfl⟩
    exact .schedule hcustom

theorem makes_resize_iff (ha : a = .scaleUp ∨ a = .scaleDown ∨ a = .changeShape) :
    Makes price report current a j o ↔ ∃ offer p, report.offers[j]? = some offer ∧
      price offer.shape.name = some p ∧ o = option a current p (some (.shape offer.shape.name)) := by
  constructor
  · intro h
    cases h with
    | resize _ hoffer hp => exact ⟨_, _, hoffer, hp, rfl⟩
    | _ => simp at ha
  · rintro ⟨offer, p, hoffer, hp, rfl⟩
    exact .resize ha hoffer hp

theorem makes_shutdown_iff : Makes price report current .shutdown j o ↔
    j = 0 ∧ o = option .shutdown current ((0 : Nat) : α) none ∨
      ∃ i, j = i + 1 ∧ Makes price report current .scaleDown i o := by
  constructor
  · intro h
    cases h with
    | shutdown => exact Or.inl ⟨rfl, rfl⟩
    | shrink hoffer hp => exact Or.inr ⟨_, rfl, .resize (by simp) hoffer hp⟩
    | resize ha => simp at ha
  · rintro (⟨rfl, rfl⟩ | ⟨i, rfl, h⟩)
    · exact .shutdown
    · cases h with
      | resize _ hoffer hp => exact .shrink hoffer hp

theorem makes_split_iff : Makes price report current .split j o ↔ ∃ parts,
    PartsOf price report.offers parts ∧ parts ≠ [] ∧ j = 0 ∧
      o = option .split current (splitPrice parts) (some (.split parts)) := by
  constructor
  · intro h
    cases h with
    | split hparts hne => exact ⟨_, hparts, hne, rfl, rfl⟩
    | resize ha => simp at ha
  · rintro ⟨parts, hparts, hne, rfl, rfl⟩
    exact .split hparts hne

theorem not_makes (ha : a = .noAction ∨ a = .error) : ¬ Makes price report current a j o := by
  intro h
  cases h with
  | resize ha' => rcases ha with rfl | rfl <;> simp at ha'
  | _ => simp at ha

theorem mapM_eq_ok_iff {ε β γ : Type} {f : β → Except ε γ} {xs : List β} {ys : List γ} :
    xs.mapM f = .ok ys ↔ List.Forall₂ (fun x y => f x = .ok y) xs ys := by
  induction xs generalizing ys with
  | nil =>
    rw [List.mapM_nil, List.forall₂_nil_left_iff]
    exact ⟨fun h => (Except.ok.inj h).symm, fun h => h ▸ rfl⟩
  | cons x xs ih =>
    rw [List.mapM_cons, List.forall₂_cons_left_iff]
    cases hx : f x with
    | error e => simp [bind, Except.bind]
    | ok y =>
      cases hxs : xs.mapM f with
      | error e => simp [← ih, hxs, bind, Except.bind]
      | ok rest => simp [← ih, hxs, bind, Except.bind, pure, Except.pure, eq_comm]

theorem splitParts_eq_ok_iff : splitParts price offers = .ok parts ↔ PartsOf price offers parts := by
  rw [splitParts, mapM_eq_ok_iff, PartsOf]
  constructor
  · refine fun h => h.imp fun offer q hq => ?_
    cases hp : price offer.shape.name with
    | none => simp [hp] at hq
    | some p =>
      rw [hp] at hq
      exact ⟨p, rfl, (Except.ok.inj hq).symm⟩
  · refine fun h => h.imp fun offer q hq => ?_
    obtain ⟨p, hp, rfl⟩ := hq
    rw [hp]
    rfl

/-- Options of a resize, with the places of the shapes they are made from. -/
def placedOptions (price : String → Option α) (a : Action) (current : α) (offers : List (Offer α)) :
    List (Saving α × ℕ) :=
  offers.zipIdx.filterMap fun q =>
    (price q.1.shape.name).map fun p => (option a current p (some (.shape q.1.shape.name)), q.2)

theorem map_placedOptions :
    (placedOptions price a current offers).map (·.1) = resizeOptions price a current offers := by
  rw [resizeOptions]
  conv_rhs => rw [← List.zipIdx_map_fst 0 offers, List.filterMap_map]
  rw [placedOptions, List.map_filterMap]
  simp only [Option.map_map]
  rfl

theorem mem_placedOptions : (o, i) ∈ placedOptions price a current offers ↔ ∃ offer p,
    offers[i]? = some offer ∧ price offer.shape.name = some p ∧
      o = option a current p (some (.shape offer.shape.name)) := by
  simp only [placedOptions, List.mem_filterMap, Prod.exists, Option.map_eq_some_iff, Prod.mk.injEq,
    List.mem_zipIdx_iff_getElem?]
  constructor
  · rintro ⟨offer, i, hoffer, p, hp, rfl, rfl⟩
    exact ⟨offer, p, hoffer, hp, rfl⟩
  · rintro ⟨offer, p, hoffer, hp, rfl⟩
    exact ⟨offer, i, hoffer, p, hp, rfl, rfl⟩

theorem pairwise_placedOptions : (placedOptions price a current offers).Pairwise fun p q => p.2 < q.2 := by
  refine List.Pairwise.filterMap _ (fun p q hpq r hr t ht => ?_) (Placed.pairwise_zipIdx offers)
  simp only [Option.map_eq_some_iff] at hr ht
  obtain ⟨-, -, rfl⟩ := hr
  obtain ⟨-, -, rfl⟩ := ht
  exact hpq

/-- The options of an action, none if it fails, with their places. -/
structure IsMade (price : String → Option α) (report : Report α) (current : α) (a : Action)
    (made : List (Saving α × ℕ)) : Prop where
  mem_iff : ∀ o j, (o, j) ∈ made ↔ Makes price report current a j o
  ordered : made.Pairwise fun p q => p.2 < q.2
  map_eq : made.map (·.1) = (ofAction price a report current).toOption.getD []

theorem isMade_nil (hnone : ∀ o j, ¬ Makes price report current a j o)
    (hempty : (ofAction price a report current).toOption.getD [] = []) : IsMade price report current a [] where
  mem_iff o j := by simp [hnone]
  ordered := .nil
  map_eq := hempty.symm

theorem isMade_singleton (hone : ∀ o' j, Makes price report current a j o' ↔ j = 0 ∧ o' = o)
    (hok : ofAction price a report current = .ok [o]) : IsMade price report current a [(o, 0)] where
  mem_iff o' j := by rw [hone, List.mem_singleton, Prod.mk.injEq, and_comm]
  ordered := List.pairwise_singleton ..
  map_eq := by
    rw [hok]
    rfl

theorem isMade_resize (ha : a = .scaleUp ∨ a = .scaleDown ∨ a = .changeShape)
    (hok : ofAction price a report current = .ok (resizeOptions price a current report.offers)) :
    IsMade price report current a (placedOptions price a current report.offers) where
  mem_iff o j := mem_placedOptions.trans (makes_resize_iff ha).symm
  ordered := pairwise_placedOptions
  map_eq := by
    rw [hok]
    exact map_placedOptions

theorem isMade_shutdown : IsMade price report current .shutdown
    ((option .shutdown current ((0 : Nat) : α) none, 0) ::
      (placedOptions price .scaleDown current report.offers).map fun q => (q.1, q.2 + 1)) where
  mem_iff o j := by
    have hshrink := (isMade_resize (a := .scaleDown) (by simp) rfl : IsMade price report current _ _).mem_iff
    simp only [makes_shutdown_iff, ← hshrink, List.mem_cons, List.mem_map, Prod.mk.injEq, Prod.exists]
    constructor
    · rintro (⟨rfl, rfl⟩ | ⟨o, i, h, rfl, rfl⟩)
      · exact Or.inl ⟨rfl, rfl⟩
      · exact Or.inr ⟨i, rfl, h⟩
    · rintro (⟨rfl, rfl⟩ | ⟨i, rfl, h⟩)
      · exact Or.inl ⟨rfl, rfl⟩
      · exact Or.inr ⟨o, i, h, rfl, rfl⟩
  ordered := by
    rw [List.pairwise_cons]
    refine ⟨fun q hq => ?_, pairwise_placedOptions.map _ fun p q hpq => Nat.succ_lt_succ hpq⟩
    obtain ⟨p, -, rfl⟩ := List.mem_map.mp hq
    exact Nat.succ_pos _
  map_eq := by
    rw [List.map_cons, List.map_map]
    exact congrArg (List.cons _) map_placedOptions

theorem exists_isMade (price : String → Option α) (report : Report α) (current : α) (a : Action) :
    ∃ made, IsMade price report current a made := by
  cases a with
  | schedule =>
    cases hcustom : report.customSchedule? with
    | none =>
      refine ⟨_, isMade_nil (fun o j => ?_) (by simp [ofAction, hcustom, Except.toOption])⟩
      simp [makes_schedule_iff, hcustom]
    | some windows =>
      refine ⟨_, isMade_singleton (fun o j => ?_) (by simp only [ofAction, hcustom]; rfl)⟩
      simp [makes_schedule_iff, hcustom]
  | shutdown => exact ⟨_, isMade_shutdown⟩
  | scaleUp | scaleDown | changeShape => exact ⟨_, isMade_resize (by simp) rfl⟩
  | split =>
    cases hparts : splitParts price report.offers with
    | error e =>
      refine ⟨_, isMade_nil (fun o j => ?_) (by simp [ofAction, hparts, bind, Except.bind, Except.toOption])⟩
      simp [makes_split_iff, ← splitParts_eq_ok_iff, hparts]
    | ok parts =>
      rcases parts with _ | ⟨q, parts⟩
      · refine ⟨_, isMade_nil (fun o j => ?_) (by simp [ofAction, hparts, bind, Except.bind, Except.toOption])⟩
        simp [makes_split_iff, ← splitParts_eq_ok_iff, hparts]
      · refine ⟨_, isMade_singleton (fun o j => ?_) (by simp only [ofAction, hparts, bind, Except.bind]; rfl)⟩
        simp [makes_split_iff, ← splitParts_eq_ok_iff, hparts, splitPrice]
  | noAction => exact ⟨_, isMade_nil (fun o j => not_makes (Or.inl rfl)) rfl⟩
  | error => exact ⟨_, isMade_nil (fun o j => not_makes (Or.inr rfl)) rfl⟩

/-- The options of a report with their places, in the order in which they are made. -/
theorem exists_collected (price : String → Option α) (report : Report α) (shape : String) :
    ∃ places : List (Saving α × (ℕ ×ₗ ℕ)), places.Pairwise (fun p q => p.2 < q.2) ∧
      (∀ o i j, (o, toLex (i, j)) ∈ places ↔ MakesAt price report shape o i j) ∧
      places.map (·.1) = collected price report shape := by
  cases hcurrent : price shape with
  | none =>
    refine ⟨[], .nil, fun o i j => by simp [MakesAt, hcurrent], ?_⟩
    simp [collected, priced, hcurrent]
  | some current =>
    choose made hmade using exists_isMade price report current
    refine ⟨report.actions.zipIdx.flatMap fun q => (made q.1).map fun p => (p.1, toLex (q.2, p.2)), ?_, ?_, ?_⟩
    · rw [List.pairwise_flatMap]
      constructor
      · rintro ⟨a, i⟩ -
        refine (hmade a).ordered.map _ fun p q hpq => ?_
        exact Prod.Lex.toLex_lt_toLex.mpr (Or.inr ⟨rfl, hpq⟩)
      · refine (Placed.pairwise_zipIdx report.actions).imp fun {p q} hpq x hx y hy => ?_
        obtain ⟨-, -, rfl⟩ := List.mem_map.mp hx
        obtain ⟨-, -, rfl⟩ := List.mem_map.mp hy
        exact Prod.Lex.toLex_lt_toLex.mpr (Or.inl hpq)
    · intro o i j
      simp only [List.mem_flatMap, List.mem_map, Prod.exists, List.mem_zipIdx_iff_getElem?, Prod.mk.injEq,
        EmbeddingLike.apply_eq_iff_eq, MakesAt, hcurrent, Option.some.injEq]
      constructor
      · rintro ⟨a, i, ha, o, j, ho, rfl, rfl, rfl⟩
        exact ⟨a, current, ha, rfl, ((hmade a).mem_iff o j).mp ho⟩
      · rintro ⟨a, current', ha, hsame, ho⟩
        exact ⟨a, i, ha, o, j, ((hmade a).mem_iff o j).mpr (hsame ▸ ho), rfl, rfl, rfl⟩
    · have hpriced : collected price report shape =
          report.actions.flatMap fun a => (ofAction price a report current).toOption.getD [] := by
        refine List.flatMap_congr fun a _ => ?_
        simp only [priced, hcurrent]
        cases ofAction price a report current <;> rfl
      rw [hpriced, List.map_flatMap]
      conv_rhs => rw [← List.zipIdx_map_fst 0 report.actions, List.flatMap_map]
      refine List.flatMap_congr fun q _ => ?_
      rw [List.map_map]
      exact (hmade q.1).map_eq

/-- There is no other list of what a report makes in the order of an estimate. -/
theorem IsEstimate.unique {shape : String} {placed placed' : List (Saving α × (ℕ ×ₗ ℕ))}
    (h : IsEstimate price report shape placed) (h' : IsEstimate price report shape placed') : placed' = placed := by
  refine eq_of_pairwise ?_ (fun p => (h'.mem_iff p.1 p.2.1 p.2.2).trans (h.mem_iff p.1 p.2.1 p.2.2).symm)
    h.ordered h'.ordered
  rintro p - q - ⟨hle, hless | hplace⟩ ⟨hle', hless' | hplace'⟩
  · exact hle hless'
  · exact hle' hless
  · exact hle hless'
  · exact lt_asymm hplace hplace'

theorem exists_isEstimate {shape : String} (hcomparable : Comparable price report shape) :
    ∃ placed, IsEstimate price report shape placed ∧ placed.map (·.1) = estimate price report shape := by
  obtain ⟨κ, _, key, hkey⟩ := hcomparable
  obtain ⟨places, hlabels, hmem, hmap⟩ := exists_collected price report shape
  have hmakes : ∀ p ∈ places, MakesAt price report shape p.1 p.2.1 p.2.2 :=
    fun p hp => (hmem p.1 p.2.1 p.2.2).mp hp
  obtain ⟨placed, hperm, hordered, hsorted⟩ := Placed.exists_sorted
    (fun o : Saving α => OrderDual.toDual (key o.amount)) (fun o o' => decide (o'.amount < o.amount)) hlabels
    fun p hp q hq => by
      rw [decide_eq_true_iff, hkey _ _ _ _ _ _ (hmakes q hq) (hmakes p hp), OrderDual.toDual_lt_toDual]
  refine ⟨placed, ⟨fun o i j => ?_, ?_⟩, ?_⟩
  · rw [hperm.mem_iff, hmem]
  · refine hordered.imp_of_mem fun {p q} hp hq hpq => ?_
    have hp := hmakes p (hperm.mem_iff.mp hp)
    have hq := hmakes q (hperm.mem_iff.mp hq)
    rw [hkey _ _ _ _ _ _ hp hq, hkey _ _ _ _ _ _ hq hp]
    rcases hpq with hlt | ⟨heq, hplace⟩
    · exact ⟨lt_asymm (OrderDual.toDual_lt_toDual.mp hlt), Or.inl (OrderDual.toDual_lt_toDual.mp hlt)⟩
    · exact ⟨(OrderDual.toDual_inj.mp heq).not_lt, Or.inr hplace⟩
  · rw [hsorted, hmap, estimate]
    simp

end Savings

end FleetSizing
