import FleetSizing.Proofs.Savings.Amounts
import FleetSizing.Proofs.Savings.Estimate

/-! What is estimated when shapes lose their prices. The options that need one of them are left out, and the others
keep their order. -/
namespace FleetSizing.Savings

variable {α : Type}

/-- Prices of a catalog, but for those of some shapes. -/
structure Withdraws (price price' : String → Option α) (S : Set String) : Prop where
  lost : ∀ name ∈ S, price' name = none
  kept : ∀ name ∉ S, price' name = price name

variable {price price' : String → Option α} {S : Set String}

theorem Withdraws.eq_some_iff (h : Withdraws price price' S) {name : String} {p : α} :
    price' name = some p ↔ price name = some p ∧ name ∉ S := by
  by_cases hname : name ∈ S
  · simp [h.lost name hname, hname]
  · simp [h.kept name hname, hname]

variable [Scalar α] {report : Report α} {current : α} {a : Action} {i j : Nat} {o : Saving α}
  {offers : List (Offer α)} {parts : List (SplitPart α)} {shape : String}

@[simp] theorem shapes_option_shape (p : α) (name : String) :
    (option a current p (some (.shape name))).shapes = [name] := rfl

@[simp] theorem shapes_option_split (p : α) :
    (option a current p (some (.split parts))).shapes = parts.map (·.shape) := rfl

@[simp] theorem shapes_option_schedule (p : α) (windows : List (Window α)) :
    (option a current p (some (.schedule windows))).shapes = [] := rfl

@[simp] theorem shapes_option_none (p : α) : (option a current p none).shapes = [] := rfl

theorem Withdraws.partsOf_iff (h : Withdraws price price' S) :
    PartsOf price' offers parts ↔ PartsOf price offers parts ∧ ∀ q ∈ parts, q.shape ∉ S := by
  induction offers generalizing parts with
  | nil => simp +contextual [PartsOf]
  | cons offer offers ih =>
    cases parts with
    | nil => simp [PartsOf]
    | cons q parts =>
      simp only [PartsOf, List.forall₂_cons, List.forall_mem_cons] at ih ⊢
      rw [ih]
      constructor
      · rintro ⟨⟨p, hp, rfl⟩, hparts, hrest⟩
        obtain ⟨hp, hname⟩ := h.eq_some_iff.mp hp
        exact ⟨⟨⟨p, hp, rfl⟩, hparts⟩, hname, hrest⟩
      · rintro ⟨⟨⟨p, hp, rfl⟩, hparts⟩, hname, hrest⟩
        exact ⟨⟨p, h.eq_some_iff.mpr ⟨hp, hname⟩, rfl⟩, hparts, hrest⟩

theorem Withdraws.makes_iff (h : Withdraws price price' S) :
    Makes price' report current a j o ↔ Makes price report current a j o ∧ ∀ name ∈ o.shapes, name ∉ S := by
  constructor
  · intro ho
    cases ho with
    | schedule hcustom => exact ⟨.schedule hcustom, by simp⟩
    | shutdown => exact ⟨.shutdown, by simp⟩
    | shrink hoffer hp =>
      obtain ⟨hp, hname⟩ := h.eq_some_iff.mp hp
      exact ⟨.shrink hoffer hp, by simpa using hname⟩
    | resize ha hoffer hp =>
      obtain ⟨hp, hname⟩ := h.eq_some_iff.mp hp
      exact ⟨.resize ha hoffer hp, by simpa using hname⟩
    | split hparts hne =>
      obtain ⟨hparts, hnames⟩ := h.partsOf_iff.mp hparts
      exact ⟨.split hparts hne, by simpa using hnames⟩
  · rintro ⟨ho, hshapes⟩
    cases ho with
    | schedule hcustom => exact .schedule hcustom
    | shutdown => exact .shutdown
    | shrink hoffer hp => exact .shrink hoffer (h.eq_some_iff.mpr ⟨hp, by simpa using hshapes⟩)
    | resize ha hoffer hp => exact .resize ha hoffer (h.eq_some_iff.mpr ⟨hp, by simpa using hshapes⟩)
    | split hparts hne => exact .split (h.partsOf_iff.mpr ⟨hparts, by simpa using hshapes⟩) hne

theorem Withdraws.makesAt_iff (h : Withdraws price price' S) (hshape : shape ∉ S) :
    MakesAt price' report shape o i j ↔ MakesAt price report shape o i j ∧ ∀ name ∈ o.shapes, name ∉ S := by
  simp only [MakesAt, h.makes_iff, h.kept shape hshape]
  tauto

theorem Withdraws.comparable (h : Withdraws price price' S) (hshape : shape ∉ S)
    (hcomparable : Comparable price report shape) : Comparable price' report shape := by
  obtain ⟨κ, hκ, key, hkey⟩ := hcomparable
  exact ⟨κ, hκ, key, fun o i j o' i' j' ho ho' =>
    hkey o i j o' i' j' ((h.makesAt_iff hshape).mp ho).1 ((h.makesAt_iff hshape).mp ho').1⟩

section

variable [DecidablePred (· ∈ S)]

theorem Withdraws.isEstimate_filter (h : Withdraws price price' S) (hshape : shape ∉ S)
    {placed : List (Saving α × (ℕ ×ₗ ℕ))} (hplaced : IsEstimate price report shape placed) :
    IsEstimate price' report shape (placed.filter fun p => ∀ name ∈ p.1.shapes, name ∉ S) where
  mem_iff o i j := by
    rw [List.mem_filter, hplaced.mem_iff, h.makesAt_iff hshape, decide_eq_true_iff]
  ordered := hplaced.ordered.filter _

theorem Withdraws.estimate_eq_filter (h : Withdraws price price' S) (hshape : shape ∉ S)
    (hcomparable : Comparable price report shape) : estimate price' report shape =
      (estimate price report shape).filter fun o => ∀ name ∈ o.shapes, name ∉ S := by
  obtain ⟨placed, hplaced, hmap⟩ := exists_isEstimate hcomparable
  obtain ⟨placed', hplaced', hmap'⟩ := exists_isEstimate (h.comparable hshape hcomparable)
  have hfilter := (h.isEstimate_filter hshape hplaced).unique hplaced'
  rw [← hmap', ← hmap, hfilter, List.filter_map]
  rfl

end

/-- Where prices are numbers, that of a split among them, the options that need a withdrawn price are left out and
the others keep their order. It is the one list of all that the report makes, by amount and then by place. -/
theorem estimate_withdrawn {price price' : String → Option Float} {S : Set String} [DecidablePred (· ∈ S)]
    (report : Report Float) {shape : String} (hshape : shape ∉ S) (h : Withdraws price price' S)
    (hprices : ∀ name p, price name = some p → ¬ p.isNaN)
    (hsplit : .split ∈ report.actions → ∀ parts, PartsOf price report.offers parts → ¬ (splitPrice parts).isNaN) :
    (estimate price' report shape =
      (estimate price report shape).filter fun o => ∀ name ∈ o.shapes, name ∉ S) ∧
    ∃ placed, IsEstimate price report shape placed ∧
      (∀ other, IsEstimate price report shape other → other = placed) ∧
      estimate price report shape = placed.map (·.1) := by
  have hcomparable : Comparable price report shape := comparable_of_numbers hprices hsplit
  obtain ⟨placed, hplaced, hmap⟩ := exists_isEstimate hcomparable
  exact ⟨h.estimate_eq_filter hshape hcomparable, placed, hplaced,
    fun other hother => hplaced.unique hother, hmap.symm⟩

end FleetSizing.Savings

namespace FleetSizing.Savings

/-! A resource that could move to one of two shapes, be split between them, or run on Mondays only. -/
namespace Choice

def offer (name : String) (probability : Float) : Offer Float :=
  ⟨⟨name, .aws, 2, 8, 0, 0, "", "", ""⟩, some probability⟩

def window : Window Float :=
  .make [.mon] (.ofMinute 540) (.ofMinute 1020) 1

def report (p q : Float) : Report Float where
  resource := "i-1"
  actions := [.scaleDown, .split, .schedule]
  schedule := some [window]
  shapes := some [offer "m5.large" p, offer "r5.large" q]

def row (name : String) (hourly : Float) : Price Float :=
  ⟨PriceCatalog.defaultCustomer, name, "us-east-1", "linux", hourly⟩

def reduced : PriceCatalog Float := .ofList [row "m5.xlarge" 0.2, row "m5.large" 0.16]

def catalog : PriceCatalog Float := .ofList [row "m5.xlarge" 0.2, row "m5.large" 0.16, row "r5.large" 0.17]

/-- Its last price is infinite once it is rounded. -/
def steep : PriceCatalog Float := .ofList [row "m5.xlarge" 0.2, row "m5.large" 0.16, row "r5.large" 1e304]

def price (c : PriceCatalog Float) : String → Option Float := c.monthlyFor? ⟨"acme", "us-east-1", "linux"⟩

theorem withdraws : Withdraws (price catalog) (price reduced) {"r5.large"} where
  lost := by
    rintro name rfl
    decide +kernel
  kept := by
    intro name hname
    have hlookup : ∀ customer region os, reduced.lookup? customer name region os =
        catalog.lookup? customer name region os := by
      intro customer region os
      have hrows : catalog.rows = PriceCatalog.normalized (row "r5.large" 0.17) :: reduced.rows := rfl
      have hother : ("r5.large" == name) = false := beq_false_of_ne (Ne.symm hname)
      rw [PriceCatalog.lookup?, PriceCatalog.lookup?, hrows, List.find?_cons_of_neg]
      simp [PriceCatalog.normalized, row, hother]
    simp [price, PriceCatalog.monthlyFor?, PriceCatalog.monthly?, PriceCatalog.hourly?, hlookup]

def monthly (hourly : Float) : Float := hourly * PriceCatalog.monthHours

/-- An offer as a part of a split, at its hourly price. -/
def partOf (name : String) (p hourly : Float) : SplitPart Float := part (offer name p) (monthly hourly)

theorem splitParts_eq {c : PriceCatalog Float} {hourly : Float} (p q : Float)
    (hlarge : price c "m5.large" = some (monthly 0.16)) (hother : price c "r5.large" = some (monthly hourly)) :
    splitParts (price c) (report p q).offers = .ok [partOf "m5.large" p 0.16, partOf "r5.large" q hourly] := by
  simp [splitParts, report, Report.offers, offer, partOf, part, hlarge, hother, bind, Except.bind, pure, Except.pure]

theorem collected_eq {c : PriceCatalog Float} {hourly : Float} (p q : Float)
    (hcurrent : price c "m5.xlarge" = some (monthly 0.2)) (hlarge : price c "m5.large" = some (monthly 0.16))
    (hother : price c "r5.large" = some (monthly hourly)) :
    let parts := [partOf "m5.large" p 0.16, partOf "r5.large" q hourly]
    collected (price c) (report p q) "m5.xlarge" =
      [option .scaleDown (monthly 0.2) (monthly 0.16) (some (.shape "m5.large")),
        option .scaleDown (monthly 0.2) (monthly hourly) (some (.shape "r5.large")),
        option .split (monthly 0.2) (splitPrice parts) (some (.split parts)),
        option .schedule (monthly 0.2) (monthly 0.2 * scheduledShare [window]) (some (.schedule [window]))] := by
  have hactions : (report p q).actions = [.scaleDown, .split, .schedule] := rfl
  have hcustom : (report p q).customSchedule? = some [window] := rfl
  have hresize : resizeOptions (price c) .scaleDown (monthly 0.2) (report p q).offers =
      [option .scaleDown (monthly 0.2) (monthly 0.16) (some (.shape "m5.large")),
        option .scaleDown (monthly 0.2) (monthly hourly) (some (.shape "r5.large"))] := by
    simp [resizeOptions, report, Report.offers, offer, hlarge, hother]
  simp [collected, hactions, priced, hcurrent, ofAction, hcustom, hresize, splitParts_eq p q hlarge hother, bind,
    Except.bind, splitPrice]

theorem price_catalog : price catalog "m5.xlarge" = some (monthly 0.2) ∧
    price catalog "m5.large" = some (monthly 0.16) ∧ price catalog "r5.large" = some (monthly 0.17) := by
  decide +kernel

theorem price_steep : price steep "m5.xlarge" = some (monthly 0.2) ∧
    price steep "m5.large" = some (monthly 0.16) ∧ price steep "r5.large" = some (monthly 1e304) := by
  decide +kernel

theorem mergeSort_of_halves {β : Type} {le : β → β → Bool} {a b c d : β} (hab : le a b) (hcd : le c d)
    (hac : le a c) (hbc : le b c) : [a, b, c, d].mergeSort le = [a, b, c, d] := by
  simp [List.mergeSort, List.MergeSort.Internal.splitInTwo, hab, hcd, hac, hbc]

end Choice

theorem estimate_withdrawn_choice :
    "m5.xlarge" ∉ ({"r5.large"} : Set String) ∧
    Withdraws (Choice.price Choice.catalog) (Choice.price Choice.reduced) {"r5.large"} ∧
    (∀ name p, Choice.price Choice.catalog name = some p → ¬ p.isNaN) ∧
    (∀ parts, PartsOf (Choice.price Choice.catalog) (Choice.report 0.5 0.5).offers parts →
      ¬ (splitPrice parts).isNaN) ∧
    (estimate (Choice.price Choice.reduced) (Choice.report 0.5 0.5) "m5.xlarge" =
      (estimate (Choice.price Choice.catalog) (Choice.report 0.5 0.5) "m5.xlarge").filter
        fun o => ∀ name ∈ o.shapes, name ∉ ({"r5.large"} : Set String)) ∧
    ∃ placed, IsEstimate (Choice.price Choice.catalog) (Choice.report 0.5 0.5) "m5.xlarge" placed ∧
      estimate (Choice.price Choice.catalog) (Choice.report 0.5 0.5) "m5.xlarge" = placed.map (·.1) := by
  have hshape : "m5.xlarge" ∉ ({"r5.large"} : Set String) := by simp
  have hprices : ∀ name p, Choice.price Choice.catalog name = some p → ¬ p.isNaN :=
    fun name p => PriceCatalog.not_isNaN_monthlyFor? (by decide)
  have hsplit : ∀ parts, PartsOf (Choice.price Choice.catalog) (Choice.report 0.5 0.5).offers parts →
      ¬ (splitPrice parts).isNaN := by
    intro parts hparts
    obtain ⟨-, hlarge, hother⟩ := Choice.price_catalog
    rw [← splitParts_eq_ok_iff, Choice.splitParts_eq 0.5 0.5 hlarge hother] at hparts
    cases hparts
    decide +kernel
  obtain ⟨hfilter, placed, hplaced, -, hmap⟩ :=
    estimate_withdrawn (Choice.report 0.5 0.5) hshape Choice.withdraws hprices fun _ => hsplit
  exact ⟨hshape, Choice.withdraws, hprices, hsplit, hfilter, placed, hplaced, hmap⟩

/-- Finite prices do not order an estimate. The amount of a split is not a number if its parts outweigh each other
without bound, or if a part that is never used has a price that rounds to infinity, and a higher saving is left
behind it. -/
theorem estimate_not_ordered :
    (∀ row ∈ Choice.catalog.rows, row.hourly.isFinite) ∧
    ¬ (estimate (Choice.price Choice.catalog) (Choice.report 1e308 (-1e308)) "m5.xlarge").Pairwise
      (fun o o' => ¬ o.amount < o'.amount) ∧
    (∀ row ∈ Choice.steep.rows, row.hourly.isFinite) ∧
    ¬ (estimate (Choice.price Choice.steep) (Choice.report 1 0) "m5.xlarge").Pairwise
      (fun o o' => ¬ o.amount < o'.amount) := by
  obtain ⟨hcurrent, hlarge, hother⟩ := Choice.price_catalog
  obtain ⟨hcurrent', hlarge', hother'⟩ := Choice.price_steep
  refine ⟨by decide, ?_, by decide +kernel, ?_⟩
  · rw [estimate, Choice.collected_eq _ _ hcurrent hlarge hother, Choice.mergeSort_of_halves] <;> decide +kernel
  · rw [estimate, Choice.collected_eq _ _ hcurrent' hlarge' hother', Choice.mergeSort_of_halves] <;> decide +kernel

end FleetSizing.Savings
