import FleetSizing.Catalog
import FleetSizing.Error
import FleetSizing.Report

/-! What the actions of a report would save. -/
namespace FleetSizing.Savings

variable {α : Type} [Scalar α]

/-- A priced option against the current price, rounded to two decimal places. -/
def option (action : Action) (current price : α) (target : Option (Target α)) : Saving α :=
  let amount := current - price
  let percent :=
    if ((0 : Nat) : α) < current then amount / current * (100 : Nat) else ((0 : Nat) : α)
  { action
    monthlyPrice := Scalar.round2 price
    percent := Scalar.round2 percent
    amount := Scalar.round2 amount
    target }

variable (price : String → Option α)

/-- One option for each offered shape that has a price. -/
def resizeOptions (action : Action) (current : α) (offers : List (Offer α)) : List (Saving α) :=
  offers.filterMap fun o =>
    (price o.shape.name).map fun p => option action current p (some (.shape o.shape.name))

/-- The parts of a split; fails at the first shape without a price. -/
def splitParts (offers : List (Offer α)) : Except EngineError (List (SplitPart α)) :=
  offers.mapM fun o =>
    match price o.shape.name with
    | some p => .ok ⟨o.shape.name, Scalar.round2 p, o.probability.getD ((0 : Nat) : α)⟩
    | none => .error (.lookupMiss ("no price for split part " ++ o.shape.name))

/-- Share of the week that a schedule runs, at most all of it. -/
def scheduledShare (windows : List (Window α)) : α :=
  Scalar.smaller (Scalar.sum (windows.map Window.coverage)) ((1 : Nat) : α)

/-- The options of one action. -/
def ofAction (action : Action) (report : Report α) (current : α) :
    Except EngineError (List (Saving α)) :=
  match action with
  | .schedule =>
    match report.customSchedule? with
    | none => .error (.savings action "report has no custom schedule")
    | some windows =>
      .ok [option action current (current * scheduledShare windows) (some (.schedule windows))]
  | .shutdown =>
    .ok (option action current ((0 : Nat) : α) none ::
      resizeOptions price .scaleDown current report.offers)
  | .scaleUp | .scaleDown | .changeShape => .ok (resizeOptions price action current report.offers)
  | .split => do
    let parts ← splitParts price report.offers
    if parts.isEmpty then .error (.savings action "split has no parts")
    else
      let total := Scalar.sum (parts.map fun p => p.monthlyPrice * p.probability)
      .ok [option action current total (some (.split parts))]
  | .noAction | .error => .ok []

/-- The options of one action once the current shape is priced. -/
def priced (report : Report α) (currentShape : String) (action : Action) :
    Except EngineError (List (Saving α)) :=
  match price currentShape with
  | none => .error (.savings action ("no price for current shape " ++ currentShape))
  | some current => ofAction price action report current

/-- Options of every action that can be priced, in the order of the report. -/
def collected (report : Report α) (currentShape : String) : List (Saving α) :=
  report.actions.flatMap fun a =>
    match priced price report currentShape a with
    | .ok options => options
    | .error _ => []

/-- All options, the highest saving first; equal savings keep their order. -/
def estimate (report : Report α) (currentShape : String) : List (Saving α) :=
  (collected price report currentShape).mergeSort fun a b => ¬ a.amount < b.amount

end FleetSizing.Savings
