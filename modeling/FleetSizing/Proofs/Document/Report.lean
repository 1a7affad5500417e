import FleetSizing.Document.History
import FleetSizing.Proofs.Calendar.Text
import FleetSizing.Proofs.Document.Shape

/-! Reports and history entries come back from what is written for them, whichever parts they have. -/
namespace FleetSizing

variable {α : Type}

open Json

/-! What a name stands for is found by it. -/

@[simp] theorem Weekday.ofJson?_toJson (d : Weekday) : Weekday.ofJson? (α := α) d.toJson = some d := by
  cases d <;> rfl

@[simp] theorem Action.ofJson?_toJson (a : Action) : Action.ofJson? (α := α) a.toJson = some a := by
  cases a <;> rfl

@[simp] theorem Kind.ofJson?_toJson (k : Kind) : Kind.ofJson? (α := α) k.toJson = some k := by
  cases k <;> rfl

@[simp] theorem EntryStatus.oneOf?_name (s : EntryStatus) :
    oneOf? (α := α) EntryStatus.all EntryStatus.name (.text s.name) = some s := by
  cases s <;> rfl

@[simp] theorem ReportStatus.oneOf?_name (s : ReportStatus) :
    oneOf? (α := α) Report.statuses ReportStatus.name (.text s.name) = some s := by
  cases s <;> rfl

/-! A time, a day or an instant whose text is read as itself. -/

def TimeOfDay.ReadsBack (t : TimeOfDay) : Prop := parse? t.render = some t

def Day.ReadsBack (d : Day) : Prop := parse? d.render = some d

def Instant.ReadsBack (t : Instant) : Prop := parse? t.render = some t

theorem TimeOfDay.ReadsBack.ofJson?_toJson {t : TimeOfDay} (h : t.ReadsBack) :
    TimeOfDay.ofJson? (α := α) t.toJson = some t := by
  rw [TimeOfDay.ofJson?, TimeOfDay.toJson, text?, Option.bind_some]
  exact h

theorem Day.ReadsBack.ofJson?_toJson {d : Day} (h : d.ReadsBack) :
    Day.ofJson? (α := α) d.toJson = some d := by
  rw [Day.ofJson?, Day.toJson, text?, Option.bind_some]
  exact h

theorem Instant.ReadsBack.ofJson?_toJson {t : Instant} (h : t.ReadsBack) :
    Instant.ofJson? (α := α) t.toJson = some t := by
  rw [Instant.ofJson?, Instant.toJson, text?, Option.bind_some]
  exact h

variable [Scalar α]

namespace Window

/-- The weekdays are arbitrary, and the window need not make sense. -/
structure Readable (w : Window α) : Prop where
  start : w.start.ReadsBack
  stop : w.stop.ReadsBack
  probability : Scalar.isFinite w.probability

theorem isValue_toJson {w : Window α} (h : w.Readable) : IsValue w.toJson := by
  have hdays : IsValue (ofList (Weekday.toJson (α := α)) w.weekdays) :=
    isValue_ofList fun d _ => .text d.name
  refine .object (by simp) ?_
  simp [hdays, TimeOfDay.toJson, IsValue.text, isValue_ofReal h.probability]

theorem ofJson?_toJson {w : Window α} (h : w.Readable) : ofJson? w.toJson = some w := by
  have hdays : list? Weekday.ofJson? (ofList (Weekday.toJson (α := α)) w.weekdays) = some w.weekdays :=
    list?_ofList fun d _ => d.ofJson?_toJson
  rw [ofJson?, toJson, record?, named?_of_nodup]
  · simp [Record.required, Record.get?, h.start.ofJson?_toJson, h.stop.ofJson?_toJson, hdays,
      real?_ofReal h.probability]
  · simp
  · simp

end Window

namespace SplitPart

structure Readable (p : SplitPart α) : Prop where
  monthlyPrice : Scalar.isFinite p.monthlyPrice
  probability : Scalar.isFinite p.probability

theorem isValue_toJson {p : SplitPart α} (h : p.Readable) : IsValue p.toJson := by
  refine .object (by simp) ?_
  simp [IsValue.text, isValue_ofReal h.monthlyPrice, isValue_ofReal h.probability]

theorem ofJson?_toJson {p : SplitPart α} (h : p.Readable) : ofJson? p.toJson = some p := by
  rw [ofJson?, toJson, record?, named?_of_nodup]
  · simp [Record.required, Record.get?, text?, real?_ofReal h.monthlyPrice,
      real?_ofReal h.probability]
  · simp
  · simp

end SplitPart

namespace Target

def Readable : Target α → Prop
  | shape _ => True
  | schedule ws => ∀ w ∈ ws, w.Readable
  | split parts => ∀ p ∈ parts, p.Readable

theorem isValue_toJson {t : Target α} (h : t.Readable) : IsValue t.toJson := by
  cases t with
  | shape name =>
    refine .object (by simp) ?_
    simp [IsValue.text]
  | schedule ws =>
    refine .object (by simp) ?_
    simp [IsValue.text, isValue_ofList fun w hw => Window.isValue_toJson (h w hw)]
  | split parts =>
    refine .object (by simp) ?_
    simp [IsValue.text, isValue_ofList fun p hp => SplitPart.isValue_toJson (h p hp)]

/-- A tag beside one field. -/
theorem tagged?_pair {kind name : String} {j : Json α} (hname : name ≠ "kind") (h : IsValue j) :
    tagged? "kind" (.object [("kind", .text kind), (name, j)]) = some (kind, .object [(name, j)]) := by
  have hvalue : IsValue (.object [("kind", .text kind), (name, j)]) := by
    refine .object ?_ ?_
    · simpa using hname.symm
    · simp [h, IsValue.text]
  simp [tagged?, hvalue.canonical?_eq, occurrences, text?, hname]

omit [Scalar α] in
theorem content?_single {β : Type} {name : String} {dec : Json α → Option β} {j : Json α} :
    content? name dec (.object [(name, j)]) = dec j := by
  simp [content?, record?, named?, occurrences, Record.required, Record.get?]

theorem ofJson?_toJson {t : Target α} (h : t.Readable) : ofJson? t.toJson = some t := by
  cases t with
  | shape name =>
    rw [ofJson?, toJson, tagged?_pair (by decide) (.text name)]
    simp [content?_single, text?]
  | schedule ws =>
    have hws : list? Window.ofJson? (ofList Window.toJson ws) = some ws :=
      list?_ofList fun w hw => Window.ofJson?_toJson (h w hw)
    rw [ofJson?, toJson, tagged?_pair (by decide) (isValue_ofList fun w hw => Window.isValue_toJson (h w hw))]
    simp [content?_single, hws]
  | split parts =>
    have hparts : list? SplitPart.ofJson? (ofList SplitPart.toJson parts) = some parts :=
      list?_ofList fun p hp => SplitPart.ofJson?_toJson (h p hp)
    rw [ofJson?, toJson,
      tagged?_pair (by decide) (isValue_ofList fun p hp => SplitPart.isValue_toJson (h p hp))]
    simp [content?_single, hparts]

end Target

namespace Saving

structure Readable (s : Saving α) : Prop where
  monthlyPrice : Scalar.isFinite s.monthlyPrice
  percent : Scalar.isFinite s.percent
  amount : Scalar.isFinite s.amount
  target : ∀ t, s.target = some t → t.Readable

theorem ofJson?_toJson {s : Saving α} (h : s.Readable) : ofJson? s.toJson = some s := by
  have htarget : ∀ t, s.target = some t → Target.ofJson? t.toJson = some t :=
    fun t ht => Target.ofJson?_toJson (h.target t ht)
  rw [ofJson?, toJson, record?, named?_of_nodup]
  · simp [Record.required, Record.get?, real?_ofReal h.monthlyPrice, real?_ofReal h.percent,
      real?_ofReal h.amount, optional_given rfl htarget]
  · cases s.target <;> simp [given]
  · simp

end Saving

namespace Offer

structure Readable (o : Offer α) : Prop where
  shape : o.shape.Finite
  probability : ∀ x, o.probability = some x → Scalar.isFinite x

theorem ofJson?_toJson {o : Offer α} (h : o.Readable) : ofJson? o.toJson = some o := by
  have hprobability : ∀ x, o.probability = some x → real? (ofReal x) = some x :=
    fun x hx => real?_ofReal (h.probability x hx)
  have hknown : ∀ f ∈ o.shape.fields ++ given "probability" ofReal o.probability,
      f.1 ∈ fieldNames := by
    cases o.probability <;> simp [given, Shape.fields, fieldNames, Shape.fieldNames]
  have hothers : Record.others? ⟨false, o.shape.fields ++ given "probability" ofReal o.probability ++ []⟩
      fieldNames = some [] :=
    others?_append hknown (.object (by simp) (by simp)) (by simp)
  rw [ofJson?, toJson, named?_of_nodup]
  · rw [List.append_nil] at hothers
    have hlookup : lookup "probability" (o.shape.fields ++ given "probability" ofReal o.probability) =
        o.probability.map ofReal := by
      simp [Shape.fields]
    simp [hothers, Shape.ofRecord?_fields h.shape, optional_given rfl hprobability hlookup]
  · cases o.probability <;> simp [given, Shape.fields]

end Offer

namespace Report

structure Readable (r : Report α) : Prop where
  schedule : ∀ ws, r.schedule = some ws → ∀ w ∈ ws, w.Readable
  shapes : ∀ os, r.shapes = some os → ∀ o ∈ os, o.Readable
  savings : ∀ ss, r.savings = some ss → ∀ s ∈ ss, s.Readable

theorem ofJson?_toJson {r : Report α} (h : r.Readable) : ofJson? r.toJson = some r := by
  have hactions : list? Action.ofJson? (ofList (Action.toJson (α := α)) r.actions) = some r.actions :=
    list?_ofList fun a _ => a.ofJson?_toJson
  have hschedule : ∀ ws, r.schedule = some ws →
      list? Window.ofJson? (ofList Window.toJson ws) = some ws :=
    fun ws hws => list?_ofList fun w hw => Window.ofJson?_toJson (h.schedule ws hws w hw)
  have hshapes : ∀ os, r.shapes = some os → list? Offer.ofJson? (ofList Offer.toJson os) = some os :=
    fun os hos => list?_ofList fun o ho => Offer.ofJson?_toJson (h.shapes os hos o ho)
  have hsavings : ∀ ss, r.savings = some ss →
      list? Saving.ofJson? (ofList Saving.toJson ss) = some ss :=
    fun ss hss => list?_ofList fun s hs => Saving.ofJson?_toJson (h.savings ss hss s hs)
  generalize hfields : given "schedule" (ofList Window.toJson) r.schedule ++
    given "recommended_shapes" (ofList Offer.toJson) r.shapes ++
      given "savings" (ofList Saving.toJson) r.savings = fields
  have hkeys : (fields.map (·.1)).Nodup := by
    rw [← hfields]
    cases r.schedule <;> cases r.shapes <;> cases r.savings <;> simp [given]
  have hschedule' : Record.optional ⟨false, fields⟩ "schedule" _ = some r.schedule :=
    optional_given rfl hschedule (by simp [← hfields])
  have hshapes' : Record.optional ⟨false, fields⟩ "recommended_shapes" _ = some r.shapes :=
    optional_given rfl hshapes (by simp [← hfields])
  have hsavings' : Record.optional ⟨false, fields⟩ "savings" _ = some r.savings :=
    optional_given rfl hsavings (by simp [← hfields])
  rw [ofJson?, toJson, record?, named?_of_nodup]
  · simp only [hfields]
    simp [Record.required, Record.get?, text?, hactions, record?, named?_of_nodup, hkeys,
      hschedule', hshapes', hsavings']
  · simp
  · simp

end Report

namespace Entry

structure Readable (e : Entry α) : Prop where
  day : e.day.ReadsBack
  currentMonthlyPrice : ∀ x, e.currentMonthlyPrice = some x → Scalar.isFinite x
  target : ∀ t, e.target = some t → t.Readable
  savings : ∀ s ∈ e.savings, s.Readable
  postponedUntil : ∀ t, e.postponedUntil = some t → t.ReadsBack

theorem ofJson?_toJson {e : Entry α} (h : e.Readable) : ofJson? e.toJson = some e := by
  have hshape : ∀ s, e.currentShape = some s → text? (α := α) (.text s) = some s := fun _ _ => rfl
  have hprice : ∀ x, e.currentMonthlyPrice = some x → real? (ofReal x) = some x :=
    fun x hx => real?_ofReal (h.currentMonthlyPrice x hx)
  have htarget : ∀ t, e.target = some t → Target.ofJson? t.toJson = some t :=
    fun t ht => Target.ofJson?_toJson (h.target t ht)
  have hsavings : list? Saving.ofJson? (ofList Saving.toJson e.savings) = some e.savings :=
    list?_ofList fun s hs => Saving.ofJson?_toJson (h.savings s hs)
  have huntil : ∀ t, e.postponedUntil = some t → Instant.ofJson? (α := α) t.toJson = some t :=
    fun t ht => (h.postponedUntil t ht).ofJson?_toJson
  rw [ofJson?, toJson, record?, named?_of_nodup]
  · simp only [some_then, Record.required, Record.get?, lookup_cons_self, lookup_cons_of_ne, ne_eq,
      String.reduceEq, not_false_eq_true, Option.pure_def, Option.bind_some, text?, Kind.ofJson?_toJson,
      Action.ofJson?_toJson, EntryStatus.oneOf?_name, h.day.ofJson?_toJson, hsavings,
      optional_ofOption rfl hshape, optional_ofOption rfl hprice, optional_ofOption rfl htarget,
      optional_ofOption rfl huntil]
  · simp
  · simp

end Entry

/-- Reports and history entries come back from what is written for them if their numbers are finite and their
times and days are read as they are written, whichever parts they have and whatever their windows. The texts
of all days in range are so read, and those of all times but for a leap second in the middle of a minute. -/
theorem reports_and_entries_come_back :
    (∀ r : Report α, r.Readable → Report.ofJson? r.toJson = some r) ∧
    (∀ e : Entry α, e.Readable → Entry.ofJson? e.toJson = some e) ∧
    (∀ t : TimeOfDay, t.Regular → t.ReadsBack) ∧ (∀ d : Day, d.inRange → d.ReadsBack) ∧
    ∀ t : Instant, t.day.inRange → t.time.Regular → t.ReadsBack :=
  ⟨fun _ => Report.ofJson?_toJson, fun _ => Entry.ofJson?_toJson, fun _ => TimeOfDay.parse?_render,
    fun _ => Day.parse?_render, fun _ => Instant.parse?_render⟩

/-! A report with a window over midnight that lists a weekday twice, shapes with and without a share of time,
and savings with and without a target; and the entry of a postponed resource. -/
namespace Archived

def leapSecond : TimeOfDay := ⟨359, 59, 1500000000, by omega, by omega, by omega⟩

def night : Window Rat := ⟨[.sun, .mon, .sun], .ofMinute 1320, leapSecond, 2⟩

def shape : Shape Rat := ⟨"m5.large", .aws, 2, 8, 0, 0, "m5", "Intel", "x86_64"⟩

def report : Report Rat where
  resource := "i-1"
  actions := [.schedule, .split]
  schedule := some [night]
  shapes := some [⟨shape, none⟩, ⟨shape, some (1 / 2)⟩]
  savings := some [⟨.schedule, 10, 50, 5, some (.schedule [night])⟩, ⟨.split, 10, 0, 0, none⟩]

def entry : Entry Rat where
  resource := "i-2"
  kind := .resize
  day := ⟨20000⟩
  currentShape := none
  currentMonthlyPrice := some 70
  action := .noAction
  target := some (.split [⟨"m5.large", 70, 1⟩])
  savings := []
  status := .postponed
  postponedUntil := some ⟨⟨20001⟩, .midnight⟩

end Archived

theorem reports_and_entries_come_back_archived : Archived.report.Readable ∧ Archived.entry.Readable ∧
    Report.ofJson? Archived.report.toJson = some Archived.report ∧
    Entry.ofJson? Archived.entry.toJson = some Archived.entry := by
  obtain ⟨hreports, hentries, htimes, hdays, hinstants⟩ := reports_and_entries_come_back (α := Rat)
  have hnight : Archived.night.Readable :=
    ⟨htimes _ (.inl (by decide)), htimes _ (.inr (by decide)), rfl⟩
  have hshape : Archived.shape.Finite := ⟨rfl, rfl, rfl, rfl⟩
  have hreport : Archived.report.Readable := by
    refine ⟨?_, ?_, ?_⟩
    · rintro _ ⟨⟩
      simpa using hnight
    · rintro _ ⟨⟩
      simpa using ⟨⟨hshape, nofun⟩, ⟨hshape, fun _ _ => rfl⟩⟩
    · rintro _ ⟨⟩
      have htarget : (Target.schedule [Archived.night]).Readable := by simpa [Target.Readable] using hnight
      simp only [List.forall_mem_cons, List.not_mem_nil, false_implies, implies_true, and_true]
      refine ⟨⟨rfl, rfl, rfl, ?_⟩, rfl, rfl, rfl, nofun⟩
      rintro _ ⟨⟩
      exact htarget
  have hentry : Archived.entry.Readable := by
    refine ⟨hdays _ (by decide), fun _ _ => rfl, ?_, nofun, ?_⟩
    · rintro _ ⟨⟩
      intro p hp
      obtain rfl := List.mem_singleton.mp hp
      exact ⟨rfl, rfl⟩
    · rintro _ ⟨⟩
      exact hinstants _ (by decide) (.inl (by decide))
  exact ⟨hreport, hentry, hreports _ hreport, hentries _ hentry⟩

end FleetSizing
