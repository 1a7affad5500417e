import FleetSizing.Proofs.History.Writes
import FleetSizing.Proofs.Report.Decision
import FleetSizing.Proofs.Schedule.Busy
import FleetSizing.Proofs.Selection.Candidates
import FleetSizing.Proofs.Trend.Regimes
import Mathlib.Data.List.Forall2

/-! The shapes that a report offers fit the action that it reports, whichever trend they were chosen for:
the one of the resource, the one it falls back to, or those of the parts of a split. -/
namespace FleetSizing

variable {α : Type} [Scalar α]

/-- A single reading is in order already. -/
theorem Stats.sorted_alone (s : Sample α) (m : Metric) :
    Stats.sorted ([s].map m.reading) = [s].map m.reading :=
  List.mergeSort_singleton _

namespace Engine

/-- A shape of the catalog that may replace the current one. -/
structure Suited (e : Engine α) (current s : Shape α) : Prop where
  listed : e.shapes.get? s.name = some s
  admissible : Selection.Admissible e.rules e.settings current s

/-- What an action says about the shapes that are offered with it. -/
structure Fits (e : Engine α) (current : Shape α) (trends : List (Trend α)) (a : Action)
    (os : List (Offer α)) : Prop where
  suited : ∀ o ∈ os, e.Suited current o.shape
  grows : a = .scaleUp → ∀ o ∈ os, o.shape.ExceedsIn current
  shrinks : a = .scaleDown ∨ a = .shutdown → ∀ o ∈ os, o.shape.Within current
  replaces : a.isResize → (os.map (·.shape.name)).Nodup ∧ (∀ o ∈ os, o.shape.name ≠ current.name) ∧
    os.length ≤ e.settings.maxRecommendedShapes
  splits : a = .split → 2 ≤ os.length ∧ List.Forall₂
    (fun t o => (Requirement.forSplitPart t current e.settings.targetUtilization).fits o.shape) trends os

/-- A report with one action at most that offers shapes, and shapes that fit it. -/
structure Backs (e : Engine α) (current : Shape α) (trends : List (Trend α)) (report : Report α) :
    Prop where
  suited : ∀ o ∈ report.offers, e.Suited current o.shape
  lone : ∀ a ∈ report.actions, ∀ b ∈ report.actions, a.offersShapes → b.offersShapes → a = b
  fits : ∀ a ∈ report.actions, a.offersShapes → e.Fits current trends a report.offers

/-- The trends that decide on a resize: those of the regimes within the schedule. -/
def trendsOf (e : Engine α) (samples : List (Sample α)) : List (Trend α) :=
  let active := activeSamples (e.settings.schedule samples) samples
  (ClusterModel.find e.settings.clusterSearch active).trends active

variable {e : Engine α} {r : Resource} {current s : Shape α} {trends : List (Trend α)} {t : Trend α}
  {a : Action} {q : Requirement α} {d : Decision α} {o : Offer α} {os : List (Offer α)}
  {samples : List (Sample α)} {report : Report α}

theorem mem_candidates (h : s ∈ e.candidates r current q) : e.Suited current s ∧ q.satisfiedBy s := by
  obtain ⟨hlisted, heligible⟩ := Selection.mem_select h
  obtain ⟨hadmissible, hsatisfied⟩ := Selection.eligible_iff.mp heligible
  exact ⟨⟨(ShapeCatalog.mem_list.mp hlisted).1, hadmissible⟩, hsatisfied⟩

/-- Candidates to replace the current shape stand to it as the action says. -/
theorem fits_candidates (ha : a.isResize) : e.Fits current trends a
    ((e.candidates r current (e.requirement t current a)).map fun s => { shape := s }) := by
  have hmem : ∀ o ∈ (e.candidates r current (e.requirement t current a)).map
      (fun s => ({ shape := s } : Offer α)), e.Suited current o.shape ∧
        o.shape.name ≠ current.name ∧ (e.requirement t current a).related o.shape := by
    intro o ho
    obtain ⟨s, hs, rfl⟩ := List.mem_map.mp ho
    obtain ⟨hsuited, hsatisfied⟩ := mem_candidates hs
    have hrelated := (Requirement.satisfiedBy_iff.mp hsatisfied).2
    split at hrelated
    · cases hrelated
    · rename_i hname
      exact ⟨hsuited, hname, hrelated⟩
  refine ⟨fun o ho => (hmem o ho).1, ?_, ?_, ?_, ?_⟩
  · intro hup o ho
    exact (Requirement.related_scaleUp (r := e.requirement t current a) hup).mp (hmem o ho).2.2
  · intro hdown o ho
    exact (Requirement.related_smaller (r := e.requirement t current a) hdown).mp (hmem o ho).2.2
  · intro _
    refine ⟨?_, fun o ho => (hmem o ho).2.1, ?_⟩
    · rw [List.map_map]
      exact Selection.nodup_select (ShapeCatalog.nodup_list _ _)
    · rw [List.length_map]
      exact Selection.length_select_le
  · rintro rfl
    cases ha

theorem tryResize_fits (ha : a.isResize) (h : e.tryResize r current t a = some d) :
    d.action = a ∧ e.Fits current trends a d.offers := by
  unfold tryResize at h
  simp only at h
  split at h
  · cases h
  · cases h
    exact ⟨rfl, fits_candidates ha⟩

omit [Scalar α] in
theorem isResize_of_resizeAction? (h : t.resizeAction? = some a) : a.isResize := by
  rcases Trend.resizeAction?_cases h with rfl | rfl | rfl <;> rfl

omit [Scalar α] in
theorem isResize_of_actionOf? (h : Trend.actionOf? trends = some a) (ha : a ≠ .split) : a.isResize := by
  rcases Trend.actionOf?_cases h with (rfl | rfl | rfl) | ⟨rfl, -⟩
  · rfl
  · rfl
  · rfl
  · exact (ha rfl).elim

/-- The shapes fit the action of the trend that they were found for. -/
theorem resize_fits (ha : a.isResize) (h : e.resize r current t a = some d) :
    d.action.isResize ∧ e.Fits current trends d.action d.offers := by
  have hfound : ∀ {t b}, b.isResize → e.tryResize r current t b = some d →
      d.action.isResize ∧ e.Fits current trends d.action d.offers := by
    intro t b hb ht
    obtain ⟨rfl, hfits⟩ := tryResize_fits hb ht
    exact ⟨hb, hfits⟩
  unfold resize at h
  cases ht : e.tryResize r current t a with
  | some d' =>
    rw [ht] at h
    cases h
    exact hfound ha ht
  | none =>
    rw [ht] at h
    simp only [Option.orElse_none, Option.bind_eq_bind, Option.bind_eq_some_iff] at h
    obtain ⟨fallback, -, b, hb, hf⟩ := h
    exact hfound (isResize_of_resizeAction? hb) hf

omit [Scalar α] in
theorem forall₂_of_mapM {β : Type} {f : β → Option (Offer α)} {xs : List β}
    (h : xs.mapM f = some os) : List.Forall₂ (fun x o => f x = some o) xs os := by
  induction xs generalizing os with
  | nil =>
    cases h
    exact .nil
  | cons x xs ih =>
    simp only [List.mapM_cons, Option.bind_eq_bind, Option.bind_eq_some_iff, Option.pure_def,
      Option.some.injEq] at h
    obtain ⟨o, ho, rest, hrest, rfl⟩ := h
    exact .cons ho (ih hrest)

theorem splitOffer_fits (h : e.splitOffer r current t = some o) : e.Suited current o.shape ∧
    (Requirement.forSplitPart t current e.settings.targetUtilization).fits o.shape := by
  simp only [splitOffer, Option.map_eq_some_iff] at h
  obtain ⟨s, hs, rfl⟩ := h
  obtain ⟨hsuited, hsatisfied⟩ := mem_candidates (List.mem_of_mem_head? hs)
  exact ⟨hsuited, (Requirement.satisfiedBy_iff.mp hsatisfied).1⟩

theorem split_fits (htrends : 2 ≤ trends.length) (h : e.split r current trends = some d) :
    d.action = .split ∧ e.Fits current trends .split d.offers := by
  simp only [split, Option.map_eq_some_iff] at h
  obtain ⟨os, hos, rfl⟩ := h
  have hparts := forall₂_of_mapM hos
  have hsuited : ∀ o ∈ os, e.Suited current o.shape := by
    intro o ho
    obtain ⟨i, hi, rfl⟩ := List.mem_iff_getElem.mp ho
    have hpart := hparts.get (hparts.length_eq ▸ hi) hi
    exact (splitOffer_fits hpart).1
  refine ⟨rfl, hsuited, by simp, by simp, by simp [Action.isResize], ?_⟩
  intro _
  exact ⟨hparts.length_eq ▸ htrends, hparts.imp fun t o ho => (splitOffer_fits ho).2⟩

theorem resizeFor_fits (h : e.resizeFor r current trends = some d) :
    d.action.offersShapes ∧ e.Fits current trends d.action d.offers := by
  unfold resizeFor at h
  split at h
  · rename_i ha
    have htrends : 2 ≤ trends.length := by
      match trends, ha with
      | [t], ha => rcases Trend.resizeAction?_cases ha with hb | hb | hb <;> cases hb
      | t :: u :: ts, _ => simp
    obtain ⟨haction, hfits⟩ := split_fits htrends h
    rw [haction]
    exact ⟨rfl, hfits⟩
  · rename_i a hsplit ha
    obtain ⟨t, -, ht⟩ := Option.bind_eq_some_iff.mp h
    obtain ⟨haction, hfits⟩ := resize_fits (isResize_of_actionOf? ha hsplit) ht
    refine ⟨?_, hfits⟩
    cases hd : d.action <;> simp [hd, Action.isResize] at haction <;> rfl
  · cases h

theorem shrunken_fits (h : e.shrunken r current samples = some os) :
    e.Fits current trends .shutdown os := by
  unfold shrunken at h
  simp only at h
  split at h
  · cases h
  · cases h
    exact fits_candidates rfl

theorem fits_nil (ha : a ≠ .split) : e.Fits current trends a [] := by
  refine ⟨by simp, by simp, by simp, by simp, fun h => (ha h).elim⟩

/-- Actions may go while the shapes stay. -/
theorem Backs.keepShapes {kept : Report α} (h : e.Backs current trends report)
    (hactions : ∀ a ∈ kept.actions, a.offersShapes → a ∈ report.actions)
    (hoffers : kept.offers = report.offers) : e.Backs current trends kept := by
  refine ⟨?_, ?_, ?_⟩
  · rw [hoffers]
    exact h.suited
  · intro a ha b hb ha' hb'
    exact h.lone a (hactions a ha ha') b (hactions b hb hb') ha' hb'
  · intro a ha ha'
    rw [hoffers]
    exact h.fits a (hactions a ha ha') ha'

/-- The shapes may go with the action that they are offered for. -/
theorem Backs.dropShapes {kept : Report α} (h : e.Backs current trends report)
    (hactions : ∀ a ∈ kept.actions, a.offersShapes → a ∈ report.actions)
    (hoffers : kept.offers = []) (hgone : ∃ a ∈ report.actions, a.offersShapes ∧ a ∉ kept.actions) :
    e.Backs current trends kept := by
  obtain ⟨a, ha, ha', hnot⟩ := hgone
  have hnone : ∀ b ∈ kept.actions, ¬ b.offersShapes := by
    intro b hb hb'
    have hsame : b = a := h.lone b (hactions b hb hb') a ha hb' ha'
    exact hnot (hsame ▸ hb)
  refine ⟨?_, ?_, ?_⟩
  · rw [hoffers]
    nofun
  · exact fun b hb _ _ hb' => (hnone b hb hb').elim
  · exact fun b hb hb' => (hnone b hb hb').elim

omit [Scalar α] in
theorem offers_settled (report : Report α) : report.settled.offers = report.offers := by
  unfold Report.settled
  split <;> rfl

omit [Scalar α] in
theorem mem_of_mem_settled (h : a ∈ report.settled.actions) (ha : a.offersShapes) :
    a ∈ report.actions := by
  rcases Report.mem_settled_actions h with h | rfl
  · exact h
  · cases ha

theorem Backs.settled (h : e.Backs current trends report) : e.Backs current trends report.settled :=
  h.keepShapes (fun _ => mem_of_mem_settled) (offers_settled report)

/-- A report of what was decided, with a schedule or without. -/
theorem backs_proposed {custom : Bool} {decision : Option (Decision α)} {id : String}
    {schedule : Option (List (Window α))}
    (h : ∀ d, decision = some d → e.Fits current trends d.action d.offers) :
    e.Backs current trends
      { resource := id
        actions := (if custom then [Action.schedule] else []) ++ (decision.map (·.action)).toList
        schedule
        shapes := decision.map (·.offers) } := by
  have hlisted : ∀ a ∈ (if custom then [Action.schedule] else []) ++ (decision.map (·.action)).toList,
      a.offersShapes → ∃ d, decision = some d ∧ d.action = a := by
    intro a ha hoffers
    rcases List.mem_append.mp ha with hschedule | hresize
    · split at hschedule
      · rw [List.mem_singleton.mp hschedule] at hoffers
        cases hoffers
      · cases hschedule
    · simpa using hresize
  refine ⟨?_, ?_, ?_⟩
  · intro o ho
    cases decision with
    | none => cases ho
    | some d => exact (h d rfl).suited o ho
  · intro a ha b hb hoffers hoffers'
    obtain ⟨d, rfl, rfl⟩ := hlisted a ha hoffers
    obtain ⟨d', hd', rfl⟩ := hlisted b hb hoffers'
    cases hd'
    rfl
  · intro a ha hoffers
    obtain ⟨d, rfl, rfl⟩ := hlisted a ha hoffers
    exact h d rfl

theorem decide_of_not_isIdle (h : ¬ (e.settings.schedule samples).isIdle) :
    let schedule := e.settings.schedule samples
    let decision := e.resizeFor r current (e.trendsOf samples)
    (e.decide r samples current).1 = Report.settled
      { resource := r.id
        actions := (if schedule.isCustom then [Action.schedule] else []) ++
          (decision.map (·.action)).toList
        schedule := some schedule.reported
        shapes := decision.map (·.offers) } := by
  unfold decide
  simp only
  rw [if_neg h]
  rfl

theorem decide_backs (samples : List (Sample α)) :
    e.Backs current (e.trendsOf samples) (e.decide r samples current).1 := by
  by_cases hidle : (e.settings.schedule samples).isIdle
  · have hfits : e.Fits current (e.trendsOf samples) .shutdown
        ((e.shrunken r current samples).getD []) := by
      cases hshapes : e.shrunken r current samples with
      | none => exact fits_nil nofun
      | some os => exact shrunken_fits hshapes
    rw [decide_of_isIdle hidle]
    refine ⟨hfits.suited, ?_, ?_⟩
    · simp
    · intro a ha _
      obtain rfl := List.mem_singleton.mp ha
      exact hfits
  · rw [decide_of_not_isIdle hidle]
    exact (backs_proposed fun d hd => (resizeFor_fits hd).2).settled

omit [Scalar α] in
theorem offersShapes_of_coversAction {p : Postponement} (h : p.coversAction a)
    (ha : a ≠ .schedule) : a.offersShapes := by
  cases a with
  | schedule => exact (ha rfl).elim
  | noAction | error => cases h
  | _ => rfl

theorem Backs.withoutPostponed (p : Postponement) (h : e.Backs current trends report) :
    e.Backs current trends (report.withoutPostponed p) := by
  unfold Report.withoutPostponed
  simp only
  split
  · exact h
  · apply Backs.settled
    have hkept : ∀ a ∈ report.actions.filter (!p.coversAction ·), a.offersShapes →
        a ∈ report.actions := fun a ha _ => List.mem_of_mem_filter ha
    by_cases hdropped : (report.actions.filter p.coversAction).any (· != .schedule)
    · obtain ⟨a, ha, hschedule⟩ := List.any_eq_true.mp hdropped
      obtain ⟨ha, hcovered⟩ := List.mem_filter.mp ha
      rw [if_pos hdropped]
      refine h.dropShapes hkept rfl ⟨a, ha, ?_, ?_⟩
      · exact offersShapes_of_coversAction hcovered (by simpa using hschedule)
      · intro hmem
        simp [hcovered] at hmem
    · rw [if_neg hdropped]
      exact h.keepShapes hkept rfl

theorem Backs.withoutResize (h : e.Backs current trends report)
    (hresize : ∃ a ∈ report.actions, a.isResize) : e.Backs current trends report.withoutResize := by
  obtain ⟨a, ha, hresize⟩ := hresize
  apply Backs.settled
  refine h.dropShapes (fun b hb _ => List.mem_of_mem_filter hb) rfl ⟨a, ha, ?_, ?_⟩
  · cases a <;> simp [Action.isResize] at hresize <;> rfl
  · intro hmem
    simp [hresize] at hmem

theorem Backs.withoutSchedule (h : e.Backs current trends report) :
    e.Backs current trends report.withoutSchedule := by
  apply Backs.settled
  exact h.keepShapes (fun b hb _ => List.mem_of_mem_filter hb) rfl

theorem Backs.price (h : e.Backs current trends report) :
    e.Backs current trends (e.price r current report) :=
  ⟨h.suited, h.lone, h.fits⟩

/-- A report that fits the samples and the current shape of the resource it is of. -/
def Founded (e : Engine α) (read : String → Except EngineError (Batch α)) (report : Report α) : Prop :=
  ∃ b samples current, read report.resource = .ok b ∧ e.validate b = .ok (samples, current) ∧
    e.Backs current (e.trendsOf samples) report

/-- Whatever is offered for a completed resource fits what is reported for it. -/
theorem run_founded {read : String → Except EngineError (Batch α)} {c : Completed α}
    (h : e.run read r = .completed c) : c.report.resource = r.id ∧ e.Founded read c.report := by
  obtain ⟨p, b, -, -, hread, hprocess⟩ := run_eq_completed h
  obtain ⟨samples, current, hv, hreport, -⟩ := process_eq_ok hprocess
  have hresource : c.report.resource = r.id := resource_process hprocess
  have hpriced : e.Backs current (e.trendsOf samples)
      (e.price r current (e.decide r samples current).1) := (decide_backs samples).price
  refine ⟨hresource, b, samples, current, hresource ▸ hread, hv, ?_⟩
  rw [hreport]
  cases p with
  | none => exact hpriced
  | some p => exact hpriced.withoutPostponed p

/-- A single trend gets what is found for the resize that it asks for. -/
theorem resizeFor_alone {shapes : List (Shape α)} (ha : t.resizeAction? = some a)
    (hshapes : e.candidates r current (e.requirement t current a) = shapes) (hne : shapes ≠ []) :
    e.resizeFor r current [t] = some ⟨a, shapes.map fun s => { shape := s }⟩ := by
  have htry : e.tryResize r current t a = some ⟨a, shapes.map fun s => { shape := s }⟩ := by
    rw [tryResize, hshapes]
    exact if_neg (by simpa using hne)
  have hresize : e.resize r current t a = some ⟨a, shapes.map fun s => { shape := s }⟩ := by
    rw [resize, htry]
    rfl
  rcases Trend.resizeAction?_cases ha with rfl | rfl | rfl <;>
    rw [resizeFor, show Trend.actionOf? [t] = _ from ha] <;> exact hresize

section

variable {e : Engine Rat} {current : Shape Rat} {samples : List (Sample Rat)} {d : Decision Rat}
  (hmin : e.settings.minWindowMinutes < minutesPerDay)

include hmin

/-- Samples that are all busy run always, so that only their resize is reported. -/
theorem decide_of_busy (hbusy : ∀ s ∈ samples, e.settings.activityThreshold < s.cpu)
    (hd : e.resizeFor r current (e.trendsOf samples) = some d) : (e.decide r samples current).1 =
      { resource := r.id, actions := [d.action], schedule := some [Window.alwaysRun], shapes := some d.offers } := by
  have hschedule : e.settings.schedule samples = .alwaysRun := Settings.schedule_of_busy hmin hbusy
  have hidle : ¬ (e.settings.schedule samples).isIdle := by
    rw [hschedule]
    decide
  have hdecide : (e.decide r samples current).1 = _ := decide_of_not_isIdle hidle
  simp only [hschedule, hd] at hdecide
  exact hdecide

/-- A busy reading alone is a regime of its own. -/
theorem trendsOf_alone {s : Sample Rat} (hfew : 1 < e.settings.minClusterSamples)
    (hbusy : e.settings.activityThreshold < s.cpu) : e.trendsOf [s] = [.ofSamples [s]] := by
  have hschedule : e.settings.schedule [s] = .alwaysRun :=
    Settings.schedule_of_busy hmin fun s' hs' => by rwa [List.mem_singleton.mp hs']
  rw [trendsOf, hschedule]
  exact ClusterModel.trends_of_few hfew

end

end Engine

end FleetSizing
