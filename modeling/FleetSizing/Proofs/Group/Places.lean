import FleetSizing.Group

/-! Where the reports of a reconciled group end up. Each one goes to the first place of its resource,
which is its own only as long as no resource is listed twice. -/
namespace FleetSizing

namespace Report

variable {α : Type} {r : Report α} {a : Action}

/-- Proposes a smaller shape, or none. -/
def shrinks (r : Report α) : Bool := r.has .scaleDown || r.has .shutdown

theorem has_settled (h : a ≠ .noAction) : r.settled.has a = r.has a := by
  unfold settled
  split
  · rename_i hempty
    rw [List.isEmpty_iff] at hempty
    simp [has, hempty, h]
  · rfl

@[simp] theorem shrinks_settled : r.settled.shrinks = r.shrinks := by
  simp [shrinks, has_settled]

theorem shrinks_withoutResize : r.withoutResize.shrinks = false := by
  rw [withoutResize, shrinks_settled]
  simp [shrinks, has, Action.isResize]

theorem shrinks_withoutSchedule [Scalar α] : r.withoutSchedule.shrinks = r.shrinks := by
  rw [withoutSchedule, shrinks_settled]
  simp [shrinks, has]

end Report

namespace Group

section

variable {α : Type} {r s : Report α} {rs ss : List (Report α)} {i : Nat}

/-- An earlier report of the group is of the same resource. -/
def Shadowed (reports : List (Report α)) (i : Nat) (s : Report α) : Prop :=
  s.resource ∈ (reports.take i).map (·.resource)

instance : Decidable (Shadowed ss i s) := inferInstanceAs (Decidable (_ ∈ _))

theorem shadowed_cons {t : Report α} {ts : List (Report α)} :
    Shadowed (t :: ts) (i + 1) s ↔ s.resource = t.resource ∨ Shadowed ts i s := by
  simp [Shadowed]

/-- The last report of a resource. -/
def lastOf? (resource : String) (reports : List (Report α)) : Option (Report α) :=
  (reports.filter (·.resource = resource)).getLast?

@[simp] theorem map_resource_putFirst : (putFirst r ss).map (·.resource) = ss.map (·.resource) := by
  induction ss with
  | nil => rfl
  | cons t ts ih =>
    unfold putFirst
    split
    · rename_i heq
      simp [heq]
    · simp [ih]

theorem shadowed_putFirst : Shadowed (putFirst r ss) i s ↔ Shadowed ss i s := by
  rw [Shadowed, List.map_take, map_resource_putFirst, ← List.map_take, Shadowed]

/-- A report put into a group changes the first place of its resource, and no other. -/
theorem getElem?_putFirst (h : ss[i]? = some s) : (putFirst r ss)[i]? =
    some (if r.resource = s.resource ∧ ¬ Shadowed ss i s then r else s) := by
  induction ss generalizing i with
  | nil => cases h
  | cons t ts ih =>
    unfold putFirst
    cases i with
    | zero =>
      obtain rfl : t = s := by simpa using h
      have hfirst : ¬ Shadowed (t :: ts) 0 t := by simp [Shadowed]
      by_cases heq : t.resource = r.resource
      · simp [heq, hfirst]
      · simp [heq, Ne.symm heq]
    | succ i =>
      rw [List.getElem?_cons_succ] at h
      split
      · rename_i heq
        rw [List.getElem?_cons_succ, h, if_neg]
        rintro ⟨hsame, hfirst⟩
        exact hfirst (shadowed_cons.mpr (Or.inl (hsame.symm.trans heq.symm)))
      · rename_i hne
        have hiff : r.resource = s.resource ∧ ¬ Shadowed ts i s ↔
            r.resource = s.resource ∧ ¬ Shadowed (t :: ts) (i + 1) s := by
          refine and_congr_right fun hsame => not_congr ?_
          rw [shadowed_cons, or_iff_right]
          exact fun heq => hne (heq.symm.trans hsame.symm)
        rw [List.getElem?_cons_succ, ih h]
        simp only [hiff]

/-- Of several reports of a resource, the last one put stays. -/
theorem getElem?_foldl_putFirst (h : ss[i]? = some s) :
    (rs.foldl (fun ss r => putFirst r ss) ss)[i]? =
      some (if Shadowed ss i s then s else (lastOf? s.resource rs).getD s) := by
  induction rs generalizing ss s with
  | nil => simp [h, lastOf?]
  | cons r rs ih =>
    rw [List.foldl_cons, ih (getElem?_putFirst h)]
    by_cases hshadowed : Shadowed ss i s
    · simp [hshadowed, shadowed_putFirst]
    · by_cases hsame : r.resource = s.resource
      · have hshadowed' : ¬ Shadowed (putFirst r ss) i r := by
          rwa [shadowed_putFirst, Shadowed, hsame]
        simp [hshadowed, hshadowed', hsame, lastOf?, List.getLast?_cons]
      · simp [hshadowed, shadowed_putFirst, hsame, lastOf?]

theorem lastOf?_map {resource : String} {f : Report α → Report α}
    (hf : ∀ r, (f r).resource = r.resource) :
    lastOf? resource (rs.map f) = (lastOf? resource rs).map f := by
  rw [lastOf?, List.filter_map, List.getLast?_map, lastOf?]
  simp [Function.comp_def, hf]

theorem lastOf?_eq_none {resource : String} :
    lastOf? resource rs = none ↔ ∀ r ∈ rs, r.resource ≠ resource := by
  simp [lastOf?]

theorem mem_of_lastOf? {resource : String} (h : lastOf? resource rs = some r) :
    r ∈ rs ∧ r.resource = resource := by
  simpa using List.mem_of_getLast? h

theorem lastOf?_append (h : ∀ t ∈ ss, t.resource ≠ s.resource) :
    lastOf? s.resource (rs ++ s :: ss) = some s := by
  have hnone : ss.filter (·.resource = s.resource) = [] := by simpa using h
  simp [lastOf?, hnone]

end

variable {α : Type} [Scalar α] {group reports : List (Report α)} {r : Report α}

omit [Scalar α] in
/-- What the first pass makes of a report of a group. -/
def resized (group : List (Report α)) (r : Report α) : Report α :=
  if resizeClashes (group.any (·.has .scaleUp)) r then r.withoutResize else r

/-- What both passes make of a report of a group. -/
def agree (group : List (Report α)) (r : Report α) : Report α :=
  if scheduleClashes (runtimeFloor? (resizePass group).1) (resized group r) then
    (resized group r).withoutSchedule
  else resized group r

theorem passes_eq : (passes group).1 = group.map (agree group) := by
  simp only [passes, resizePass, schedulePass, List.map_map]
  rfl

theorem resource_agree : (agree group r).resource = r.resource := by
  unfold agree resized
  split <;> split <;> simp [Report.withoutSchedule, Report.withoutResize]

theorem status_agree : (agree group r).status = r.status := by
  unfold agree resized
  split <;> split <;> simp [Report.withoutSchedule, Report.withoutResize]

omit [Scalar α] in
theorem shrinks_resized (h : group.any (·.has .scaleUp)) : (resized group r).shrinks = false := by
  unfold resized
  rw [h]
  split
  · exact Report.shrinks_withoutResize
  · rename_i hfits
    rw [← Bool.not_eq_true]
    intro hshrinks
    apply hfits
    rw [resizeClashes, List.any_eq_true]
    rw [Report.shrinks, Bool.or_eq_true, Report.has, List.contains_iff_mem, Report.has,
      List.contains_iff_mem] at hshrinks
    rcases hshrinks with hdown | hshut
    · exact ⟨_, hdown, rfl⟩
    · exact ⟨_, hshut, rfl⟩

/-- Where one member grows, both passes leave none that shrinks. -/
theorem shrinks_agree (h : group.any (·.has .scaleUp)) : (agree group r).shrinks = false := by
  unfold agree
  split
  · rw [Report.shrinks_withoutSchedule, shrinks_resized h]
  · exact shrinks_resized h

variable {day : Day} {history : History α} {i : Nat} {s : Report α}

theorem length_reconcile : (reconcile day history reports).1.length = reports.length := by
  have hfold : ∀ rs ss : List (Report α),
      (rs.foldl (fun ss r => putFirst r ss) ss).map (·.resource) = ss.map (·.resource) := by
    intro rs
    induction rs with
    | nil => exact fun _ => rfl
    | cons r rs ih => exact fun ss => (ih _).trans map_resource_putFirst
  have hmap := congrArg List.length (hfold (passes (reports.filter (·.status == .success))).1 reports)
  rwa [List.length_map, List.length_map] at hmap

theorem getElem?_reconcile (h : reports[i]? = some s) :
    let active := reports.filter (·.status == .success)
    (reconcile day history reports).1[i]? = some (if Shadowed reports i s then s
      else ((lastOf? s.resource active).map (agree active)).getD s) := by
  intro active
  rw [← lastOf?_map fun _ => resource_agree, ← passes_eq]
  exact getElem?_foldl_putFirst h

omit [Scalar α] in
theorem eq_append_cons (h : reports[i]? = some s) :
    reports = reports.take i ++ s :: reports.drop (i + 1) := by
  obtain ⟨hlt, rfl⟩ := List.getElem?_eq_some_iff.mp h
  simp

omit [Scalar α] in
theorem lastOf?_active (h : reports[i]? = some s) (hstatus : s.status = .success)
    (hlast : ∀ t ∈ reports.drop (i + 1), t.status = .success → t.resource ≠ s.resource) :
    lastOf? s.resource (reports.filter (·.status == .success)) = some s := by
  rw [eq_append_cons h, List.filter_append, List.filter_cons_of_pos (by simp [hstatus])]
  apply lastOf?_append
  intro t ht
  obtain ⟨ht, hsuccess⟩ := List.mem_filter.mp ht
  exact hlast t ht (by simpa using hsuccess)

/-- A failed report is replaced exactly if it is the first of a resource with a successful one. -/
theorem getElem?_reconcile_error (h : reports[i]? = some s) (hstatus : s.status = .error) :
    (reconcile day history reports).1[i]? = some s ↔
      Shadowed reports i s ∨ ∀ t ∈ reports, t.status = .success → t.resource ≠ s.resource := by
  rw [getElem?_reconcile h]
  by_cases hshadowed : Shadowed reports i s
  · simp [hshadowed]
  · rw [if_neg hshadowed, or_iff_right hshadowed]
    cases hlast : lastOf? s.resource (reports.filter (·.status == .success)) with
    | none =>
      rw [lastOf?_eq_none] at hlast
      simpa using hlast
    | some t =>
      obtain ⟨ht, hresource⟩ := mem_of_lastOf? hlast
      obtain ⟨hmem, hsuccess⟩ := List.mem_filter.mp ht
      have hstatus' : t.status = .success := by simpa using hsuccess
      constructor
      · intro heq
        have hagree := congrArg Report.status (Option.some.inj heq)
        rw [Option.map_some, Option.getD_some, status_agree, hstatus', hstatus] at hagree
        cases hagree
      · exact fun hnone => (hnone t hmem hstatus' hresource).elim

/-- Where one member grows, a report that shrinks comes back only if it shares its resource with an
earlier one. -/
theorem getElem?_reconcile_shrinks (h : reports[i]? = some s)
    (hgrows : (reports.filter (·.status == .success)).any (·.has .scaleUp)) :
    (∃ t, (reconcile day history reports).1[i]? = some t ∧ t.status = .success ∧ t.shrinks) ↔
      s.status = .success ∧ s.shrinks ∧ Shadowed reports i s := by
  rw [getElem?_reconcile h]
  by_cases hshadowed : Shadowed reports i s
  · simp [hshadowed]
  · rw [if_neg hshadowed]
    constructor
    · rintro ⟨t, ht, hstatus, hshrinks⟩
      obtain rfl := Option.some.inj ht
      cases hlast : lastOf? s.resource (reports.filter (·.status == .success)) with
      | none =>
        rw [hlast, Option.map_none, Option.getD_none] at hstatus
        rw [lastOf?_eq_none] at hlast
        have hmem : s ∈ reports.filter (·.status == .success) :=
          List.mem_filter.mpr ⟨List.mem_of_getElem? h, by simp [hstatus]⟩
        exact (hlast s hmem rfl).elim
      | some t =>
        rw [hlast, Option.map_some, Option.getD_some, shrinks_agree hgrows] at hshrinks
        cases hshrinks
    · exact fun hall => (hshadowed hall.2.2).elim

omit [Scalar α] in
theorem not_shadowed (h : reports[i]? = some s) (hnodup : (reports.map (·.resource)).Nodup) :
    ¬ Shadowed reports i s ∧ ∀ t ∈ reports.drop (i + 1), t.resource ≠ s.resource := by
  rw [eq_append_cons h, List.map_append, List.map_cons, List.nodup_append, List.nodup_cons] at hnodup
  obtain ⟨-, ⟨hafter, -⟩, hbefore⟩ := hnodup
  refine ⟨fun hmem => hbefore _ hmem _ List.mem_cons_self rfl, ?_⟩
  exact fun t ht heq => hafter (heq ▸ List.mem_map_of_mem ht)

/-- Where no resource is listed twice, every place keeps its own report. -/
theorem reconcile_of_nodup (hnodup : (reports.map (·.resource)).Nodup) :
    (reconcile day history reports).1 = reports.map fun s =>
      if s.status = .success then agree (reports.filter (·.status == .success)) s else s := by
  apply List.ext_getElem?
  intro i
  rw [List.getElem?_map]
  cases h : reports[i]? with
  | none =>
    rw [Option.map_none, List.getElem?_eq_none_iff, length_reconcile]
    exact List.getElem?_eq_none_iff.mp h
  | some s =>
    obtain ⟨hfirst, hlast⟩ := not_shadowed h hnodup
    rw [Option.map_some]
    split
    · rename_i hsuccess
      rw [getElem?_reconcile h, if_neg hfirst,
        lastOf?_active h hsuccess fun t ht _ => hlast t ht]
      rfl
    · rename_i hfailed
      have herror : s.status = .error := by
        cases hstatus : s.status with
        | success => exact (hfailed hstatus).elim
        | error => rfl
      rw [getElem?_reconcile_error h herror]
      refine Or.inr fun t ht hsuccess hresource => ?_
      rw [eq_append_cons h, List.mem_append, List.mem_cons] at ht
      rcases ht with hbefore | rfl | hafter
      · exact hfirst (List.mem_map.mpr ⟨t, hbefore, hresource⟩)
      · exact hfailed hsuccess
      · exact hlast t hafter hresource

/-- A place keeps its report if an earlier one is of the same resource. Otherwise it gets what the passes
make of the last report of the resource that did not fail, be it its own or not. -/
theorem reconcile_places (day : Day) (history : History α) (reports : List (Report α)) :
    let active := reports.filter (·.status == .success)
    let out := (reconcile day history reports).1
    (passes active).1 = active.map (agree active) ∧ out.length = reports.length ∧
    (∀ i s, reports[i]? = some s →
      out[i]? = some (if Shadowed reports i s then s
        else ((lastOf? s.resource active).map (agree active)).getD s) ∧
      (s.status = .error → (out[i]? = some s ↔
        Shadowed reports i s ∨ ∀ t ∈ reports, t.status = .success → t.resource ≠ s.resource)) ∧
      (s.status = .success → ¬ Shadowed reports i s →
        (∀ t ∈ reports.drop (i + 1), t.status = .success → t.resource ≠ s.resource) →
        out[i]? = some (agree active s)) ∧
      (active.any (·.has .scaleUp) → ((∃ t, out[i]? = some t ∧ t.status = .success ∧ t.shrinks) ↔
        s.status = .success ∧ s.shrinks ∧ Shadowed reports i s))) ∧
    ((reports.map (·.resource)).Nodup →
      out = reports.map fun s => if s.status = .success then agree active s else s) := by
  intro active out
  refine ⟨passes_eq, length_reconcile, fun i s h => ⟨getElem?_reconcile h, ?_, ?_, ?_⟩, ?_⟩
  · exact getElem?_reconcile_error h
  · intro hstatus hfirst hlast
    have hown : lastOf? s.resource active = some s := lastOf?_active h hstatus hlast
    rw [show out[i]? = _ from getElem?_reconcile h, if_neg hfirst, hown]
    rfl
  · exact getElem?_reconcile_shrinks h
  · exact reconcile_of_nodup

/-! Three reports of one resource: it failed, should grow, and should shrink. -/
namespace Twins

def failed : Report Rat := .failed "i-1" "disk full"

def growing : Report Rat := { resource := "i-1", actions := [.scaleUp] }

def shrinking : Report Rat := { resource := "i-1", actions := [.scaleDown] }

end Twins

/-- Reports of one resource do not come back in their own places. -/
theorem twins_displaced :
    let twins := [Twins.growing, Twins.shrinking]
    (reconcile default .empty [Twins.failed, Twins.growing]).1[0]? ≠ some Twins.failed ∧
      (reconcile default .empty twins).1[0]? ≠ some (agree twins Twins.growing) ∧
      (reconcile default .empty twins).1[1]? ≠ some (agree twins Twins.shrinking) ∧
      (reconcile default .empty twins).1.any (·.shrinks) := by
  intro twins
  refine ⟨fun hfailed => ?_, fun hgrowing => ?_, fun hshrinking => ?_, by decide⟩
  · have hstatus := congrArg (Option.map Report.status) hfailed
    revert hstatus
    decide
  · have hactions := congrArg (Option.map Report.actions) hgrowing
    revert hactions
    decide
  · have hactions := congrArg (Option.map Report.actions) hshrinking
    revert hactions
    decide

theorem reconcile_places_twins :
    let out := (reconcile default .empty [Twins.growing, Twins.shrinking]).1
    [Twins.growing, Twins.shrinking][1]? = some Twins.shrinking ∧
      [Twins.growing, Twins.shrinking].any (·.has .scaleUp) ∧
      (∃ t, out[1]? = some t ∧ t.status = .success ∧ t.shrinks) ∧
      (∃ t, out[0]? = some t ∧ ¬ t.has .scaleUp) := by
  intro out
  obtain ⟨-, -, hplaces, -⟩ := reconcile_places default .empty [Twins.growing, Twins.shrinking]
  refine ⟨rfl, rfl, ?_, _, (hplaces 0 Twins.growing rfl).1, by decide⟩
  exact ((hplaces 1 Twins.shrinking rfl).2.2.2 rfl).mpr ⟨rfl, rfl, by decide⟩

end Group

end FleetSizing
