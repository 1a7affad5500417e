import FleetSizing.Document.Policy
import FleetSizing.Proofs.Document.Shape
import FleetSizing.Proofs.Json.Kept

/-! Settings and policies that are read and written back, with all fields that are not known here. -/
namespace FleetSizing

variable {α : Type}

open Json

@[simp] theorem Compatibility.oneOf?_name (c : Compatibility) :
    oneOf? (α := α) Compatibility.all Compatibility.name (.text c.name) = some c := by
  cases c <;> rfl

@[simp] theorem Sorting.oneOf?_name (s : Sorting) :
    oneOf? (α := α) Sorting.all Sorting.name (.text s.name) = some s := by
  cases s <;> rfl

variable [Scalar α]

namespace Settings

/-- The fields with a meaning here, as they are written. -/
def known (s : Settings α) : List (String × Json α) :=
  [("required_columns", .ofTexts s.requiredColumns),
   ("record_step_minutes", .int s.recordStepMinutes),
   ("min_allowed_days", .int s.minAllowedDays),
   ("max_clusters", .int s.maxClusters),
   ("min_cluster_samples", .int s.minClusterSamples),
   ("smoothing_window", .int s.smoothingWindow),
   ("activity_threshold", .ofReal s.activityThreshold),
   ("min_window_minutes", .int s.minWindowMinutes),
   ("merge_tolerance_minutes", .int s.mergeToleranceMinutes),
   ("target_utilization", .ofReal s.targetUtilization),
   ("max_recommended_shapes", .int s.maxRecommendedShapes),
   ("forbid_change_series", .bool s.forbidChangeSeries),
   ("forbid_change_family", .bool s.forbidChangeFamily),
   ("compatibility", .text s.compatibility.name),
   ("sorting", .text s.sorting.name),
   ("group_tag_key", .text s.groupTagKey)]

theorem toJson_eq (s : Settings α) : s.toJson = .object (s.known ++ s.additional) := rfl

theorem map_fst_known (s : Settings α) : s.known.map (·.1) = fieldNames := rfl

theorem nodup_fieldNames : fieldNames.Nodup := by decide

/-- What settings can hold: counts are machine words, numbers are finite, and further keys are different
from each other and from the known ones. -/
structure Representable (s : Settings α) : Prop where
  recordStepMinutes : s.recordStepMinutes < 2 ^ 32
  minAllowedDays : s.minAllowedDays < 2 ^ 32
  maxClusters : s.maxClusters < 2 ^ 64
  minClusterSamples : s.minClusterSamples < 2 ^ 64
  smoothingWindow : s.smoothingWindow < 2 ^ 64
  activityThreshold : Scalar.isFinite s.activityThreshold
  minWindowMinutes : s.minWindowMinutes < 2 ^ 32
  mergeToleranceMinutes : s.mergeToleranceMinutes < 2 ^ 32
  targetUtilization : Scalar.isFinite s.targetUtilization
  maxRecommendedShapes : s.maxRecommendedShapes < 2 ^ 64
  additional : IsValue (.object s.additional)
  unknown : ∀ name ∈ s.additional.map (·.1), name ∉ fieldNames

theorem ofJson?_toJson {s : Settings α} (h : s.Representable) : ofJson? s.toJson = some s := by
  have hkeys : ((s.known ++ s.additional).map (·.1)).Nodup :=
    nodup_keys_append nodup_fieldNames s.map_fst_known h.additional h.unknown
  have hothers : Record.others? ⟨false, s.known ++ s.additional⟩ fieldNames = some s.additional :=
    others?_append (fun _ hf => s.map_fst_known ▸ List.mem_map_of_mem hf) h.additional h.unknown
  rw [ofJson?, toJson_eq, named?_of_nodup hkeys]
  simp only [some_then, hothers]
  simp only [Record.withDefault, Record.get?, known, List.cons_append, List.nil_append,
    lookup_cons_self, lookup_cons_of_ne, ne_eq, String.reduceEq, not_false_eq_true, Option.pure_def,
    some_then, text?, bool?, list?_ofTexts, Compatibility.oneOf?_name, Sorting.oneOf?_name,
    real?_ofReal h.activityThreshold, real?_ofReal h.targetUtilization, nat?_int h.recordStepMinutes,
    nat?_int h.minAllowedDays, nat?_int h.maxClusters, nat?_int h.minClusterSamples,
    nat?_int h.smoothingWindow, nat?_int h.minWindowMinutes, nat?_int h.mergeToleranceMinutes,
    nat?_int h.maxRecommendedShapes]

/-- Settings that were read are written with everything that was read. -/
theorem kept_of_ofJson? {fields : List (String × Json α)} {s : Settings α}
    (hfields : IsValue (.object fields)) (h : ofJson? (.object fields) = some s) :
    Kept fieldNames (fun _ => SameValue) Settings.default.known fields (s.known ++ s.additional) := by
  rw [ofJson?, named?_of_nodup (isValue_object_iff.mp hfields).1] at h
  simp only [some_then, then_eq_some_iff, Option.pure_def, Option.some.injEq] at h
  obtain ⟨columns, hcolumns, step, hstep, days, hdays, clusters, hclusters, samples, hsamples,
    smoothing, hsmoothing, threshold, hthreshold, window, hwindow, tolerance, htolerance,
    target, htarget, shapes, hshapes, series, hseries, family, hfamily, compatibility,
    hcompatibility, sorting, hsorting, tagKey, htagKey, additional, hadditional, rfl⟩ := h
  have hvalue : ∀ name v, lookup name fields = some v → IsValue v := fun name v hv =>
    (isValue_object_iff.mp hfields).2 _ (mem_of_lookup hv)
  refine kept_of_others? hfields (map_fst_known _) nodup_fieldNames hadditional ?_
  simp only [known, List.forall_mem_cons, List.not_mem_nil, false_implies, implies_true, and_true]
  refine ⟨?_, ?_, ?_, ?_, ?_, ?_, ?_, ?_, ?_, ?_, ?_, ?_, ?_, ?_, ?_, ?_⟩
  · exact keptField_withDefault hcolumns (fun _ _ => sameValue_texts) (· ▸ rfl)
  · exact keptField_withDefault hstep (fun _ _ => sameValue_nat) (· ▸ rfl)
  · exact keptField_withDefault hdays (fun _ _ => sameValue_nat) (· ▸ rfl)
  · exact keptField_withDefault hclusters (fun _ _ => sameValue_nat) (· ▸ rfl)
  · exact keptField_withDefault hsamples (fun _ _ => sameValue_nat) (· ▸ rfl)
  · exact keptField_withDefault hsmoothing (fun _ _ => sameValue_nat) (· ▸ rfl)
  · exact keptField_withDefault hthreshold (fun _ hv => sameValue_real (hvalue _ _ hv)) (· ▸ rfl)
  · exact keptField_withDefault hwindow (fun _ _ => sameValue_nat) (· ▸ rfl)
  · exact keptField_withDefault htolerance (fun _ _ => sameValue_nat) (· ▸ rfl)
  · exact keptField_withDefault htarget (fun _ hv => sameValue_real (hvalue _ _ hv)) (· ▸ rfl)
  · exact keptField_withDefault hshapes (fun _ _ => sameValue_nat) (· ▸ rfl)
  · exact keptField_withDefault hseries (fun _ _ => sameValue_bool) (· ▸ rfl)
  · exact keptField_withDefault hfamily (fun _ _ => sameValue_bool) (· ▸ rfl)
  · exact keptField_withDefault hcompatibility (fun _ _ => sameValue_oneOf) (· ▸ rfl)
  · exact keptField_withDefault hsorting (fun _ _ => sameValue_oneOf) (· ▸ rfl)
  · exact keptField_withDefault htagKey (fun _ _ => sameValue_text) (· ▸ rfl)

theorem eq_object_of_ofJson? {j : Json α} {s : Settings α} (h : ofJson? j = some s) :
    ∃ fields, j = .object fields := by
  cases j with
  | object fields => exact ⟨fields, rfl⟩
  | _ => cases h

end Settings

namespace Policy

/-- The fields with a meaning here, as they are written. -/
def known (p : Policy α) : List (String × Json α) :=
  [("rules", .ofList Rule.toJson p.rules), ("settings", p.settings.toJson)]

theorem toJson_eq (p : Policy α) : p.toJson = .object (p.known ++ p.additional) := rfl

theorem map_fst_known (p : Policy α) : p.known.map (·.1) = fieldNames := rfl

theorem nodup_fieldNames : fieldNames.Nodup := by decide

structure Representable (p : Policy α) : Prop where
  settings : p.settings.Representable
  additional : IsValue (.object p.additional)
  unknown : ∀ name ∈ p.additional.map (·.1), name ∉ fieldNames

theorem ofJson?_toJson {p : Policy α} (h : p.Representable) : ofJson? p.toJson = some p := by
  have hkeys : ((p.known ++ p.additional).map (·.1)).Nodup :=
    nodup_keys_append nodup_fieldNames p.map_fst_known h.additional h.unknown
  have hothers : Record.others? ⟨false, p.known ++ p.additional⟩ fieldNames = some p.additional :=
    others?_append (fun _ hf => p.map_fst_known ▸ List.mem_map_of_mem hf) h.additional h.unknown
  have hrules : list? Rule.ofJson? (ofList (Rule.toJson (α := α)) p.rules) = some p.rules :=
    list?_ofList fun r _ => r.ofJson?_toJson
  rw [ofJson?, toJson_eq, named?_of_nodup hkeys]
  simp only [some_then, hothers]
  simp [Record.withDefault, Record.get?, known, hrules, Settings.ofJson?_toJson h.settings]

/-- Rules are written as they were read, and settings with everything that was read. -/
def Agree (name : String) (v w : Json α) : Prop :=
  (name = "rules" → ∃ rules, list? Rule.ofJson? v = some rules ∧ list? Rule.ofJson? w = some rules ∧
    w = .ofList Rule.toJson rules) ∧
  (name = "settings" → ∃ fields written, v = .object fields ∧ w = .object written ∧
    Kept Settings.fieldNames (fun _ => SameValue) Settings.default.known fields written)

theorem kept_of_ofJson? {fields : List (String × Json α)} {p : Policy α}
    (hfields : IsValue (.object fields)) (h : ofJson? (.object fields) = some p) :
    Kept fieldNames Agree Policy.default.known fields (p.known ++ p.additional) := by
  rw [ofJson?, named?_of_nodup (isValue_object_iff.mp hfields).1] at h
  simp only [some_then, then_eq_some_iff, Option.pure_def, Option.some.injEq] at h
  obtain ⟨rules, hrules, settings, hsettings, additional, hadditional, rfl⟩ := h
  refine kept_of_others? hfields (map_fst_known _) nodup_fieldNames hadditional ?_
  simp only [known, List.forall_mem_cons, List.not_mem_nil, false_implies, implies_true, and_true]
  constructor
  · refine keptField_withDefault hrules (fun v _ hread => ⟨fun _ => ?_, nofun⟩) (· ▸ rfl)
    exact ⟨rules, hread, list?_ofList fun r _ => r.ofJson?_toJson, rfl⟩
  · refine keptField_withDefault hsettings (fun v hv hread => ⟨nofun, fun _ => ?_⟩) (· ▸ rfl)
    obtain ⟨inner, rfl⟩ := Settings.eq_object_of_ofJson? hread
    have hinner : IsValue (.object inner) := (isValue_object_iff.mp hfields).2 _ (mem_of_lookup hv)
    exact ⟨inner, _, rfl, settings.toJson_eq, Settings.kept_of_ofJson? hinner hread⟩

/-- Settings and policies come back from what is written for them. An object that can be read as such is
written with every unknown field unchanged, every known field as it was read, or its default where it is
missing, and no field besides; and so are the settings inside a policy. -/
theorem written_back :
    (∀ s : Settings α, s.Representable → Settings.ofJson? s.toJson = some s) ∧
    (∀ p : Policy α, p.Representable → ofJson? p.toJson = some p) ∧
    (∀ (fields : List (String × Json α)) s, IsValue (.object fields) →
      Settings.ofJson? (.object fields) = some s → ∃ written, s.toJson = .object written ∧
        Kept Settings.fieldNames (fun _ => SameValue) Settings.default.known fields written) ∧
    ∀ (fields : List (String × Json α)) p, IsValue (.object fields) →
      ofJson? (.object fields) = some p → ∃ written, p.toJson = .object written ∧
        Kept fieldNames Agree Policy.default.known fields written :=
  ⟨fun _ => Settings.ofJson?_toJson, fun _ => ofJson?_toJson,
    fun _ s hfields h => ⟨_, s.toJson_eq, Settings.kept_of_ofJson? hfields h⟩,
    fun _ p hfields h => ⟨_, p.toJson_eq, kept_of_ofJson? hfields h⟩⟩

/-! A document that sets the number of clusters and the activity threshold, and says more than is known. -/
namespace Owned

def owner : Json Rat := .object [("team", .text "ops")]

def rule : Rule := ⟨"r-1", .aws, .deny, .contains, .family, "micro"⟩

def settingsFields : List (String × Json Rat) :=
  [("owner", owner), ("max_clusters", .int 4), ("activity_threshold", .int 15)]

def fields : List (String × Json Rat) :=
  [("license_key", .text "abc"), ("settings", .object settingsFields),
   ("rules", .list [rule.toJson])]

def settings : Settings Rat :=
  { Settings.default with
    maxClusters := 4, activityThreshold := 15, additional := [("owner", owner)] }

def policy : Policy Rat := ⟨[rule], settings, [("license_key", .text "abc")]⟩

theorem isValue_owner : IsValue owner :=
  .object (by decide) (by simpa using IsValue.text "ops")

theorem isValue_fields : IsValue (.object fields) := by
  have hrule : IsValue (Rule.toJson (α := Rat) rule) := by
    refine .object (by decide) ?_
    simp [Cloud.toJson, IsValue.text]
  have hsettings : IsValue (.object settingsFields) := by
    refine .object (by decide) ?_
    simpa [settingsFields] using ⟨isValue_owner, IsValue.int rfl, IsValue.int rfl⟩
  refine .object (by decide) ?_
  simpa [fields] using ⟨IsValue.text _, hsettings, IsValue.list (by simpa using hrule)⟩

theorem representable : policy.Representable where
  settings := by
    refine ⟨by decide, by decide, by decide, by decide, by decide, rfl, by decide, by decide, rfl,
      by decide, .object (by decide) ?_, by decide⟩
    simpa [policy, settings] using isValue_owner
  additional := .object (by decide) (by simpa [policy] using IsValue.text "abc")
  unknown := by decide

end Owned

theorem written_back_owned : Owned.policy.Representable ∧
    ofJson? Owned.policy.toJson = some Owned.policy ∧
    IsValue (.object Owned.fields) ∧ ofJson? (.object Owned.fields) = some Owned.policy ∧
    ∃ written, Owned.policy.toJson = .object written ∧
      lookup "license_key" written = some (.text "abc") ∧
      ∃ settings, lookup "settings" written = some (.object settings) ∧
        lookup "owner" settings = some Owned.owner ∧
        (∃ w, lookup "max_clusters" settings = some w ∧ SameValue (.int 4) w) ∧
        lookup "sorting" settings = some (.text "size") := by
  obtain ⟨-, hround, -, hkept⟩ := written_back (α := Rat)
  have hread : ofJson? (.object Owned.fields) = some Owned.policy := rfl
  obtain ⟨written, hwritten, hpolicy⟩ := hkept Owned.fields _ Owned.isValue_fields hread
  obtain ⟨_, hlookup, -, hagree⟩ := hpolicy.read "settings" (by decide) _ rfl
  obtain ⟨_, settings, hinner, rfl, hsettings⟩ := hagree rfl
  obtain rfl := Json.object.inj hinner
  refine ⟨Owned.representable, hround _ Owned.representable, Owned.isValue_fields, hread, written,
    hwritten, hpolicy.unknown _ (by decide), settings, hlookup, hsettings.unknown _ (by decide),
    hsettings.read "max_clusters" (by decide) _ rfl, ?_⟩
  obtain ⟨w, hw, hdefault⟩ := hsettings.missing "sorting" (by decide) rfl
  rw [hw, ← hdefault]
  rfl

end Policy

end FleetSizing
