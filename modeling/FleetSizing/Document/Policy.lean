import FleetSizing.Document.Shape
import FleetSizing.Policy

/-! Settings and policies as JSON. Keys they do not know are kept and written back. -/
namespace FleetSizing

variable {α : Type} [Scalar α]

namespace Settings

def fieldNames : List String :=
  ["required_columns", "record_step_minutes", "min_allowed_days", "max_clusters",
   "min_cluster_samples", "smoothing_window", "activity_threshold", "min_window_minutes",
   "merge_tolerance_minutes", "target_utilization", "max_recommended_shapes",
   "forbid_change_series", "forbid_change_family", "compatibility", "sorting", "group_tag_key"]

def toJson (s : Settings α) : Json α :=
  let count (n : Nat) : Json α := .int n
  .object <| [("required_columns", .ofTexts s.requiredColumns),
    ("record_step_minutes", count s.recordStepMinutes),
    ("min_allowed_days", count s.minAllowedDays),
    ("max_clusters", count s.maxClusters),
    ("min_cluster_samples", count s.minClusterSamples),
    ("smoothing_window", count s.smoothingWindow),
    ("activity_threshold", .ofReal s.activityThreshold),
    ("min_window_minutes", count s.minWindowMinutes),
    ("merge_tolerance_minutes", count s.mergeToleranceMinutes),
    ("target_utilization", .ofReal s.targetUtilization),
    ("max_recommended_shapes", count s.maxRecommendedShapes),
    ("forbid_change_series", .bool s.forbidChangeSeries),
    ("forbid_change_family", .bool s.forbidChangeFamily),
    ("compatibility", .text s.compatibility.name),
    ("sorting", .text s.sorting.name),
    ("group_tag_key", .text s.groupTagKey)] ++ s.additional

def ofJson? (j : Json α) : Option (Settings α) := do
  let r ← Json.named? fieldNames j
  let d : Settings α := default
  return {
    requiredColumns :=
      ← r.withDefault "required_columns" d.requiredColumns (Json.list? Json.text?)
    recordStepMinutes := ← r.withDefault "record_step_minutes" d.recordStepMinutes (Json.nat? 32)
    minAllowedDays := ← r.withDefault "min_allowed_days" d.minAllowedDays (Json.nat? 32)
    maxClusters := ← r.withDefault "max_clusters" d.maxClusters (Json.nat? 64)
    minClusterSamples := ← r.withDefault "min_cluster_samples" d.minClusterSamples (Json.nat? 64)
    smoothingWindow := ← r.withDefault "smoothing_window" d.smoothingWindow (Json.nat? 64)
    activityThreshold := ← r.withDefault "activity_threshold" d.activityThreshold Json.real?
    minWindowMinutes := ← r.withDefault "min_window_minutes" d.minWindowMinutes (Json.nat? 32)
    mergeToleranceMinutes :=
      ← r.withDefault "merge_tolerance_minutes" d.mergeToleranceMinutes (Json.nat? 32)
    targetUtilization := ← r.withDefault "target_utilization" d.targetUtilization Json.real?
    maxRecommendedShapes :=
      ← r.withDefault "max_recommended_shapes" d.maxRecommendedShapes (Json.nat? 64)
    forbidChangeSeries := ← r.withDefault "forbid_change_series" d.forbidChangeSeries Json.bool?
    forbidChangeFamily := ← r.withDefault "forbid_change_family" d.forbidChangeFamily Json.bool?
    compatibility := ← r.withDefault "compatibility" d.compatibility
      (Json.oneOf? Compatibility.all Compatibility.name)
    sorting := ← r.withDefault "sorting" d.sorting (Json.oneOf? Sorting.all Sorting.name)
    groupTagKey := ← r.withDefault "group_tag_key" d.groupTagKey Json.text?
    additional := ← r.others? fieldNames }

end Settings

namespace Policy

def fieldNames : List String := ["rules", "settings"]

def toJson (p : Policy α) : Json α :=
  .object <| [("rules", .ofList Rule.toJson p.rules), ("settings", p.settings.toJson)] ++
    p.additional

def ofJson? (j : Json α) : Option (Policy α) := do
  let r ← Json.named? fieldNames j
  return {
    rules := ← r.withDefault "rules" [] (Json.list? Rule.ofJson?)
    settings := ← r.withDefault "settings" Settings.default Settings.ofJson?
    additional := ← r.others? fieldNames }

end Policy

end FleetSizing
