import FleetSizing.Proofs.History.Sync
import FleetSizing.Proofs.Report.Entries

/-! Recording a report and bringing its entries in line with one agree: only the last report counts. -/
namespace FleetSizing

variable {α : Type} [Scalar α] {r : Report α} {c : EntryContext α} {e : Entry α}

theorem Entry.foldl_syncWith_syncWith (earlier : List (Report α)) :
    (earlier.foldl Entry.syncWith e).syncWith r = e.syncWith r := by
  induction earlier generalizing e with
  | nil => rfl
  | cons s earlier ih => rw [List.foldl_cons, ih, Entry.syncWith_syncWith]

namespace Report

/-- Entries are keyed by the kinds of the actions, in their order. -/
theorem keys_entries : (r.entries c).map Entry.key =
    (r.actions.filterMap Action.kind?).map fun kind => ⟨r.resource, kind, c.day⟩ := by
  rw [entries, List.map_filterMap, List.map_filterMap]
  congr 1
  funext a
  cases h : a.kind? <;> simp [Entry.ofAction?, h, Entry.key]

theorem actions_entries : (r.entries c).map (·.action) = r.actions.filter (·.kind?.isSome) := by
  rw [entries, List.map_filterMap, ← List.filterMap_eq_filter]
  congr 1
  funext a
  cases h : a.kind? <;> simp [Entry.ofAction?, Option.guard, h]

theorem nodup_keys_entries (h : (r.actions.filterMap Action.kind?).Nodup) :
    ((r.entries c).map Entry.key).Nodup := by
  rw [keys_entries]
  exact h.map fun _ _ hkey => congrArg EntryKey.kind hkey

/-- The action an entry was made from is the one that the report has of its kind. -/
theorem syncWith_of_mem_entries (h : (r.actions.filterMap Action.kind?).Nodup) (he : e ∈ r.entries c) :
    e.syncWith r = e := by
  obtain ⟨a, ha, hrecorded⟩ := List.mem_filterMap.mp he
  obtain ⟨kind, hkind, rfl⟩ := Option.map_eq_some_iff.mp hrecorded
  have hfound : r.actionOf? kind = some a := by
    have hmem : a ∈ r.actions.filter (·.kind? == some kind) :=
      List.mem_filter.mpr ⟨ha, by simp [hkind]⟩
    rw [Action.filter_kind h kind] at hmem
    exact Option.mem_toList.mp hmem
  rw [Entry.syncWith, hfound]

/-- A report with one action at most of each kind is recorded by one entry for each action that has a kind,
each under a key of its own. The report restores its entries, whatever reports they were brought in line
with before: of these nothing is left in any entry. -/
theorem entries_restored (h : (r.actions.filterMap Action.kind?).Nodup) (c : EntryContext α) :
    ((r.entries c).map Entry.key).Nodup ∧
    (r.entries c).map Entry.key =
      (r.actions.filterMap Action.kind?).map (fun kind => ⟨r.resource, kind, c.day⟩) ∧
    (r.entries c).map (·.action) = r.actions.filter (·.kind?.isSome) ∧
    (∀ e ∈ r.entries c, e.syncWith r = e ∧
      ∀ earlier : List (Report α), (earlier.foldl Entry.syncWith e).syncWith r = e) ∧
    ∀ (e : Entry α) (earlier : List (Report α)),
      (earlier.foldl Entry.syncWith e).syncWith r = e.syncWith r := by
  refine ⟨nodup_keys_entries h, keys_entries, actions_entries, fun e he => ?_, fun e earlier => ?_⟩
  · have hsame : e.syncWith r = e := syncWith_of_mem_entries h he
    exact ⟨hsame, fun earlier => (Entry.foldl_syncWith_syncWith earlier).trans hsame⟩
  · exact Entry.foldl_syncWith_syncWith earlier

/-! A schedule without a price beside a priced shape, both withdrawn later. -/
namespace Withdrawal

def smaller : Shape Rat := ⟨"m5.large", .aws, 2, 8, 0, 0, "", "", ""⟩

def proposed : Report Rat where
  resource := "i-1"
  actions := [.schedule, .scaleDown]
  schedule := some [.make [.sat] (.ofMinute 480) (.ofMinute 960) 1]
  shapes := some [{ shape := smaller }]
  savings := some [⟨.scaleDown, 70, 50, 70, some (.shape "m5.large")⟩]

def withdrawn : Report Rat := { resource := "i-1", actions := [.noAction] }

end Withdrawal

theorem entries_restored_withdrawal :
    let entries := Withdrawal.proposed.entries ⟨default, "m5.xlarge", some 140⟩
    (Withdrawal.proposed.actions.filterMap Action.kind?).Nodup ∧
      entries.map (·.target.isSome) = [true, true] ∧
      ∀ e ∈ entries, (e.syncWith Withdrawal.withdrawn).action = .noAction ∧
        (e.syncWith Withdrawal.withdrawn).target.isNone ∧
        (e.syncWith Withdrawal.withdrawn).syncWith Withdrawal.proposed = e := by
  intro entries
  have hkinds : (Withdrawal.proposed.actions.filterMap Action.kind?).Nodup := by decide
  obtain ⟨-, -, -, hrestored, -⟩ := entries_restored hkinds ⟨default, "m5.xlarge", some 140⟩
  refine ⟨hkinds, by decide +kernel, fun e he => ?_⟩
  have hnone : Withdrawal.withdrawn.actionOf? e.kind = none := rfl
  refine ⟨?_, ?_, (hrestored e he).2 [Withdrawal.withdrawn]⟩ <;> rw [Entry.syncWith, hnone]
  rfl

end Report

end FleetSizing
