import FleetSizing.Proofs.Trend.Regimes
import Mathlib.Algebra.BigOperators.Group.List.Basic
import Mathlib.Algebra.Field.Rat
import Mathlib.Tactic.NormNum

/-! Of trends with the same directions the first is kept, and gains the shares of the others. Shares of time
that are all told keep their total. -/
namespace FleetSizing

/-- All shares are told, and they have this total. -/
def Tells (shares : List (Option Rat)) (total : Rat) : Prop :=
  ∃ ws : List Rat, shares = ws.map some ∧ ws.sum = total

section

variable {o : Option Rat} {os : List (Option Rat)} {total w : Rat}

theorem Tells.cons (h : Tells os total) : Tells (some w :: os) (w + total) := by
  obtain ⟨ws, rfl, rfl⟩ := h
  exact ⟨w :: ws, rfl, List.sum_cons⟩

theorem Tells.cases_cons (h : Tells (o :: os) total) :
    ∃ w rest, o = some w ∧ Tells os rest ∧ total = w + rest := by
  obtain ⟨ws, hws, rfl⟩ := h
  cases ws with
  | nil => cases hws
  | cons w ws =>
    obtain ⟨rfl, rfl⟩ := List.cons.inj hws
    exact ⟨w, ws.sum, rfl, ⟨ws, rfl, rfl⟩, List.sum_cons⟩

theorem Tells.cases_append_singleton (h : Tells (os ++ [o]) total) :
    ∃ w rest, o = some w ∧ Tells os rest ∧ total = rest + w := by
  obtain ⟨ws, hws, rfl⟩ := h
  obtain ⟨vs, us, rfl, rfl, hus⟩ := List.append_eq_map_iff.mp hws
  obtain ⟨w, rfl, rfl⟩ := List.map_eq_singleton_iff.mp hus
  exact ⟨w, vs.sum, rfl, ⟨vs, rfl, rfl⟩, by simp⟩

/-- What all told shares leave out is told as well. -/
theorem Tells.sublist {ps : List (Option Rat)} (h : Tells os total) (hsub : ps.Sublist os) :
    ∃ rest, Tells ps rest := by
  obtain ⟨ws, rfl, -⟩ := h
  obtain ⟨vs, -, rfl⟩ := List.sublist_map_iff.mp hsub
  exact ⟨vs.sum, vs, rfl, rfl⟩

end

namespace Trend

variable {α : Type}

/-- The first trend of each key, in the order in which the keys come. -/
def firsts (ts : List (Trend α)) : List (Trend α) :=
  (ts.map key).eraseDups.filterMap fun k => ts.find? (·.key = k)

section

variable {t u : Trend α} {ts us : List (Trend α)} {k : List Direction}

theorem find?_append_of_mem (h : k ∈ ts.map key) :
    (ts ++ us).find? (·.key = k) = ts.find? (·.key = k) := by
  obtain ⟨t, ht, rfl⟩ := List.mem_map.mp h
  have hfound : (ts.find? (·.key = t.key)).isSome := List.find?_isSome.mpr ⟨t, ht, by simp⟩
  rw [List.find?_append, Option.or_of_isSome hfound]

theorem firsts_append_singleton :
    firsts (ts ++ [t]) = if t.key ∈ ts.map key then firsts ts else firsts ts ++ [t] := by
  have hbefore : (ts.map key).eraseDups.filterMap (fun k => (ts ++ [t]).find? (·.key = k)) = firsts ts :=
    List.filterMap_congr fun k hk => find?_append_of_mem (List.mem_eraseDups.mp hk)
  rw [firsts, List.map_append, List.map_singleton, List.eraseDups_append, List.filterMap_append, hbefore]
  split
  · rename_i hmem
    have hgone : [t.key].removeAll (ts.map key) = [] := by
      rw [List.removeAll, List.filter_cons_of_neg (by simpa using hmem), List.filter_nil]
    rw [hgone, List.eraseDups_nil, List.filterMap_nil, List.append_nil]
  · rename_i hnew
    have hleft : [t.key].removeAll (ts.map key) = [t.key] := by
      rw [List.removeAll, List.filter_cons_of_pos (by simpa using hnew), List.filter_nil]
    have hnone : ts.find? (·.key = t.key) = none :=
      List.find?_eq_none.mpr fun u hu hkey => hnew (List.mem_map.mpr ⟨u, hu, of_decide_eq_true hkey⟩)
    rw [hleft, List.eraseDups_cons, List.filter_nil, List.eraseDups_nil]
    simp [List.find?_append, hnone]

theorem find?_of_mem_firsts (h : t ∈ firsts ts) : ts.find? (·.key = t.key) = some t := by
  obtain ⟨k, -, hk⟩ := List.mem_filterMap.mp h
  have hkey : t.key = k := by simpa using List.find?_some hk
  rwa [hkey]

theorem key_mem_of_mem_firsts (h : t ∈ firsts ts) : t.key ∈ ts.map key :=
  List.mem_map_of_mem (List.mem_of_find?_eq_some (find?_of_mem_firsts h))

theorem filter_key_of_mem_firsts (h : t ∈ firsts ts) :
    ts.filter (·.key = t.key) = t :: (ts.filter (·.key = t.key)).tail := by
  have hhead : (ts.filter (·.key = t.key)).head? = some t :=
    List.head?_filter.trans (find?_of_mem_firsts h)
  exact (List.cons_head?_tail hhead).symm

end

variable [Scalar α] {t u : Trend α} {ts kept : List (Trend α)}

/-- The first trend of a key, with the shares of the others added to its own if it has one. -/
def gathered (ts : List (Trend α)) (t : Trend α) : Trend α :=
  let others := (ts.filter (·.key = t.key)).tail
  { t with probability := t.probability.map ((others.filterMap (·.probability)).foldl (· + ·)) }

theorem gathered_append_of_ne (h : t.key ≠ u.key) : gathered (ts ++ [t]) u = gathered ts u := by
  simp [gathered, List.filter_append, h]

theorem gathered_append_of_eq (hkey : t.key = u.key) (h : u.key ∈ ts.map key) :
    gathered (ts ++ [t]) u = (gathered ts u).absorb t := by
  have hne : ts.filter (·.key = u.key) ≠ [] := by
    obtain ⟨v, hv, hvkey⟩ := List.mem_map.mp h
    exact List.ne_nil_of_mem (List.mem_filter.mpr ⟨hv, decide_eq_true hvkey⟩)
  have hothers : ((ts ++ [t]).filter (·.key = u.key)).tail = (ts.filter (·.key = u.key)).tail ++ [t] := by
    rw [List.filter_append, List.tail_append_of_ne_nil hne]
    simp [hkey]
  simp only [gathered, hothers, List.filterMap_append, List.foldl_append, absorb]
  cases ht : t.probability <;> cases hu : u.probability <;> simp [ht]

theorem gathered_self (h : t.key ∉ ts.map key) : gathered (ts ++ [t]) t = t := by
  have hnone : ts.filter (·.key = t.key) = [] := by
    rw [List.filter_eq_nil_iff]
    exact fun u hu hkey => h (List.mem_map.mpr ⟨u, hu, of_decide_eq_true hkey⟩)
  cases hp : t.probability <;> simp [gathered, List.filter_append, hnone]

theorem key_gathered : (gathered ts t).key = t.key := rfl

theorem keep_of_not_mem (h : t.key ∉ kept.map key) : keep t kept = kept ++ [t] := by
  induction kept with
  | nil => rfl
  | cons k kept ih =>
    rw [List.map_cons, List.mem_cons, not_or] at h
    rw [keep, if_neg (Ne.symm h.1), ih h.2, List.cons_append]

theorem keep_of_mem (hnodup : (kept.map key).Nodup) (h : t.key ∈ kept.map key) :
    keep t kept = kept.map fun k => if k.key = t.key then k.absorb t else k := by
  induction kept with
  | nil => cases h
  | cons k kept ih =>
    rw [List.map_cons, List.nodup_cons] at hnodup
    rw [keep, List.map_cons]
    by_cases hkey : k.key = t.key
    · have hrest : kept.map (fun k => if k.key = t.key then k.absorb t else k) = kept := by
        refine (List.map_congr_left fun u hu => if_neg fun hu' => ?_).trans (List.map_id kept)
        exact hnodup.1 (List.mem_map.mpr ⟨u, hu, hu'.trans hkey.symm⟩)
      rw [if_pos hkey, if_pos hkey, hrest]
    · have hmem : t.key ∈ kept.map key := (List.mem_cons.mp h).resolve_left (Ne.symm hkey)
      rw [if_neg hkey, if_neg hkey, ih hnodup.2 hmem]

/-- Each trend kept is the first of its key, and nothing but its share is changed. -/
theorem distinct_eq (ts : List (Trend α)) : distinct ts = (firsts ts).map (gathered ts) := by
  induction ts using List.reverseRecOn with
  | nil => rfl
  | append_singleton ts t ih =>
    rw [distinct_append_singleton, firsts_append_singleton]
    by_cases h : t.key ∈ ts.map key
    · rw [if_pos h, keep_of_mem (nodup_keys_distinct ts) (mem_keys_distinct.mpr h), ih, List.map_map]
      refine List.map_congr_left fun u hu => ?_
      rw [Function.comp_apply, key_gathered]
      split
      · rename_i hkey
        exact (gathered_append_of_eq hkey.symm (key_mem_of_mem_firsts hu)).symm
      · rename_i hkey
        exact (gathered_append_of_ne (Ne.symm hkey)).symm
    · have hnew : t.key ∉ (distinct ts).map key := fun hmem => h (mem_keys_distinct.mp hmem)
      rw [if_neg h, keep_of_not_mem hnew, ih, List.map_append, List.map_singleton, gathered_self h]
      congr 1
      refine List.map_congr_left fun u hu => (gathered_append_of_ne ?_).symm
      exact fun hkey => h (hkey ▸ key_mem_of_mem_firsts hu)

theorem distinct_of_nodup (h : (ts.map key).Nodup) : distinct ts = ts := by
  induction ts using List.reverseRecOn with
  | nil => rfl
  | append_singleton ts t ih =>
    rw [List.map_append, List.map_singleton, List.nodup_append'] at h
    rw [distinct_append_singleton, ih h.1]
    exact keep_of_not_mem fun hmem => h.2.2 hmem (List.mem_singleton_self _)

section

variable {t : Trend Rat} {ts kept : List (Trend Rat)} {total w : Rat}

/-- What is kept gains the share of the trend. -/
theorem tells_keep (h : Tells (kept.map (·.probability)) total) (ht : t.probability = some w) :
    Tells ((keep t kept).map (·.probability)) (total + w) := by
  induction kept generalizing total with
  | nil =>
    obtain ⟨ws, hws, rfl⟩ := h
    rw [List.map_eq_nil_iff.mp hws.symm]
    exact ⟨[w], by simp [keep, ht], by simp⟩
  | cons k kept ih =>
    rw [List.map_cons] at h
    obtain ⟨v, rest, hv, hrest, rfl⟩ := h.cases_cons
    rw [keep]
    split
    · have habsorbed : (k.absorb t).probability = some (v + w) := by
        rw [absorb, hv, ht]
      rw [List.map_cons, habsorbed, add_right_comm]
      exact hrest.cons
    · rw [List.map_cons, hv, add_assoc]
      exact (ih hrest).cons

theorem tells_distinct (h : Tells (ts.map (·.probability)) total) :
    Tells ((distinct ts).map (·.probability)) total := by
  induction ts using List.reverseRecOn generalizing total with
  | nil => exact h
  | append_singleton ts t ih =>
    rw [List.map_append] at h
    obtain ⟨w, rest, hw, hrest, rfl⟩ := h.cases_append_singleton
    rw [distinct_append_singleton]
    exact tells_keep (ih hrest) hw

theorem foldl_add_eq (w : Rat) (ws : List Rat) : ws.foldl (· + ·) w = w + ws.sum := by
  induction ws generalizing w with
  | nil => simp
  | cons v ws ih => rw [List.foldl_cons, ih, List.sum_cons, add_assoc]

/-- Exact shares that are all told are gathered from all trends of the key. -/
theorem tells_of_mem_distinct (h : Tells (ts.map (·.probability)) total) (ht : t ∈ distinct ts) :
    ∃ w, t.probability = some w ∧ Tells ((ts.filter (·.key = t.key)).map (·.probability)) w := by
  rw [distinct_eq] at ht
  obtain ⟨u, hu, rfl⟩ := List.mem_map.mp ht
  have hsame := filter_key_of_mem_firsts hu
  obtain ⟨w, htold⟩ := h.sublist (List.filter_sublist.map _ : ((ts.filter (·.key = u.key)).map _).Sublist _)
  refine ⟨w, ?_, htold⟩
  rw [hsame, List.map_cons] at htold
  obtain ⟨v, rest, hv, ⟨vs, hvs, rfl⟩, rfl⟩ := htold.cases_cons
  have hshares : (ts.filter (·.key = u.key)).tail.filterMap (·.probability) = vs := by
    have hmap := List.filterMap_map (f := (·.probability)) (g := id)
      (l := (ts.filter (·.key = u.key)).tail)
    rw [hvs, List.filterMap_map] at hmap
    simpa using hmap.symm
  simp only [gathered, hshares, hv, Option.map_some, foldl_add_eq]

end

/-- Trends are made distinct by keeping the first of each key, with the shares of all others of its key added
to its own and nothing else changed. Doing it again changes nothing. Exact shares that are all told add up to
those of the trends kept, and have the same total. -/
theorem distinct_gathers (ts : List (Trend α)) (exact : List (Trend Rat)) :
    distinct ts = (firsts ts).map (gathered ts) ∧
    ((distinct ts).map key).Nodup ∧
    distinct (distinct ts) = distinct ts ∧
    ∀ total, Tells (exact.map (·.probability)) total →
      (∀ t ∈ distinct exact, ∃ w, t.probability = some w ∧
        Tells ((exact.filter (·.key = t.key)).map (·.probability)) w) ∧
      Tells ((distinct exact).map (·.probability)) total :=
  ⟨distinct_eq ts, nodup_keys_distinct ts, distinct_of_nodup (nodup_keys_distinct ts),
    fun _ h => ⟨fun _ ht => tells_of_mem_distinct h ht, tells_distinct h⟩⟩

/-! Three regimes, the first and the last of which go the same way. -/
namespace Returning

def regime (cpu : Direction) (share : Rat) : Trend Rat :=
  { (default : Trend Rat) with
    cpu := { (default : MetricTrend Rat) with direction := cpu }
    probability := some share }

def regimes : List (Trend Rat) := [regime .up (1 / 2), regime .down (1 / 4), regime .up (1 / 4)]

end Returning

theorem distinct_gathers_returning :
    Tells (Returning.regimes.map (·.probability)) 1 ∧
      Tells ((distinct Returning.regimes).map (·.probability)) 1 ∧
      (distinct Returning.regimes).map (·.cpu.direction) = [.up, .down] := by
  have htold : Tells (Returning.regimes.map (·.probability)) 1 :=
    ⟨[1 / 2, 1 / 4, 1 / 4], rfl, by norm_num⟩
  obtain ⟨hfirsts, -, -, hgathers⟩ := distinct_gathers Returning.regimes Returning.regimes
  refine ⟨htold, (hgathers 1 htold).2, ?_⟩
  rw [hfirsts, List.map_map]
  rfl

end Trend

end FleetSizing
