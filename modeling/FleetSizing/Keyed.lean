/-! Values under keys that they carry; a later value replaces the earlier one with its key. -/
namespace FleetSizing

/-- Values with pairwise different keys, in the order in which the keys first came. -/
structure Keyed {κ β : Type} (key : β → κ) where
  values : List β
  nodup : (values.map key).Nodup

namespace Keyed

variable {κ β : Type} [DecidableEq κ] {key : β → κ}

/-- Puts a value in the place of the one with its key, or at the end. -/
def put (key : β → κ) (x : β) : List β → List β
  | [] => [x]
  | y :: ys => if key y = key x then x :: ys else y :: put key x ys

theorem map_key_put (x : β) (ys : List β) :
    (put key x ys).map key =
      if key x ∈ ys.map key then ys.map key else ys.map key ++ [key x] := by
  induction ys with
  | nil => simp [put]
  | cons y ys ih =>
    by_cases h : key y = key x
    · simp [put, h]
    · have h' : ¬ key x = key y := fun e => h e.symm
      by_cases hm : key x ∈ ys.map key
      · rw [if_pos hm] at ih
        simp [put, h, h', ih, List.mem_cons, hm]
      · rw [if_neg hm] at ih
        simp [put, h, h', ih, List.mem_cons, hm]

theorem nodup_put {x : β} {ys : List β} (h : (ys.map key).Nodup) :
    ((put key x ys).map key).Nodup := by
  rw [map_key_put]
  split
  · exact h
  · rename_i hm
    rw [List.nodup_append]
    exact ⟨h, by simp, by rintro a ha b hb rfl; simp at hb; exact hm (hb ▸ ha)⟩

theorem find?_put (x : β) (ys : List β) (k : κ) :
    (put key x ys).find? (key · = k) = if key x = k then some x else ys.find? (key · = k) := by
  induction ys with
  | nil => by_cases h : key x = k <;> simp [put, h]
  | cons y ys ih =>
    by_cases h : key y = key x
    · by_cases hk : key x = k <;> simp [put, h, hk]
    · by_cases hy : key y = k
      · have hk : ¬ key x = k := fun e => h (hy.trans e.symm)
        rw [put, if_neg h, if_neg hk]
        simp [hy]
      · simp [put, h, hy, ih]

def empty : Keyed key := ⟨[], by simp⟩

def insert (s : Keyed key) (x : β) : Keyed key := ⟨put key x s.values, nodup_put s.nodup⟩

def ofList (xs : List β) : Keyed key := xs.foldl insert empty

def size (s : Keyed key) : Nat := s.values.length

def get? (s : Keyed key) (k : κ) : Option β := s.values.find? (key · = k)

theorem get?_eq_some_iff {s : Keyed key} {k : κ} {x : β} :
    s.get? k = some x ↔ x ∈ s.values ∧ key x = k := by
  obtain ⟨values, hnodup⟩ := s
  unfold get?
  induction values with
  | nil => simp
  | cons y ys ih =>
    rw [List.map_cons, List.nodup_cons] at hnodup
    by_cases hy : key y = k
    · have hlone : x ∈ ys → key x ≠ k := fun hx hk =>
        hnodup.1 (hy ▸ hk ▸ List.mem_map_of_mem hx)
      simp only [List.find?_cons, hy, decide_true, Option.some.injEq, List.mem_cons]
      constructor
      · rintro rfl
        exact ⟨Or.inl rfl, hy⟩
      · rintro ⟨rfl | hx, hk⟩
        · rfl
        · exact (hlone hx hk).elim
    · have hne : x = y → key x ≠ k := by
        rintro rfl
        exact hy
      simp only [List.find?_cons, hy, decide_false, ih hnodup.2, List.mem_cons]
      constructor
      · exact fun h => ⟨Or.inr h.1, h.2⟩
      · rintro ⟨rfl | hx, hk⟩
        · exact (hy hk).elim
        · exact ⟨hx, hk⟩

/-- What stands under the keys, in their order, is all there is. -/
theorem ext_of_keys {s t : Keyed key} (hkeys : s.values.map key = t.values.map key)
    (hget : ∀ k, s.get? k = t.get? k) : s = t := by
  have hfound : ∀ u : Keyed key, (u.values.map key).map u.get? = u.values.map some := by
    intro u
    rw [List.map_map]
    exact List.map_congr_left fun x hx => get?_eq_some_iff.mpr ⟨hx, rfl⟩
  have heq : s.values = t.values := by
    rw [← List.map_inj_right fun x y => Option.some.inj, ← hfound s, hkeys, funext hget, hfound t]
  cases s
  cases t
  cases heq
  rfl

theorem get?_insert (s : Keyed key) (x : β) (k : κ) :
    (s.insert x).get? k = if key x = k then some x else s.get? k := find?_put x s.values k

end Keyed

end FleetSizing
