import FleetSizing.Postponement
import FleetSizing.Proofs.Text.Spelled
import Mathlib.Data.List.Sublists
import Mathlib.Logic.Relation

/-! What a list of kinds in a tag asks for. Only the set of the kinds that it names counts, unless it has an
item that is neither blank nor a kind. -/
namespace FleetSizing

namespace Blank

variable {c : Char} {s t : String} {cs : List Char}

/-- There is nothing but blanks. -/
def Only (s : String) : Prop := ∀ c ∈ s.toList, isBlank c

theorem isBlank_toLower : isBlank c.toLower = isBlank c := by
  by_cases hupper : 65 ≤ c.toNat ∧ c.toNat ≤ 90
  · have hletters : ∀ n ∈ List.range' 65 26, isBlank (Char.ofNat n).toLower = isBlank (Char.ofNat n) := by
      decide
    have hletter := hletters c.toNat (List.mem_range'_1.mpr (by omega))
    rwa [Char.ofNat_toNat] at hletter
  · have hsame : c.toLower = c := dif_neg fun h => hupper (by simpa [UInt32.le_iff_toNat_le] using h)
    rw [hsame]

theorem skip_map_toLower : skip (cs.map Char.toLower) = (skip cs).map Char.toLower := by
  have hblank : isBlank ∘ Char.toLower = isBlank := funext fun _ => isBlank_toLower
  rw [skip, List.dropWhile_map, hblank]
  rfl

/-- Trimming does not look at the case of letters. -/
theorem map_toLower_trim (h : s.toList.map Char.toLower = t.toList.map Char.toLower) :
    (trim s).toList.map Char.toLower = (trim t).toList.map Char.toLower := by
  simp only [trim, String.toList_ofList, List.map_reverse, ← skip_map_toLower, h]

end Blank

/-- An item is the name of a kind, in any ASCII case and between blanks. -/
def Kind.Named (k : Kind) (item : String) : Prop :=
  (Blank.trim item).toList.map Char.toLower = k.name.toList

theorem Kind.parse?_eq_some_iff {k : Kind} {item : String} : Kind.parse? item = some k ↔ k.Named item := by
  have hparse : Kind.parse? item =
      Kind.all.find? (·.name.toList == (Blank.trim item).toList.map Char.toLower) := rfl
  rw [hparse, Kind.Named]
  generalize (Blank.trim item).toList.map Char.toLower = name
  constructor
  · intro h
    have hname := List.find?_some h
    exact (eq_of_beq hname).symm
  · rintro rfl
    cases k <;> decide

theorem Kind.named_congr {k : Kind} {i j : String}
    (h : (Blank.trim i).toList.map Char.toLower = (Blank.trim j).toList.map Char.toLower) :
    k.Named i ↔ k.Named j := by
  unfold Kind.Named
  rw [h]

/-- Items between commas. -/
def parts (list : String) : List String := (list.toList.splitOn ',').map String.ofList

/-- Characters are gathered until a comma, which begins the next item. -/
theorem foldl_commas (cs : List Char) (done : List (List Char)) (current : List Char) :
    let split := cs.foldl (fun (acc : List (List Char) × List Char) c =>
      if c == ',' then (acc.2.reverse :: acc.1, []) else (acc.1, c :: acc.2)) (done, current)
    (split.2.reverse :: split.1).reverse =
      done.reverse ++ (cs.splitOn ',').modifyHead (current.reverse ++ ·) := by
  induction cs generalizing done current with
  | nil => simp
  | cons c cs ih =>
    rw [List.foldl_cons, List.splitOn_cons_eq_if_modifyHead]
    by_cases hcomma : c == ','
    · simp only [if_pos hcomma]
      rw [ih]
      obtain ⟨item, items, hitems⟩ := List.exists_cons_of_ne_nil (List.splitOn_ne_nil ',' cs)
      simp [hitems]
    · simp only [if_neg hcomma]
      rw [ih, List.modifyHead_modifyHead]
      obtain ⟨item, items, hitems⟩ := List.exists_cons_of_ne_nil (List.splitOn_ne_nil ',' cs)
      simp [hitems]

theorem splitCommas_eq_parts (list : String) : splitCommas list = parts list := by
  have hsplit := foldl_commas list.toList [] []
  obtain ⟨item, items, hitems⟩ := List.exists_cons_of_ne_nil (List.splitOn_ne_nil ',' list.toList)
  rw [hitems] at hsplit
  rw [parts, hitems]
  exact congrArg (List.map String.ofList) hsplit

namespace Postponement

variable {item other : String} {items xs ys : List String} {k : Kind}

/-- An item is neither blank nor a kind. -/
def Unknown (item : String) : Prop := ¬ Blank.Only item ∧ ∀ k : Kind, ¬ k.Named item

theorem parse?_of_only (h : Blank.Only item) : Kind.parse? item = none := by
  rw [Option.eq_none_iff_forall_ne_some]
  intro k hk
  have hname := Kind.parse?_eq_some_iff.mp hk
  rw [Kind.Named, String.isEmpty_iff.mp (Blank.trim_isEmpty_iff.mpr h)] at hname
  cases k <;> exact absurd hname (by decide)

theorem unknown_iff : Unknown item ↔ ¬ (Blank.trim item).isEmpty ∧ Kind.parse? item = none := by
  rw [Unknown, Blank.Only, Blank.trim_isEmpty_iff, Option.eq_none_iff_forall_ne_some]
  simp only [ne_eq, Kind.parse?_eq_some_iff]

instance : DecidablePred Unknown := fun _ => decidable_of_iff _ unknown_iff.symm

/-- The kinds that items name, in the order of declaration. -/
def known (items : List String) : List Kind :=
  Kind.all.filter ((items.filterMap Kind.parse?).contains ·)

theorem mem_known : k ∈ known items ↔ ∃ item ∈ items, k.Named item := by
  simp only [known, List.mem_filter, Kind.mem_all, true_and, List.contains_iff_mem, List.mem_filterMap,
    Kind.parse?_eq_some_iff]

theorem known_sublist (items : List String) : (known items).Sublist Kind.all := List.filter_sublist

/-- Kinds in the order of declaration are told apart by their members. -/
theorem eq_of_sublist_all {kinds others : List Kind} (hkinds : kinds.Sublist Kind.all)
    (hothers : others.Sublist Kind.all) (hmem : ∀ k, k ∈ kinds ↔ k ∈ others) : kinds = others := by
  have hfilter : ∀ ks ∈ Kind.all.sublists, Kind.all.filter (· ∈ ks) = ks := by decide
  rw [← hfilter kinds (List.mem_sublists.mpr hkinds), ← hfilter others (List.mem_sublists.mpr hothers)]
  simp only [hmem]

/-- The kinds that items name; fails at the first item that is unknown. -/
def kindsNamed (items : List String) : Except PostponementFault (List Kind) :=
  match items.find? (Unknown ·) with
  | some item => .error (.unknownKind (Blank.trim item))
  | none => .ok (known items)

/-- Reading stops at the first item that is unknown. -/
theorem mapM_parse? {f : String → Except PostponementFault Kind}
    (hnone : ∀ item, Kind.parse? item = none → f item = .error (.unknownKind (Blank.trim item)))
    (hsome : ∀ item k, Kind.parse? item = some k → f item = .ok k) (items : List String) :
    (items.filter fun item => !(Blank.trim item).isEmpty).mapM f =
      match items.find? (Unknown ·) with
      | some item => .error (.unknownKind (Blank.trim item))
      | none => .ok (items.filterMap Kind.parse?) := by
  induction items with
  | nil => rfl
  | cons item items ih =>
    by_cases hblank : (Blank.trim item).isEmpty
    · have hknown : ¬ Unknown item := fun h => (unknown_iff.mp h).1 hblank
      have hparse := parse?_of_only (Blank.trim_isEmpty_iff.mp hblank)
      rw [List.filter_cons_of_neg (by simpa using hblank), ih, List.find?_cons_of_neg (by simpa using hknown),
        List.filterMap_cons_none hparse]
    · rw [List.filter_cons_of_pos (by simpa using hblank), List.mapM_cons, ih]
      cases hparse : Kind.parse? item with
      | none =>
        have hunknown : Unknown item := unknown_iff.mpr ⟨hblank, hparse⟩
        rw [List.find?_cons_of_pos (by simpa using hunknown), hnone item hparse]
        rfl
      | some k =>
        have hknown : ¬ Unknown item := fun h => by simp [(unknown_iff.mp h).2] at hparse
        rw [List.find?_cons_of_neg (by simpa using hknown), List.filterMap_cons_some hparse,
          hsome item k hparse]
        cases items.find? (Unknown ·) <;> rfl

theorem namedKinds_eq (list : String) : namedKinds list = kindsNamed (parts list) := by
  simp only [namedKinds, kindsNamed, known, splitCommas_eq_parts]
  rw [mapM_parse?]
  · cases (parts list).find? (Unknown ·) <;> rfl
  · intro item h
    simp only [h]
  · intro item k h
    simp only [h]

/-- The order, number and spelling of items do not matter as long as they name the same kinds and the first
unknown one, if there is one, is the same but for the blanks around it. -/
theorem kindsNamed_congr
    (hunknown : (xs.find? (Unknown ·)).map Blank.trim = (ys.find? (Unknown ·)).map Blank.trim)
    (hnamed : ∀ k : Kind, (∃ item ∈ xs, k.Named item) ↔ ∃ item ∈ ys, k.Named item) :
    kindsNamed xs = kindsNamed ys := by
  have hkinds : known xs = known ys :=
    eq_of_sublist_all (known_sublist xs) (known_sublist ys) fun k => by rw [mem_known, mem_known, hnamed k]
  unfold kindsNamed
  cases hx : xs.find? (Unknown ·) <;> cases hy : ys.find? (Unknown ·) <;> simp_all

/-- Steps by which items are written in another way. -/
inductive Rewords : List String → List String → Prop where
  /-- An item that names a kind changes places with its neighbour. -/
  | swap {k : Kind} {i : String} (before after : List String) (j : String) :
      k.Named i → Rewords (before ++ i :: j :: after) (before ++ j :: i :: after)
  /-- An item that names a kind is repeated. -/
  | again {k : Kind} {i : String} (before after : List String) :
      k.Named i → Rewords (before ++ i :: after) (before ++ i :: i :: after)
  /-- Blanks are put around an item. -/
  | pad {left right : List Char} (before after : List String) (i : String) :
      (∀ c ∈ left, Blank.isBlank c) → (∀ c ∈ right, Blank.isBlank c) →
      Rewords (before ++ i :: after) (before ++ String.ofList (left ++ i.toList ++ right) :: after)
  /-- Letters of an item that names a kind change their ASCII case. -/
  | recase {k : Kind} {i j : String} (before after : List String) :
      k.Named i → i.toList.map Char.toLower = j.toList.map Char.toLower →
      Rewords (before ++ i :: after) (before ++ j :: after)
  /-- A blank item is added. -/
  | blank {i : String} (before after : List String) :
      Blank.Only i → Rewords (before ++ after) (before ++ i :: after)

section

variable {before after : List String} {i j : String}

theorem not_unknown_of_named (h : k.Named i) : ¬ Unknown i := fun hunknown => hunknown.2 k h

theorem not_named_of_only (h : Blank.Only i) : ¬ k.Named i := by
  intro hnamed
  have hparse := Kind.parse?_eq_some_iff.mpr hnamed
  rw [parse?_of_only h] at hparse
  cases hparse

theorem kindsNamed_replace (hunknown : Unknown i ↔ Unknown j)
    (htrim : Unknown i → Blank.trim i = Blank.trim j) (hnamed : ∀ k : Kind, k.Named i ↔ k.Named j) :
    kindsNamed (before ++ i :: after) = kindsNamed (before ++ j :: after) := by
  refine kindsNamed_congr ?_ fun k => ?_
  · rw [List.find?_append, List.find?_append, Option.map_or, Option.map_or]
    by_cases h : Unknown i
    · rw [List.find?_cons_of_pos (by simpa using h), List.find?_cons_of_pos (by simpa using hunknown.mp h),
        Option.map_some, Option.map_some, htrim h]
    · have h' : ¬ Unknown j := fun hj => h (hunknown.mpr hj)
      rw [List.find?_cons_of_neg (by simpa using h), List.find?_cons_of_neg (by simpa using h')]
  · simp only [List.mem_append, List.mem_cons, or_and_right, exists_or, exists_eq_left, hnamed]

theorem kindsNamed_insert (hknown : ¬ Unknown i)
    (hnamed : ∀ k : Kind, k.Named i → ∃ item ∈ before ++ after, k.Named item) :
    kindsNamed (before ++ after) = kindsNamed (before ++ i :: after) := by
  refine kindsNamed_congr ?_ fun k => ?_
  · rw [List.find?_append, List.find?_append, List.find?_cons_of_neg (by simpa using hknown)]
  · constructor
    · rintro ⟨item, hitem, hk⟩
      rw [List.mem_append] at hitem
      exact ⟨item, List.mem_append.mpr (hitem.imp_right (List.mem_cons_of_mem i)), hk⟩
    · rintro ⟨item, hitem, hk⟩
      rcases List.mem_append.mp hitem with hbefore | hafter
      · exact ⟨item, List.mem_append_left _ hbefore, hk⟩
      · rcases List.mem_cons.mp hafter with rfl | hafter
        · exact hnamed k hk
        · exact ⟨item, List.mem_append_right _ hafter, hk⟩

theorem kindsNamed_swap (hknown : ¬ Unknown i) :
    kindsNamed (before ++ i :: j :: after) = kindsNamed (before ++ j :: i :: after) := by
  refine kindsNamed_congr ?_ fun k => ?_
  · by_cases h : Unknown j <;> simp [List.find?_append, hknown, h]
  · simp only [List.mem_append, List.mem_cons, or_left_comm (a := _ = i)]

theorem kindsNamed_of_rewords (h : Rewords xs ys) : kindsNamed xs = kindsNamed ys := by
  cases h with
  | swap before after j hi => exact kindsNamed_swap (not_unknown_of_named hi)
  | again before after hi =>
    refine kindsNamed_insert (not_unknown_of_named hi) fun k hk => ?_
    exact ⟨_, List.mem_append_right _ List.mem_cons_self, hk⟩
  | pad before after i hleft hright =>
    have htrim := Blank.trim_append (s := i) hleft hright
    refine kindsNamed_replace ?_ (fun _ => htrim.symm) fun k => Kind.named_congr (by rw [htrim])
    rw [unknown_iff, unknown_iff, Kind.parse?, Kind.parse?, htrim]
  | @recase k i j before after hi hij =>
    have hsame : ∀ k : Kind, k.Named i ↔ k.Named j := fun _ =>
      Kind.named_congr (Blank.map_toLower_trim hij)
    have hi' : ¬ Unknown i := not_unknown_of_named hi
    have hj' : ¬ Unknown j := not_unknown_of_named ((hsame k).mp hi)
    exact kindsNamed_replace (iff_of_false hi' hj') (fun h => (hi' h).elim) hsame
  | blank before after hi =>
    exact kindsNamed_insert (fun h => h.1 hi) fun k hk => (not_named_of_only hi hk).elim

theorem kindsNamed_of_eqvGen (h : Relation.EqvGen Rewords xs ys) : kindsNamed xs = kindsNamed ys := by
  induction h with
  | rel xs ys h => exact kindsNamed_of_rewords h
  | refl => rfl
  | symm xs ys _ ih => exact ih.symm
  | trans xs ys zs _ _ hxy hyz => exact hxy.trans hyz

end

end Postponement

end FleetSizing
