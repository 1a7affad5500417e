import FleetSizing.Json.Value
import Mathlib.Algebra.Group.Nat.Defs
import Mathlib.Data.List.Nodup

/-! JSON values as they are held in memory, and reading what was written. -/
namespace FleetSizing.Json

variable {α β : Type} {name : String} {fields rest : List (String × Json α)} {j : Json α}

/-! Looking up fields. -/

@[simp] theorem lookup_nil : lookup name ([] : List (String × Json α)) = none := rfl

@[simp] theorem lookup_cons_self : lookup name ((name, j) :: fields) = some j := if_pos rfl

@[simp] theorem lookup_cons_of_ne {other : String} (h : other ≠ name) :
    lookup name ((other, j) :: fields) = lookup name fields := if_neg h

theorem lookup_append_of_notMem (h : name ∉ fields.map (·.1)) :
    lookup name (fields ++ rest) = lookup name rest := by
  induction fields with
  | nil => rfl
  | cons f fields ih =>
    rw [List.map_cons, List.mem_cons, not_or] at h
    rw [List.cons_append, lookup, if_neg (Ne.symm h.1), ih h.2]

@[simp] theorem lookup_append :
    lookup name (fields ++ rest) = (lookup name fields).or (lookup name rest) := by
  induction fields with
  | nil => rfl
  | cons f fields ih =>
    rw [List.cons_append, lookup, lookup, ih]
    split <;> rfl

@[simp] theorem lookup_given (key : String) (f : β → Json α) (o : Option β) :
    lookup name (given key f o) = if key = name then o.map f else none := by
  cases o with
  | none => simp [given]
  | some x => rfl

theorem lookup_append_of_mem (hnodup : (fields.map (·.1)).Nodup) (h : (name, j) ∈ fields) :
    lookup name (fields ++ rest) = some j := by
  induction fields with
  | nil => cases h
  | cons f fields ih =>
    rw [List.map_cons, List.nodup_cons] at hnodup
    rw [List.cons_append, lookup]
    rcases List.mem_cons.mp h with rfl | h
    · rw [if_pos rfl]
    · have hname : f.1 ≠ name := fun heq => hnodup.1 (heq ▸ List.mem_map_of_mem (f := (·.1)) h)
      rw [if_neg hname, ih hnodup.2 h]

theorem lookup_filter {p : String → Bool} (h : p name) :
    lookup name (fields.filter fun f => p f.1) = lookup name fields := by
  induction fields with
  | nil => rfl
  | cons f fields ih =>
    rw [List.filter_cons, lookup]
    by_cases hname : f.1 = name
    · rw [if_pos hname, if_pos (hname ▸ h), lookup, if_pos hname]
    · rw [if_neg hname]
      split
      · rw [lookup, if_neg hname, ih]
      · exact ih

theorem mem_of_lookup (h : lookup name fields = some j) : (name, j) ∈ fields := by
  induction fields with
  | nil => cases h
  | cons f fields ih =>
    rw [lookup] at h
    split at h
    · rename_i hname
      rw [← hname, ← Option.some.inj h]
      exact List.mem_cons_self
    · exact List.mem_cons_of_mem _ (ih h)

theorem named?_of_nodup (h : (fields.map (·.1)).Nodup) (names : List String) :
    named? names (.object fields) = some ⟨false, fields⟩ := by
  have hoccurrences : ∀ name, occurrences name fields ≤ 1 := by
    intro name
    have hcount := List.nodup_iff_count_le_one.mp h name
    rwa [List.count, List.countP_map] at hcount
  rw [named?, if_pos]
  exact List.all_eq_true.mpr fun name _ => by simpa using hoccurrences name

theorem assign_of_notMem (h : name ∉ fields.map (·.1)) :
    assign name j fields = fields ++ [(name, j)] := by
  induction fields with
  | nil => rfl
  | cons f fields ih =>
    rw [List.map_cons, List.mem_cons, not_or] at h
    rw [assign, if_neg (Ne.symm h.1), ih h.2, List.cons_append]

/-- Fields that are all different are assigned as they are. -/
theorem foldl_assign (h : ((rest ++ fields).map (·.1)).Nodup) :
    fields.foldl (fun acc f => assign f.1 f.2 acc) rest = rest ++ fields := by
  induction fields generalizing rest with
  | nil => simp
  | cons f fields ih =>
    have hnew : f.1 ∉ rest.map (·.1) := by
      rw [List.map_append, List.map_cons, List.nodup_append] at h
      exact fun hmem => h.2.2 _ hmem _ List.mem_cons_self rfl
    rw [List.foldl_cons, assign_of_notMem hnew, ih (by simpa using h), List.append_assoc,
      List.singleton_append]

section

variable [Scalar α]

/-- A value held in memory: numbers are finite, and no key occurs twice in an object. -/
inductive IsValue : Json α → Prop where
  | null : IsValue .null
  | bool (b : Bool) : IsValue (.bool b)
  | int {n : Int} (h : Scalar.isFinite (n : α)) : IsValue (.int n)
  | real {x : α} (h : Scalar.isFinite x) : IsValue (.real x)
  | text (s : String) : IsValue (.text s)
  | list {xs : List (Json α)} (h : ∀ j ∈ xs, IsValue j) : IsValue (.list xs)
  | object {fields : List (String × Json α)} (hkeys : (fields.map (·.1)).Nodup)
      (h : ∀ f ∈ fields, IsValue f.2) : IsValue (.object fields)

omit [Scalar α] in
theorem canonicalList?_eq {xs : List (Json α)} (h : ∀ j ∈ xs, canonical? j = some j) :
    canonicalList? xs = some xs := by
  induction xs with
  | nil => rfl
  | cons j xs ih =>
    simp [canonicalList?, h j List.mem_cons_self, ih fun j hj => h j (List.mem_cons_of_mem _ hj)]

omit [Scalar α] in
theorem canonicalFields?_eq (h : ∀ f ∈ fields, canonical? f.2 = some f.2) :
    canonicalFields? fields = some fields := by
  induction fields with
  | nil => rfl
  | cons f fields ih =>
    simp [canonicalFields?, h f List.mem_cons_self, ih fun f hf => h f (List.mem_cons_of_mem _ hf)]

theorem IsValue.canonical?_eq (h : IsValue j) : canonical? j = some j := by
  induction h with
  | list _ ih => rw [canonical?, canonicalList?_eq ih, Option.map_some]
  | object hkeys _ ih =>
    rw [canonical?, canonicalFields?_eq ih, Option.map_some]
    exact congrArg (some ∘ Json.object) (foldl_assign hkeys)
  | _ => rw [canonical?] <;> simp

theorem isValue_object_iff : IsValue (.object fields) ↔
    (fields.map (·.1)).Nodup ∧ ∀ f ∈ fields, IsValue f.2 :=
  ⟨fun | .object hkeys h => ⟨hkeys, h⟩, fun h => .object h.1 h.2⟩

theorem isValue_ofReal {x : α} (h : Scalar.isFinite x) : IsValue (ofReal x) := by
  rw [ofReal, if_pos h]
  exact .real h

theorem isValue_ofList {f : β → Json α} {xs : List β} (h : ∀ x ∈ xs, IsValue (f x)) :
    IsValue (ofList f xs) :=
  .list (List.forall_mem_map.mpr h)

theorem IsValue.filter (h : IsValue (.object fields)) (p : String × Json α → Bool) :
    IsValue (.object (fields.filter p)) := by
  obtain ⟨hkeys, hvalues⟩ := isValue_object_iff.mp h
  exact .object (hkeys.sublist (List.filter_sublist.map _))
    fun f hf => hvalues f (List.mem_of_mem_filter hf)

/-- Other fields are kept as they are if they are values in memory. -/
theorem others?_eq (byPosition : Bool) {names : List String}
    (h : IsValue (.object (fields.filter fun f => !names.contains f.1))) :
    Record.others? ⟨byPosition, fields⟩ names =
      some (fields.filter fun f => !names.contains f.1) := by
  obtain ⟨hkeys, hvalues⟩ := isValue_object_iff.mp h
  unfold Record.others?
  rw [canonicalFields?_eq fun f hf => (hvalues f hf).canonical?_eq]
  exact congrArg some (foldl_assign hkeys)

theorem nodup_keys_append {names : List String} (hnames : names.Nodup)
    (hfields : fields.map (·.1) = names) (hrest : IsValue (.object rest))
    (hunknown : ∀ name ∈ rest.map (·.1), name ∉ names) : ((fields ++ rest).map (·.1)).Nodup := by
  rw [List.map_append, hfields, List.nodup_append]
  refine ⟨hnames, (isValue_object_iff.mp hrest).1, ?_⟩
  rintro _ hname _ hmem rfl
  exact hunknown _ hmem hname

theorem others?_append {byPosition : Bool} {names : List String} (hfields : ∀ f ∈ fields, f.1 ∈ names)
    (hrest : IsValue (.object rest)) (hunknown : ∀ name ∈ rest.map (·.1), name ∉ names) :
    Record.others? ⟨byPosition, fields ++ rest⟩ names = some rest := by
  have hfilter : ((fields ++ rest).filter fun f => !names.contains f.1) = rest := by
    rw [List.filter_append, List.filter_eq_nil_iff.mpr, List.filter_eq_self.mpr, List.nil_append]
    · intro f hf
      simpa using hunknown f.1 (List.mem_map_of_mem hf)
    · intro f hf
      simpa using hfields f hf
  have hothers := others?_eq byPosition (hfilter ▸ hrest)
  rwa [hfilter] at hothers

/-! Reading what was written. A step of a reader is taken as it stands in its `do` block: to see it as a bind
of options, a long block would be gone through once more for each of its steps. -/

omit [Scalar α] in
theorem some_then {γ : Type} (x : β) (next : β → Option γ) : (some x >>= next) = next x := rfl

omit [Scalar α] in
theorem then_eq_some_iff {γ : Type} {o : Option β} {next : β → Option γ} {y : γ} :
    (o >>= next) = some y ↔ ∃ x, o = some x ∧ next x = some y :=
  Option.bind_eq_some_iff

omit [Scalar α] in
theorem list?_ofList {f : β → Json α} {dec : Json α → Option β} {xs : List β}
    (h : ∀ x ∈ xs, dec (f x) = some x) : list? dec (ofList f xs) = some xs := by
  rw [ofList, list?]
  induction xs with
  | nil => rfl
  | cons x xs ih =>
    rw [List.map_cons, List.mapM_cons, h x List.mem_cons_self,
      ih fun x hx => h x (List.mem_cons_of_mem _ hx)]
    rfl

omit [Scalar α] in
@[simp] theorem list?_ofTexts (xs : List String) : list? text? (ofTexts (α := α) xs) = some xs :=
  list?_ofList fun _ _ => rfl

theorem real?_ofReal {x : α} (h : Scalar.isFinite x) : real? (ofReal x) = some x := by
  rw [ofReal, if_pos h, real?]

omit [Scalar α] in
theorem nat?_int {bits n : Nat} (h : n < 2 ^ bits) : nat? bits (.int n : Json α) = some n := by
  have hbound : (n : Int) ≤ pow2 bits - 1 := by
    have hpow : pow2 bits = 2 ^ bits := rfl
    omega
  rw [nat?, int?, if_pos ⟨Int.natCast_nonneg n, hbound⟩]
  rfl

section

omit [Scalar α]

variable {f : β → Json α} {dec : Json α → Option β} {o : Option β} (hnull : dec .null = none)
  (h : ∀ x, o = some x → dec (f x) = some x)

include hnull

theorem optional?_of_some {x : β} (h : dec j = some x) : optional? dec j = some (some x) := by
  cases j with
  | null => simp [hnull] at h
  | _ => exact congrArg (Option.map some) h

include h

/-- A field that is left out where there is no value. -/
theorem optional_given (hfield : lookup name fields = o.map f) :
    Record.optional ⟨false, fields⟩ name dec = some o := by
  unfold Record.optional Record.get?
  rw [hfield]
  cases o with
  | none => rfl
  | some x => exact optional?_of_some hnull (h x rfl)

/-- A field that is null where there is no value. -/
theorem optional_ofOption (hfield : lookup name fields = some (ofOption f o)) :
    Record.optional ⟨false, fields⟩ name dec = some o := by
  unfold Record.optional Record.get?
  rw [hfield]
  cases o with
  | none => rfl
  | some x => exact optional?_of_some hnull (h x rfl)

end

end

end FleetSizing.Json
