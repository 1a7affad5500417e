import FleetSizing.Proofs.Json.Values

/-! Objects that are read, and written back with the fields that mean nothing to who reads them. -/
namespace FleetSizing.Json

variable {α β : Type} [Scalar α] {name : String} {fields : List (String × Json α)}

/-- What is written for a value that was read: the value itself, the same number, or the same name. -/
def SameValue (v w : Json α) : Prop :=
  w = v ∨ (∃ x, real? v = some x ∧ real? w = some x) ∨ ∃ s, name? v = some s ∧ w = .text s

theorem sameValue_text {v : Json α} {s : String} (h : text? v = some s) : SameValue v (.text s) := by
  cases v with
  | text t => exact .inl (congrArg Json.text (Option.some.inj h).symm)
  | _ => cases h

theorem sameValue_bool {v : Json α} {b : Bool} (h : bool? v = some b) : SameValue v (.bool b) := by
  cases v with
  | bool c => exact .inl (congrArg Json.bool (Option.some.inj h).symm)
  | _ => cases h

theorem sameValue_nat {v : Json α} {bits n : Nat} (h : nat? bits v = some n) :
    SameValue v (.int n) := by
  obtain ⟨m, hm, rfl⟩ := Option.map_eq_some_iff.mp h
  cases v with
  | int k =>
    rw [int?] at hm
    split at hm
    · rename_i hbounds
      obtain rfl := Option.some.inj hm
      exact .inl (congrArg Json.int (Int.toNat_of_nonneg hbounds.1))
    · cases hm
  | _ => cases hm

theorem sameValue_real {v : Json α} {x : α} (hv : IsValue v) (h : real? v = some x) :
    SameValue v (ofReal x) := by
  have hfinite : Scalar.isFinite x := by
    cases hv with
    | int hn => exact Option.some.inj h ▸ hn
    | real hx => exact Option.some.inj h ▸ hx
    | _ => cases h
  exact .inr (.inl ⟨x, h, real?_ofReal hfinite⟩)

theorem sameValue_texts {v : Json α} {xs : List String} (h : list? text? v = some xs) :
    SameValue v (ofTexts xs) := by
  cases v with
  | list js =>
    refine .inl (congrArg Json.list ?_)
    rw [list?] at h
    induction js generalizing xs with
    | nil =>
      obtain rfl := Option.some.inj h
      rfl
    | cons j js ih =>
      rw [List.mapM_cons] at h
      obtain ⟨s, hs, h⟩ := Option.bind_eq_some_iff.mp h
      obtain ⟨ss, hss, h⟩ := Option.bind_eq_some_iff.mp h
      obtain rfl := Option.some.inj h
      rw [List.map_cons, ih hss]
      cases j with
      | text t => rw [← Option.some.inj hs]
      | _ => cases hs
  | _ => cases h

theorem sameValue_oneOf {v : Json α} {values : List β} {nameOf : β → String} {x : β}
    (h : oneOf? values nameOf v = some x) : SameValue v (.text (nameOf x)) := by
  obtain ⟨s, hs, hfind⟩ := Option.bind_eq_some_iff.mp h
  have hname : nameOf x = s := by simpa using List.find?_some hfind
  exact .inr (.inr ⟨s, hs, congrArg Json.text hname⟩)

/-- What is written for an object that was read: each known field as read, or else its default, and every
other field as it was. -/
structure Kept (known : List String) (Agree : String → Json α → Json α → Prop)
    (defaults fields written : List (String × Json α)) : Prop where
  nodup : (written.map (·.1)).Nodup
  unknown : ∀ name, name ∉ known → lookup name written = lookup name fields
  read : ∀ name ∈ known, ∀ v, lookup name fields = some v →
    ∃ w, lookup name written = some w ∧ Agree name v w
  missing : ∀ name ∈ known, lookup name fields = none →
    ∃ w, lookup name written = some w ∧ lookup name defaults = some w

/-- How one known field is written. -/
def KeptField (Agree : String → Json α → Json α → Prop) (defaults fields : List (String × Json α))
    (f : String × Json α) : Prop :=
  (∀ v, lookup f.1 fields = some v → Agree f.1 v f.2) ∧
    (lookup f.1 fields = none → lookup f.1 defaults = some f.2)

variable {Agree : String → Json α → Json α → Prop} {defaults known additional : List (String × Json α)}
  {byPosition : Bool}

omit [Scalar α] in
theorem keptField_withDefault {d x : β} {dec : Json α → Option β} {w : Json α}
    (hx : Record.withDefault ⟨byPosition, fields⟩ name d dec = some x)
    (hread : ∀ v, lookup name fields = some v → dec v = some x → Agree name v w)
    (hdefault : x = d → lookup name defaults = some w) :
    KeptField Agree defaults fields (name, w) := by
  unfold Record.withDefault Record.get? at hx
  cases hlookup : lookup name fields with
  | none =>
    simp only [hlookup, Option.some.injEq] at hx
    exact ⟨fun v hv => by simp [hlookup] at hv, fun _ => hdefault hx.symm⟩
  | some j =>
    simp only [hlookup] at hx
    refine ⟨fun v hv => ?_, fun hnone => by simp [hlookup] at hnone⟩
    obtain rfl := Option.some.inj (hlookup.symm.trans hv)
    exact hread j hlookup hx

/-- Of a value in memory, the known fields followed by all others. -/
theorem kept_of_others? {names : List String} (hfields : IsValue (.object fields))
    (hnames : known.map (·.1) = names) (hnodup : names.Nodup)
    (hothers : Record.others? ⟨byPosition, fields⟩ names = some additional)
    (h : ∀ f ∈ known, KeptField Agree defaults fields f) :
    Kept names Agree defaults fields (known ++ additional) := by
  subst hnames
  rw [others?_eq _ (hfields.filter _), Option.some.injEq] at hothers
  subst hothers
  have hwritten : ∀ f ∈ known, ∀ others, lookup f.1 (known ++ others) = some f.2 :=
    fun f hf others => lookup_append_of_mem hnodup hf
  refine ⟨?_, fun name hname => ?_, ?_, ?_⟩
  · refine nodup_keys_append hnodup rfl (hfields.filter _) fun name hother hname => ?_
    obtain ⟨f, hf, rfl⟩ := List.mem_map.mp hother
    simp [hname] at hf
  · rw [lookup_append_of_notMem hname]
    exact lookup_filter (p := fun key => !(known.map (·.1)).contains key) (by simpa using hname)
  · rintro _ hname v hv
    obtain ⟨f, hf, rfl⟩ := List.mem_map.mp hname
    exact ⟨f.2, hwritten f hf _, (h f hf).1 v hv⟩
  · rintro _ hname hnone
    obtain ⟨f, hf, rfl⟩ := List.mem_map.mp hname
    exact ⟨f.2, hwritten f hf _, (h f hf).2 hnone⟩

end FleetSizing.Json
