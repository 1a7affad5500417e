import FleetSizing.Job
import FleetSizing.Proofs.Calendar.Epoch
import FleetSizing.Proofs.History.Writes
import FleetSizing.Proofs.Postponement.Kinds

/-! What the tags of a resource come to at an instant, and how a resource ends that has every kind
postponed. -/
namespace FleetSizing

namespace Postponement

variable {tags : Tags} {now t : Instant} {s : Int} {text list item : String}
  {before after items : List String}

/-- The deadline in the tags is a 64-bit number of seconds. -/
def Counts (tags : Tags) (s : Int) : Prop :=
  ∃ text, tags.lookup deadlineTag = some text ∧ Spells (Blank.trim text).toList s ∧
    -9223372036854775808 ≤ s ∧ s < 9223372036854775808

/-- The deadline in the tags is an instant, at the start of a second. -/
def Until (tags : Tags) (t : Instant) : Prop :=
  Counts tags t.seconds ∧ t.time.nano = 0 ∧ t.day.inRange

/-- What tags come to at an instant. The kinds do not matter unless the deadline is ahead. -/
inductive Declared (tags : Tags) (now : Instant) : Except PostponementFault (Option Postponement) → Prop where
  | undated : tags.lookup deadlineTag = none → Declared tags now (.ok none)
  | notSeconds {text : String} : tags.lookup deadlineTag = some text → (∀ s, ¬ Counts tags s) →
      Declared tags now (.error (.notSeconds text))
  | outOfRange {s : Int} : Counts tags s → (∀ t : Instant, t.seconds = s → ¬ t.day.inRange) →
      Declared tags now (.error (.outOfRange s))
  | past {t : Instant} : Until tags t → t.seconds ≤ now.seconds → Declared tags now (.ok none)
  | everyKind {t : Instant} : Until tags t → now.seconds < t.seconds → tags.lookup kindsTag = none →
      Declared tags now (.ok (some ⟨t, Kind.all⟩))
  | unknownKind {t : Instant} {list item : String} {before after : List String} :
      Until tags t → now.seconds < t.seconds → tags.lookup kindsTag = some list →
      parts list = before ++ item :: after → (∀ i ∈ before, ¬ Unknown i) → Unknown item →
      Declared tags now (.error (.unknownKind (Blank.trim item)))
  | noKinds {t : Instant} {list : String} :
      Until tags t → now.seconds < t.seconds → tags.lookup kindsTag = some list →
      (∀ i ∈ parts list, Blank.Only i) → Declared tags now (.ok none)
  | someKinds {t : Instant} {list : String} {kinds : List Kind} :
      Until tags t → now.seconds < t.seconds → tags.lookup kindsTag = some list →
      (∀ i ∈ parts list, ¬ Unknown i) → (∃ i ∈ parts list, ¬ Blank.Only i) →
      kinds.Sublist Kind.all → (∀ k, k ∈ kinds ↔ ∃ i ∈ parts list, k.Named i) →
      Declared tags now (.ok (some ⟨t, kinds⟩))

/-! Each tag on its own. -/

theorem parseInt64?_trim_eq_some_iff (h : tags.lookup deadlineTag = some text) :
    parseInt64? (Blank.trim text) = some s ↔ Counts tags s := by
  rw [parseInt64?_eq_some_iff, Counts, h]
  simp only [Option.some.injEq, exists_eq_left']

theorem ofSeconds?_eq_some_iff_until (h : Counts tags s) :
    Instant.ofSeconds? s = some t ↔ Until tags t ∧ t.seconds = s := by
  rw [Instant.ofSeconds?_eq_some_iff, Until]
  constructor
  · rintro ⟨hrange, rfl, hnano⟩
    exact ⟨⟨h, hnano, hrange⟩, rfl⟩
  · rintro ⟨⟨-, hnano, hrange⟩, rfl⟩
    exact ⟨hrange, rfl, hnano⟩

theorem ofTags_of_counts (h : Counts tags s) : ofTags tags now =
    match Instant.ofSeconds? s with
    | none => .error (.outOfRange s)
    | some deadline =>
      if deadline.le now then .ok none
      else (kindsOf tags).map fun kinds => if kinds.isEmpty then none else some ⟨deadline, kinds⟩ := by
  obtain ⟨text, htext, -⟩ := id h
  simp only [ofTags, htext, (parseInt64?_trim_eq_some_iff htext).mpr h]
  rfl

theorem ofTags_of_until (h : Until tags t) : ofTags tags now =
    if t.seconds ≤ now.seconds then .ok none
    else (kindsOf tags).map fun kinds => if kinds.isEmpty then none else some ⟨t, kinds⟩ := by
  rw [ofTags_of_counts h.1, (ofSeconds?_eq_some_iff_until h.1).mpr ⟨h, rfl⟩]
  simp only [Instant.le_iff_of_nano h.2.1]

theorem kindsOf_of_list (h : tags.lookup kindsTag = some list) : kindsOf tags = kindsNamed (parts list) := by
  rw [kindsOf, h, ← namedKinds_eq]

theorem kindsNamed_of_unknown (hbefore : ∀ i ∈ before, ¬ Unknown i) (hitem : Unknown item) :
    kindsNamed (before ++ item :: after) = .error (.unknownKind (Blank.trim item)) := by
  have hfirst : (before ++ item :: after).find? (Unknown ·) = some item := by
    rw [List.find?_append, List.find?_eq_none.mpr fun i hi => by simpa using hbefore i hi,
      List.find?_cons_of_pos (by simpa using hitem)]
    rfl
  rw [kindsNamed, hfirst]

theorem kindsNamed_of_known (h : ∀ i ∈ items, ¬ Unknown i) :
    kindsNamed items = .ok (known items) := by
  rw [kindsNamed, List.find?_eq_none.mpr fun i hi => by simpa using h i hi]

/-! The cases are those of the code, and there is no other. -/

variable {res : Except PostponementFault (Option Postponement)}

theorem ofTags_of_declared (h : Declared tags now res) : ofTags tags now = res := by
  cases h with
  | undated h => simp only [ofTags, h]
  | @notSeconds text htext hnone =>
    have hparse : parseInt64? (Blank.trim text) = none :=
      Option.eq_none_iff_forall_ne_some.mpr fun s hs => hnone s ((parseInt64?_trim_eq_some_iff htext).mp hs)
    simp only [ofTags, htext, hparse]
  | @outOfRange s hs hnone =>
    rw [ofTags_of_counts hs, Instant.ofSeconds?_eq_none_iff.mpr hnone]
  | past ht hpast => rw [ofTags_of_until ht, if_pos hpast]
  | everyKind ht hahead hlist =>
    rw [ofTags_of_until ht, if_neg (by omega), kindsOf, hlist]
    rfl
  | unknownKind ht hahead hlist hparts hbefore hitem =>
    rw [ofTags_of_until ht, if_neg (by omega), kindsOf_of_list hlist, hparts,
      kindsNamed_of_unknown hbefore hitem]
    rfl
  | @noKinds t list ht hahead hlist hblank =>
    have hnone : known (parts list) = [] := by
      refine List.eq_nil_iff_forall_not_mem.mpr fun k hk => ?_
      obtain ⟨i, hi, hnamed⟩ := mem_known.mp hk
      exact not_named_of_only (hblank i hi) hnamed
    rw [ofTags_of_until ht, if_neg (by omega), kindsOf_of_list hlist,
      kindsNamed_of_known fun i hi hunknown => hunknown.1 (hblank i hi), hnone]
    rfl
  | @someKinds t list kinds ht hahead hlist hknown hsome hsublist hkinds =>
    have hnamed : known (parts list) = kinds :=
      eq_of_sublist_all (known_sublist _) hsublist fun k => mem_known.trans (hkinds k).symm
    have hne : kinds.isEmpty = false := by
      obtain ⟨i, hi, hwritten⟩ := hsome
      obtain ⟨k, hk⟩ : ∃ k : Kind, k.Named i := by
        by_contra hnone
        exact hknown i hi ⟨hwritten, fun k hk => hnone ⟨k, hk⟩⟩
      exact List.isEmpty_eq_false_iff.mpr (List.ne_nil_of_mem ((hkinds k).mpr ⟨i, hi, hk⟩))
    rw [ofTags_of_until ht, if_neg (by omega), kindsOf_of_list hlist, kindsNamed_of_known hknown, hnamed,
      Except.map, hne]
    rfl

/-- A list of kinds for a deadline ahead is looked through for an item that is unknown, then for one that is
not blank. -/
theorem exists_declared_of_list (ht : Until tags t) (hahead : now.seconds < t.seconds)
    (hlist : tags.lookup kindsTag = some list) : ∃ res, Declared tags now res := by
  by_cases hknown : ∀ i ∈ parts list, ¬ Unknown i
  · by_cases hblank : ∀ i ∈ parts list, Blank.Only i
    · exact ⟨_, .noKinds ht hahead hlist hblank⟩
    · have hsome : ∃ i ∈ parts list, ¬ Blank.Only i := by simpa using hblank
      exact ⟨_, .someKinds ht hahead hlist hknown hsome (known_sublist _) fun _ => mem_known⟩
  · cases hfind : (parts list).find? (Unknown ·) with
    | none => exact (hknown fun i hi => by simpa using List.find?_eq_none.mp hfind i hi).elim
    | some item =>
      obtain ⟨hitem, before, after, hparts, hbefore⟩ := List.find?_eq_some_iff_append.mp hfind
      exact ⟨_, .unknownKind ht hahead hlist hparts (fun i hi => by simpa using hbefore i hi)
        (of_decide_eq_true hitem)⟩

theorem exists_declared (tags : Tags) (now : Instant) : ∃ res, Declared tags now res := by
  cases htext : tags.lookup deadlineTag with
  | none => exact ⟨_, .undated htext⟩
  | some text =>
    by_cases hcounts : ∃ s, Counts tags s
    · obtain ⟨s, hs⟩ := hcounts
      cases hinstant : Instant.ofSeconds? s with
      | none => exact ⟨_, .outOfRange hs (Instant.ofSeconds?_eq_none_iff.mp hinstant)⟩
      | some t =>
        obtain ⟨ht, -⟩ := (ofSeconds?_eq_some_iff_until hs).mp hinstant
        rcases Int.lt_or_le now.seconds t.seconds with hahead | hpast
        · cases hlist : tags.lookup kindsTag with
          | none => exact ⟨_, .everyKind ht hahead hlist⟩
          | some list => exact exists_declared_of_list ht hahead hlist
        · exact ⟨_, .past ht hpast⟩
    · exact ⟨_, .notSeconds htext fun s hs => hcounts ⟨s, hs⟩⟩

theorem ofTags_eq_iff : ofTags tags now = res ↔ Declared tags now res := by
  constructor
  · rintro rfl
    obtain ⟨res, hres⟩ := exists_declared tags now
    rwa [ofTags_of_declared hres]
  · exact ofTags_of_declared

theorem kinds_eq_all {p : Postponement} (h : ofTags tags now = .ok (some p)) (hall : ∀ k, k ∈ p.kinds) :
    p.kinds = Kind.all := by
  have hdeclared := ofTags_eq_iff.mp h
  cases hdeclared with
  | everyKind => rfl
  | someKinds _ _ _ _ _ hsublist =>
    exact eq_of_sublist_all hsublist (List.Sublist.refl _) fun k => iff_of_true (hall k) (Kind.mem_all k)

/-- Only the kinds that a list names matter, and its first item that is unknown. -/
theorem ofTags_reworded {tags' : Tags} {list' : String}
    (hdeadline : tags'.lookup deadlineTag = tags.lookup deadlineTag)
    (hlist : tags.lookup kindsTag = some list) (hlist' : tags'.lookup kindsTag = some list')
    (h : Relation.EqvGen Rewords (parts list) (parts list')) : ofTags tags' now = ofTags tags now := by
  have hkinds : kindsOf tags' = kindsOf tags := by
    rw [kindsOf_of_list hlist, kindsOf_of_list hlist', kindsNamed_of_eqvGen h]
  rw [ofTags, ofTags, hdeadline, hkinds]

example : ofTags [(deadlineTag, " +1735689600 "), (kindsTag, "Shutdown, resize,,SPLIT ,schedule,Resize")]
    default = .ok (some ⟨⟨⟨20089⟩, .midnight⟩, Kind.all⟩) := rfl

theorem coversAll_iff {p : Postponement} : p.coversAll ↔ ∀ k, k ∈ p.kinds := by
  simp only [coversAll, covers, List.all_eq_true, List.contains_iff_mem, Kind.mem_all, true_imp_iff]

end Postponement

variable {α : Type}

/-- One entry is left for each kind, in place of what there was under its key. -/
theorem History.get?_upsertAll_postponed {h : History α} (hopen : ¬ h.isSealed) (resource : String)
    (day : Day) (deadline : Instant) (k : EntryKey) :
    (h.upsertAll (Kind.all.map fun kind => Entry.postponedFor resource kind day none deadline)).store.get? k =
      if k.resource = resource ∧ k.day = day then some (Entry.postponedFor resource k.kind day none deadline)
      else h.store.get? k := by
  obtain ⟨resource', kind, day'⟩ := k
  rw [get?_upsertAll, if_neg hopen]
  by_cases hkey : resource' = resource ∧ day' = day
  · obtain ⟨rfl, rfl⟩ := hkey
    cases kind <;> simp [Kind.all, Entry.key, Entry.postponedFor]
  · rw [if_neg hkey, List.filter_eq_nil_iff.mpr, List.getLast?_nil, Option.none_or]
    intro e he hkey'
    obtain ⟨k, -, rfl⟩ := List.mem_map.mp he
    have hsame := of_decide_eq_true hkey'
    exact hkey ⟨congrArg (·.resource) hsame.symm, congrArg (·.day) hsame.symm⟩

namespace Engine

variable [Scalar α]

/-- A source without effects may be read in any monad. -/
theorem runM_pure {m : Type → Type} [Monad m] [LawfulMonad m] (e : Engine α)
    (read : String → Except EngineError (Batch α)) (r : Resource) :
    e.runM (m := m) (fun id => pure (read id)) r = pure (e.run read r) := by
  simp only [run, runM, pure_bind]
  cases e.postponement? r with
  | error err => rfl
  | ok p =>
    simp only
    cases p.filter (·.coversAll) with
    | some p => rfl
    | none =>
      cases read r.id with
      | error cause => rfl
      | ok b =>
        simp only
        cases e.process r p b <;> rfl

/-- The outcome of a resource that has every kind postponed. -/
def allPostponed (e : Engine α) (r : Resource) (deadline : Instant) : Outcome α :=
  .postponed r.id deadline Kind.all (Kind.all.map fun k => Entry.postponedFor r.id k e.day none deadline)

/-- A resource ends with every kind postponed. Its samples are not read, it has no report, and one history
entry is left for each of the four kinds. -/
structure EndsPostponed (e : Engine α) (r : Resource) (deadline : Instant) : Prop where
  run_eq : ∀ read, e.run read r = e.allPostponed r deadline
  runM_eq : ∀ {m : Type → Type} [Monad m] (read : String → m (Except EngineError (Batch α))),
    e.runM read r = pure (e.allPostponed r deadline)
  no_report : (e.allPostponed r deadline).report? = none ∧ (e.allPostponed r deadline).delivery? = none
  length_history : (e.allPostponed r deadline).history.length = 4
  get?_history : ∀ h : History α, ¬ h.isSealed → ∀ k : EntryKey,
    (h.upsertAll (e.allPostponed r deadline).history).store.get? k =
      if k.resource = r.id ∧ k.day = e.day then some (Entry.postponedFor r.id k.kind e.day none deadline)
      else h.store.get? k

variable {e : Engine α} {r : Resource} {p : Postponement}

theorem endsPostponed (h : Postponement.ofTags r.tags e.now = .ok (some p)) (hall : ∀ k, k ∈ p.kinds) :
    e.EndsPostponed r p.deadline := by
  have hpostponement : e.postponement? r = .ok (some p) := by
    rw [postponement?, h]
    rfl
  have hfilter : (some p).filter (·.coversAll) = some p :=
    Option.filter_some_pos (Postponement.coversAll_iff.mpr hall)
  have hpostpone : e.postpone r p = e.allPostponed r p.deadline := by
    rw [postpone, Postponement.kinds_eq_all h hall]
    rfl
  have hrunM : ∀ {m : Type → Type} [Monad m] (read : String → m (Except EngineError (Batch α))),
      e.runM read r = pure (e.allPostponed r p.deadline) := by
    intro m _ read
    simp only [runM, hpostponement, hfilter, hpostpone]
  refine ⟨fun read => ?_, hrunM, ⟨rfl, rfl⟩, rfl, fun h hopen k => ?_⟩
  · exact (runM_pure (m := Id) e read r).symm.trans (hrunM _)
  · exact History.get?_upsertAll_postponed hopen r.id e.day p.deadline k

theorem run_of_fault {fault : PostponementFault} (h : Postponement.ofTags r.tags e.now = .error fault)
    (read : String → Except EngineError (Batch α)) :
    e.run read r = .failed r.id ⟨.initialization, .validation fault.detail⟩ := by
  have hpostponement : e.postponement? r = .error ⟨.initialization, .validation fault.detail⟩ := by
    rw [postponement?, h]
    rfl
  simp only [run, runM, hpostponement, Id.run_pure]

/-- What tags come to at an instant is one of the cases, and is the same however a list of kinds is written.
A resource whose tags are at fault fails, and one with every kind postponed ends so. -/
theorem postponement_of_tags (tags : Tags) (now : Instant) :
    (∀ res, Postponement.ofTags tags now = res ↔ Postponement.Declared tags now res) ∧
    (∀ (tags' : Tags) (list list' : String), tags'.lookup deadlineTag = tags.lookup deadlineTag →
      tags.lookup kindsTag = some list → tags'.lookup kindsTag = some list' →
      Relation.EqvGen Postponement.Rewords (parts list) (parts list') →
      Postponement.ofTags tags' now = Postponement.ofTags tags now) ∧
    ∀ (e : Engine α) (r : Resource), r.tags = tags → e.now = now →
      (∀ fault, Postponement.ofTags tags now = .error fault → ∀ read,
        e.run read r = .failed r.id ⟨.initialization, .validation fault.detail⟩) ∧
      ∀ p, Postponement.ofTags tags now = .ok (some p) → (∀ k, k ∈ p.kinds) →
        e.EndsPostponed r p.deadline := by
  refine ⟨fun _ => Postponement.ofTags_eq_iff, ?_, ?_⟩
  · intro tags' list list' hdeadline hlist hlist' hreworded
    exact Postponement.ofTags_reworded hdeadline hlist hlist' hreworded
  · rintro e r rfl rfl
    exact ⟨fun fault h => run_of_fault h, fun p h => endsPostponed h⟩

end Engine

end FleetSizing
