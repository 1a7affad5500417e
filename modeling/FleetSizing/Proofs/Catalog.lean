import FleetSizing.Catalog
import FleetSizing.Proofs.Distinct
import FleetSizing.Proofs.Keyed
import Mathlib.Data.List.Pairwise
import Mathlib.Data.String.Basic

/-! Catalogs answer with the last row that was given for what is asked, so rows that differ in what they are asked
by may come in any order. -/
namespace FleetSizing

variable {α : Type}

namespace ShapeCatalog

variable {c c' : ShapeCatalog α} {cloud : Cloud} {s : Shape α}

theorem mem_list : s ∈ list c cloud ↔ c.get? s.name = some s ∧ s.cloud = cloud := by
  rw [list, List.mem_mergeSort, List.mem_filter, beq_iff_eq, Keyed.get?_eq_some_iff]
  simp

theorem nodup_list (c : ShapeCatalog α) (cloud : Cloud) : ((list c cloud).map (·.name)).Nodup := by
  have hperm : ((list c cloud).map (·.name)).Perm ((c.values.filter (·.cloud == cloud)).map (·.name)) :=
    (List.mergeSort_perm _ _).map _
  rw [hperm.nodup_iff]
  exact c.nodup.sublist (List.filter_sublist.map _)

theorem pairwise_list (c : ShapeCatalog α) (cloud : Cloud) :
    (list c cloud).Pairwise fun s t => s.name < t.name := by
  have hordered : (list c cloud).Pairwise fun s t => s.name ≤ t.name := by
    simp only [list, not_lt]
    refine (List.pairwise_mergeSort (fun s t u hst htu => ?_) (fun s t => ?_) _).imp of_decide_eq_true
    · exact decide_eq_true (le_trans (of_decide_eq_true hst) (of_decide_eq_true htu))
    · simpa using le_total s.name t.name
  refine (List.Pairwise.and hordered (List.pairwise_map.mp (nodup_list c cloud))).imp ?_
  exact fun h => lt_of_le_of_ne h.1 h.2

/-- A listing shows what stands under the names, in their order. -/
theorem list_congr (h : ∀ name, c.get? name = c'.get? name) : list c cloud = list c' cloud := by
  refine eq_of_pairwise (fun s _ t _ hst => lt_asymm hst) (fun s => ?_) (pairwise_list c' cloud)
    (pairwise_list c cloud)
  rw [mem_list, mem_list, h]

end ShapeCatalog

namespace Price

variable {rows rows' : List (Price α)} {p q : Price α} {customer name region os : String} {o : Option α}

/-- A row for what is asked; regions and systems are compared in lower case. -/
def Meets (customer name region os : String) (p : Price α) : Prop :=
  p.customer = customer ∧ p.name = name ∧ Unicode.toLower p.region = Unicode.toLower region ∧
    Unicode.toLower p.os = Unicode.toLower os

instance : DecidablePred (Meets (α := α) customer name region os) := fun _ =>
  inferInstanceAs (Decidable (_ ∧ _ ∧ _ ∧ _))

/-- Rows that no query asks for both. -/
def Apart (p q : Price α) : Prop := ¬ q.Meets p.customer p.name p.region p.os

instance : Std.Symm (Apart (α := α)) where
  symm p q h hpq := by
    obtain ⟨hcustomer, hname, hregion, hos⟩ := hpq
    exact h ⟨hcustomer.symm, hname.symm, hregion.symm, hos.symm⟩

/-- The answer to what is asked: the last row of the customer, else the last of the default customer, else
none. -/
inductive Quoted (rows : List (Price α)) (customer name region os : String) : Option α → Prop
  | own {p : Price α} (hown : IsLast (Meets customer name region os) rows p) :
      Quoted rows customer name region os (some p.hourly)
  | default {p : Price α} (hnone : ∀ q ∈ rows, ¬ q.Meets customer name region os)
      (hdefault : IsLast (Meets PriceCatalog.defaultCustomer name region os) rows p) :
      Quoted rows customer name region os (some p.hourly)
  | none (hnone : ∀ q ∈ rows, ¬ q.Meets customer name region os)
      (hdefault : ∀ q ∈ rows, ¬ q.Meets PriceCatalog.defaultCustomer name region os) :
      Quoted rows customer name region os none

theorem exists_quoted (rows : List (Price α)) (customer name region os : String) :
    ∃ o, Quoted rows customer name region os o := by
  rcases exists_isLast_or (Meets customer name region os) rows with ⟨p, hown⟩ | hnone
  · exact ⟨_, .own hown⟩
  · rcases exists_isLast_or (Meets PriceCatalog.defaultCustomer name region os) rows with ⟨p, hdefault⟩ | hdefault
    · exact ⟨_, .default hnone hdefault⟩
    · exact ⟨_, .none hnone hdefault⟩

/-- Rows that are pairwise apart are told by what is asked alone. -/
theorem isLast_perm (hperm : rows'.Perm rows) (hapart : rows.Pairwise Apart) :
    IsLast (Meets customer name region os) rows' p ↔ IsLast (Meets customer name region os) rows p := by
  have halone : ∀ q ∈ rows, ∀ r ∈ rows, q.Meets customer name region os → r.Meets customer name region os →
      q = r := by
    intro q hq r hr hqmeets hrmeets
    by_contra hne
    obtain ⟨rfl, rfl, hregion, hos⟩ := hqmeets
    refine hapart.forall hq hr hne ?_
    rwa [Meets, hregion, hos]
  rw [isLast_iff_mem halone, isLast_iff_mem, hperm.mem_iff]
  exact fun q hq r hr => halone q (hperm.mem_iff.mp hq) r (hperm.mem_iff.mp hr)

theorem Quoted.perm (hperm : rows'.Perm rows) (hapart : rows.Pairwise Apart)
    (h : Quoted rows customer name region os o) : Quoted rows' customer name region os o := by
  have hnone : ∀ {c : String}, (∀ q ∈ rows, ¬ q.Meets c name region os) →
      ∀ q ∈ rows', ¬ q.Meets c name region os := fun h q hq => h q (hperm.mem_iff.mp hq)
  cases h with
  | own hown => exact .own ((isLast_perm hperm hapart).mpr hown)
  | default hown hdefault => exact .default (hnone hown) ((isLast_perm hperm hapart).mpr hdefault)
  | none hown hdefault => exact .none (hnone hown) (hnone hdefault)

end Price

namespace PriceCatalog

open Price

variable {rows rows' : List (Price α)} {p : Price α} {customer name region os : String} {o : Option α}

/-- Rows are kept with the last one first, and both rows and questions are in lower case. -/
theorem lookup?_ofList : (ofList rows).lookup? customer name (Unicode.toLower region) (Unicode.toLower os) =
    ((rows.filter (·.Meets customer name region os)).getLast?).map (·.hourly) := by
  have hmeets : (fun p : Price α => p.customer == customer && p.name == name &&
      p.region == Unicode.toLower region && p.os == Unicode.toLower os) ∘ normalized =
      fun p => decide (p.Meets customer name region os) := by
    funext p
    rw [Bool.eq_iff_iff, decide_eq_true_iff]
    simp [normalized, Meets, and_assoc]
  rw [lookup?, ofList, ← List.head?_filter, List.filter_reverse, List.head?_reverse, List.filter_map, hmeets,
    List.getLast?_map, Option.map_map]
  rfl

theorem lookup?_of_isLast (h : IsLast (Meets customer name region os) rows p) :
    (ofList rows).lookup? customer name (Unicode.toLower region) (Unicode.toLower os) = some p.hourly := by
  rw [lookup?_ofList, isLast_iff.mp h, Option.map_some]

theorem lookup?_of_none (h : ∀ q ∈ rows, ¬ q.Meets customer name region os) :
    (ofList rows).lookup? customer name (Unicode.toLower region) (Unicode.toLower os) = none := by
  rw [lookup?_ofList, getLast?_filter_eq_none_iff.mpr h, Option.map_none]

theorem hourly?_of_quoted (h : Quoted rows customer name region os o) :
    (ofList rows).hourly? customer name region os = o := by
  simp only [hourly?]
  cases h with
  | own hown =>
    rw [lookup?_of_isLast hown]
    rfl
  | default hnone hdefault =>
    rw [lookup?_of_none hnone]
    exact lookup?_of_isLast hdefault
  | none hnone hdefault =>
    rw [lookup?_of_none hnone]
    exact lookup?_of_none hdefault

theorem hourly?_eq_iff : (ofList rows).hourly? customer name region os = o ↔
    Quoted rows customer name region os o := by
  refine ⟨?_, hourly?_of_quoted⟩
  rintro rfl
  obtain ⟨o, ho⟩ := exists_quoted rows customer name region os
  rwa [hourly?_of_quoted ho]

theorem hourly?_perm (hperm : rows'.Perm rows) (hapart : rows.Pairwise Apart) (customer name region os : String) :
    (ofList rows').hourly? customer name region os = (ofList rows).hourly? customer name region os := by
  obtain ⟨o, ho⟩ := exists_quoted rows customer name region os
  rw [hourly?_of_quoted ho, hourly?_of_quoted (ho.perm hperm hapart)]

end PriceCatalog

/-- A query is answered with the customer's last row for it, wherever that stands, else with the last default row,
else with none. A name is answered with the last shape of that name, and a cloud with those of them that are its
own, strictly ascending by name. Rows that no query asks for at once, and shapes of different names, give the same
answers in any order. -/
theorem catalogs_answer_last (rows : List (Price α)) (shapes : List (Shape α)) :
    (∀ customer name region os o, (PriceCatalog.ofList rows).hourly? customer name region os = o ↔
      Price.Quoted rows customer name region os o) ∧
    (∀ name, (∀ s, (Keyed.ofList shapes : ShapeCatalog α).get? name = some s ↔ IsLast (·.name = name) shapes s) ∧
      ((Keyed.ofList shapes : ShapeCatalog α).get? name = none ↔ ∀ s ∈ shapes, s.name ≠ name)) ∧
    (∀ cloud, (∀ s, s ∈ ShapeCatalog.list (.ofList shapes) cloud ↔
        IsLast (·.name = s.name) shapes s ∧ s.cloud = cloud) ∧
      (ShapeCatalog.list (.ofList shapes) cloud).Pairwise fun s t => s.name < t.name) ∧
    (∀ rows', rows'.Perm rows → rows.Pairwise Price.Apart →
      ∀ customer name region os, (PriceCatalog.ofList rows').hourly? customer name region os =
        (PriceCatalog.ofList rows).hourly? customer name region os) ∧
    ∀ shapes', shapes'.Perm shapes → (shapes.map (·.name)).Nodup →
      (∀ name, (Keyed.ofList shapes' : ShapeCatalog α).get? name =
        (Keyed.ofList shapes : ShapeCatalog α).get? name) ∧
      ∀ cloud, ShapeCatalog.list (.ofList shapes') cloud = ShapeCatalog.list (.ofList shapes) cloud := by
  refine ⟨fun _ _ _ _ _ => PriceCatalog.hourly?_eq_iff,
    fun name => ⟨fun s => Keyed.get?_ofList_eq_some_iff, Keyed.get?_ofList_eq_none_iff⟩,
    fun cloud => ⟨fun s => ?_, ShapeCatalog.pairwise_list _ cloud⟩,
    fun _ hperm hapart => PriceCatalog.hourly?_perm hperm hapart, ?_⟩
  · rw [ShapeCatalog.mem_list, Keyed.get?_ofList_eq_some_iff]
  · intro shapes' hperm hnodup
    exact ⟨Keyed.get?_ofList_perm hperm hnodup, fun cloud =>
      ShapeCatalog.list_congr (Keyed.get?_ofList_perm hperm hnodup)⟩

/-! A price that a customer has negotiated, and two shapes. -/
namespace Negotiated

def row (customer : String) (hourly : Rat) : Price Rat := ⟨customer, "m5.large", "us-east-1", "linux", hourly⟩

def rows : List (Price Rat) := [row "acme" (1 / 20), row "default" (12 / 125)]

def shape (name : String) (cpu : Rat) : Shape Rat := ⟨name, .aws, cpu, 8, 0, 0, "General", "Intel", "x86_64"⟩

def shapes : List (Shape Rat) := [shape "m5.xlarge" 4, shape "m5.large" 2]

end Negotiated

theorem catalogs_answer_last_negotiated : Negotiated.rows.reverse.Perm Negotiated.rows ∧
    Negotiated.rows.Pairwise Price.Apart ∧ Negotiated.shapes.reverse.Perm Negotiated.shapes ∧
    (Negotiated.shapes.map (·.name)).Nodup ∧
    (PriceCatalog.ofList Negotiated.rows.reverse).hourly? "acme" "m5.large" "US-EAST-1" "Linux" = some (1 / 20) ∧
    Negotiated.shape "m5.large" 2 ∈ ShapeCatalog.list (.ofList Negotiated.shapes.reverse) .aws := by
  have hrows : Negotiated.rows.reverse.Perm Negotiated.rows := List.reverse_perm _
  have hapart : Negotiated.rows.Pairwise Price.Apart := by
    simp [Negotiated.rows, Negotiated.row, Price.Apart, Price.Meets]
  have hshapes : Negotiated.shapes.reverse.Perm Negotiated.shapes := List.reverse_perm _
  have hnodup : (Negotiated.shapes.map (·.name)).Nodup := by decide
  obtain ⟨hquoted, -, hlisted, hprices, hlists⟩ := catalogs_answer_last Negotiated.rows Negotiated.shapes
  refine ⟨hrows, hapart, hshapes, hnodup, ?_, ?_⟩
  · rw [hprices _ hrows hapart, hquoted]
    have hlower : Unicode.toLower "us-east-1" = Unicode.toLower "US-EAST-1" := by decide +kernel
    have hlower' : Unicode.toLower "linux" = Unicode.toLower "Linux" := by decide +kernel
    have hown : (Negotiated.row "acme" (1 / 20)).Meets "acme" "m5.large" "US-EAST-1" "Linux" :=
      ⟨rfl, rfl, hlower, hlower'⟩
    have hlast : IsLast (Price.Meets "acme" "m5.large" "US-EAST-1" "Linux") Negotiated.rows
        (Negotiated.row "acme" (1 / 20)) :=
      ⟨hown, [], [Negotiated.row "default" (12 / 125)], rfl, by simp [Negotiated.row, Price.Meets]⟩
    exact .own hlast
  · rw [(hlists _ hshapes hnodup).2, (hlisted .aws).1]
    exact ⟨⟨rfl, [Negotiated.shape "m5.xlarge" 4], [], rfl, by simp⟩, rfl⟩

end FleetSizing
