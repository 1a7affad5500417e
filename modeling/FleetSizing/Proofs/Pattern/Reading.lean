import FleetSizing.Pattern.Compiler
import FleetSizing.Proofs.Pattern.Build

/-! How a pattern is read behind an anchor. The anchor joins the items up to the first bar, so that it
holds for the first branch alone. -/
namespace FleetSizing.Pattern

variable {f : Nat} {s u : Cursor} {acc nodes tail : List Node} {body : List Char} {p q : Pattern}

theorem repeated?_append {least : Nat} {most : Option Nat} {greedy : Bool}
    (h : repeated? least most greedy acc = some nodes) :
    repeated? least most greedy (acc ++ tail) = some (nodes ++ tail) := by
  cases acc with
  | nil => cases h
  | cons n ns =>
    rw [repeated?] at h
    rw [List.cons_append, repeated?]
    split at h
    · cases h
    · rename_i hitem
      obtain rfl := Option.some.inj h
      exact if_neg hitem

/-- What is read with some fuel is read with more, also behind items that were read before. -/
structure Steady (f : Nat) : Prop where
  items : ∀ {s acc nodes u}, items? f s acc = some (nodes, u) →
    ∀ tail, items? (f + 1) s (acc ++ tail) = some (nodes ++ tail, u)
  branches : ∀ {s r}, branches? f s = some r → branches? (f + 1) s = some r
  group : ∀ {s r}, group? f s = some r → group? (f + 1) s = some r

theorem Steady.items_succ (hf : Steady f) (h : items? (f + 1) s acc = some (nodes, u)) :
    items? (f + 2) s (acc ++ tail) = some (nodes ++ tail, u) := by
  rw [items?] at h ⊢
  simp only at h ⊢
  -- The items end here, or one more follows: a group, a class, a repetition, a single part.
  split at h
  case h_1 | h_2 | h_3 =>
    obtain ⟨rfl, rfl⟩ : acc = nodes ∧ s.skip = u := by simpa using h
    rfl
  case h_4 =>
    obtain ⟨group, hgroup, h⟩ := Option.bind_eq_some_iff.mp h
    rw [hf.group hgroup]
    exact hf.items h tail
  case h_5 =>
    obtain ⟨set, hset, h⟩ := Option.bind_eq_some_iff.mp h
    rw [hset]
    exact hf.items h tail
  case h_6 | h_7 | h_8 =>
    obtain ⟨again, hagain, h⟩ := Option.bind_eq_some_iff.mp h
    rw [repeated?_append hagain]
    exact hf.items h tail
  case h_9 =>
    obtain ⟨bounds, hbounds, h⟩ := Option.bind_eq_some_iff.mp h
    obtain ⟨again, hagain, h⟩ := Option.bind_eq_some_iff.mp h
    rw [hbounds]
    simp only [Option.bind_eq_bind, Option.bind_some]
    rw [repeated?_append hagain]
    exact hf.items h tail
  case h_10 =>
    obtain ⟨item, hitem, h⟩ := Option.bind_eq_some_iff.mp h
    rw [hitem]
    exact hf.items h tail

theorem Steady.branches_succ (hf : Steady f) {r : List Node × Cursor} (h : branches? (f + 1) s = some r) :
    branches? (f + 2) s = some r := by
  rw [branches?] at h ⊢
  obtain ⟨first, hfirst, h⟩ := Option.bind_eq_some_iff.mp h
  have hmore := hf.items hfirst []
  rw [List.append_nil, List.append_nil] at hmore
  rw [hmore]
  simp only [Option.bind_eq_bind, Option.bind_some] at h ⊢
  split at h
  · obtain ⟨rest, hrest, h⟩ := Option.bind_eq_some_iff.mp h
    rw [hf.branches hrest]
    exact h
  · exact h

theorem Steady.group_succ (hf : Steady f) {r : Node × Cursor} (h : group? (f + 1) s = some r) :
    group? (f + 2) s = some r := by
  rw [group?] at h ⊢
  simp only at h ⊢
  split at h
  case h_1 | h_2 | h_3 | h_4 => cases h
  case h_5 | h_6 =>
    obtain ⟨name, hname, h⟩ := Option.bind_eq_some_iff.mp h
    rw [hname]
    simp only [Option.bind_eq_bind, Option.bind_some] at h ⊢
    split at h
    · cases h
    · rename_i hnew
      obtain ⟨inner, hinner, h⟩ := Option.bind_eq_some_iff.mp h
      rw [if_neg hnew, hf.branches hinner]
      exact h
  case h_7 =>
    obtain ⟨switches, hswitches, h⟩ := Option.bind_eq_some_iff.mp h
    rw [hswitches]
    simp only [Option.bind_eq_bind, Option.bind_some] at h ⊢
    split at h
    · exact h
    · obtain ⟨inner, hinner, h⟩ := Option.bind_eq_some_iff.mp h
      rw [hf.branches hinner]
      exact h
    · cases h
  case h_8 =>
    obtain ⟨inner, hinner, h⟩ := Option.bind_eq_some_iff.mp h
    rw [hf.branches hinner]
    exact h

theorem steady (f : Nat) : Steady f := by
  induction f with
  | zero =>
    refine ⟨fun h => ?_, fun h => ?_, fun h => ?_⟩
    · rw [items?] at h
      cases h
    · rw [branches?] at h
      cases h
    · rw [group?] at h
      cases h
  | succ f ih =>
    exact ⟨fun h tail => ih.items_succ h, fun h => ih.branches_succ h, fun h => ih.group_succ h⟩

/-- The reader at the start of a pattern. -/
def start (cs : List Char) : Cursor := ⟨cs, {}, [], 0⟩

/-- The anchor is an item like any other. -/
theorem items?_anchor : items? (f + 1) (start ('^' :: body)) [] =
    items? f (start body) [⟨.look .textStart, 0, false⟩] := by
  rw [items?]
  rfl

/-- The anchor goes before the items of the first branch; the branches behind it stay as they are. -/
theorem branches?_anchor {read : List Node × Cursor} (h : branches? f (start body) = some read) :
    ∃ items rest, read.1 = Node.sequence items :: rest ∧ branches? (f + 2) (start ('^' :: body)) =
      some (Node.sequence (⟨.look .textStart, 0, false⟩ :: items) :: rest, read.2) := by
  cases f with
  | zero =>
    rw [branches?] at h
    cases h
  | succ f =>
    rw [branches?] at h
    obtain ⟨⟨nodes, u⟩, hfirst, h⟩ := Option.bind_eq_some_iff.mp h
    have hanchor : items? (f + 2) (start ('^' :: body)) [] =
        some (nodes ++ [⟨.look .textStart, 0, false⟩], u) := by
      rw [items?_anchor]
      exact (steady f).items hfirst [⟨.look .textStart, 0, false⟩]
    rw [branches?, hanchor]
    simp only [Option.bind_eq_bind, Option.bind_some, List.reverse_append] at h ⊢
    split at h
    · obtain ⟨⟨more, v⟩, hmore, h⟩ := Option.bind_eq_some_iff.mp h
      obtain rfl := Option.some.inj h
      rw [(steady _).branches ((steady _).branches hmore)]
      exact ⟨nodes.reverse, more, rfl, rfl⟩
    · obtain rfl := Option.some.inj h
      exact ⟨nodes.reverse, [], rfl, rfl⟩

/-- The branches between the bars of a pattern that stand in no group. -/
def alternatives? (cs : List Char) : Option (List Pattern) :=
  (branches? (2 * cs.length + 4) (start cs)).map fun read => read.1.map (·.pattern)

theorem read?_eq_some (h : read? body = some p) : ∃ read,
    branches? (2 * body.length + 4) (start body) = some read ∧ (Node.choice read.1).pattern = p := by
  obtain ⟨read, hread, h⟩ := Option.bind_eq_some_iff.mp h
  simp only at h
  split at h
  · exact ⟨read, hread, Option.some.inj h⟩
  · cases h

theorem Compiler.read?_of_compile? {compiler : Compiler} (h : compiler.compile? body = some p) :
    read? body = some p :=
  (Option.filter_eq_some_iff.mp h).1

variable {t : Subject} {i j : Nat}

theorem matches_sequence_nodes : Matches t (Node.sequence nodes).pattern i j ↔
    Chain t (nodes.map (·.pattern)) i j := by
  match nodes with
  | [] => exact matches_empty_iff
  | [n] => exact chain_singleton.symm
  | _ :: _ :: _ => exact matches_sequence_iff

theorem matches_choice_nodes : Matches t (Node.choice nodes).pattern i j ↔
    OneOf t (nodes.map (·.pattern)) i j := by
  match nodes with
  | [] => exact matches_choice_iff
  | [n] => simp [Node.choice, OneOf]
  | _ :: _ :: _ => exact matches_choice_iff

/-- A pattern behind an anchor matches where its first alternative does at the start of the text, and where
any other one does at all. -/
theorem read?_anchored (hbody : read? body = some p) (hanchored : read? ('^' :: body) = some q) :
    ∃ first rest, alternatives? body = some (first :: rest) ∧ ∀ t i j,
      (Matches t p i j ↔ OneOf t (first :: rest) i j) ∧
      (Matches t q i j ↔ (i = 0 ∧ Matches t first i j) ∨ OneOf t rest i j) := by
  obtain ⟨read, hread, rfl⟩ := read?_eq_some hbody
  obtain ⟨read', hread', rfl⟩ := read?_eq_some hanchored
  obtain ⟨items, rest, hbranches, hanchor⟩ := branches?_anchor hread
  have hlength : 2 * ('^' :: body).length + 4 = 2 * body.length + 4 + 2 := by
    rw [List.length_cons]
    omega
  rw [hlength, hanchor] at hread'
  obtain rfl := Option.some.inj hread'
  refine ⟨(Node.sequence items).pattern, rest.map (·.pattern), ?_, fun t i j => ⟨?_, ?_⟩⟩
  · rw [alternatives?, hread, Option.map_some, hbranches, List.map_cons]
  · rw [matches_choice_nodes, hbranches, List.map_cons]
  · rw [matches_choice_nodes, List.map_cons, oneOf_cons, matches_sequence_nodes, List.map_cons]
    simp only [Chain, matches_look_iff, matches_sequence_nodes, Look.holds, beq_iff_eq]
    refine or_congr ?_ Iff.rfl
    constructor
    · rintro ⟨k, ⟨hstart, rfl⟩, hfirst⟩
      exact ⟨hstart, hfirst⟩
    · rintro ⟨hstart, hfirst⟩
      exact ⟨i, ⟨hstart, rfl⟩, hfirst⟩

end FleetSizing.Pattern
