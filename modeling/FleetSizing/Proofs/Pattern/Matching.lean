import FleetSizing.Pattern.Basic

/-! What the search for matches finds: every match, and nothing else. Steps of a repetition that do not
move can be left out, so that no repetition takes more steps than there are positions. -/
namespace FleetSizing.Pattern

variable {t : Subject} {p a b : Pattern} {i j k m n size : Nat} {R S : Nat → Nat → Prop}

/-- So many steps, one after the other. -/
inductive Walk (R : Nat → Nat → Prop) : Nat → Nat → Nat → Prop where
  | done {i : Nat} : Walk R 0 i i
  | step {n i j k : Nat} : R i j → Walk R n j k → Walk R (n + 1) i k

theorem walk_zero_iff : Walk R 0 i k ↔ i = k := by
  constructor
  · intro h
    cases h
    rfl
  · rintro rfl
    exact .done

theorem walk_succ_iff : Walk R (n + 1) i k ↔ ∃ j, R i j ∧ Walk R n j k := by
  constructor
  · intro h
    cases h with
    | step hstep hrest => exact ⟨_, hstep, hrest⟩
  · rintro ⟨j, hstep, hrest⟩
    exact .step hstep hrest

theorem walk_add_iff : Walk R (m + n) i k ↔ ∃ j, Walk R m i j ∧ Walk R n j k := by
  induction m generalizing i with
  | zero => simp [walk_zero_iff]
  | succ m ih =>
    rw [Nat.add_right_comm, walk_succ_iff]
    simp only [ih, walk_succ_iff]
    constructor
    · rintro ⟨l, hstep, j, hm, hn⟩
      exact ⟨j, ⟨l, hstep, hm⟩, hn⟩
    · rintro ⟨j, ⟨l, hstep, hm⟩, hn⟩
      exact ⟨l, hstep, j, hm, hn⟩

/-- Steps never lead back, and not out of the text. -/
structure Forward (size : Nat) (R : Nat → Nat → Prop) : Prop where
  le : ∀ {i j}, R i j → i ≤ j
  inside : ∀ {i j}, R i j → i ≤ size → j ≤ size

theorem Forward.walk (hR : Forward size R) : Forward size (Walk R n) := by
  constructor
  · intro i j h
    induction h with
    | done => exact Nat.le_refl _
    | step hstep _ ih => exact Nat.le_trans (hR.le hstep) ih
  · intro i j h hi
    induction h with
    | done => exact hi
    | step hstep _ ih => exact ih (hR.inside hstep hi)

/-- A step that moves takes one position at least; the others are left out. -/
theorem Walk.shorten (hR : Forward size R) (h : Walk R n i k) : ∃ m ≤ n, i + m ≤ k ∧ Walk R m i k := by
  induction h with
  | done => exact ⟨0, Nat.le_refl 0, Nat.le_refl _, .done⟩
  | step hstep _ ih =>
    obtain ⟨m, hle, hbound, hwalk⟩ := ih
    rcases Nat.eq_or_lt_of_le (hR.le hstep) with rfl | hlt
    · exact ⟨m, Nat.le_succ_of_le hle, hbound, hwalk⟩
    · exact ⟨m + 1, Nat.succ_le_succ hle, by omega, .step hstep hwalk⟩

theorem walk_congr (hS : Forward size S) (hRS : ∀ i j, i ≤ size → (R i j ↔ S i j)) (hi : i ≤ size) :
    Walk R n i k ↔ Walk S n i k := by
  induction n generalizing i with
  | zero => rw [walk_zero_iff, walk_zero_iff]
  | succ n ih =>
    rw [walk_succ_iff, walk_succ_iff]
    refine exists_congr fun j => ?_
    rw [hRS i j hi]
    exact and_congr_right fun hstep => ih (hS.inside hstep hi)

theorem mem_advance {step : Nat → List Nat} {starts : List Nat} :
    j ∈ advance step starts ↔ ∃ i ∈ starts, j ∈ step i := by
  rw [advance, List.mem_eraseDups, List.mem_flatMap]

theorem mem_exactly {step : Nat → List Nat} {starts : List Nat} :
    k ∈ exactly step n starts ↔ ∃ i ∈ starts, Walk (fun i j => j ∈ step i) n i k := by
  induction n generalizing starts with
  | zero => simp [exactly, walk_zero_iff]
  | succ n ih =>
    unfold exactly
    split
    · rename_i hempty
      simp [List.isEmpty_iff.mp hempty]
    · simp only [ih, mem_advance, walk_succ_iff]
      constructor
      · rintro ⟨j, ⟨i, hi, hstep⟩, hrest⟩
        exact ⟨i, hi, j, hstep, hrest⟩
      · rintro ⟨i, hi, j, hstep, hrest⟩
        exact ⟨j, ⟨i, hi, hstep⟩, hrest⟩

theorem mem_upTo {step : Nat → List Nat} {starts : List Nat} :
    k ∈ upTo step n starts ↔ ∃ m ≤ n, ∃ i ∈ starts, Walk (fun i j => j ∈ step i) m i k := by
  induction n generalizing starts with
  | zero => simp [upTo, walk_zero_iff]
  | succ n ih =>
    rw [upTo, List.mem_eraseDups, List.mem_append]
    simp only [ih, mem_advance]
    constructor
    · rintro (hk | ⟨m, hm, j, ⟨i, hi, hstep⟩, hrest⟩)
      · exact ⟨0, Nat.zero_le _, k, hk, .done⟩
      · exact ⟨m + 1, Nat.succ_le_succ hm, i, hi, .step hstep hrest⟩
    · rintro ⟨m, hm, i, hi, hwalk⟩
      cases hwalk with
      | done => exact Or.inl hi
      | step hstep hrest => exact Or.inr ⟨_, Nat.le_of_succ_le_succ hm, _, ⟨i, hi, hstep⟩, hrest⟩

theorem standsAt_le {cs : List Char} (h : standsAt t cs i) (hi : i ≤ t.size) : i + cs.length ≤ t.size := by
  induction cs generalizing i with
  | nil => exact hi
  | cons c cs ih =>
    rw [standsAt, Bool.and_eq_true, beq_iff_eq] at h
    have hlt : i < t.size := (Array.getElem?_eq_some_iff.mp h.1).1
    have hrest := ih h.2 hlt
    rw [List.length_cons]
    omega

theorem forward_matches : Forward t.size (Matches t p) := by
  constructor
  · intro i j h
    induction h with
    | empty | look _ | done => exact Nat.le_refl _
    | text _ | chars _ _ => exact Nat.le_add_right _ _
    | capture _ ih | altLeft _ ih | altRight _ ih => exact ih
    | seq _ _ ih ih' | again _ _ _ ih ih' => exact Nat.le_trans ih ih'
  · intro i j h hi
    induction h with
    | empty | look _ | done => exact hi
    | text h => exact standsAt_le h hi
    | chars h _ => exact (Array.getElem?_eq_some_iff.mp h).1
    | capture _ ih | altLeft _ ih | altRight _ ih => exact ih hi
    | seq _ _ ih ih' | again _ _ _ ih ih' => exact ih' (ih hi)

theorem matches_empty_iff : Matches t .empty i j ↔ i = j := by
  constructor
  · intro h
    cases h
    rfl
  · rintro rfl
    exact .empty

theorem matches_text_iff {cs : List Char} :
    Matches t (.text cs) i j ↔ standsAt t cs i ∧ j = i + cs.length := by
  constructor
  · intro h
    cases h with
    | text hstands => exact ⟨hstands, rfl⟩
  · rintro ⟨hstands, rfl⟩
    exact .text hstands

theorem matches_chars_iff {s : CodeSet} :
    Matches t (.chars s) i j ↔ (∃ c, t[i]? = some c ∧ s.contains c.toNat) ∧ j = i + 1 := by
  constructor
  · intro h
    cases h with
    | chars hchar hset => exact ⟨⟨_, hchar, hset⟩, rfl⟩
  · rintro ⟨⟨c, hchar, hset⟩, rfl⟩
    exact .chars hchar hset

theorem matches_look_iff {l : Look} : Matches t (.look l) i j ↔ l.holds t i ∧ i = j := by
  constructor
  · intro h
    cases h with
    | look hholds => exact ⟨hholds, rfl⟩
  · rintro ⟨hholds, rfl⟩
    exact .look hholds

theorem matches_capture_iff : Matches t (.capture n p) i j ↔ Matches t p i j := by
  constructor
  · intro h
    cases h with
    | capture hp => exact hp
  · exact .capture

theorem matches_seq_iff : Matches t (.seq a b) i k ↔ ∃ j, Matches t a i j ∧ Matches t b j k := by
  constructor
  · intro h
    cases h with
    | seq ha hb => exact ⟨_, ha, hb⟩
  · rintro ⟨j, ha, hb⟩
    exact .seq ha hb

theorem matches_alt_iff : Matches t (.alt a b) i j ↔ Matches t a i j ∨ Matches t b i j := by
  constructor
  · intro h
    cases h with
    | altLeft ha => exact Or.inl ha
    | altRight hb => exact Or.inr hb
  · rintro (ha | hb)
    · exact .altLeft ha
    · exact .altRight hb

section

variable {least : Nat} {most : Option Nat} {greedy : Bool}

theorem exists_walk {q : Pattern} (h : Matches t q i k) (hq : q = .times p least most greedy) :
    ∃ n, least ≤ n ∧ (∀ m, most = some m → n ≤ m) ∧ Walk (Matches t p) n i k := by
  induction h generalizing least most with
  | done =>
    cases hq
    exact ⟨0, Nat.le_refl 0, fun _ _ => Nat.zero_le _, .done⟩
  | again hmost hfirst _ _ ih =>
    cases hq
    obtain ⟨n, hleast, hle, hwalk⟩ := ih rfl
    refine ⟨n + 1, by omega, fun m hm => ?_, .step hfirst hwalk⟩
    have hbound := hle (m - 1) (by rw [hm, Option.map_some])
    have hpos : m ≠ 0 := fun hzero => hmost (hzero ▸ hm)
    omega
  | empty | text _ | chars _ _ | look _ | capture _ _ | seq _ _ _ _ | altLeft _ _ | altRight _ _ => cases hq

theorem matches_times_iff : Matches t (.times p least most greedy) i k ↔
    ∃ n, least ≤ n ∧ (∀ m, most = some m → n ≤ m) ∧ Walk (Matches t p) n i k := by
  constructor
  · exact fun h => exists_walk h rfl
  · rintro ⟨n, hleast, hmost, hwalk⟩
    induction hwalk generalizing least most with
    | done =>
      obtain rfl := Nat.le_zero.mp hleast
      exact .done
    | step hfirst _ ih =>
      refine .again ?_ hfirst (ih (by omega) fun m hm => ?_)
      · intro hzero
        have hbound := hmost 0 hzero
        omega
      · obtain ⟨l, hl, rfl⟩ := Option.map_eq_some_iff.mp hm
        have hbound := hmost l hl
        omega

/-- A walk of some steps and then of as many as one likes. -/
theorem exists_walk_iff (hR : Forward size R) (hi : i ≤ size) :
    (∃ n, least ≤ n ∧ (∀ m, most = some m → n ≤ m) ∧ Walk R n i k) ↔
      (∀ m, most = some m → least ≤ m) ∧ ∃ n, n ≤ size + 1 ∧ (∀ m, most = some m → least + n ≤ m) ∧
        ∃ j, Walk R least i j ∧ Walk R n j k := by
  constructor
  · rintro ⟨n, hleast, hmost, hwalk⟩
    obtain ⟨l, rfl⟩ := Nat.le.dest hleast
    obtain ⟨j, hfirst, hrest⟩ := walk_add_iff.mp hwalk
    obtain ⟨m, hle, hbound, hshort⟩ := hrest.shorten hR
    have hk := hR.walk.inside hwalk hi
    refine ⟨fun m' hm => Nat.le_trans hleast (hmost m' hm), m, by omega, fun m' hm => ?_, j, hfirst, hshort⟩
    have hmost' := hmost m' hm
    omega
  · rintro ⟨-, n, -, hmost, j, hfirst, hrest⟩
    exact ⟨least + n, Nat.le_add_right _ _, hmost, walk_add_iff.mpr ⟨j, hfirst, hrest⟩⟩

end

/-- The search finds exactly the positions at which a match ends. -/
theorem mem_ends_iff (hi : i ≤ t.size) : j ∈ ends t p i ↔ Matches t p i j := by
  induction p generalizing i j with
  | empty =>
    rw [ends, List.mem_singleton, matches_empty_iff]
    exact eq_comm
  | text cs =>
    rw [matches_text_iff, ends]
    split <;> simp_all
  | chars s =>
    rw [matches_chars_iff, ends]
    cases t[i]? <;> simp
  | look l =>
    rw [matches_look_iff, ends]
    split
    · rename_i hholds
      rw [List.mem_singleton, and_iff_right hholds]
      exact eq_comm
    · rename_i hfails
      simp [hfails]
  | capture n p ih => rw [ends, ih hi, matches_capture_iff]
  | seq a b iha ihb =>
    rw [ends, mem_advance, matches_seq_iff]
    refine exists_congr fun k => ?_
    rw [iha hi]
    exact and_congr_right fun ha => ihb (forward_matches.inside ha hi)
  | alt a b iha ihb => rw [ends, List.mem_eraseDups, List.mem_append, iha hi, ihb hi, matches_alt_iff]
  | times p least most greedy ih =>
    have hstep : ∀ n i k, i ≤ t.size →
        (Walk (fun i j => j ∈ ends t p i) n i k ↔ Walk (Matches t p) n i k) :=
      fun n i k hi => walk_congr forward_matches (fun i j hi => ih hi) hi
    have hsearch : ∀ limit, j ∈ upTo (ends t p) limit (exactly (ends t p) least [i]) ↔
        ∃ n ≤ limit, ∃ k, Walk (Matches t p) least i k ∧ Walk (Matches t p) n k j := by
      intro limit
      simp only [mem_upTo, mem_exactly, List.mem_singleton, exists_eq_left]
      refine exists_congr fun n => and_congr_right fun _ => exists_congr fun k => ?_
      rw [hstep least i k hi]
      exact and_congr_right fun hfirst => hstep n k j (forward_matches.walk.inside hfirst hi)
    rw [matches_times_iff, exists_walk_iff forward_matches hi]
    cases most with
    | none =>
      simp only [ends, hsearch]
      simp
    | some most =>
      simp only [ends, Option.some.injEq, forall_eq']
      split
      · rename_i hlt
        simp [Nat.not_le.mpr hlt]
      · rename_i hle
        rw [hsearch, and_iff_right (Nat.not_lt.mp hle)]
        refine exists_congr fun n => ?_
        rw [← and_assoc]
        exact and_congr_left fun _ => by omega

theorem isMatch_iff {s : String} : p.isMatch s ↔
    ∃ i ≤ s.toList.length, ∃ j, Matches s.toList.toArray p i j := by
  rw [isMatch, List.any_eq_true]
  refine exists_congr fun i => ?_
  rw [List.mem_range, List.size_toArray, Nat.lt_succ_iff]
  refine and_congr_right fun hi => ?_
  simp only [← mem_ends_iff (t := s.toList.toArray) (p := p) hi]
  cases ends s.toList.toArray p i <;> simp

end FleetSizing.Pattern
