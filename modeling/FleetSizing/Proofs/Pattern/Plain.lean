import FleetSizing.Rule
import FleetSizing.Proofs.Pattern.Reading

/-! Wildcards of plain characters: each stands for itself, a dot as well, and a star for any text that is
not empty. -/
namespace FleetSizing

namespace Pattern

variable {value : List Char} {c : Char} {f : Nat} {acc : List Node} {r : List Char}

/-- Characters that are more than themselves in a pattern. -/
def signs : List Char := ['\\', '+', '?', '(', ')', '|', '[', '\x7b', '^', '$']

/-- No character but dots and stars has a meaning of its own. -/
def IsPlain (value : List Char) : Prop := ∀ c ∈ value, c ∉ signs

/-- Any characters but line breaks, at least one. -/
def gap : Pattern := .times (.chars (dotSet {})) 1 none true

/-- What a character of a wildcard becomes. -/
def part (c : Char) : Pattern := if c = '*' then gap else .text [c]

def node (c : Char) : Node := ⟨part c, if c = '*' then 1 else 0, false⟩

theorem ofSet_single (c : Char) : ofSet (.single c.toNat) = .text [c] := by
  have hvalid : c.toNat.isValidChar := c.valid
  rw [ofSet]
  simp only [CodeSet.single, CodeSet.range]
  rw [if_pos ⟨trivial, hvalid⟩, Char.ofNat_toNat]

theorem items?_nil : items? (f + 1) (start []) acc = some (acc, start []) := by
  rw [items?]
  rfl

theorem items?_plain (hc : c ∉ signs) (hdot : c ≠ '.') (hstar : c ≠ '*') :
    items? (f + 1) (start (c :: r)) acc = items? f (start r) (⟨.text [c], 0, false⟩ :: acc) := by
  have hne : ∀ d ∈ '.' :: '*' :: signs, c ≠ d :=
    List.forall_mem_cons.mpr ⟨hdot, List.forall_mem_cons.mpr ⟨hstar, fun d hd hcd => hc (hcd ▸ hd)⟩⟩
  have hread : primitive? {} (c :: r) = some (.text [c], r) := by
    rw [← ofSet_single c]
    unfold primitive?
    split
    case h_6 =>
      rename_i hsign
      cases hsign
      rfl
    all_goals
      rename_i hsign
      cases hsign
      try exact absurd rfl (hne _ (by decide))
  have hskip : (start (c :: r)).skip = start (c :: r) := rfl
  rw [items?, hskip]
  simp only
  split
  case h_10 =>
    change (primitive? {} (c :: r)).bind _ = _
    rw [hread]
    rfl
  all_goals
    rename_i hsign
    cases hsign
    try exact absurd rfl (hne _ (by decide))

theorem items?_dot : items? (f + 1) (start ('\\' :: '.' :: r)) acc =
    items? f (start r) (⟨.text ['.'], 0, false⟩ :: acc) := by
  rw [items?]
  rfl

theorem items?_star (hr : r.head? ≠ some '?') : items? (f + 2) (start ('.' :: '+' :: r)) acc =
    items? f (start r) (⟨gap, 1, false⟩ :: acc) := by
  have hdot : items? (f + 2) (start ('.' :: '+' :: r)) acc =
      items? (f + 1) (start ('+' :: r)) (⟨.chars (dotSet {}), 0, false⟩ :: acc) := by
    rw [items?]
    rfl
  have hgreed : greed {} r = (true, r) := by
    unfold greed
    split
    · simp at hr
    · rfl
  rw [hdot, items?]
  change (repeated? 1 none (greed {} r).1 _).bind (fun nodes => items? f (start (greed {} r).2) nodes) = _
  rw [hgreed]
  rfl

theorem head?_wildcardBody (h : IsPlain value) : (wildcardBody value).head? ≠ some '?' := by
  cases value with
  | nil => simp [wildcardBody]
  | cons c value =>
    have hc : c ≠ '?' := by
      rintro rfl
      exact h _ List.mem_cons_self (by decide)
    rw [wildcardBody, List.flatMap_cons]
    split
    · simp
    · split
      · simp
      · simpa using hc

/-- Reading takes one step for a character, and two for a star. -/
theorem items?_wildcardBody (h : IsPlain value) (hf : 2 * value.length < f) :
    items? f (start (wildcardBody value)) acc = some ((value.map node).reverse ++ acc, start []) := by
  induction value generalizing f acc with
  | nil =>
    obtain ⟨f, rfl⟩ : ∃ g, f = g + 1 := ⟨f - 1, by simp at hf; omega⟩
    exact items?_nil
  | cons c value ih =>
    have hvalue : IsPlain value := fun d hd => h d (List.mem_cons_of_mem c hd)
    have hc : c ∉ signs := h c List.mem_cons_self
    rw [List.length_cons] at hf
    obtain ⟨f, rfl⟩ : ∃ g, f = g + 2 := ⟨f - 2, by omega⟩
    have hstep : ∀ acc, items? (f + 2) (start (wildcardBody (c :: value))) acc =
        some ((value.map node).reverse ++ node c :: acc, start []) := by
      intro acc
      rw [wildcardBody, List.flatMap_cons]
      by_cases hdot : c = '.'
      · subst hdot
        exact items?_dot.trans (ih hvalue (by omega))
      · by_cases hstar : c = '*'
        · subst hstar
          exact (items?_star (head?_wildcardBody hvalue)).trans (ih hvalue (by omega))
        · rw [if_neg hdot, if_neg hstar]
          have hnode : node c = ⟨.text [c], 0, false⟩ := by
            rw [node, part, if_neg hstar, if_neg hstar]
          rw [hnode]
          exact (items?_plain hc hdot hstar).trans (ih hvalue (by omega))
    rw [hstep, List.map_cons, List.reverse_cons, List.append_assoc]
    rfl

/-- The pattern of a wildcard: its characters one after the other from the start of the text on. -/
def anchored (value : List Char) : Pattern := sequence (.look .textStart :: value.map part)

theorem pattern_sequence_anchor (nodes : List Node) :
    (Node.sequence (⟨.look .textStart, 0, false⟩ :: nodes)).pattern =
      sequence (.look .textStart :: nodes.map (·.pattern)) := by
  cases nodes <;> rfl

theorem depth_sequence_le (h : ∀ n ∈ acc, n.depth ≤ f) : (Node.sequence acc).depth ≤ f + 1 := by
  have hfold : ∀ (nodes : List Node) (k : Nat), k ≤ f → (∀ n ∈ nodes, n.depth ≤ f) →
      nodes.foldl (fun n d => max n d.depth) k ≤ f := by
    intro nodes
    induction nodes with
    | nil => exact fun _ hk _ => hk
    | cons n nodes ih =>
      intro k hk hall
      exact ih _ (Nat.max_le.mpr ⟨hk, hall n List.mem_cons_self⟩) fun m hm => hall m (List.mem_cons_of_mem n hm)
  match acc with
  | [] => exact Nat.zero_le _
  | [n] => exact Nat.le_succ_of_le (h n List.mem_cons_self)
  | _ :: _ :: _ => exact Nat.succ_le_succ (hfold _ 0 (Nat.zero_le _) h)

theorem length_le_wildcardBody (value : List Char) : value.length ≤ (wildcardBody value).length := by
  induction value with
  | nil => exact Nat.le_refl _
  | cons c value ih =>
    have hone : 1 ≤ (if c = '.' then ['\\', '.'] else if c = '*' then ['.', '+'] else [c]).length := by
      split
      · decide
      · split <;> simp
    rw [wildcardBody] at ih ⊢
    rw [List.flatMap_cons, List.length_append, List.length_cons]
    omega

/-- A wildcard of plain characters is always a pattern. -/
theorem read?_wildcard (h : IsPlain value) : read? (wildcard value) = some (anchored value) := by
  let anchor : Node := ⟨.look .textStart, 0, false⟩
  have hlength := length_le_wildcardBody value
  have hitems : items? (2 * (wildcardBody value).length + 5) (start (wildcard value)) [] =
      some ((anchor :: value.map node).reverse, start []) := by
    rw [List.reverse_cons]
    exact items?_anchor.trans (items?_wildcardBody h (by omega))
  have hbranches : branches? (2 * (wildcard value).length + 4) (start (wildcard value)) =
      some ([Node.sequence (anchor :: value.map node)], start []) := by
    change branches? (2 * (wildcardBody value).length + 5 + 1) _ = _
    rw [branches?, hitems]
    simp only [Option.bind_eq_bind, Option.bind_some, List.reverse_reverse]
    rfl
  have hpattern : (Node.sequence (anchor :: value.map node)).pattern = anchored value := by
    rw [pattern_sequence_anchor, List.map_map]
    rfl
  have hdepth : (Node.sequence (anchor :: value.map node)).depth ≤ nestLimit := by
    refine Nat.le_trans (depth_sequence_le (f := 1) ?_) (by decide)
    intro n hn
    rcases List.mem_cons.mp hn with rfl | hn
    · exact Nat.zero_le _
    · obtain ⟨c, -, rfl⟩ := List.mem_map.mp hn
      rw [node]
      split <;> simp
  rw [read?]
  change (branches? (2 * (wildcard value).length + 4) (start (wildcard value))).bind _ = _
  rw [hbranches]
  simp only [Option.bind_some, Node.choice, hpattern]
  exact if_pos ⟨rfl, hdepth⟩

/-- It is refused for its size alone. -/
theorem compile?_wildcard (compiler : Compiler) (h : IsPlain value) : compiler.compile? (wildcard value) =
    if compiler.hasRoom (wildcard value) then some (anchored value) else none := by
  rw [Compiler.compile?, read?_wildcard h, Option.filter_some]

/-- The text that a wildcard becomes when each star is replaced by a text that is not empty. -/
inductive Fills : List Char → List Char → Prop where
  | nil : Fills [] []
  | star {value gap cs : List Char} : gap ≠ [] → Fills value cs → Fills ('*' :: value) (gap ++ cs)
  | keep {c : Char} {value cs : List Char} : c ≠ '*' → Fills value cs → Fills (c :: value) (c :: cs)

variable {t : Subject} {i j k n : Nat} {cs : List Char}

theorem fills_nil_iff : Fills [] cs ↔ cs = [] := by
  constructor
  · intro h
    cases h
    rfl
  · rintro rfl
    exact .nil

theorem fills_star_iff : Fills ('*' :: value) cs ↔
    ∃ gap rest, gap ≠ [] ∧ Fills value rest ∧ cs = gap ++ rest := by
  constructor
  · intro h
    cases h with
    | star hgap hrest => exact ⟨_, _, hgap, hrest, rfl⟩
    | keep hne _ => exact (hne rfl).elim
  · rintro ⟨gap, rest, hgap, hrest, rfl⟩
    exact .star hgap hrest

theorem fills_keep_iff (hc : c ≠ '*') : Fills (c :: value) cs ↔ ∃ rest, Fills value rest ∧ cs = c :: rest := by
  constructor
  · intro h
    cases h with
    | star _ _ => exact (hc rfl).elim
    | keep _ hrest => exact ⟨_, hrest, rfl⟩
  · rintro ⟨rest, hrest, rfl⟩
    exact .keep hc hrest

/-- Without a star there is nothing to fill. -/
theorem fills_self (h : '*' ∉ value) : Fills value value := by
  induction value with
  | nil => exact .nil
  | cons c value ih =>
    exact .keep (List.ne_of_not_mem_cons h).symm (ih (List.not_mem_of_not_mem_cons h))

theorem contains_dotSet (hc : c ≠ '\n') : (dotSet {}).contains c.toNat := by
  have hcode : c.toNat ≠ 10 := fun h => hc (Char.toNat_inj.mp h)
  have hvalid : c.toNat < 0xD800 ∨ 0xDFFF < c.toNat ∧ c.toNat < 0x110000 := c.valid
  have hset : dotSet {} = ⟨[(0, 9), (11, 0x10FFFF)]⟩ := rfl
  simp only [hset, CodeSet.contains, List.any_cons, List.any_nil, Bool.or_false, Bool.or_eq_true,
    Bool.and_eq_true, decide_eq_true_eq]
  omega

section

variable (hline : '\n' ∉ t)

include hline

theorem matches_dot_iff : Matches t (.chars (dotSet {})) i j ↔ ∃ c, t[i]? = some c ∧ j = i + 1 := by
  rw [matches_chars_iff]
  constructor
  · rintro ⟨⟨c, hc, -⟩, hj⟩
    exact ⟨c, hc, hj⟩
  · rintro ⟨c, hc, hj⟩
    refine ⟨⟨c, hc, contains_dotSet ?_⟩, hj⟩
    rintro rfl
    exact hline (Array.mem_of_getElem? hc)

theorem walk_dots_iff : Walk (Matches t (.chars (dotSet {}))) n i k ↔
    ∃ cs, cs.length = n ∧ standsAt t cs i ∧ k = i + n := by
  induction n generalizing i with
  | zero =>
    rw [walk_zero_iff]
    constructor
    · rintro rfl
      exact ⟨[], rfl, rfl, rfl⟩
    · rintro ⟨-, -, -, hk⟩
      exact hk.symm
  | succ n ih =>
    simp only [walk_succ_iff, matches_dot_iff hline, ih]
    constructor
    · rintro ⟨-, ⟨c, hc, rfl⟩, cs, rfl, hcs, rfl⟩
      exact ⟨c :: cs, rfl, by simp [standsAt, hc, hcs], by omega⟩
    · rintro ⟨cs, hlength, hcs, rfl⟩
      obtain ⟨c, cs, rfl⟩ := List.exists_cons_of_length_eq_add_one hlength
      rw [standsAt, Bool.and_eq_true, beq_iff_eq] at hcs
      exact ⟨i + 1, ⟨c, hcs.1, rfl⟩, cs, Nat.succ.inj hlength, hcs.2, by omega⟩

/-- A gap matches any text that is not empty. -/
theorem matches_gap_iff : Matches t gap i k ↔ ∃ cs, cs ≠ [] ∧ standsAt t cs i ∧ k = i + cs.length := by
  simp only [gap, matches_times_iff, walk_dots_iff hline]
  constructor
  · rintro ⟨n, hn, -, cs, rfl, hcs, hk⟩
    exact ⟨cs, List.length_pos_iff.mp hn, hcs, hk⟩
  · rintro ⟨cs, hne, hcs, hk⟩
    exact ⟨cs.length, List.length_pos_iff.mpr hne, by simp, cs, rfl, hcs, hk⟩

theorem chain_part_iff : Chain t (value.map part) i k ↔
    ∃ cs, Fills value cs ∧ standsAt t cs i ∧ k = i + cs.length := by
  induction value generalizing i with
  | nil =>
    simp only [List.map_nil, Chain, fills_nil_iff, exists_eq_left]
    simp [standsAt, eq_comm]
  | cons c value ih =>
    simp only [List.map_cons, Chain, ih]
    by_cases hstar : c = '*'
    · subst hstar
      rw [part, if_pos rfl]
      simp only [matches_gap_iff hline, fills_star_iff]
      constructor
      · rintro ⟨-, ⟨gap, hgap, hat, rfl⟩, rest, hrest, hat', rfl⟩
        refine ⟨gap ++ rest, ⟨gap, rest, hgap, hrest, rfl⟩, standsAt_append.mpr ⟨hat, hat'⟩, ?_⟩
        rw [List.length_append, Nat.add_assoc]
      · rintro ⟨-, ⟨gap, rest, hgap, hrest, rfl⟩, hat, rfl⟩
        obtain ⟨hat, hat'⟩ := standsAt_append.mp hat
        refine ⟨_, ⟨gap, hgap, hat, rfl⟩, rest, hrest, hat', ?_⟩
        rw [List.length_append, Nat.add_assoc]
    · rw [part, if_neg hstar]
      simp only [matches_text_iff, fills_keep_iff hstar]
      constructor
      · rintro ⟨-, ⟨hat, rfl⟩, rest, hrest, hat', rfl⟩
        refine ⟨c :: rest, ⟨rest, hrest, rfl⟩, ?_, ?_⟩
        · exact standsAt_append.mpr ⟨hat, hat'⟩
        · simp only [List.length_cons, List.length_nil]
          omega
      · rintro ⟨-, ⟨rest, hrest, rfl⟩, hat, rfl⟩
        rw [← List.singleton_append, standsAt_append] at hat
        obtain ⟨hat, hat'⟩ := hat
        refine ⟨_, ⟨hat, rfl⟩, rest, hrest, hat', ?_⟩
        simp only [List.length_cons, List.length_nil]
        omega

end

theorem standsAt_toArray_iff {text : List Char} : standsAt text.toArray cs i ↔ cs <+: text.drop i := by
  induction cs generalizing i with
  | nil => simp [standsAt]
  | cons c cs ih =>
    rw [standsAt, Bool.and_eq_true, beq_iff_eq, ih, List.getElem?_toArray, ← List.head?_drop, ← List.tail_drop]
    cases text.drop i with
    | nil => simp
    | cons d rest => simp [List.cons_prefix_cons, eq_comm]

/-- The text begins with one that the wildcard becomes. -/
def Begins (value text : List Char) : Prop := ∃ cs, Fills value cs ∧ cs <+: text

theorem isMatch_anchored_iff {text : String} (hline : '\n' ∉ text.toList) :
    (anchored value).isMatch text ↔ Begins value text.toList := by
  have hline' : '\n' ∉ text.toList.toArray := by simpa using hline
  simp only [isMatch_iff, anchored, matches_sequence_iff, Chain, matches_look_iff, Look.holds, beq_iff_eq,
    chain_part_iff hline', standsAt_toArray_iff]
  constructor
  · rintro ⟨-, -, -, -, ⟨rfl, rfl⟩, cs, hfills, hprefix, -⟩
    exact ⟨cs, hfills, hprefix⟩
  · rintro ⟨cs, hfills, hprefix⟩
    exact ⟨0, Nat.zero_le _, _, 0, ⟨rfl, rfl⟩, cs, hfills, hprefix, rfl⟩

theorem length_wildcard_stars (n : Nat) : (wildcard (List.replicate n '*')).length = 2 * n + 1 := by
  rw [wildcard, wildcardBody, List.flatMap_replicate, if_neg (by decide), if_pos rfl, List.length_cons,
    List.length_flatten, List.map_replicate, List.sum_replicate_nat, Nat.mul_comm]
  rfl

theorem not_hasRoom_stars (h : 60000 ≤ n) :
    ¬ Compiler.byLength.hasRoom (wildcard (List.replicate n '*')) := by
  intro hroom
  have hle : 96 * (wildcard (List.replicate n '*')).length ≤ 10485760 := of_decide_eq_true hroom
  rw [length_wildcard_stars] at hle
  omega

end Pattern

namespace Rule

open Pattern

/-- A rule with a wildcard of plain characters is refused for the size of its pattern alone, and then with the
reason of the library that compiles it. Otherwise it accepts the texts that begin with what the wildcard
becomes when its stars are filled, or all others. -/
theorem compile_plain (compiler : Compiler) (r : Rule)
    (hcondition : r.condition = .matches ∨ r.condition = .notMatches) (hplain : IsPlain r.value.toList) :
    (compiler.hasRoom (wildcard r.value.toList) →
      ∃ m, r.compile compiler = .ok ⟨r.id, r.cloud, r.action, r.field, m⟩ ∧
        ∀ text : String, '\n' ∉ text.toList →
          (r.condition = .matches → (m.accepts text ↔ Begins r.value.toList text.toList)) ∧
          (r.condition = .notMatches → (m.accepts text ↔ ¬ Begins r.value.toList text.toList))) ∧
    (¬ compiler.hasRoom (wildcard r.value.toList) →
      r.compile compiler = .error (.configuration ("rule " ++ r.id ++ " has an invalid pattern" ++
        (compiler.reason? (wildcard r.value.toList)).elim "" (": " ++ ·)))) := by
  have hread := compile?_wildcard compiler hplain
  refine ⟨fun hroom => ?_, fun hroom => ?_⟩
  · rw [if_pos hroom] at hread
    rcases hcondition with hc | hc
    · refine ⟨.matches (anchored r.value.toList), by simp [compile, matcher?, hc, hread], fun text hline => ?_⟩
      refine ⟨fun _ => isMatch_anchored_iff hline, fun hnot => ?_⟩
      rw [hc] at hnot
      cases hnot
    · refine ⟨.notMatches (anchored r.value.toList), by simp [compile, matcher?, hc, hread], fun text hline => ?_⟩
      refine ⟨fun hnot => ?_, fun _ => ?_⟩
      · rw [hc] at hnot
        cases hnot
      · rw [Matcher.accepts, Bool.not_eq_true', ← Bool.not_eq_true, isMatch_anchored_iff hline]
  · rw [if_neg hroom] at hread
    rcases hcondition with hc | hc <;> simp [compile, matcher?, hc, hread, refusal]

/-! A family with any size, as an author would write it, and a rule of nothing but stars. -/
namespace Family

def rule : Rule := ⟨"large", .aws, .allow, .matches, .name, "m5*.large"⟩

def stars (n : Nat) : Rule := ⟨"stars", .aws, .allow, .matches, .name, String.ofList (List.replicate n '*')⟩

end Family

/-- So many stars make too large a pattern. -/
theorem stars_refused : IsPlain (Family.stars 80000).value.toList ∧
    (Family.stars 80000).compile .byLength = .error (.configuration
      "rule stars has an invalid pattern: Compiled regex exceeds size limit of 10485760 bytes.") := by
  have hvalue : (Family.stars 80000).value.toList = List.replicate 80000 '*' := String.toList_ofList
  have hplain : IsPlain (List.replicate 80000 '*') := by
    intro c hc
    rw [List.eq_of_mem_replicate hc]
    decide
  have hmatcher : (Family.stars 80000).matcher? .byLength = none := by
    change (Compiler.byLength.compile? (wildcard (Family.stars 80000).value.toList)).map Matcher.matches = none
    rw [hvalue, compile?_wildcard .byLength hplain, if_neg (not_hasRoom_stars (by omega))]
    rfl
  refine ⟨hvalue ▸ hplain, ?_⟩
  rw [compile, hmatcher]
  rfl

theorem compile_plain_family : IsPlain Family.rule.value.toList ∧
    ∃ m, Family.rule.compile .byLength = .ok ⟨"large", .aws, .allow, .name, m⟩ ∧
      m.accepts "m5a.large" ∧ ¬ m.accepts "xm5a.large" := by
  have hsigns : Family.rule.value.toList.all (fun c => c ∉ signs) := by decide
  have hplain : IsPlain Family.rule.value.toList :=
    fun c hc => of_decide_eq_true (List.all_eq_true.mp hsigns c hc)
  obtain ⟨m, hm, haccepts⟩ := (compile_plain .byLength Family.rule (Or.inl rfl) hplain).1 (by decide)
  have hvalue : Family.rule.value.toList = 'm' :: '5' :: '*' :: ".large".toList := by decide
  refine ⟨hplain, m, hm, ?_, ?_⟩
  · rw [(haccepts "m5a.large" (by decide)).1 rfl, hvalue]
    have hlarge : Fills ".large".toList ".large".toList := fills_self (by decide)
    have hgap : Fills ('*' :: ".large".toList) (['a'] ++ ".large".toList) := .star (by decide) hlarge
    exact ⟨_, .keep (by decide) (.keep (by decide) hgap), by decide⟩
  · rw [(haccepts "xm5a.large" (by decide)).1 rfl, hvalue]
    rintro ⟨cs, hfills, hprefix⟩
    obtain ⟨rest, -, rfl⟩ := (fills_keep_iff (by decide)).mp hfills
    simp at hprefix

end Rule

end FleetSizing
