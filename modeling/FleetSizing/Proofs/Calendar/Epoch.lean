import FleetSizing.Calendar.Instant

/-! Instants by the seconds since 1970-01-01. -/
namespace FleetSizing.Instant

variable {t now : Instant} {s : Int}

/-- The instant at the start of its second. -/
def wholeSecond (t : Instant) : Instant :=
  { t with time := { t.time with nano := 0, nano_lt := Nat.zero_lt_of_lt t.time.nano_lt } }

theorem seconds_wholeSecond : t.wholeSecond.seconds = t.seconds := rfl

theorem wholeSecond_eq_self_iff : t.wholeSecond = t ↔ t.time.nano = 0 := by
  constructor
  · exact fun h => congrArg (·.time.nano) h.symm
  · intro h
    obtain ⟨day, minute, second, nano, _, _, _⟩ := t
    obtain rfl : nano = 0 := h
    rfl

/-- Seconds are divided into days and times of day, of which the days have to be in range. -/
theorem ofSeconds?_seconds (t : Instant) :
    ofSeconds? t.seconds = if t.day.inRange then some t.wholeSecond else none := by
  have hminute := t.time.minute_lt
  have hsecond := t.time.second_lt
  have hday : Int.fdiv t.seconds 86400 = t.day.number := by
    rw [seconds, Int.fdiv_eq_ediv_of_nonneg _ (by decide)]
    omega
  have hrest : (Int.fmod t.seconds 86400).toNat = t.time.minute * 60 + t.time.second := by
    rw [seconds, Int.fmod_eq_emod_of_nonneg _ (by decide)]
    omega
  have hminute' : (t.time.minute * 60 + t.time.second) / 60 % 1440 = t.time.minute := by omega
  have hsecond' : (t.time.minute * 60 + t.time.second) % 60 = t.time.second := by omega
  simp [ofSeconds?, hday, hrest, TimeOfDay.ofMinute, hminute', hsecond', wholeSecond]

theorem exists_seconds (s : Int) : ∃ t : Instant, t.seconds = s := by
  have hminute : (s % 86400 / 60).toNat < 1440 := by omega
  have hsecond : (s % 60).toNat < 60 := by omega
  refine ⟨⟨⟨s / 86400⟩, ⟨(s % 86400 / 60).toNat, (s % 60).toNat, 0, hminute, hsecond, by decide⟩⟩, ?_⟩
  show s / 86400 * 86400 + ((s % 86400 / 60).toNat : Int) * 60 + (s % 60).toNat = s
  omega

/-- Seconds stand for the instant at their start, if its day is in range. -/
theorem ofSeconds?_eq_some_iff :
    ofSeconds? s = some t ↔ t.day.inRange ∧ t.seconds = s ∧ t.time.nano = 0 := by
  constructor
  · intro h
    obtain ⟨u, rfl⟩ := exists_seconds s
    rw [ofSeconds?_seconds] at h
    split at h
    · rename_i hrange
      obtain rfl := Option.some.inj h
      exact ⟨hrange, seconds_wholeSecond, rfl⟩
    · cases h
  · rintro ⟨hrange, rfl, hnano⟩
    rw [ofSeconds?_seconds, if_pos hrange, wholeSecond_eq_self_iff.mpr hnano]

theorem ofSeconds?_eq_none_iff :
    ofSeconds? s = none ↔ ∀ t : Instant, t.seconds = s → ¬ t.day.inRange := by
  constructor
  · rintro h t rfl hrange
    rw [ofSeconds?_seconds, if_pos hrange] at h
    cases h
  · intro h
    obtain ⟨t, rfl⟩ := exists_seconds s
    rw [ofSeconds?_seconds, if_neg (h t rfl)]

/-- The start of a second is no later than an instant if its second is not. -/
theorem le_iff_of_nano (h : t.time.nano = 0) : t.le now ↔ t.seconds ≤ now.seconds := by
  simp only [le, h, Nat.zero_le, decide_true, Bool.and_true, Bool.or_eq_true, decide_eq_true_iff, beq_iff_eq]
  omega

end FleetSizing.Instant
