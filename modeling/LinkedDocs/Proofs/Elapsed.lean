import LinkedDocs.Proofs.Dates

/-!
# Seconds between date-times

Every date-time has a count of whole seconds, in which a leap second is counted
with the second before it, and the order of date-times is the order of these counts
and then of the fractions. Moving a date-time on adds to its count, and leaves a
leap second at once. The span between two date-times counts a leap second that
lies before its end; it is one second too long where the end itself lies in one.

* `le_iff`: the order by counts.
* `addSeconds?_eq_some_iff`, `exists_addSeconds?`: so many seconds later.
* `nanosUntil_cases`: the span against the counts.
* `Overshoots`, `add_le_of_le_secondsUntil`: where the span leads.
* `decadeStart_le`, `overshoots_decadeStart_iff`: the decade of a date-time.
-/

namespace LinkedDocs.Calendar.DateTime

/-! ## Counts of seconds -/

/-- The whole seconds up to a date-time; a leap second has the count of the second before it. -/
def elapsed (t : DateTime) : Int := t.day * secondsPerDay + t.second

/-- The count past the last second of the calendar. -/
def lastElapsed : Int := (lastDay + 1) * secondsPerDay

/-- No date-time of the calendar lies behind its end. -/
theorem elapsed_lt (t : DateTime) : t.elapsed < lastElapsed := by
  have hday := t.day_mem.2
  have hsecond : t.second < 86400 := t.second_lt
  simp only [elapsed, lastElapsed, secondsPerDay]
  omega

/-- The earlier date-time has the smaller count, or the same and no greater fraction. -/
theorem le_iff {s t : DateTime} :
    s ≤ t ↔ s.elapsed < t.elapsed ∨ s.elapsed = t.elapsed ∧ s.nanos ≤ t.nanos := by
  have hs : s.second < 86400 := s.second_lt
  have ht : t.second < 86400 := t.second_lt
  have horder : s ≤ t ↔ s.day < t.day ∨ s.day = t.day ∧ (s.second < t.second ∨
    s.second = t.second ∧ s.nanos ≤ t.nanos) := Iff.rfl
  rw [horder]
  simp only [elapsed, secondsPerDay]
  omega

theorem le_refl (t : DateTime) : t ≤ t := le_iff.2 (.inr ⟨rfl, Nat.le_refl _⟩)

/-! ## Moving a date-time on -/

/-- There is at most one date-time of a day, a second and a fraction. -/
theorem ofParts?_eq_some_iff {day : Int} {second nanos : Nat} {t : DateTime} :
    ofParts? day second nanos = some t ↔ t.day = day ∧ t.second = second ∧ t.nanos = nanos := by
  constructor
  · intro h
    rw [ofParts?] at h
    split at h
    · cases h
      exact ⟨rfl, rfl, rfl⟩
    · cases h
  · rintro ⟨rfl, rfl, rfl⟩
    exact dif_pos ⟨t.day_mem, t.second_lt, t.nanos_lt, t.leap_second⟩

/-- A leap second is told by a fraction of a second or more. -/
theorem isLeapSecond_iff {t : DateTime} : t.isLeapSecond = true ↔ 1000000000 ≤ t.nanos :=
  decide_eq_true_iff

theorem fraction_lt (t : DateTime) : t.fraction < nanosPerSecond := Nat.mod_lt _ (by decide)

/-- A leap second is one second beyond its fraction, another second is its fraction. -/
theorem fraction_eq (t : DateTime) :
    t.fraction = if t.isLeapSecond then t.nanos - nanosPerSecond else t.nanos := by
  have hlt : t.nanos < 2 * 1000000000 := t.nanos_lt
  simp only [isLeapSecond_iff]
  unfold fraction nanosPerSecond
  split <;> omega

/-- Some seconds later the count is greater by so many, and the fraction is the same. -/
theorem addSeconds?_eq_some_iff {t r : DateTime} {n : Nat} (hn : 0 < n) :
    t.addSeconds? n = some r ↔ r.elapsed = t.elapsed + n ∧ r.nanos = t.fraction := by
  have hr : r.second < 86400 := r.second_lt
  rw [addSeconds?, if_neg (Nat.ne_of_gt hn), ← fraction_eq, ofParts?_eq_some_iff]
  simp only [elapsed, secondsPerDay]
  omega

/-- A date-time can be moved on within the calendar. -/
theorem exists_addSeconds? {t : DateTime} {n : Nat} (hn : 0 < n) (h : t.elapsed + n < lastElapsed) :
    ∃ r, t.addSeconds? n = some r := by
  have hday := t.day_mem
  have hfraction := t.fraction_lt
  simp only [elapsed, lastElapsed, secondsPerDay] at h
  rw [addSeconds?, if_neg (Nat.ne_of_gt hn), ← fraction_eq]
  refine ⟨_, dif_pos ⟨⟨?_, ?_⟩, Nat.mod_lt _ (by decide), by omega, fun hleap => by omega⟩⟩
  · exact Int.le_trans hday.1 (Int.le_add_of_nonneg_right (Int.natCast_nonneg _))
  · simp only [secondsPerDay]
    omega

/-! ## Spans -/

/--
The end of the span lies in a leap second that the span takes for a second more:
the start, moved on by all of the span, comes to lie past the end.
-/
def Overshoots (start finish : DateTime) : Prop :=
  finish.isLeapSecond = true ∧ start.fraction ≤ finish.fraction ∧
    (start.second < finish.second ∨ start.second = finish.second ∧ start.isLeapSecond = false)

instance (start finish : DateTime) : Decidable (start.Overshoots finish) :=
  inferInstanceAs (Decidable (_ ∧ _ ∧ _))

variable {start finish : DateTime}

/-- The span holds `n` seconds if its nanoseconds do. -/
theorem le_secondsUntil_iff {n : Nat} (hn : 0 < n) :
    (n : Int) ≤ start.secondsUntil finish ↔ n * 1000000000 ≤ start.nanosUntil finish := by
  rw [secondsUntil, show (nanosPerSecond : Int) = 1000000000 from rfl, Int.tdiv_eq_ediv,
    show Int.sign 1000000000 = 1 from rfl]
  omega

/--
The span is the difference of the counts and of the fractions. It is one second more
where the start lies in a leap second, earlier in the day, and one less where the
end lies in one, earlier in the day.
-/
theorem nanosUntil_cases (start finish : DateTime) :
    ∃ passed : Int, start.nanosUntil finish =
        (finish.elapsed - start.elapsed + passed) * 1000000000 +
          ((finish.nanos : Int) - start.nanos) ∧
      (passed = 1 ∧ start.second < finish.second ∧ 1000000000 ≤ start.nanos ∨
        passed = -1 ∧ finish.second < start.second ∧ 1000000000 ≤ finish.nanos ∨
        passed = 0 ∧ (start.second < finish.second → start.nanos < 1000000000) ∧
          (finish.second < start.second → finish.nanos < 1000000000)) := by
  have hcounts : ∀ passed : Int,
      (finish.day - start.day) * secondsPerDay + ((finish.second : Int) - start.second) + passed =
        finish.elapsed - start.elapsed + passed := by
    intro passed
    simp only [elapsed, secondsPerDay]
    omega
  unfold nanosUntil
  simp only [isLeapSecond_iff]
  rw [show (nanosPerSecond : Int) = 1000000000 from rfl, hcounts]
  refine ⟨_, rfl, ?_⟩
  split
  · exact .inl ⟨rfl, ‹_›⟩
  · split
    · exact .inr (.inl ⟨rfl, ‹_›⟩)
    · omega

/-- Backwards there is no span. -/
theorem secondsUntil_nonpos (h : finish ≤ start) : start.secondsUntil finish ≤ 0 := by
  have hfinish : finish.nanos < 2 * 1000000000 := finish.nanos_lt
  have hsecond : finish.second < 86400 := finish.second_lt
  rw [le_iff] at h
  refine Int.not_lt.1 fun hpos => ?_
  have hone := (le_secondsUntil_iff Nat.one_pos).1
    (show ((1 : Nat) : Int) ≤ start.secondsUntil finish by omega)
  obtain ⟨passed, heq, hpassed⟩ := nanosUntil_cases start finish
  -- A second is added only for an end that is later in the day, and so on an earlier day.
  simp only [elapsed, secondsPerDay] at h heq
  omega

/-- Moved on by seconds of a span that does not overshoot, the start does not come past the end. -/
theorem add_le_of_le_secondsUntil {n : Nat} (hn : 0 < n) (hclear : ¬ start.Overshoots finish)
    (hspan : (n : Int) ≤ start.secondsUntil finish) :
    start.elapsed + n < finish.elapsed ∨
      start.elapsed + n = finish.elapsed ∧ start.fraction ≤ finish.nanos := by
  have hstart : start.nanos < 2 * 1000000000 := start.nanos_lt
  have hfinish : finish.nanos < 2 * 1000000000 := finish.nanos_lt
  obtain ⟨passed, heq, hpassed⟩ := nanosUntil_cases start finish
  rw [le_secondsUntil_iff hn, heq] at hspan
  simp only [Overshoots, fraction, ← Bool.not_eq_true, isLeapSecond_iff,
    nanosPerSecond] at hclear ⊢
  omega

/-- A span that overshoots reaches the second after the end. -/
theorem le_secondsUntil_iff_of_overshoots {n : Nat} (hn : 0 < n) (h : start.Overshoots finish) :
    (n : Int) ≤ start.secondsUntil finish ↔ start.elapsed + n ≤ finish.elapsed + 1 := by
  have hstart : start.nanos < 2 * 1000000000 := start.nanos_lt
  have hfinish : finish.nanos < 2 * 1000000000 := finish.nanos_lt
  obtain ⟨passed, heq, hpassed⟩ := nanosUntil_cases start finish
  rw [le_secondsUntil_iff hn, heq]
  simp only [Overshoots, fraction, ← Bool.not_eq_true, isLeapSecond_iff, nanosPerSecond] at h
  omega

/-- A number of 64 bits holds every span. -/
theorem secondsUntil_lt (start finish : DateTime) :
    (start.secondsUntil finish).toNat + 1 < UInt64.size := by
  have hnanos : finish.nanos < 2 * 1000000000 := finish.nanos_lt
  have hsecond : finish.second < 86400 := finish.second_lt
  have hfirst : -95746130 ≤ start.day := start.day_mem.1
  have hlast : finish.day ≤ 95745398 := finish.day_mem.2
  refine Nat.lt_of_not_le fun hge => ?_
  have hspan := (le_secondsUntil_iff (n := UInt64.size - 1) (by decide)).1
    (show _ ≤ start.secondsUntil finish by simp only [UInt64.size] at hge ⊢; omega)
  obtain ⟨passed, heq, hpassed⟩ := nanosUntil_cases start finish
  simp only [elapsed, secondsPerDay] at heq
  simp only [UInt64.size] at hspan
  omega

/-! ## Decades -/

/-- A decade begins at a midnight before its days, or the calendar begins within it. -/
theorem decadeStart_cases (t : DateTime) :
    t.decadeStart = t ∨
      t.decadeStart.day ≤ t.day ∧ t.decadeStart.second = 0 ∧ t.decadeStart.nanos = 0 := by
  have hyear : daysBeforeYear t.date.year ≤ t.day := by
    obtain ⟨i, d, -, -, hdate, -⟩ := ofDayNumber_eq t.day
    rw [date, hdate]
    exact (yearOfDay_spec t.day).1
  have hfirst : daysBeforeYear (t.date.year - t.date.year % 10) ≤ daysBeforeYear t.date.year :=
    daysBeforeYear_mono (by omega)
  rw [show t.decadeStart =
    (ofParts? (daysBeforeYear (t.date.year - t.date.year % 10)) 0 0).getD t from rfl]
  cases hr : ofParts? (daysBeforeYear (t.date.year - t.date.year % 10)) 0 0 with
  | none => exact .inl rfl
  | some r =>
    obtain ⟨hday, hsecond, hnanos⟩ := ofParts?_eq_some_iff.1 hr
    refine .inr ⟨?_, hsecond, hnanos⟩
    rw [Option.getD_some, hday]
    exact Int.le_trans hfirst hyear

/-- A decade begins at most at its date-times. -/
theorem decadeStart_le (t : DateTime) : t.decadeStart ≤ t := by
  rcases t.decadeStart_cases with heq | ⟨hday, hsecond, hnanos⟩
  · rw [heq]
    exact le_refl t
  · rw [le_iff, elapsed, elapsed, hsecond, hnanos]
    simp only [secondsPerDay]
    omega

/-- From the start of the decade just the leap seconds are overshot. -/
theorem overshoots_decadeStart_iff (t : DateTime) :
    t.decadeStart.Overshoots t ↔ t.isLeapSecond = true ∧ t.decadeStart ≠ t := by
  constructor
  · rintro ⟨hleap, -, hsecond⟩
    refine ⟨hleap, fun heq => ?_⟩
    rw [heq, hleap] at hsecond
    simp at hsecond
  · rintro ⟨hleap, hne⟩
    obtain ⟨-, hsecond, hnanos⟩ := t.decadeStart_cases.resolve_left hne
    have hlast := t.leap_second (isLeapSecond_iff.1 hleap)
    refine ⟨hleap, ?_, .inl (by omega)⟩
    rw [fraction, hnanos]
    exact Nat.zero_le _

end LinkedDocs.Calendar.DateTime
