import LinkedDocs.Generator
import LinkedDocs.Proofs.Elapsed
import LinkedDocs.Proofs.Faults
import LinkedDocs.Proofs.TakenWords

/-!
# Dates that are drawn lie in their range

A date-time that is drawn between two others lies between them, whole seconds after
the first, and the draw never leaves the calendar. There is one exception: if the
span overshoots, which takes an end in a leap second, some words lead past the end.
The dates of main documents lie in the decade of the reference time, up to it, with
the same exception.

* `moved_between`: each number of seconds of the span.
* `dateTimeBetween_of_le`, `dateTimeBetween_outcome`: what is drawn.
* `between_always_iff`: the exception is the only one.
* `yields_mainRecord_date`, `avoids_mainRecord`: main documents.
-/

namespace LinkedDocs

open Calendar LinkedDocs.Random LinkedDocs.Random.Draw

/-- Whole seconds after the start and not after the end. -/
structure Calendar.DateTime.Between (start finish t : DateTime) : Prop where
  seconds : ∃ n, start.addSeconds? n = some t
  start_le : start ≤ t
  le_finish : t ≤ finish

namespace Sample

variable {start finish : DateTime}

/-! ## Moving by seconds of the span -/

/-- Moved on by some of the seconds of a span that does not overshoot, the start is in the range. -/
theorem moved_between (hclear : ¬ start.Overshoots finish) {n : Nat} (hn : 0 < n)
    (hspan : (n : Int) ≤ start.secondsUntil finish) :
    ∃ t, start.addSeconds? n = some t ∧ start.Between finish t := by
  have hbefore := DateTime.add_le_of_le_secondsUntil hn hclear hspan
  -- What does not come past the end does not leave the calendar either.
  have hlast := finish.elapsed_lt
  obtain ⟨t, ht⟩ := DateTime.exists_addSeconds? (t := start) hn (by omega)
  obtain ⟨helapsed, hnanos⟩ := (DateTime.addSeconds?_eq_some_iff hn).1 ht
  refine ⟨t, ht, ⟨n, ht⟩, DateTime.le_iff.2 (.inl (by omega)), DateTime.le_iff.2 ?_⟩
  rw [helapsed, hnanos]
  exact hbefore

/-- The number of seconds that leads past the end, or past the calendar. -/
theorem moved_past (h : start.Overshoots finish) (hle : start ≤ finish) :
    ∃ n : Nat, 0 < n ∧ (n : Int) ≤ start.secondsUntil finish ∧
      ∀ t, start.addSeconds? n = some t → ¬ t ≤ finish := by
  have horder := DateTime.le_iff.1 hle
  have hpos : 0 < (finish.elapsed - start.elapsed + 1).toNat := by omega
  refine ⟨_, hpos, (DateTime.le_secondsUntil_iff_of_overshoots hpos h).2 (by omega), ?_⟩
  intro t ht hpast
  have helapsed := ((DateTime.addSeconds?_eq_some_iff hpos).1 ht).1
  rw [DateTime.le_iff] at hpast
  omega

/-! ## What is drawn -/

section

variable {σ : Type} [WordStream σ]

/-- Without a span nothing is drawn. -/
theorem dateTimeBetween_of_nonpos (h : start.secondsUntil finish ≤ 0) :
    (dateTimeBetween start finish : Draw σ DateTime) = pure start :=
  if_pos h

/-- From a later date-time to an earlier one the start is returned, and no word is taken. -/
theorem dateTimeBetween_of_le (h : finish ≤ start) (s : Source σ) :
    dateTimeBetween start finish s = .ok (start, s) := by
  rw [dateTimeBetween_of_nonpos (DateTime.secondsUntil_nonpos h)]
  rfl

/-- Along a span a number of its seconds is drawn, none included. -/
theorem dateTimeBetween_of_pos (h : 0 < start.secondsUntil finish) :
    (dateTimeBetween start finish : Draw σ DateTime) =
      within64 0 (start.secondsUntil finish).toNat >>= fun n =>
        match start.addSeconds? n with
        | some t => pure t
        | none => stop .dateOverflow :=
  if_neg (Int.not_le.2 h)

/-- Every number of seconds of the span that is drawn leads to the range. -/
theorem yields_seconds (hle : start ≤ finish) (hclear : ¬ start.Overshoots finish) :
    Yields (within64 0 (start.secondsUntil finish).toNat : Draw σ Nat) fun n =>
      ∃ t, start.addSeconds? n = some t ∧ start.Between finish t := by
  refine (yields_within64 (DateTime.secondsUntil_lt start finish)).mono fun n hn => ?_
  rcases Nat.eq_zero_or_pos n with rfl | hpos
  · exact ⟨start, rfl, ⟨0, rfl⟩, DateTime.le_refl start, hle⟩
  · exact moved_between hclear hpos (by omega)

/-- The only fault is to run out of words, and four words are enough. -/
theorem dateTimeBetween_outcome (hle : start ≤ finish) (hclear : ¬ start.Overshoots finish)
    (s : Source σ) :
    (∃ t u, dateTimeBetween start finish s = .ok (t, u) ∧ start.Between finish t) ∨
      dateTimeBetween start finish s = .error .exhausted ∧ s.remaining < 4 := by
  rcases Int.lt_or_le 0 (start.secondsUntil finish) with hpos | hnonpos
  · rw [dateTimeBetween_of_pos hpos, bind_eq]
    rcases hdrawn : (within64 0 (start.secondsUntil finish).toNat : Draw σ Nat) s with
      fault | ⟨n, u⟩
    · right
      constructor
      · by_cases hfault : fault = .exhausted
        · rw [hfault]
          rfl
        · exact absurd hdrawn (avoids_within64 hfault (Nat.zero_le _) s)
      · refine Nat.lt_of_not_le fun henough => ?_
        obtain ⟨n, u, hok, -⟩ := bounded_uniform bounded_doubleWord (Nat.zero_le _) s henough
        rw [← within64, hdrawn] at hok
        cases hok
    · left
      obtain ⟨t, ht, hbetween⟩ := yields_seconds hle hclear s n u hdrawn
      refine ⟨t, u, ?_, hbetween⟩
      show (match start.addSeconds? n with
        | some t => pure t
        | none => stop .dateOverflow : Draw σ DateTime) u = _
      rw [ht]
      rfl
  · rw [dateTimeBetween_of_nonpos hnonpos]
    exact .inl ⟨start, s, rfl, ⟨0, rfl⟩, DateTime.le_refl start, hle⟩

/-- Clear of the leap second, every date that is drawn lies between the bounds. -/
theorem yields_dateTimeBetween (hle : start ≤ finish) (hclear : ¬ start.Overshoots finish) :
    Yields (dateTimeBetween start finish : Draw σ DateTime) (start.Between finish) := by
  intro s t u h
  rcases dateTimeBetween_outcome hle hclear s with ⟨t', u', hok, hbetween⟩ | ⟨hfault, -⟩
  · rw [h] at hok
    cases hok
    exact hbetween
  · rw [h] at hfault
    cases hfault

/-- Clear of the leap second, no date is drawn only where the words run out. -/
theorem avoids_dateTimeBetween (hle : start ≤ finish) (hclear : ¬ start.Overshoots finish)
    {fault : DrawFault} (hfault : fault ≠ .exhausted) :
    Avoids (dateTimeBetween start finish : Draw σ DateTime) fault := by
  intro s h
  rcases dateTimeBetween_outcome hle hclear s with ⟨t, u, hok, -⟩ | ⟨hdry, -⟩
  · rw [h] at hok
    cases hok
  · rw [h] at hdry
    cases hdry
    exact hfault rfl

end

/-- Where the span overshoots, some words lead past the end or past the calendar. -/
theorem exists_past (h : start.Overshoots finish) (hle : start ≤ finish) :
    ∃ s : Source Script, 4 ≤ s.remaining ∧
      ∀ t u, dateTimeBetween start finish s = .ok (t, u) → ¬ t ≤ finish := by
  obtain ⟨n, hn, hspan, hpast⟩ := moved_past h hle
  have hcan : CanYield (within64 0 (start.secondsUntil finish).toNat : Draw Script Nat) n :=
    canYield_uniform (fun _ => canYield_doubleWord) (Nat.zero_le n) (by omega)
      (DateTime.secondsUntil_lt start finish)
  obtain ⟨ws, hreads⟩ := hcan
  obtain ⟨s, v, htakes⟩ := exists_takes ws
  -- The same words are drawn where more are left than are needed.
  refine ⟨s.allow (4 + s.drawn), ?_, fun t u hok => ?_⟩
  · simp only [Source.allow, Source.remaining]
    omega
  · rw [dateTimeBetween_of_pos (by omega)] at hok
    obtain ⟨m, w, hdrawn, hmoved⟩ := Draw.bind_ok_iff.1 hok
    rw [hreads _ _ (htakes.allow (4 + s.drawn))] at hdrawn
    cases hdrawn
    cases ht : start.addSeconds? n with
    | none =>
      rw [ht] at hmoved
      cases hmoved
    | some t' =>
      rw [ht] at hmoved
      cases hmoved
      exact hpast t ht

/-- All words lead to a date-time of the range exactly if the span does not overshoot. -/
theorem between_always_iff (hle : start ≤ finish) :
    (∀ s : Source Script, 4 ≤ s.remaining →
      ∃ t u, dateTimeBetween start finish s = .ok (t, u) ∧ start.Between finish t) ↔
    ¬ start.Overshoots finish := by
  constructor
  · intro hall h
    obtain ⟨s, hwords, hpast⟩ := exists_past h hle
    obtain ⟨t, u, hok, hbetween⟩ := hall s hwords
    exact hpast t u hok hbetween.le_finish
  · intro hclear s hwords
    rcases dateTimeBetween_outcome hle hclear s with hok | ⟨-, hfew⟩
    · exact hok
    · omega

end Sample

/-! ## Main documents -/

namespace Generator

variable {σ : Type} [WordStream σ] [Lexicon σ] {reference : DateTime} {fault : DrawFault}

/-- A payload avoids a fault that its company name avoids, unless the words run out. -/
theorem avoids_nested (hname : Avoids (Lexicon.companyName : Draw σ String) fault)
    (h : fault ≠ .exhausted) : Avoids (nested : Draw σ Nested) fault :=
  (Sample.avoids_handle h _).bind (yields_true _) fun _ _ =>
    (Sample.avoids_decimal h (by decide)).bind (yields_true _) fun _ _ => hname.map_pure _

/-- A main document has no fault of its date, if the company names have none of this kind. -/
theorem avoids_mainRecord (hname : Avoids (Lexicon.companyName : Draw σ String) .dateOverflow)
    (hclear : ¬ reference.decadeStart.Overshoots reference) (index : Nat) :
    Avoids (mainRecord reference index : Draw σ MainRecord) .dateOverflow := by
  have htext : ∀ limit vocabulary,
      Avoids (Prose.text limit vocabulary : Draw σ String) .dateOverflow :=
    Prose.avoids_text (by decide) (by decide)
  have hdate : Avoids (Sample.dateTimeBetween reference.decadeStart reference : Draw σ DateTime)
      .dateOverflow :=
    Sample.avoids_dateTimeBetween reference.decadeStart_le hclear (by decide)
  -- Behind the date no other draw has anything to do with the calendar.
  refine hdate.bind (yields_true _) fun date _ => ?_
  refine (avoids_within (by decide) (by decide)).bind (yields_true _) fun roll _ => ?_
  refine (avoids_nested hname (by decide)).bind (yields_true _) fun nested _ => ?_
  refine (htext _ _).bind (yields_true _) fun nonSearchable _ => ?_
  refine (htext _ _).bind (yields_true _) fun text _ => ?_
  refine (Prose.avoids_sentences (by decide) (by decide) _ _).bind (yields_true _) fun items _ => ?_
  exact (htext _ _).map_pure _

/-- The date of a main document is one of its decade, up to the reference time. -/
theorem yields_mainRecord_date (hclear : ¬ reference.decadeStart.Overshoots reference)
    (index : Nat) :
    Yields (mainRecord reference index : Draw σ MainRecord) fun r =>
      ∃ date, reference.decadeStart.Between reference date ∧ r.date = date.toRow :=
  (Sample.yields_dateTimeBetween reference.decadeStart_le hclear).bind fun date hdate =>
    (yields_true _).bind fun _ _ => (yields_true _).bind fun _ _ => (yields_true _).bind fun _ _ =>
    (yields_true _).bind fun _ _ => (yields_true _).bind fun _ _ => (yields_true _).bind fun _ _ =>
    yields_pure ⟨date, hdate, rfl⟩

end Generator

/-! ## All dates -/

/--
Dates that are drawn. From a later date-time to an earlier one it is the start. To
a later one it lies in the range, whole seconds after the start, unless words run
out. The decade of a reference time begins at most there, and the date of a main
document lies between the two and never past the calendar. Both hold but for an
end in a leap second: for the first where the span overshoots, for the second
where the decade has a start of its own.
-/
theorem dates_stay_in_range {σ : Type} [WordStream σ] [Lexicon σ]
    (hname : Avoids (Lexicon.companyName : Draw σ String) .dateOverflow) :
    (∀ start finish : DateTime, finish ≤ start → ∀ s : Source σ,
      Sample.dateTimeBetween start finish s = .ok (start, s)) ∧
    (∀ start finish : DateTime, start ≤ finish → ¬ start.Overshoots finish → ∀ s : Source σ,
      (∃ t u, Sample.dateTimeBetween start finish s = .ok (t, u) ∧ start.Between finish t) ∨
        Sample.dateTimeBetween start finish s = .error .exhausted ∧ s.remaining < 4) ∧
    ∀ reference : DateTime, reference.decadeStart ≤ reference ∧
      (reference.isLeapSecond = false ∨ reference.decadeStart = reference → ∀ index : Nat,
        Avoids (Generator.mainRecord reference index : Draw σ MainRecord) .dateOverflow ∧
          Yields (Generator.mainRecord reference index : Draw σ MainRecord) fun r =>
            ∃ date, reference.decadeStart.Between reference date ∧ r.date = date.toRow) := by
  refine ⟨fun start finish hle s => Sample.dateTimeBetween_of_le hle s,
    fun start finish hle hclear s => Sample.dateTimeBetween_outcome hle hclear s,
    fun reference => ⟨reference.decadeStart_le, fun hleap index => ?_⟩⟩
  have hclear : ¬ reference.decadeStart.Overshoots reference := by
    rw [DateTime.overshoots_decadeStart_iff]
    rintro ⟨hleap', hne⟩
    rcases hleap with hleap | heq
    · rw [hleap'] at hleap
      cases hleap
    · exact hne heq
  exact ⟨Generator.avoids_mainRecord hname hclear index,
    Generator.yields_mainRecord_date hclear index⟩

/-- Half a second before the end of the year 2016 by the clock. -/
def yearEnd : DateTime := ⟨736328, 86399, 500000000, by decide, by decide, by decide, by decide⟩

/-- A second later, in the leap second that the year ends with. -/
def yearEndLeap : DateTime :=
  ⟨736328, 86399, 1500000000, by decide, by decide, by decide, by decide⟩

/-- Words that draw the upper half of a span. -/
def upperHalf : Source Script where
  stream := { words := #[0, 2147483648] }
  limit := 4

/-- Dates up to the end of a year with a leap second: an empty span, and documents in range. -/
theorem dates_up_to_year_end :
    Sample.dateTimeBetween yearEndLeap yearEnd upperHalf = .ok (yearEndLeap, upperHalf) ∧
    (∃ t u, Sample.dateTimeBetween yearEnd.decadeStart yearEnd upperHalf = .ok (t, u) ∧
      yearEnd.decadeStart.Between yearEnd t) ∧
    Avoids (Generator.mainRecord yearEnd 0 : Draw Script MainRecord) .dateOverflow ∧
    Yields (Generator.mainRecord yearEnd 0 : Draw Script MainRecord) fun r =>
      ∃ date, yearEnd.decadeStart.Between yearEnd date ∧ r.date = date.toRow := by
  obtain ⟨hback, hrange, hmain⟩ :=
    dates_stay_in_range (σ := Script) (Sample.avoids_joinedNames (by decide))
  have hclear : ¬ yearEnd.decadeStart.Overshoots yearEnd := by decide
  refine ⟨hback _ _ (by decide) _, ?_, (hmain yearEnd).2 (.inl (by decide)) 0⟩
  exact (hrange _ _ (hmain yearEnd).1 hclear upperHalf).resolve_right fun h =>
    absurd h.2 (by decide)

/--
The span from the end of a year to its leap second leads into the next year,
and on the last day of the calendar it leads out of it.
-/
theorem leap_second_overshot :
    (yearEnd ≤ yearEndLeap ∧
      ∃ t u, Sample.dateTimeBetween yearEnd yearEndLeap upperHalf = .ok (t, u) ∧
        ¬ t ≤ yearEndLeap ∧ t.toRow = "2017-01-01 00:00:00") ∧
    ∃ start finish : DateTime, start ≤ finish ∧
      Sample.dateTimeBetween start finish upperHalf = .error .dateOverflow := by
  constructor
  · have hok : (Sample.dateTimeBetween yearEnd yearEndLeap upperHalf).toOption.any
        (fun drawn => ¬ drawn.1 ≤ yearEndLeap ∧ drawn.1.toRow = "2017-01-01 00:00:00") = true := by
      decide +kernel
    obtain ⟨⟨t, u⟩, hdrawn, hpast⟩ := exists_ok_of_any hok
    exact ⟨by decide, t, u, hdrawn, of_decide_eq_true hpast⟩
  · refine ⟨⟨lastDay, 86399, 500000000, by decide, by decide, by decide, by decide⟩,
      ⟨lastDay, 86399, 1500000000, by decide, by decide, by decide, by decide⟩, by decide, ?_⟩
    rfl

end LinkedDocs
