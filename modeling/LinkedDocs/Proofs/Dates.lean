import LinkedDocs.Calendar.Printer
import LinkedDocs.Calendar.Reader
import LinkedDocs.Proofs.Work
import Mathlib.Algebra.GroupWithZero.Nat

/-!
# Dates are read as they were written

A day determines a date of the calendar, which determines the day. What the
`date` column holds of a date-time, of any year and in a leap second, is read
without a fault; an option value also has the fraction, and is read as the
date-time that it was.

* `yearOfDay_spec`: the year of a day, by the days before it and the next.
* `dayNumber_ofDayNumber`, `exists_ofDayNumber`: days and dates.
* `read_toRow`: the text of the `date` column.
* `read_toIso`: the text of an option value.
-/

namespace LinkedDocs.Calendar

open Text

/-! ## Years -/

/-- The year of a day begins at most that day, and the next year after it. -/
theorem yearOfDay_spec (day : Int) :
    daysBeforeYear (yearOfDay day) ≤ day ∧ day < daysBeforeYear (yearOfDay day + 1) := by
  obtain ⟨guess, hguess⟩ : ∃ guess, guess = day * 400 / 146097 + 1 := ⟨_, rfl⟩
  -- The days before a year differ from its mean multiple by less than three.
  have hlow : 146097 * (guess - 1) ≤ 400 * day := by omega
  have hhigh : 400 * day < 146097 * guess := by omega
  rw [yearOfDay, ← hguess]
  by_cases hnext : daysBeforeYear (guess + 1) ≤ day
  · rw [if_pos hnext]
    unfold daysBeforeYear at hnext ⊢
    omega
  rw [if_neg hnext]
  by_cases hlast : day < daysBeforeYear guess
  · rw [if_pos hlast]
    unfold daysBeforeYear at hlast ⊢
    omega
  · rw [if_neg hlast]
    unfold daysBeforeYear at hnext hlast ⊢
    omega

/-- A year has 365 days, and one more if it is a leap year. -/
theorem daysBeforeYear_succ (year : Int) :
    daysBeforeYear (year + 1) = daysBeforeYear year + if isLeap year then 366 else 365 := by
  by_cases h : isLeap year = true
  · rw [if_pos h]
    simp only [isLeap, Bool.and_eq_true, decide_eq_true_eq, Bool.or_eq_true] at h
    unfold daysBeforeYear
    omega
  · rw [if_neg h]
    simp only [isLeap, Bool.and_eq_true, decide_eq_true_eq, Bool.or_eq_true] at h
    unfold daysBeforeYear
    omega

theorem daysBeforeYear_mono {year year' : Int} (h : year ≤ year') :
    daysBeforeYear year ≤ daysBeforeYear year' := by
  unfold daysBeforeYear
  omega

/-- A day of the calendar lies in a year of the calendar. -/
theorem yearOfDay_mem {day : Int} (h : firstDay ≤ day ∧ day ≤ lastDay) :
    firstYear ≤ yearOfDay day ∧ yearOfDay day ≤ lastYear := by
  rcases yearOfDay_spec day with ⟨hlow, hhigh⟩
  unfold firstDay lastDay at h
  constructor
  · refine Int.not_lt.1 fun hlt => ?_
    have := daysBeforeYear_mono (show yearOfDay day + 1 ≤ firstYear by omega)
    omega
  · refine Int.not_lt.1 fun hlt => ?_
    have := daysBeforeYear_mono (show lastYear + 1 ≤ yearOfDay day by omega)
    omega

/-! ## Days and dates -/

/-- The month of a day of the year: the months before it and the day within it. -/
theorem monthAndDay_spec {lengths : List Nat} {month rest : Nat} (h : rest < lengths.sum) :
    ∃ i, ∃ hi : i < lengths.length, ∃ day, day < lengths[i] ∧
      rest = (lengths.take i).sum + day ∧
      monthAndDay lengths month rest = (month + i, day + 1) := by
  induction lengths generalizing month rest with
  | nil => exact absurd h (Nat.not_lt_zero _)
  | cons length lengths ih =>
    rw [monthAndDay]
    -- The day lies in the first month, or in a later one once its days are taken off.
    by_cases hfirst : rest < length
    · rw [if_pos hfirst]
      exact ⟨0, Nat.zero_lt_succ _, rest, hfirst, by simp, rfl⟩
    · rw [List.sum_cons] at h
      obtain ⟨i, hi, day, hday, hrest, heq⟩ :=
        @ih (month + 1) (rest - length) (by omega)
      refine ⟨i + 1, Nat.succ_lt_succ hi, day, hday, ?_, ?_⟩
      · rw [List.take_succ_cons, List.sum_cons]
        omega
      · rw [if_neg hfirst, heq, Nat.add_right_comm, Nat.add_assoc]

/-- The months make up the year. -/
theorem sum_monthLengths (leap : Bool) : (monthLengths leap).sum = if leap then 366 else 365 := by
  cases leap <;> rfl

/-- The days before a month are those of the months before it. -/
theorem daysBeforeMonth_eq (leap : Bool) (i : Nat) :
    daysBeforeMonth leap (1 + i) = ((monthLengths leap).take i).sum := by
  rw [daysBeforeMonth, Nat.add_sub_cancel_left, List.sum_eq_foldl]

/-- The date of a day, by the months before it and the day of its month. -/
theorem ofDayNumber_eq (day : Int) :
    ∃ i d, i < 12 ∧ d < (monthLengths (isLeap (yearOfDay day))).getD i 0 ∧
      Date.ofDayNumber day = ⟨yearOfDay day, 1 + i, d + 1⟩ ∧
      day = daysBeforeYear (yearOfDay day) + daysBeforeMonth (isLeap (yearOfDay day)) (1 + i) +
        d := by
  rcases yearOfDay_spec day with ⟨hlow, hhigh⟩
  rw [daysBeforeYear_succ] at hhigh
  have hrest : (day - daysBeforeYear (yearOfDay day)).toNat <
      (monthLengths (isLeap (yearOfDay day))).sum := by
    rw [sum_monthLengths]
    split <;> rename_i hleap <;> simp only [hleap] at hhigh <;> simp at hhigh <;> omega
  rcases @monthAndDay_spec _ 1 _ hrest with ⟨i, hi, d, hd, hsum, heq⟩
  refine ⟨i, d, hi, ?_, ?_, ?_⟩
  · rwa [List.getD_eq_getElem?_getD, List.getElem?_eq_getElem hi, Option.getD_some]
  · rw [Date.ofDayNumber, heq]
  · rw [daysBeforeMonth_eq]
    omega

/-- A day is the number of its date. -/
theorem dayNumber_ofDayNumber (day : Int) : (Date.ofDayNumber day).dayNumber = day := by
  rcases ofDayNumber_eq day with ⟨i, d, -, -, heq, hday⟩
  rw [heq, Date.dayNumber, Nat.add_sub_cancel]
  exact hday.symm

/-- The date of a day of the calendar exists. -/
theorem exists_ofDayNumber {day : Int} (h : firstDay ≤ day ∧ day ≤ lastDay) :
    (Date.ofDayNumber day).Exists := by
  rcases yearOfDay_mem h with ⟨hfirst, hlast⟩
  rcases ofDayNumber_eq day with ⟨i, d, hi, hd, heq, -⟩
  rw [heq]
  refine ⟨hfirst, hlast, Nat.le_add_right _ _, ?_, Nat.le_add_left _ _, ?_⟩
  · show 1 + i ≤ 12
    omega
  · show d + 1 ≤ (monthLengths (isLeap (yearOfDay day))).getD (1 + i - 1) 0
    rw [Nat.add_sub_cancel_left]
    exact hd

/-! ## Reading numbers -/

/-- Digits before something else are taken whole. -/
theorem takeDigits_append {most : Nat} {digits rest : List Char}
    (hdigits : ∀ c ∈ digits, c.isDigit = true) (hlength : digits.length ≤ most)
    (hrest : ∀ c ∈ rest.head?, c.isDigit = false) :
    takeDigits most (digits ++ rest) = (digits, rest) := by
  have hnone : (rest.take (most - digits.length)).takeWhile Char.isDigit = [] := by
    cases rest with
    | nil => simp
    | cons c rest =>
      have hc := hrest c (by simp)
      cases most - digits.length <;> simp [hc]
  have htake : ((digits ++ rest).take most).takeWhile Char.isDigit = digits := by
    rw [List.take_append, List.take_of_length_le hlength, List.takeWhile_append_of_pos hdigits,
      hnone, List.append_nil]
  rw [takeDigits, htake, List.drop_left]

/-- A run of digits is read up to the first character that is none. -/
theorem readDigits_append {most : Nat} {digits rest : List Char} (hne : digits ≠ [])
    (hdigits : ∀ c ∈ digits, c.isDigit = true) (hlength : digits.length ≤ most)
    (hrest : ∀ c ∈ rest.head?, c.isDigit = false) :
    readDigits most (digits ++ rest) = .ok (digits, rest) := by
  have hempty : (digits ++ rest).isEmpty = false := by simp [hne]
  have hempty' : digits.isEmpty = false := by simp [hne]
  rw [readDigits, hempty, takeDigits_append hdigits hlength hrest]
  simp [hempty']

/-- The visible characters of ASCII are no blanks. -/
theorem isBlank_of_visible {c : Char} (hlow : 33 ≤ c.toNat) (hhigh : c.toNat ≤ 126) :
    isBlank c = false := by
  simp only [isBlank, Bool.or_eq_false_iff, Bool.and_eq_false_iff, decide_eq_false_iff_not]
  omega

theorem isBlank_of_isDigit {c : Char} (h : c.isDigit = true) : isBlank c = false := by
  simp only [Char.isDigit, Bool.and_eq_true, decide_eq_true_eq] at h
  have hlow : 48 ≤ c.toNat := UInt32.le_iff_toNat_le.1 h.1
  have hhigh : c.toNat ≤ 57 := UInt32.le_iff_toNat_le.1 h.2
  exact isBlank_of_visible (by omega) (by omega)

theorem isBlank_of_isLower {c : Char} (h : c.isLower = true) : isBlank c = false := by
  obtain ⟨ha, hz⟩ := Bool.and_eq_true_iff.1 h
  have hlow : 97 ≤ c.toNat := UInt32.le_iff_toNat_le.1 (of_decide_eq_true ha)
  have hhigh : c.toNat ≤ 122 := UInt32.le_iff_toNat_le.1 (of_decide_eq_true hz)
  exact isBlank_of_visible (by omega) (by omega)

theorem skipBlanks_cons {c : Char} (h : isBlank c = false) (rest : List Char) :
    skipBlanks (c :: rest) = c :: rest := by
  rw [skipBlanks, List.dropWhile_cons_of_neg (by simp [h])]

/-- A number without a sign. -/
theorem readNumber_append (part : Part) {digits rest : List Char} (hne : digits ≠ [])
    (hdigits : ∀ c ∈ digits, c.isDigit = true) (hlength : digits.length ≤ part.width)
    (hrest : ∀ c ∈ rest.head?, c.isDigit = false) :
    readNumber part (digits ++ rest) = .ok ((digitsValue digits : Int), rest) := by
  have hread := readDigits_append hne hdigits hlength hrest
  -- A digit is neither a blank nor a sign, so the branches for those do not apply.
  rcases List.exists_cons_of_ne_nil hne with ⟨d, digits, rfl⟩
  have hd := hdigits d List.mem_cons_self
  have hskip := skipBlanks_cons (isBlank_of_isDigit hd) (digits ++ rest)
  rw [List.cons_append] at hread ⊢
  rw [readNumber, hskip]
  · rw [hread]
    rfl
  · rintro _ - hminus
    rw [hskip, List.cons.injEq] at hminus
    rw [hminus.1] at hd
    exact absurd hd (by decide)
  · rintro _ - hplus
    rw [hskip, List.cons.injEq] at hplus
    rw [hplus.1] at hd
    exact absurd hd (by decide)

/-- A year with its sign is read with every digit that follows. -/
theorem readNumber_signed (year : Int) {digits text rest : List Char}
    (h : readDigits text.length text = .ok (digits, rest))
    (hvalue : digitsValue digits = year.natAbs) :
    readNumber .year ((if year < 0 then '-' else '+') :: text) = .ok (year, rest) := by
  rw [readNumber.eq_def]
  by_cases hneg : year < 0
  · rw [if_pos hneg, skipBlanks_cons (by decide)]
    simp only [h, ok_bind, hvalue, Int.ofNat_natAbs_of_nonpos (Int.le_of_lt hneg), Int.neg_neg]
    rfl
  · rw [if_neg hneg, skipBlanks_cons (by decide)]
    simp only [h, ok_bind, hvalue, Int.natAbs_of_nonneg (Int.not_lt.1 hneg)]
    rfl

/-- A year as it is written is read as that year. -/
theorem readNumber_yearChars (year : Int) {rest : List Char}
    (hrest : ∀ c ∈ rest.head?, c.isDigit = false) :
    readNumber .year (yearChars year ++ rest) = .ok (year, rest) := by
  -- Four digits from 0 to 9999; outside, a sign and every digit that follows.
  have hsigned : ∀ digits : List Char, digits ≠ [] → (∀ c ∈ digits, c.isDigit = true) →
      readDigits (digits ++ rest).length (digits ++ rest) = .ok (digits, rest) := by
    intro digits hne hdigits
    exact readDigits_append hne hdigits (by rw [List.length_append]; omega) hrest
  have habs := hsigned _ (zeroPadded_ne_nil 4 year.natAbs) fun _ => isDigit_of_mem_zeroPadded
  unfold yearChars
  by_cases hfour : 0 ≤ year ∧ year ≤ 9999
  · have hlength : (zeroPadded 4 year.toNat).length = 4 :=
      length_zeroPadded (by decide) (show year.toNat < 10000 by omega)
    rw [if_pos hfour, readNumber_append .year (zeroPadded_ne_nil _ _)
      (fun _ => isDigit_of_mem_zeroPadded) (Nat.le_of_eq hlength) hrest, digitsValue_zeroPadded]
    rw [Int.toNat_of_nonneg hfour.1]
  rw [if_neg hfour, List.cons_append]
  exact readNumber_signed year habs (digitsValue_zeroPadded _ _)

/-! ## Reading pieces -/

section

variable {pieces : List Piece} {parts parts' : Parts} {rest : List Char}

/-- A number is read and set, and the pieces behind it go on with the rest. -/
theorem readPieces_number {part : Part} {value : Int} {text : List Char}
    (hread : readNumber part text = .ok (value, rest)) (hset : parts.set part value = .ok parts') :
    readPieces (.number part :: pieces) parts text = readPieces pieces parts' rest := by
  rw [readPieces, Piece.read, hread, ok_bind]
  simp only [hset, ok_bind]
  rfl

/-- A part of two digits. -/
theorem readPieces_zeroPadded (part : Part) {n : Nat} (hn : n < 100) (hpart : part.width = 2)
    (hset : parts.set part n = .ok parts') (hrest : ∀ c ∈ rest.head?, c.isDigit = false) :
    readPieces (.number part :: pieces) parts (zeroPadded 2 n ++ rest) =
      readPieces pieces parts' rest := by
  have hlength : (zeroPadded 2 n).length = 2 := length_zeroPadded (by decide) hn
  refine readPieces_number ?_ hset
  rw [readNumber_append part (zeroPadded_ne_nil _ _) (fun _ => isDigit_of_mem_zeroPadded)
    (Nat.le_of_eq (hlength.trans hpart.symm)) hrest, digitsValue_zeroPadded]

/-- A literal character is passed over where it stands. -/
theorem readPieces_literal (c : Char) :
    readPieces (.literal c :: pieces) parts (c :: rest) = readPieces pieces parts rest := by
  rw [readPieces, Piece.read]
  simp only [if_true, ok_bind]

theorem readPieces_blanks {text : List Char} :
    readPieces (.blanks :: pieces) parts text = readPieces pieces parts (skipBlanks text) := by
  rw [readPieces, Piece.read, ok_bind]

/-- There may be blanks before a literal character, and there are none. -/
theorem readPieces_blanks_literal {c : Char} (hc : isBlank c = false) :
    readPieces (.blanks :: .literal c :: pieces) parts (c :: rest) =
      readPieces pieces parts rest := by
  rw [readPieces_blanks, skipBlanks_cons hc, readPieces_literal]

/-- A fraction of at most nine digits at the end of a text. -/
theorem readPieces_fraction {width n : Nat} (hn : n < Nat.pow 10 width) (hpos : 0 < width)
    (hwidth : width ≤ 9) :
    readPieces [.fraction, .blanks] parts ('.' :: zeroPadded width n) =
      .ok { parts with nanos := n * Nat.pow 10 (9 - width) } := by
  have hlength : (zeroPadded width n).length = width := length_zeroPadded hpos hn
  have hread : readDigits 9 (zeroPadded width n ++ []) = .ok (zeroPadded width n, []) :=
    readDigits_append (zeroPadded_ne_nil width n) (fun _ => isDigit_of_mem_zeroPadded)
      (by rw [hlength]; exact hwidth) nofun
  rw [List.append_nil] at hread
  rw [readPieces, Piece.read]
  simp only [hread, ok_bind, nanosOfDigits, digitsValue_zeroPadded, hlength]
  rfl

end

/-! ## Date-times -/

/-- The parts of a date-time as it is written. -/
def DateTime.parts (t : DateTime) : Parts where
  year := t.date.year
  month := t.date.month
  day := t.date.day
  hour := t.second / 3600
  minute := t.second / 60 % 60
  second := t.secondOfMinute

namespace DateTime

/-- Only a leap second is written as second 60. -/
theorem secondOfMinute_le (t : DateTime) : t.secondOfMinute ≤ 60 := by
  unfold secondOfMinute
  have := Nat.mod_lt t.second (show 0 < 60 by decide)
  split <;> omega

/-- The date of a date-time is one of the calendar. -/
theorem date_exists (t : DateTime) : t.date.Exists := exists_ofDayNumber t.day_mem

/-- The parts that are written are the date-time with the fraction that is put to them. -/
theorem ofFields?_parts (t : DateTime) (nanos : Nat) (hnanos : nanos < nanosPerSecond) :
    ∃ u, ofFields? t.date (t.second / 3600) (t.second / 60 % 60) t.secondOfMinute nanos = some u ∧
      u.day = t.day ∧ u.second = t.second ∧
      u.nanos = nanos + if t.isLeapSecond then nanosPerSecond else 0 := by
  have hsecond : t.second < 86400 := t.second_lt
  have hnumber : t.date.dayNumber = t.day := dayNumber_ofDayNumber t.day
  have hbounds : t.date.Exists ∧ t.second / 3600 < 24 ∧ t.second / 60 % 60 < 60 ∧
      t.secondOfMinute ≤ 60 := ⟨t.date_exists, by omega, by omega, t.secondOfMinute_le⟩
  have hpositive : 0 < nanosPerSecond := by decide
  rw [ofFields?, if_pos hbounds, hnumber]
  -- Second 60 stands for a leap second at second 59.
  by_cases hleap : t.isLeapSecond = true
  · have hlast : t.second % 60 = 59 := t.leap_second (of_decide_eq_true hleap)
    have hsum : t.second / 3600 * 3600 + t.second / 60 % 60 * 60 + 59 = t.second := by omega
    rw [if_pos (by rw [secondOfMinute, if_pos hleap, hlast]), hsum, ofParts?,
      dif_pos ⟨t.day_mem, t.second_lt, by omega, fun _ => hlast⟩, if_pos hleap]
    exact ⟨_, rfl, rfl, rfl, rfl⟩
  · have hminute : t.secondOfMinute = t.second % 60 := by
      rw [secondOfMinute, if_neg hleap, Nat.add_zero]
    have hsum : t.second / 3600 * 3600 + t.second / 60 % 60 * 60 + t.second % 60 = t.second := by
      omega
    rw [if_neg (by omega), hminute, hsum, ofParts?,
      dif_pos ⟨t.day_mem, t.second_lt, by omega, fun h => absurd h (Nat.not_le.2 hnanos)⟩,
      if_neg hleap]
    exact ⟨_, rfl, rfl, rfl, rfl⟩

theorem getD_monthLengths_le (leap : Bool) (i : Nat) : (monthLengths leap).getD i 0 ≤ 31 := by
  have hall : ∀ length ∈ monthLengths leap, length ≤ 31 := by cases leap <;> decide
  rw [List.getD_eq_getElem?_getD]
  cases h : (monthLengths leap)[i]? with
  | none => exact Nat.zero_le _
  | some length => exact hall length (List.mem_of_getElem? h)

/-- The text of a row, grouped to the right as it is read. -/
theorem rowChars_eq (t : DateTime) :
    t.rowChars = yearChars t.date.year ++ '-' :: (zeroPadded 2 t.date.month ++
      '-' :: (zeroPadded 2 t.date.day ++ ' ' :: (zeroPadded 2 (t.second / 3600) ++
        ':' :: (zeroPadded 2 (t.second / 60 % 60) ++
          ':' :: (zeroPadded 2 t.secondOfMinute ++ []))))) := by
  simp [rowChars, Date.chars, timeChars]

/-- Each part that is written lies in its range. -/
theorem parts_bounds (t : DateTime) :
    (1 ≤ t.date.month ∧ t.date.month ≤ 12) ∧ (1 ≤ t.date.day ∧ t.date.day ≤ 31) ∧
      t.second / 3600 ≤ 23 ∧ t.second / 60 % 60 ≤ 59 ∧ t.secondOfMinute ≤ 60 := by
  have hsecond : t.second < 86400 := t.second_lt
  obtain ⟨-, -, hmonth, hmonth', hday, hday'⟩ := t.date_exists
  have hthirtyOne := Nat.le_trans hday' (getD_monthLengths_le _ _)
  exact ⟨⟨hmonth, hmonth'⟩, ⟨hday, hthirtyOne⟩, by omega, by omega, t.secondOfMinute_le⟩

/-- A year of the calendar is in range for the reader. -/
theorem set_year (t : DateTime) (parts : Parts) :
    parts.set .year t.date.year = .ok { parts with year := t.date.year } := by
  obtain ⟨hfirst, hlast, -⟩ := t.date_exists
  exact if_pos ⟨Int.le_trans (by decide) hfirst, Int.le_trans hlast (by decide)⟩

/-- There are no blanks in front of a numeral. -/
theorem skipBlanks_zeroPadded (width n : Nat) (rest : List Char) :
    skipBlanks (zeroPadded width n ++ rest) = zeroPadded width n ++ rest := by
  obtain ⟨c, digits, hdigits⟩ := List.exists_cons_of_ne_nil (zeroPadded_ne_nil width n)
  have hc : c.isDigit = true := isDigit_of_mem_zeroPadded (hdigits ▸ List.mem_cons_self)
  rw [hdigits, List.cons_append, skipBlanks_cons (isBlank_of_isDigit hc)]

/-- The pieces of the `date` column are the parts that were written. -/
theorem readPieces_rowChars (t : DateTime) :
    readPieces rowLayout {} t.rowChars = .ok t.parts := by
  obtain ⟨hmonth, hday, hhour, hminute, hsecond⟩ := t.parts_bounds
  have hblank : ∀ rest, skipBlanks (' ' :: (zeroPadded 2 (t.second / 3600) ++ rest)) =
      zeroPadded 2 (t.second / 3600) ++ rest := by
    intro rest
    rw [skipBlanks, List.dropWhile_cons_of_pos (by decide)]
    exact skipBlanks_zeroPadded _ _ _
  -- Piece by piece: each number lies in its range, so it is set as soon as it is read.
  rw [rowLayout, rowChars_eq, readPieces_number (readNumber_yearChars _ (by simp)) (t.set_year _),
    readPieces_literal,
    readPieces_zeroPadded .month (by omega) rfl (if_pos hmonth) (by simp),
    readPieces_literal,
    readPieces_zeroPadded .day (by omega) rfl (if_pos hday) (by simp),
    readPieces_blanks, hblank,
    readPieces_zeroPadded .hour (by omega) rfl (if_pos ⟨Nat.zero_le _, hhour⟩) (by simp),
    readPieces_literal,
    readPieces_zeroPadded .minute (by omega) rfl (if_pos ⟨Nat.zero_le _, hminute⟩) (by simp),
    readPieces_literal,
    readPieces_zeroPadded .second (n := t.secondOfMinute) (by omega) rfl
      (if_pos ⟨Nat.zero_le _, hsecond⟩) (by simp)]
  rfl

/-- What the `date` column holds of a date-time is read without a fault. -/
theorem read_toRow (t : DateTime) : ∃ u, DateTime.read rowLayout t.toRow = .ok u := by
  rcases t.ofFields?_parts 0 (by decide) with ⟨u, hu, -⟩
  refine ⟨u, ?_⟩
  have hparts : ofFields? ⟨t.parts.year, t.parts.month, t.parts.day⟩ t.parts.hour t.parts.minute
      t.parts.second t.parts.nanos = some u := hu
  rw [DateTime.read, toRow, String.toList_ofList, readPieces_rowChars, ok_bind, Parts.toDateTime,
    hparts]

/-! ## Option values -/

/-- The fraction is read to the nanosecond, whichever number of digits it has. -/
theorem readPieces_fractionChars {parts : Parts} {nanos : Nat} (hparts : parts.nanos = 0)
    (h : nanos < nanosPerSecond) :
    readPieces [.fraction, .blanks] parts (fractionChars nanos) =
      .ok { parts with nanos := nanos } := by
  have hbound : nanosPerSecond = 1000000000 := rfl
  unfold fractionChars
  split
  · rename_i hzero
    rw [hzero, ← hparts]
    rfl
  split
  · rw [readPieces_fraction (show nanos / 1000000 < 1000 by omega) (by decide) (by decide)]
    show Except.ok { parts with nanos := nanos / 1000000 * 1000000 } = _
    rw [Nat.div_mul_cancel (Nat.dvd_of_mod_eq_zero ‹_›)]
  split
  · rw [readPieces_fraction (show nanos / 1000 < 1000000 by omega) (by decide) (by decide)]
    show Except.ok { parts with nanos := nanos / 1000 * 1000 } = _
    rw [Nat.div_mul_cancel (Nat.dvd_of_mod_eq_zero ‹_›)]
  · rw [readPieces_fraction (show nanos < 1000000000 by omega) (by decide) (by decide)]
    show Except.ok { parts with nanos := nanos * 1 } = _
    rw [Nat.mul_one]

/-- The seconds end before the fraction, which begins with a period or is absent. -/
theorem head?_fractionChars (nanos : Nat) :
    ∀ c ∈ (fractionChars nanos).head?, c.isDigit = false := by
  unfold fractionChars
  split
  · nofun
  split
  · rintro _ ⟨⟩
    rfl
  split
  · rintro _ ⟨⟩
    rfl
  · rintro _ ⟨⟩
    rfl

/-- The text of an option value, grouped to the right as it is read. -/
theorem fullChars_eq (t : DateTime) (separator : Char) :
    t.fullChars separator = yearChars t.date.year ++ '-' :: (zeroPadded 2 t.date.month ++
      '-' :: (zeroPadded 2 t.date.day ++ separator :: (zeroPadded 2 (t.second / 3600) ++
        ':' :: (zeroPadded 2 (t.second / 60 % 60) ++
          ':' :: (zeroPadded 2 t.secondOfMinute ++ fractionChars t.fraction))))) := by
  simp [fullChars, Date.chars, timeChars]

/-- The pieces of an option value are the parts that were written, with the fraction. -/
theorem readPieces_fullChars (t : DateTime) :
    readPieces isoLayout {} (t.fullChars 'T') = .ok { t.parts with nanos := t.fraction } := by
  obtain ⟨hmonth, hday, hhour, hminute, hsecond⟩ := t.parts_bounds
  have hfraction : t.fraction < nanosPerSecond := Nat.mod_lt _ (by decide)
  rw [isoLayout, fullChars_eq, readPieces_number (readNumber_yearChars _ (by simp)) (t.set_year _),
    readPieces_blanks_literal (by decide),
    readPieces_zeroPadded .month (by omega) rfl (if_pos hmonth) (by simp),
    readPieces_blanks_literal (by decide),
    readPieces_zeroPadded .day (by omega) rfl (if_pos hday) (by simp),
    readPieces_blanks_literal (by decide),
    readPieces_zeroPadded .hour (by omega) rfl (if_pos ⟨Nat.zero_le _, hhour⟩) (by simp),
    readPieces_blanks_literal (by decide),
    readPieces_zeroPadded .minute (by omega) rfl (if_pos ⟨Nat.zero_le _, hminute⟩) (by simp),
    readPieces_blanks_literal (by decide),
    readPieces_zeroPadded .second (n := t.secondOfMinute) (by omega) rfl
      (if_pos ⟨Nat.zero_le _, hsecond⟩) (head?_fractionChars _),
    readPieces_fractionChars rfl hfraction]
  rfl

/-- A leap second is told apart from its fraction. -/
theorem fraction_add (t : DateTime) :
    t.fraction + (if t.isLeapSecond then nanosPerSecond else 0) = t.nanos := by
  have hlt : t.nanos < 2000000000 := t.nanos_lt
  show t.nanos % 1000000000 + (if t.isLeapSecond then 1000000000 else 0) = t.nanos
  by_cases hleap : t.isLeapSecond = true
  · have hle : 1000000000 ≤ t.nanos := of_decide_eq_true hleap
    rw [if_pos hleap]
    omega
  · have hlt' : ¬ 1000000000 ≤ t.nanos := fun h => hleap (decide_eq_true h)
    rw [if_neg hleap]
    omega

/-- An option value is read as the date-time that was written. -/
theorem read_toIso (t : DateTime) : DateTime.read isoLayout t.toIso = .ok t := by
  obtain ⟨u, hu, hday, hsecond, hnanos⟩ :=
    t.ofFields?_parts t.fraction (Nat.mod_lt _ (by decide))
  rw [t.fraction_add] at hnanos
  obtain rfl : u = t := by
    cases u
    cases t
    simp_all
  have hparts : ofFields? ⟨u.parts.year, u.parts.month, u.parts.day⟩ u.parts.hour u.parts.minute
      u.parts.second u.fraction = some u := hu
  rw [DateTime.read, toIso, String.toList_ofList, readPieces_fullChars, ok_bind, Parts.toDateTime,
    hparts]

end DateTime

end LinkedDocs.Calendar
