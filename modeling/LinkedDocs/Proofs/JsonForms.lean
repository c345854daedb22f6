import LinkedDocs.Evaluation.Options
import LinkedDocs.Evaluation.Result
import LinkedDocs.Generation.Report
import LinkedDocs.Proofs.Dates
import LinkedDocs.Proofs.FieldOrder

/-!
# Options, results and reports as JSON

The records that callers exchange with the program are written as JSON objects
and read from them again. A field that may be absent is left out or written as
null, a date-time is written in the layout of option values, and a number is a
numeral; nothing of it is lost, whether the text is compact or over many lines.

* `Fits`: the numbers of a record have 64 bits; all else is free.
* `ReadsBack`: a value is read as what it was written for.
* `Generation.Options.readsBack`, ..., `Generation.Report.readsBack`: the six records.
* `forms_lose_nothing`: all of them.
-/

namespace LinkedDocs

open Text

/-! ## Parts of records -/

namespace Value

/-- A natural number of 64 bits. -/
theorem asWord_ofNat {n : Nat} (h : n < word64) (expected : String) :
    asWord expected (.ofNat n) = .ok n := by
  have hbounds : 0 ≤ (n : Int) ∧ (n : Int) < word64 := ⟨Int.natCast_nonneg n, Int.ofNat_lt.2 h⟩
  rw [ofNat, asWord, if_pos hbounds, Int.toNat_natCast]

theorem asNat64_ofNat {n : Nat} (h : n < word64) : asNat64 (.ofNat n) = .ok n := asWord_ofNat h _

/-- A value that is not null is read as it is where null is allowed. -/
theorem orNull_of_ok {α : Type} {read : Value → Decoded α} {v : Value} {a : α} (hv : v ≠ .null)
    (h : read v = .ok a) : orNull read v = .ok (some a) := by
  rw [orNull]
  · rw [h]
    rfl
  · exact hv

theorem orNull_ofNat {n : Nat} (h : n < word64) :
    orNull asNat64 (.ofNat n) = .ok (some n) :=
  orNull_of_ok nofun (asNat64_ofNat h)

/-- A list is read item by item. -/
theorem asList_map {α : Type} {read : Value → Decoded α} {f : α → Value} {items : List α}
    (h : ∀ a ∈ items, read (f a) = .ok a) : asList read (.array (items.map f)) = .ok items := by
  rw [asList]
  induction items with
  | nil => rfl
  | cons a items ih =>
    obtain ⟨ha, hitems⟩ := List.forall_mem_cons.1 h
    rw [List.map_cons, List.mapM_cons, ha, ok_bind, ih hitems]
    rfl

theorem exactItems_map {α : Type} {f : α → Value} {items : List α} {depth : Nat}
    (h : ∀ a ∈ items, (f a).Exact depth) : ExactItems depth (items.map f) := by
  induction items with
  | nil => trivial
  | cons a items ih =>
    obtain ⟨ha, hitems⟩ := List.forall_mem_cons.1 h
    exact ⟨ha, ih hitems⟩

theorem exact_ofNat {n : Nat} (h : n < word64) (depth : Nat) : (ofNat n).Exact depth :=
  ⟨Int.le_trans (by decide) (Int.natCast_nonneg n), Int.ofNat_lt.2 h⟩

/-- A date-time is read as it was written. -/
theorem asDateTime_toIso (t : Calendar.DateTime) : asDateTime (.string t.toIso) = .ok t := by
  rw [asDateTime, t.read_toIso]

/-- A value is read as `a`, by itself and from either of its texts. -/
structure ReadsBack {α : Type} (read : Value → Decoded α) (v : Value) (a : α) : Prop where
  ok : read v = .ok a
  ok_compact : ∃ w, Json.read (Json.compact v) = .ok w ∧ read w = .ok a
  ok_pretty : ∃ w, Json.read (Json.pretty v) = .ok w ∧ read w = .ok a

/-- It is enough to read the value itself and the value with its fields sorted. -/
theorem readsBack_of {α : Type} {read : Value → Decoded α} {v : Value} {a : α}
    (hexact : v.Exact Json.depthLimit) (h : read v = .ok a) (hsorted : read v.sorted = .ok a) :
    ReadsBack read v a where
  ok := h
  ok_compact := ⟨_, Json.read_compact hexact, hsorted⟩
  ok_pretty := ⟨_, Json.read_pretty hexact, hsorted⟩

end Value

/-! ## The records of an evaluation -/

namespace Evaluation

namespace Options

/-- The greatest number of examples has 64 bits. -/
def Fits (o : Options) : Prop := o.maxExamples < word64

theorem readsByKey : Value.ReadsByKey ofValue :=
  Value.readsByKey_of (fun _ => rfl) fun _ _ _ hoptional => by simp only [hoptional]

theorem ofValue_toValue {o : Options} (h : o.Fits) : ofValue o.toValue = .ok o := by
  simp [ofValue, toValue, Value.firstFault, checks, Value.check, List.lookup_cons, Value.optional,
    Value.field?, Value.asSize, Value.asWord_ofNat h, Value.asBool, ok_bind]

/-- The options of an evaluation are read back. -/
theorem readsBack {o : Options} (h : o.Fits) : Value.ReadsBack ofValue o.toValue o := by
  refine Value.readsBack_of ?_ (ofValue_toValue h) (readsByKey.ok_sorted ?_ (ofValue_toValue h))
  · exact ⟨by decide, trivial, Value.exact_ofNat h _, trivial, trivial⟩
  · simp

end Options

namespace Violation

/-- The number of the row has 64 bits, if there is one. -/
def Fits (v : Violation) : Prop := ∀ n ∈ v.rowIndex, n < word64

theorem readsByKey : Value.ReadsByKey ofValue :=
  Value.readsByKey_of (fun _ => rfl) fun _ _ hrequired hoptional => by
    simp only [hrequired, hoptional]

theorem ofValue_toValue {v : Violation} (h : v.Fits) : ofValue v.toValue = .ok v := by
  obtain ⟨code, path, message, rowIndex⟩ := v
  cases rowIndex with
  | none => rfl
  | some n =>
    simp [ofValue, toValue, Value.firstFault, checks, Value.check, List.lookup_cons, Value.optional,
      Value.required, Value.field?, Value.orNull_ofNat (h n rfl), Value.asString, ok_bind]

/-- A violation may have its fields sorted before it is read. -/
theorem ofValue_sorted {v : Violation} (h : v.Fits) : ofValue v.toValue.sorted = .ok v := by
  obtain ⟨code, path, message, rowIndex⟩ := v
  cases rowIndex with
  | none => exact readsByKey.ok_sorted (by simp) (ofValue_toValue h)
  | some n => exact readsByKey.ok_sorted (by simp) (ofValue_toValue h)

theorem exact_toValue {v : Violation} (h : v.Fits) {depth : Nat} (hdepth : 1 < depth) :
    v.toValue.Exact depth := by
  obtain ⟨code, path, message, rowIndex⟩ := v
  cases rowIndex with
  | none => exact ⟨hdepth, trivial, trivial, trivial, trivial⟩
  | some n =>
    exact ⟨hdepth, trivial, trivial, trivial, Value.exact_ofNat (h n rfl) _, trivial⟩

/-- A violation is read back, with a row number or without. -/
theorem readsBack {v : Violation} (h : v.Fits) : Value.ReadsBack ofValue v.toValue v :=
  Value.readsBack_of (exact_toValue h (by decide)) (ofValue_toValue h) (ofValue_sorted h)

end Violation

namespace Summary

/-- The numbers of rows have 64 bits. -/
structure Fits (s : Summary) : Prop where
  mainRows : s.mainRows < word64
  childRows : s.childRows < word64
  inlineRows : s.inlineRows < word64
  orphanRows : s.orphanRows < word64
  deletedRows : s.deletedRows < word64

theorem readsByKey : Value.ReadsByKey ofValue :=
  Value.readsByKey_of (fun _ => rfl) fun _ _ hrequired _ => by simp only [hrequired]

theorem ofValue_toValue {s : Summary} (h : s.Fits) : ofValue s.toValue = .ok s := by
  simp [ofValue, toValue, Value.firstFault, checks, names, Value.check, List.lookup_cons,
    Value.required, Value.field?, Value.asNat64_ofNat h.mainRows, Value.asNat64_ofNat h.childRows,
    Value.asNat64_ofNat h.inlineRows, Value.asNat64_ofNat h.orphanRows,
    Value.asNat64_ofNat h.deletedRows, ok_bind]

theorem ofValue_sorted {s : Summary} (h : s.Fits) : ofValue s.toValue.sorted = .ok s :=
  readsByKey.ok_sorted (by simp) (ofValue_toValue h)

theorem exact_toValue {s : Summary} (h : s.Fits) {depth : Nat} (hdepth : 1 < depth) :
    s.toValue.Exact depth :=
  ⟨hdepth, Value.exact_ofNat h.mainRows _, Value.exact_ofNat h.childRows _,
    Value.exact_ofNat h.inlineRows _, Value.exact_ofNat h.orphanRows _,
    Value.exact_ofNat h.deletedRows _, trivial⟩

/-- The numbers of rows are read back. -/
theorem readsBack {s : Summary} (h : s.Fits) : Value.ReadsBack ofValue s.toValue s :=
  Value.readsBack_of (exact_toValue h (by decide)) (ofValue_toValue h) (ofValue_sorted h)

end Summary

namespace Result

/-- The numbers have 64 bits. -/
structure Fits (r : Result) : Prop where
  summary : r.summary.Fits
  violationCount : r.violationCount < word64
  violations : ∀ v ∈ r.violations, v.Fits

theorem readsByKey : Value.ReadsByKey ofValue :=
  Value.readsByKey_of (fun _ => rfl) fun _ _ hrequired _ => by simp only [hrequired]

/-- A result of parts that read. -/
theorem ofValue_object {r : Result} {summary violations : Value}
    (hsummary : Summary.ofValue summary = .ok r.summary)
    (hviolations : Value.asList Violation.ofValue violations = .ok r.violations)
    (hcount : r.violationCount < word64) :
    ofValue (.object [("dataset_dir", .string r.datasetDir), ("summary", summary),
      ("violation_count", .ofNat r.violationCount), ("violations", violations)]) = .ok r := by
  simp [ofValue, Value.firstFault, checks, Value.check, List.lookup_cons,
    Value.required, Value.field?, Value.asNat64_ofNat hcount, hsummary, hviolations,
    Value.asPath, ok_bind]

/-- A result is read back with all violations that it keeps. -/
theorem readsBack {r : Result} (h : r.Fits) : Value.ReadsBack ofValue r.toValue r := by
  refine Value.readsBack_of ?_ ?_ (readsByKey.ok_sorted (by simp) ?_)
  · refine ⟨by decide, trivial, Summary.exact_toValue h.summary (by decide),
      Value.exact_ofNat h.violationCount _, ⟨by decide, ?_⟩, trivial⟩
    exact Value.exactItems_map fun v hv => Violation.exact_toValue (h.violations v hv) (by decide)
  · exact ofValue_object (Summary.ofValue_toValue h.summary)
      (Value.asList_map fun v hv => Violation.ofValue_toValue (h.violations v hv)) h.violationCount
  · refine ofValue_object (Summary.ofValue_sorted h.summary) ?_ h.violationCount
    rw [Value.sorted, Value.sortedItems_eq, List.map_map]
    exact Value.asList_map fun v hv => Violation.ofValue_sorted (h.violations v hv)

end Result
end Evaluation

/-! ## The records of a generation run -/

namespace Generation

open Calendar

namespace Options

/-- The seed has 64 bits, if there is one. -/
def Fits (o : Options) : Prop := ∀ n ∈ o.seed, n < word64

theorem readsByKey : Value.ReadsByKey Options.ofValue :=
  Value.readsByKey_of (fun _ => rfl) fun _ _ _ hoptional => by simp only [hoptional]

/-- A number that may be absent is read as it was written. -/
theorem orNull_natOrNull {seed : Option Nat} (h : ∀ n ∈ seed, n < word64) :
    Value.orNull Value.asNat64 (natOrNull seed) = .ok seed := by
  cases seed with
  | none => rfl
  | some n => exact Value.orNull_ofNat (h n rfl)

/-- Every date-time is read as it was written. -/
theorem orNull_dateTimeOrNull (time : Option DateTime) :
    Value.orNull Value.asDateTime (dateTimeOrNull time) = .ok time := by
  cases time with
  | none => rfl
  | some t =>
    exact Value.orNull_of_ok nofun (Value.asDateTime_toIso t)

theorem ofValue_toValue {o : Options} (h : o.Fits) : ofValue o.toValue = .ok o := by
  simp [ofValue, toValue, Value.firstFault, checks, Value.check, List.lookup_cons, Value.optional,
    Value.field?, orNull_natOrNull h, orNull_dateTimeOrNull, Value.asPath, Value.asBool, ok_bind]

/-- The options of a run are read back, with a seed and a time or without. -/
theorem readsBack {o : Options} (h : o.Fits) : Value.ReadsBack ofValue o.toValue o := by
  refine Value.readsBack_of ?_ (ofValue_toValue h) (readsByKey.ok_sorted (by simp) ?_)
  · refine ⟨by decide, trivial, trivial, ?_, ?_, trivial⟩
    · cases hseed : o.seed with
      | none => trivial
      | some n => exact Value.exact_ofNat (h n hseed) _
    · cases o.referenceTime <;> trivial
  · have hseed : (natOrNull o.seed).sorted = natOrNull o.seed := by cases o.seed <;> rfl
    have htime : (dateTimeOrNull o.referenceTime).sorted = dateTimeOrNull o.referenceTime := by
      cases o.referenceTime <;> rfl
    simp only [List.map_cons, List.map_nil, hseed, htime]
    exact ofValue_toValue h

end Options

namespace Report

/-- The numbers have 64 bits. -/
structure Fits (r : Report) : Prop where
  count : r.count < word64
  main : r.rows.main < word64
  child : r.rows.child < word64
  inline : r.rows.inline < word64
  deleted : r.rows.deleted < word64
  bytesWritten : r.bytesWritten < word64
  durationMs : r.durationMs < word64
  seed : ∀ n ∈ r.seed, n < word64

theorem readsByKey : Value.ReadsByKey ofValue :=
  Value.readsByKey_of (fun _ => rfl) fun _ _ hrequired hoptional => by
    simp only [hrequired, hoptional]

theorem ofValue_toValue {r : Report} (h : r.Fits) : ofValue r.toValue = .ok r := by
  obtain ⟨hcount, hmain, hchild, hinline, hdeleted, hbytes, hduration, hseed⟩ := h
  obtain ⟨count, rows, bytesWritten, durationMs, seed, paths⟩ := r
  have hread : ∀ n ∈ seed, Value.orNull Value.asNat64 (.ofNat n) = .ok (some n) :=
    fun n hn => Value.orNull_ofNat (hseed n hn)
  -- A report without a seed has a field less.
  cases seed <;>
    simp [ofValue, toValue, Value.firstFault, checks, Value.check, List.lookup_cons, Value.optional,
      Value.required, Value.field?, Value.asNat64_ofNat hcount, Value.asNat64_ofNat hmain,
      Value.asNat64_ofNat hchild, Value.asNat64_ofNat hinline, Value.asNat64_ofNat hdeleted,
      Value.asNat64_ofNat hbytes, Value.asNat64_ofNat hduration, hread, Value.asPath, ok_bind]

/-- A report holds numbers of 64 bits and strings. -/
theorem exact_toValue {r : Report} (h : r.Fits) : r.toValue.Exact Json.depthLimit := by
  obtain ⟨hcount, hmain, hchild, hinline, hdeleted, hbytes, hduration, hseed⟩ := h
  obtain ⟨count, rows, bytesWritten, durationMs, seed, paths⟩ := r
  have hnumber := fun (n : Nat) (hn : n < word64) => Value.exact_ofNat hn (Json.depthLimit - 1)
  cases seed with
  | none =>
    exact ⟨by decide, hnumber _ hcount, hnumber _ hmain, hnumber _ hchild, hnumber _ hinline,
      hnumber _ hdeleted, hnumber _ hbytes, hnumber _ hduration, trivial, trivial, trivial, trivial⟩
  | some n =>
    exact ⟨by decide, hnumber _ hcount, hnumber _ hmain, hnumber _ hchild, hnumber _ hinline,
      hnumber _ hdeleted, hnumber _ hbytes, hnumber _ hduration, hnumber _ (hseed n rfl), trivial,
      trivial, trivial, trivial⟩

/-- A report is read back, with a seed or without. -/
theorem readsBack {r : Report} (h : r.Fits) : Value.ReadsBack ofValue r.toValue r := by
  refine Value.readsBack_of (exact_toValue h) (ofValue_toValue h) ?_
  have hread := ofValue_toValue h
  obtain ⟨count, rows, bytesWritten, durationMs, seed, paths⟩ := r
  cases seed with
  | none => exact readsByKey.ok_sorted (by simp) hread
  | some n => exact readsByKey.ok_sorted (by simp) hread

end Report

end Generation

/-! ## All of them -/

namespace Json

/--
The JSON forms of the options, the results and the reports lose nothing: a record
whose numbers have 64 bits is read as it was, from the value that it is written as,
from the compact text of it and from the text over many lines. Its strings may hold
any characters, and a reference time any date-time of the calendar, a year before
year 1 or of more than four digits, any nanoseconds and a leap second included.
-/
theorem forms_lose_nothing :
    (∀ o : Generation.Options, o.Fits →
      Value.ReadsBack Generation.Options.ofValue o.toValue o) ∧
    (∀ o : Evaluation.Options, o.Fits →
      Value.ReadsBack Evaluation.Options.ofValue o.toValue o) ∧
    (∀ v : Evaluation.Violation, v.Fits →
      Value.ReadsBack Evaluation.Violation.ofValue v.toValue v) ∧
    (∀ s : Evaluation.Summary, s.Fits →
      Value.ReadsBack Evaluation.Summary.ofValue s.toValue s) ∧
    (∀ r : Evaluation.Result, r.Fits →
      Value.ReadsBack Evaluation.Result.ofValue r.toValue r) ∧
    ∀ r : Generation.Report, r.Fits →
      Value.ReadsBack Generation.Report.ofValue r.toValue r :=
  ⟨fun _ => Generation.Options.readsBack, fun _ => Evaluation.Options.readsBack,
    fun _ => Evaluation.Violation.readsBack, fun _ => Evaluation.Summary.readsBack,
    fun _ => Evaluation.Result.readsBack, fun _ => Generation.Report.readsBack⟩

/-- A quarter into a leap second before noon on 30 June of year -5. -/
def earlyLeapSecond : Calendar.DateTime :=
  ⟨-2012, 43199, 1250000000, by decide, by decide, by decide, by decide⟩

/-- A directory whose name needs escapes, the greatest seed and an early leap second. -/
def oddOptions : Generation.Options where
  outDir := "a \"b\"\\c\n\x01é😀"
  headers := true
  seed := some 18446744073709551615
  referenceTime := some earlyLeapSecond

/-- A violation of a row and one of no row. -/
def twoViolations : List Evaluation.Violation :=
  [⟨"main.id", "main.csv", "bad \"id\"", some 18446744073709551615⟩,
    ⟨"child.orphan", "child.csv", "no row", none⟩]

/-- A report with the seed given. -/
def reportOf (seed : Option Nat) : Generation.Report :=
  ⟨1, ⟨1, 2, 3, 0⟩, 4096, 7, seed, ⟨"main.csv", "child.csv", "inline.csv"⟩⟩

/-- One record of each type, with the greatest numbers, odd texts and absent fields. -/
theorem odd_forms_read_back :
    Json.compact oddOptions.toValue =
        "\x7b\"out_dir\":\"a \\\"b\\\"\\\\c\\n\\u0001é😀\",\"headers\":true," ++
        "\"seed\":18446744073709551615,\"reference_time\":\"-0005-06-30T11:59:60.250\"\x7d" ∧
      Value.ReadsBack Generation.Options.ofValue oddOptions.toValue oddOptions ∧
      Value.ReadsBack Generation.Options.ofValue (Generation.Options.toValue {}) {} ∧
      Value.ReadsBack Evaluation.Options.ofValue (Evaluation.Options.toValue {}) {} ∧
      (∀ v ∈ twoViolations, Value.ReadsBack Evaluation.Violation.ofValue v.toValue v) ∧
      Value.ReadsBack Evaluation.Summary.ofValue (Evaluation.Summary.toValue {}) {} ∧
      Value.ReadsBack Evaluation.Result.ofValue
        (Evaluation.Result.toValue ⟨"data", {}, 2, twoViolations⟩)
        ⟨"data", {}, 2, twoViolations⟩ ∧
      Value.ReadsBack Generation.Report.ofValue (reportOf (some 3)).toValue (reportOf (some 3)) ∧
      Value.ReadsBack Generation.Report.ofValue (reportOf none).toValue (reportOf none) := by
  obtain ⟨hoptions, hevaluation, hviolation, hsummary, hresult, hreport⟩ := forms_lose_nothing
  have hviolations : ∀ v ∈ twoViolations, v.Fits := by
    simp [twoViolations, Evaluation.Violation.Fits, word64]
  have hnone : Evaluation.Summary.Fits {} :=
    ⟨by decide, by decide, by decide, by decide, by decide⟩
  have hfits : ∀ seed, (∀ n ∈ seed, n < word64) → (reportOf seed).Fits := by
    intro seed hseed
    refine ⟨?_, ?_, ?_, ?_, ?_, ?_, ?_, hseed⟩ <;> simp [reportOf, word64, UInt64.size]
  have htwenty : Evaluation.Options.Fits {} := show 20 < word64 by decide
  refine ⟨by decide +kernel, hoptions _ ?_, hoptions _ nofun, hevaluation _ htwenty,
    fun v hv => hviolation v (hviolations v hv), hsummary _ hnone,
    hresult _ ⟨hnone, by decide, hviolations⟩, hreport _ (hfits _ ?_), hreport _ (hfits _ nofun)⟩
  · rintro n ⟨⟩
    decide
  · rintro n ⟨⟩
    decide

end Json
end LinkedDocs
