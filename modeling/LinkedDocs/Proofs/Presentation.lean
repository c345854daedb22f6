import LinkedDocs.Proofs.KeyColumns

/-!
# The cap and strictness

How many violations are kept, and whether any of them is an error, is decided
after a dataset is read and checked. Neither has a say in what is read, counted
or reported.

* `tallyGroups_rest_eq`: what is read does not depend on the tally.
* `run_outcome`: strictness is a verdict on the result of a lenient evaluation.
* `cap_and_strictness_present`: the kept violations are the first ones of all of
  them, and strict mode fails exactly if there are any.
-/

namespace LinkedDocs.Evaluation

open Dataset

/-! ## What is read -/

/-- Reading groups leaves the same behind, or fails in the same way, whatever was tallied before. -/
theorem tallyGroups_rest_eq (n : Nat) (t u : Tally) (r : Reader) :
    (tallyGroups n t r).map Prod.snd = (tallyGroups n u r).map Prod.snd := by
  induction n generalizing t u r with
  | zero => rfl
  | succ n ih =>
    rw [tallyGroups, tallyGroups]
    rcases r.nextGroup with ⟨e | - | group, left⟩
    · rfl
    · rfl
    · exact ih (t.checkGroup group) (u.checkGroup group) left

/-- A bad row is met whatever was tallied before. -/
theorem tallyReader_error_congr {t : Tally} {r : Reader} {e : ReadError}
    (h : tallyReader t r = .error e) (u : Tally) : tallyReader u r = .error e := by
  have hrest := tallyGroups_rest_eq (r.main.length + 1) t u r
  rw [tallyReader] at h ⊢
  rcases ht : tallyGroups (r.main.length + 1) t r with e₁ | ⟨t', left⟩
  · rcases hu : tallyGroups (r.main.length + 1) u r with e₂ | ⟨u', left'⟩
    · rw [ht] at h hrest
      rw [hu] at hrest
      cases hrest
      exact h
    · rw [ht, hu] at hrest
      cases hrest
  · rcases hu : tallyGroups (r.main.length + 1) u r with e₂ | ⟨u', left'⟩
    · rw [ht, hu] at hrest
      cases hrest
    · rw [ht] at h hrest
      rw [hu] at hrest
      cases hrest
      -- The rows left are the same, so they are refused alike.
      dsimp only at h ⊢
      rcases hleft : left.remaining with ⟨e' | rows, r'⟩
      · rw [hleft] at h
        exact h
      · rw [hleft] at h
        cases h

/-! ## The verdict -/

/-- What becomes of a result: in strict mode any violation is an error. -/
def Result.verdict (strict : Bool) (r : Result) : Except Error Result :=
  if strict && !r.isClean then .error (.violations r.violationCount) else .ok r

/-- A clean result passes, strict or not. -/
theorem Result.verdict_of_clean {strict : Bool} {r : Result} (h : r.violationCount = 0) :
    r.verdict strict = .ok r := by
  have hclean : r.isClean = true := decide_eq_true h
  rw [verdict, hclean, Bool.not_true, Bool.and_false]
  rfl

/-- A strict verdict fails with the number of violations, and only if there are any. -/
theorem Result.verdict_eq_error_iff {r : Result} {c : Nat} :
    r.verdict true = .error (.violations c) ↔ 0 < c ∧ r.violationCount = c := by
  by_cases h : r.violationCount = 0
  · rw [verdict_of_clean h, h]
    constructor
    · intro hok
      cases hok
    · rintro ⟨hpos, rfl⟩
      exact absurd hpos (Nat.lt_irrefl 0)
  · have hclean : r.isClean = false := decide_eq_false h
    have hfails : r.verdict true = .error (.violations r.violationCount) := by
      rw [verdict, hclean]
      rfl
    rw [hfails]
    constructor
    · intro heq
      cases heq
      exact ⟨Nat.pos_of_ne_zero h, rfl⟩
    · rintro ⟨-, rfl⟩
      rfl

/-- Violations can always be logged. -/
theorem exists_logViolations (violations : List Violation) (session : Session) :
    ∃ after, logViolations violations session = (.ok (), after) := by
  induction violations generalizing session with
  | nil => exact ⟨session, rfl⟩
  | cons v rest ih =>
    rw [logViolations]
    exact exists_bind_ok (SessionWork.log_ok_iff (u := ()).2 rfl) (ih _)

/-- The tally of a directory, or why there is none, depends on the files alone. -/
theorem tallyDir_outcome (options : Options) (dir : String) (session : Session) :
    (tallyDir options dir session).1 =
      match (Reader.openDir dir options.headers session.tree).1 with
      | .error fault => .error (.dataset (.csv (.file fault)))
      | .ok reader => (tallyReader { most := options.maxExamples } reader).mapError .dataset := by
  rcases hopen : Reader.openDir dir options.headers session.tree with ⟨fault | reader, tree⟩
  · have hwork : SessionWork.onTree (fun fault => Error.dataset (.csv (.file fault)))
        (Reader.openDir dir options.headers) session =
          (.error (.dataset (.csv (.file fault))), { session with tree }) :=
      SessionWork.onTree_error_iff.2 ⟨fault, tree, hopen, rfl, rfl⟩
    have hfails : tallyDir options dir session =
        (.error (.dataset (.csv (.file fault))), { session with tree }) :=
      bind_error_iff.2 (.inl hwork)
    rw [hfails]
  · have hwork : SessionWork.onTree (fun fault => Error.dataset (.csv (.file fault)))
        (Reader.openDir dir options.headers) session = (.ok reader, { session with tree }) :=
      SessionWork.onTree_ok_iff.2 ⟨tree, hopen, rfl⟩
    rw [tallyDir, bind_of_ok hwork]
    dsimp only
    cases tallyReader { most := options.maxExamples } reader with
    | error e => rfl
    | ok t => rfl

/-- Violations are logged before they are made an error, and the error is the same. -/
theorem verdict_outcome (strict : Bool) (found : Result) (session : Session) :
    ((if strict && !found.isClean then do
        logViolations found.violations
        throw (.violations found.violationCount)
        pure found
      else pure found : SessionWork Error Result) session).1 = found.verdict strict := by
  unfold Result.verdict
  cases strict && !found.isClean with
  | false => rfl
  | true =>
    obtain ⟨logged, hlogged⟩ := exists_logViolations found.violations session
    rw [if_pos rfl, if_pos rfl, bind_of_ok hlogged]
    rfl

/-- An evaluation ends with a verdict on what its tally holds. -/
theorem run_outcome (options : Options) (dir : String) (session : Session) :
    (run options dir session).1 =
      (tallyDir options dir session).1 >>= fun t => (t.toResult dir).verdict options.strict := by
  let started : Session := { session with
    events := ⟨.info, "evaluation started", [("dataset_dir", .string dir)]⟩ :: session.events }
  have hstart : (SessionWork.log .info "evaluation started" [("dataset_dir", .string dir)] :
      SessionWork Error Unit) session = (.ok (), started) := SessionWork.log_ok_iff.2 rfl
  have htree : (tallyDir options dir session).1 = (tallyDir options dir started).1 := by
    rw [tallyDir_outcome, tallyDir_outcome]
  rw [run, bind_of_ok hstart, htree]
  rcases htally : tallyDir options dir started with ⟨e | t, after⟩
  · have hfails := fun f : Tally → SessionWork Error Result =>
      bind_error_iff (f := f).2 (.inl htally)
    rw [hfails]
    rfl
  · rw [bind_of_ok htally]
    refine (congrArg Prod.fst (bind_of_ok ((SessionWork.log_ok_iff (u := ())).2 rfl))).trans ?_
    exact verdict_outcome options.strict (t.toResult dir) _

/-! ## What the cap and strictness change -/

variable {headers : Bool} {dir : String} {session : Session}

/-- A dataset that cannot be read is refused in the same way under every cap. -/
theorem tallyDir_error_congr {most : Nat} {strict : Bool} {e : Error}
    (h : (tallyDir { headers, maxExamples := most, strict } dir session).1 = .error e)
    (cap : Nat) (strict' : Bool) :
    (∃ fault, e = .dataset fault) ∧
      (tallyDir { headers, maxExamples := cap, strict := strict' } dir session).1 = .error e := by
  rw [tallyDir_outcome] at h ⊢
  dsimp only at h ⊢
  rcases hopen : (Reader.openDir dir headers session.tree).1 with fault | reader
  · rw [hopen] at h
    cases h
    exact ⟨⟨_, rfl⟩, rfl⟩
  · rw [hopen] at h
    dsimp only at h ⊢
    cases htally : tallyReader { most } reader with
    | error fault =>
      rw [htally] at h
      cases h
      rw [tallyReader_error_congr htally { most := cap }]
      exact ⟨⟨fault, rfl⟩, rfl⟩
    | ok t =>
      rw [htally] at h
      cases h

/-- A strict evaluation is a lenient one with a verdict on its result. -/
theorem run_strict (most : Nat) :
    (run { headers, maxExamples := most, strict := true } dir session).1 =
      (run { headers, maxExamples := most, strict := false } dir session).1 >>=
        Result.verdict true := by
  have hsame : (tallyDir { headers, maxExamples := most, strict := true } dir session).1 =
      (tallyDir { headers, maxExamples := most, strict := false } dir session).1 := by
    rw [tallyDir_outcome, tallyDir_outcome]
  rw [run_outcome, run_outcome, hsame]
  cases (tallyDir { headers, maxExamples := most, strict := false } dir session).1 with
  | error e => rfl
  | ok t => rfl

/-- A lenient evaluation fails only where the dataset cannot be read, and then under every cap. -/
theorem run_lenient_error {most : Nat} {e : Error}
    (h : (run { headers, maxExamples := most, strict := false } dir session).1 = .error e)
    (cap : Nat) :
    (∃ fault, e = .dataset fault) ∧
      (run { headers, maxExamples := cap, strict := false } dir session).1 = .error e := by
  rw [run_outcome] at h ⊢
  cases htally : (tallyDir { headers, maxExamples := most, strict := false } dir session).1 with
  | error e' =>
    rw [htally] at h
    cases h
    obtain ⟨hfault, hcap⟩ := tallyDir_error_congr htally cap false
    rw [hcap]
    exact ⟨hfault, rfl⟩
  | ok t =>
    rw [htally] at h
    cases h

/-- The result of a lenient evaluation holds the first ones of a list that no cap changes. -/
theorem run_lenient_ok {most : Nat} {r : Result}
    (h : (run { headers, maxExamples := most, strict := false } dir session).1 = .ok r) :
    ∃ all : List Violation, r.violationCount = all.length ∧
      r.violations = all.take most ∧
      ∀ cap, (run { headers, maxExamples := cap, strict := false } dir session).1 =
        .ok { r with violations := all.take cap } := by
  rcases hrun : run { headers, maxExamples := most, strict := false } dir session with ⟨_, after⟩
  rw [hrun] at h
  obtain rfl : _ = Except.ok r := h
  obtain ⟨d, hread⟩ := (Rows.exists_result_iff rfl).1 ⟨r, after, hrun⟩
  obtain ⟨rfl, -⟩ := (Rows.run_ok_iff hread).1 ⟨after, hrun⟩
  refine ⟨d.violations, rfl, rfl, ?_⟩
  intro cap
  have hread' : d.ReadFrom dir
      ({ headers, maxExamples := cap, strict := false } : Options).headers session.tree := hread
  obtain ⟨after', hcap⟩ := (Rows.run_ok_iff hread').2 ⟨rfl, fun hstrict => by cases hstrict⟩
  rw [hcap]
  rfl

/--
For every dataset, the cap decides how many violations are kept and strictness
whether they are an error; neither changes what is found. Under each cap a lenient
evaluation keeps the first violations of one list, which an evaluation with a cap
that is wide enough keeps as a whole and whose length is counted; its other fields,
and the error where there is no result, are the same under each cap. A strict
evaluation fails for its violations exactly if the lenient one counts any, with
their number, and otherwise ends as the lenient one does.
-/
theorem cap_and_strictness_present (headers : Bool) (dir : String) (session : Session) :
    let outcome (most : Nat) (strict : Bool) :=
      (run { headers, maxExamples := most, strict } dir session).1
    (∀ most r, outcome most false = .ok r → ∃ all : List Violation,
        r.violationCount = all.length ∧
        r.violations = all.take (min most r.violationCount) ∧
        (∀ cap, outcome cap false =
          .ok { r with violations := all.take (min cap r.violationCount) }) ∧
        ∀ wide, r.violationCount ≤ wide → outcome wide false = .ok { r with violations := all }) ∧
      (∀ most e, outcome most false = .error e → ∀ cap, outcome cap false = .error e) ∧
      ∀ most,
        (∀ c, outcome most true = .error (.violations c) ↔
          0 < c ∧ ∃ r, outcome most false = .ok r ∧ r.violationCount = c) ∧
        ((∀ c, outcome most true ≠ .error (.violations c)) →
          outcome most true = outcome most false) := by
  intro outcome
  refine ⟨?_, ?_, ?_⟩
  · intro most r h
    obtain ⟨all, hcount, hkept, hcaps⟩ := run_lenient_ok h
    have htake : ∀ cap, all.take cap = all.take (min cap r.violationCount) := by
      intro cap
      rw [hcount]
      exact List.take_eq_take_min
    refine ⟨all, hcount, ?_, ?_, ?_⟩
    · rw [hkept]
      exact htake most
    · intro cap
      rw [← htake]
      exact hcaps cap
    · intro wide hwide
      have hwhole := hcaps wide
      rwa [List.take_of_length_le (hcount ▸ hwide)] at hwhole
  · intro most e h cap
    exact (run_lenient_error h cap).2
  · intro most
    have hstrict : outcome most true = outcome most false >>= Result.verdict true := run_strict most
    rcases hlenient : outcome most false with e | r
    · -- there is no result, and the error is that of the dataset
      obtain ⟨⟨fault, rfl⟩, -⟩ := run_lenient_error hlenient most
      rw [hlenient] at hstrict
      have hsame : outcome most true = .error (.dataset fault) := hstrict
      rw [hsame]
      refine ⟨fun c => ⟨nofun, ?_⟩, fun _ => rfl⟩
      rintro ⟨-, r, hr, -⟩
      cases hr
    · -- there is a result, and strictness judges it by its number of violations
      rw [hlenient] at hstrict
      have hverdict : outcome most true = r.verdict true := hstrict
      rw [hverdict]
      refine ⟨fun c => ?_, fun hpasses => ?_⟩
      · rw [Result.verdict_eq_error_iff]
        simp
      · by_cases hclean : r.violationCount = 0
        · exact Result.verdict_of_clean hclean
        · exact absurd (Result.verdict_eq_error_iff.2 ⟨Nat.pos_of_ne_zero hclean, rfl⟩)
            (hpasses r.violationCount)

/-- Two of eighteen violations are kept, and none is needed for the error that counts them. -/
theorem two_of_eighteen_kept :
    ∃ r after, run { maxExamples := 2, strict := false } "data" { tree := strayFiles.dataTree } =
        (.ok r, after) ∧ r.violationCount = 18 ∧
      (∃ all : List Violation, all.length = 18 ∧ r.violations = all.take 2 ∧
        (run { maxExamples := 18, strict := false } "data" { tree := strayFiles.dataTree }).1 =
          .ok { r with violations := all }) ∧
      (run { maxExamples := 0 } "data" { tree := strayFiles.dataTree }).1 =
        .error (.violations 18) := by
  -- The rows are evaluated, not the run: the table of seen ids does not reduce.
  have hok : (Reader.openDir "data" false strayFiles.dataTree).1.toOption.any (fun r =>
      decide (AllGood r ∧ (goodRowsOf r).violations.length = 18)) = true := by
    decide +kernel
  obtain ⟨reader, tree, hopen, hreader⟩ := exists_ok_of_fst_any hok
  obtain ⟨hgood, hmany⟩ := of_decide_eq_true hreader
  obtain ⟨after, hrun⟩ := (@Rows.run_ok_iff _ _ { tree := strayFiles.dataTree }
    { maxExamples := 2, strict := false } _ (hgood.readFrom hopen)).2 ⟨rfl, nofun⟩
  have hcount : ((goodRowsOf reader).result "data" 2).violationCount = 18 := hmany
  obtain ⟨hcap, -, hstrict⟩ :=
    cap_and_strictness_present false "data" { tree := strayFiles.dataTree }
  obtain ⟨all, hall, hkept, hcaps, hwhole⟩ := hcap 2 _ (congrArg Prod.fst hrun)
  have hnone := hcaps 0
  refine ⟨_, after, hrun, hcount, ⟨all, ?_, ?_, hwhole 18 (Nat.le_of_eq hcount)⟩, ?_⟩
  · rw [← hall, hcount]
  · rw [hkept, hcount]
    rfl
  · exact ((hstrict 0).1 18).2 ⟨by decide, _, hnone, hcount⟩

end LinkedDocs.Evaluation
