import LinkedDocs.Session

/-!
# Work that succeeds or fails

When work on a state, which may fail, yields a value, so does each of its steps;
when it fails, one of its steps does, after others that succeeded.

* `bind_ok_iff`, `bind_error_iff`: two steps, one after the other.
* `onTree_ok_iff`, `within_ok_iff`, `log_ok_iff` and their like for errors: the
  steps of a session.
-/

namespace LinkedDocs

/-- A step that succeeds is followed by the next one. -/
theorem ok_bind {ε α β : Type} (a : α) (f : α → Except ε β) : (Except.ok a >>= f) = f a := rfl

/-- Two steps succeed exactly if both do. -/
theorem except_bind_ok_iff {ε α β : Type} {x : Except ε α} {f : α → Except ε β} {b : β} :
    (x >>= f) = .ok b ↔ ∃ a, x = .ok a ∧ f a = .ok b := by
  cases x with
  | error e =>
    constructor
    · intro h
      cases h
    · rintro ⟨a, ha, -⟩
      cases ha
  | ok a =>
    constructor
    · intro h
      exact ⟨a, rfl, h⟩
    · rintro ⟨a', ha, h⟩
      cases ha
      exact h

section

variable {ε τ α β : Type} {s s' : τ}

/-- Two steps succeed exactly if the first does, and the second does on what the first left. -/
theorem bind_ok_iff {x : ExceptT ε (StateM τ) α} {f : α → ExceptT ε (StateM τ) β} {b : β} :
    (x >>= f) s = (.ok b, s') ↔ ∃ a t, x s = (.ok a, t) ∧ f a t = (.ok b, s') := by
  change ExceptT.bindCont f (x s).1 (x s).2 = _ ↔ _
  rcases x s with ⟨e | a, t⟩
  · constructor
    · intro h
      cases h
    · rintro ⟨a, t, hx, -⟩
      cases hx
  · constructor
    · intro h
      exact ⟨a, t, rfl, h⟩
    · rintro ⟨a', t', hx, hf⟩
      cases hx
      exact hf

/-- A step that succeeds is followed by the next one, on what it left. -/
theorem bind_of_ok {x : ExceptT ε (StateM τ) α} {f : α → ExceptT ε (StateM τ) β} {a : α}
    (h : x s = (.ok a, s')) : (x >>= f) s = f a s' := by
  show ExceptT.bindCont f (x s).1 (x s).2 = f a s'
  rw [h]
  rfl

/-- A step that succeeds leads to what the next one, on what it left, leads to. -/
theorem exists_bind_ok {x : ExceptT ε (StateM τ) α} {f : α → ExceptT ε (StateM τ) β} {a : α}
    {b : β} {t : τ} (hx : x s = (.ok a, t)) (hf : ∃ s', f a t = (.ok b, s')) :
    ∃ s', (x >>= f) s = (.ok b, s') := by
  rw [bind_of_ok hx]
  exact hf

theorem pure_ok_iff {a b : α} :
    (pure a : ExceptT ε (StateM τ) α) s = (.ok b, s') ↔ b = a ∧ s' = s := by
  constructor
  · intro h
    cases h
    exact ⟨rfl, rfl⟩
  · rintro ⟨rfl, rfl⟩
    rfl

theorem throw_ne_ok {e : ε} {b : α} : (throw e : ExceptT ε (StateM τ) α) s ≠ (.ok b, s') := by
  intro h
  cases h

/-- Two steps fail exactly if the first does, or the second does on what the first left. -/
theorem bind_error_iff {x : ExceptT ε (StateM τ) α} {f : α → ExceptT ε (StateM τ) β} {e : ε} :
    (x >>= f) s = (.error e, s') ↔
      x s = (.error e, s') ∨ ∃ a t, x s = (.ok a, t) ∧ f a t = (.error e, s') := by
  change ExceptT.bindCont f (x s).1 (x s).2 = _ ↔ _
  rcases x s with ⟨e' | a, t⟩
  · constructor
    · intro h
      cases h
      exact .inl rfl
    · rintro (h | ⟨a, t', hx, -⟩)
      · cases h
        rfl
      · cases hx
  · constructor
    · intro h
      exact .inr ⟨a, t, rfl, h⟩
    · rintro (h | ⟨a', t', hx, hf⟩)
      · cases h
      · cases hx
        exact hf

theorem pure_ne_error {a : α} {e : ε} :
    (pure a : ExceptT ε (StateM τ) α) s ≠ (.error e, s') := by
  intro h
  cases h

theorem throw_error_iff {e e' : ε} :
    (throw e : ExceptT ε (StateM τ) α) s = (.error e', s') ↔ e' = e ∧ s' = s := by
  constructor
  · intro h
    cases h
    exact ⟨rfl, rfl⟩
  · rintro ⟨rfl, rfl⟩
    rfl

/-- Work that is watched ends as it does by itself, or as what handles its failure. -/
theorem tryCatch_eq (x : ExceptT ε (StateM τ) α) (handler : ε → ExceptT ε (StateM τ) α) (s : τ) :
    tryCatch x handler s = match x s with
      | (.ok a, t) => (.ok a, t)
      | (.error e, t) => handler e t := by
  show (match (x s).1 with
    | .ok a => (pure (.ok a) : StateM τ (Except ε α))
    | .error e => handler e) (x s).2 = _
  rcases x s with ⟨e | a, t⟩ <;> rfl

/-- Work whose faults are passed on after some more work succeeds as it does by itself. -/
theorem tryCatch_ok_iff {x : ExceptT ε (StateM τ) α} {handler : ε → ExceptT ε (StateM τ) α}
    {a : α} (hpassed : ∀ e t, handler e t ≠ (.ok a, s')) :
    tryCatch x handler s = (.ok a, s') ↔ x s = (.ok a, s') := by
  rw [tryCatch_eq]
  rcases x s with ⟨e | b, t⟩
  · constructor
    · intro h
      exact absurd h (hpassed e t)
    · intro h
      cases h
  · exact Iff.rfl

end

/-! ## Checking that something succeeds -/

section

variable {ε α τ : Type}

/-- A check of a result that holds shows the result. -/
theorem exists_ok_of_any {x : Except ε α} {p : α → Bool} (h : x.toOption.any p = true) :
    ∃ a, x = .ok a ∧ p a = true := by
  cases x with
  | error e => exact absurd h Bool.false_ne_true
  | ok a => exact ⟨a, rfl, h⟩

theorem exists_ok_of_fst_any {x : Except ε α × τ} {p : α → Bool}
    (h : x.1.toOption.any p = true) : ∃ a s, x = (.ok a, s) ∧ p a = true := by
  rcases exists_ok_of_any h with ⟨a, hx, ha⟩
  exact ⟨a, x.2, Prod.ext hx rfl, ha⟩

end

namespace SessionWork

variable {ε α : Type} {session session' : Session}

/-- A message of the log is put in front of the events. -/
theorem log_ok_iff {level : Log.Level} {message : String} {fields : List (String × Value)}
    {u : Unit} :
    (log level message fields : SessionWork ε Unit) session = (.ok u, session') ↔
      session' = { session with events := ⟨level, message, fields⟩ :: session.events } := by
  constructor
  · intro h
    cases h
    rfl
  · rintro rfl
    rfl

/-- Work on the tree of a session succeeds as it does on the tree. -/
theorem onTree_ok_iff {report : FileFault → ε} {work : FileWork α} {a : α} :
    onTree report work session = (.ok a, session') ↔
      ∃ tree, work session.tree = (.ok a, tree) ∧ session' = { session with tree } := by
  rw [onTree.eq_def]
  rcases work session.tree with ⟨fault | a', tree⟩
  · constructor
    · intro h
      cases h
    · rintro ⟨tree', hwork, -⟩
      cases hwork
  · constructor
    · intro h
      cases h
      exact ⟨tree, rfl, rfl⟩
    · rintro ⟨tree', hwork, rfl⟩
      cases hwork
      rfl

theorem log_ne_error {level : Log.Level} {message : String} {fields : List (String × Value)}
    {e : ε} :
    (log level message fields : SessionWork ε Unit) session ≠ (.error e, session') := by
  intro h
  cases h

/-- Work on the tree of a session fails as it does on the tree. -/
theorem onTree_error_iff {report : FileFault → ε} {work : FileWork α} {e : ε} :
    onTree report work session = (.error e, session') ↔
      ∃ fault tree, work session.tree = (.error fault, tree) ∧ e = report fault ∧
        session' = { session with tree } := by
  rw [onTree.eq_def]
  rcases work session.tree with ⟨fault | a', tree⟩
  · constructor
    · intro h
      cases h
      exact ⟨fault, tree, rfl, rfl, rfl⟩
    · rintro ⟨fault', tree', hwork, rfl, rfl⟩
      cases hwork
      rfl
  · constructor
    · intro h
      cases h
    · rintro ⟨fault', tree', hwork, -⟩
      cases hwork

section

variable {δ : Type} {report : δ → ε} {work : SessionWork δ α}

/-- Work whose errors count as errors of another kind succeeds as it does by itself. -/
theorem within_ok_iff {a : α} :
    within report work session = (.ok a, session') ↔ work session = (.ok a, session') := by
  rw [within.eq_def]
  rcases work session with ⟨e | a', t⟩
  · constructor
    · intro h
      cases h
    · intro h
      cases h
  · constructor
    · intro h
      cases h
      rfl
    · intro h
      cases h
      rfl

/-- Work fails within other work with the error that is reported for it. -/
theorem within_error_iff {e : ε} :
    within report work session = (.error e, session') ↔
      ∃ cause, work session = (.error cause, session') ∧ e = report cause := by
  rw [within.eq_def]
  rcases work session with ⟨cause | a, t⟩
  · constructor
    · intro h
      cases h
      exact ⟨cause, rfl, rfl⟩
    · rintro ⟨cause', h, rfl⟩
      cases h
      rfl
  · constructor
    · intro h
      cases h
    · rintro ⟨cause', h, -⟩
      cases h

end

end SessionWork

end LinkedDocs
