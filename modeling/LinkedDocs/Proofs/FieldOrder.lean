import LinkedDocs.Proofs.JsonRoundTrip
import LinkedDocs.Value.Decode
import Mathlib.Data.List.Perm.Basic

/-!
# Objects in another order

A JSON text gives the fields of an object in ascending order, whatever order they
were written in. The readers of records do not see that: they check every field
and take each by its key, so with distinct keys the order is nothing to them.

* `field?_perm`, `firstFault_perm`: a field by its key, and the faults of all fields.
* `ReadsByKey`: the readers of that shape; `readsByKey_of`: how one is seen to be.
* `sorted_object`: the order of the reader is only another order.
-/

namespace LinkedDocs

namespace Value

/-! ## Fields in any order -/

section

variable {fields written : List (String × Value)} {checks : Checks}

/-- A key that is there once has its value wherever it stands. -/
theorem field?_eq_some_iff (h : (fields.map Prod.fst).Nodup) {name : String} {v : Value} :
    field? name fields = some v ↔ (name, v) ∈ fields := by
  induction fields with
  | nil => simp [field?]
  | cons field fields ih =>
    obtain ⟨key, w⟩ := field
    rw [List.map_cons, List.nodup_cons] at h
    rw [field?, List.lookup_cons, List.mem_cons, Prod.mk.injEq]
    by_cases hkey : name = key
    · subst hkey
      have hnot : (name, v) ∉ fields := fun hmem => h.1 (List.mem_map.2 ⟨_, hmem, rfl⟩)
      simp [hnot, eq_comm]
    · rw [beq_false_of_ne hkey]
      simp only [hkey, false_and, false_or]
      exact ih h.2

/-- A key that is there once has the same value in any order of the fields. -/
theorem field?_perm (hperm : fields.Perm written) (h : (written.map Prod.fst).Nodup)
    (name : String) : field? name fields = field? name written := by
  have h' : (fields.map Prod.fst).Nodup := (hperm.map Prod.fst).nodup_iff.2 h
  refine Option.ext fun v => ?_
  rw [field?_eq_some_iff h', field?_eq_some_iff h, hperm.mem_iff]

/-- The fields of an object all read exactly if each of them does. -/
theorem firstFault_ok_iff :
    firstFault checks fields = .ok () ↔
      ∀ field ∈ fields, ∀ read ∈ checks.lookup field.1, read field.2 = .ok () := by
  induction fields with
  | nil => simp [firstFault]
  | cons field fields ih =>
    obtain ⟨key, v⟩ := field
    rw [List.forall_mem_cons, ← ih, firstFault]
    cases checks.lookup key with
    | none => simp
    | some read =>
      dsimp only
      rw [except_bind_ok_iff]
      constructor
      · rintro ⟨⟨⟩, hread, hrest⟩
        refine ⟨?_, hrest⟩
        rintro _ ⟨⟩
        exact hread
      · rintro ⟨hread, hrest⟩
        exact ⟨(), hread read rfl, hrest⟩

/-- Fields that all read exactly do so in any order. -/
theorem firstFault_perm (hperm : fields.Perm written) (h : firstFault checks written = .ok ()) :
    firstFault checks fields = .ok () := by
  rw [firstFault_ok_iff] at h ⊢
  exact fun field hfield => h field (hperm.mem_iff.1 hfield)

end

/-! ## Readers of records -/

section

variable {α : Type} {fields written : List (String × Value)} {read : Value → Decoded α}

theorem required_perm (hperm : fields.Perm written) (hkeys : (written.map Prod.fst).Nodup)
    (read : Value → Decoded α) : required read fields = required read written := by
  funext name
  rw [required, required, field?_perm hperm hkeys]

theorem optional_perm (hperm : fields.Perm written) (hkeys : (written.map Prod.fst).Nodup)
    (read : Value → Decoded α) : optional read fields = optional read written := by
  funext name absent
  rw [optional, optional, field?_perm hperm hkeys]

/-- An object with distinct keys is read as it is in any other order of its fields. -/
def ReadsByKey (read : Value → Decoded α) : Prop :=
  ∀ ⦃fields written : List (String × Value)⦄, fields.Perm written →
    (written.map Prod.fst).Nodup → ∀ ⦃a⦄, read (.object written) = .ok a →
      read (.object fields) = .ok a

/-- A reader that checks the fields, and then takes each by its key. -/
theorem readsByKey_of {checks : Checks} {rest : List (String × Value) → Decoded α}
    (hread : ∀ fields, read (.object fields) = (do firstFault checks fields; rest fields))
    (hrest : ∀ fields written,
      (∀ (β : Type) (r : Value → Decoded β), required r fields = required r written) →
      (∀ (β : Type) (r : Value → Decoded β), optional r fields = optional r written) →
      rest fields = rest written) : ReadsByKey read := by
  intro fields written hperm hkeys a h
  rw [hread, except_bind_ok_iff] at h ⊢
  obtain ⟨_, hfault, h⟩ := h
  rw [← hrest fields written (fun _ => required_perm hperm hkeys)
    (fun _ => optional_perm hperm hkeys)] at h
  exact ⟨(), firstFault_perm hperm hfault, h⟩

end

/-! ## The order of the reader -/

/-- A new key is put somewhere among the fields. -/
theorem insertField_perm {key : String} {v : Value} {fields : List (String × Value)}
    (h : key ∉ fields.map Prod.fst) : (insertField key v fields).Perm ((key, v) :: fields) := by
  induction fields with
  | nil => rfl
  | cons field fields ih =>
    obtain ⟨k, w⟩ := field
    rw [List.map_cons, List.mem_cons, not_or] at h
    rw [insertField]
    split
    · rfl
    · rw [if_neg h.1]
      exact ((ih h.2).cons _).trans (.swap _ _ _)

/-- Fields with distinct keys are only put into another order. -/
theorem sortedFields_perm {done fields : List (String × Value)}
    (h : ((done ++ fields).map Prod.fst).Nodup) :
    (sortedFields done fields).Perm
      (done ++ fields.map fun field => (field.1, field.2.sorted)) := by
  induction fields generalizing done with
  | nil => simp [sortedFields]
  | cons field fields ih =>
    obtain ⟨key, v⟩ := field
    have hmoved : (((key, v.sorted) :: done ++ fields).map Prod.fst).Nodup := by
      simpa using (List.perm_middle.nodup_iff.1 (by simpa using h) :
        (key :: (done.map Prod.fst ++ fields.map Prod.fst)).Nodup)
    have hkey : key ∉ done.map Prod.fst := by
      rw [List.cons_append, List.map_cons, List.nodup_cons, List.map_append, List.mem_append,
        not_or] at hmoved
      exact hmoved.1.1
    have hinsert := insertField_perm (v := v.sorted) hkey
    have hnodup := (((hinsert.append_right fields).map Prod.fst).nodup_iff).2 hmoved
    rw [sortedFields, List.map_cons]
    exact (ih hnodup).trans ((hinsert.append_right _).trans List.perm_middle.symm)

/-- The items of an array keep their order. -/
theorem sortedItems_eq (items : List Value) : sortedItems items = items.map sorted := by
  induction items with
  | nil => rfl
  | cons item items ih => rw [sortedItems, ih, List.map_cons]

/-- An object with distinct keys has the same fields when it is sorted. -/
theorem sorted_object {fields : List (String × Value)} (h : (fields.map Prod.fst).Nodup) :
    ∃ fields', sorted (.object fields) = .object fields' ∧
      fields'.Perm (fields.map fun field => (field.1, field.2.sorted)) := by
  rw [sorted]
  exact ⟨_, rfl, sortedFields_perm h⟩

/-- A record that is read as it is written is read when its fields are sorted. -/
theorem ReadsByKey.ok_sorted {α : Type} {read : Value → Decoded α} (h : ReadsByKey read)
    {fields : List (String × Value)} {a : α} (hkeys : (fields.map Prod.fst).Nodup)
    (hread : read (.object (fields.map fun field => (field.1, field.2.sorted))) = .ok a) :
    read (sorted (.object fields)) = .ok a := by
  obtain ⟨fields', hsorted, hperm⟩ := sorted_object hkeys
  rw [hsorted]
  exact h hperm (by simpa [Function.comp_def] using hkeys) hread

end Value
end LinkedDocs
