import LinkedDocs.Random.Draw
import Mathlib.Tactic.ByContra

/-!
# What draws yield

A draw yields a property if every value that it can yield, from any source, has
it. Rules for the ways in which draws are put together carry a property from the
parts to the whole.

* `Yields.bind`, `Yields.times`: draws one after the other.
* `times_succ_ok_iff`: several values are one value and then the others.
* `yields_within`, `yields_within64`: a number lies in its range.
* `yields_pick`, `yields_pick_mem`: a member of a list.
-/

namespace LinkedDocs.Random.Draw

variable {σ α β : Type}

/-- Every value that the draw can yield has the property. -/
def Yields (draw : Draw σ α) (P : α → Prop) : Prop := ∀ s a t, draw s = .ok (a, t) → P a

/-- Two draws are the first, and then the second on what is left. -/
theorem bind_eq (x : Draw σ α) (f : α → Draw σ β) (s : Source σ) :
    (x >>= f) s = x s >>= fun p => f p.1 p.2 := rfl

/-- Two draws succeed exactly if the first does, and the second does on what is left. -/
theorem bind_ok_iff {x : Draw σ α} {f : α → Draw σ β} {s u : Source σ} {b : β} :
    (x >>= f) s = .ok (b, u) ↔ ∃ a t, x s = .ok (a, t) ∧ f a t = .ok (b, u) := by
  rw [bind_eq]
  cases x s with
  | error fault =>
    constructor
    · intro h
      cases h
    · rintro ⟨a, t, h, -⟩
      cases h
  | ok p =>
    constructor
    · intro h
      exact ⟨p.1, p.2, rfl, h⟩
    · rintro ⟨a, t, h, hf⟩
      cases h
      exact hf

theorem pure_ok_iff {a b : α} {s t : Source σ} :
    (pure a : Draw σ α) s = .ok (b, t) ↔ b = a ∧ t = s := by
  constructor
  · intro h
    cases h
    exact ⟨rfl, rfl⟩
  · rintro ⟨rfl, rfl⟩
    rfl

/-- What is drawn and then changed succeeds as the draw does. -/
theorem map_of_ok {x : Draw σ α} {s t : Source σ} {a : α} (f : α → β) (h : x s = .ok (a, t)) :
    (f <$> x) s = .ok (f a, t) := by
  show (x s >>= fun p => pure (f p.1, p.2)) = _
  rw [h]
  rfl

namespace Yields

variable {x : Draw σ α} {f : α → Draw σ β} {P P' : α → Prop} {Q : β → Prop}

/-- What is drawn in two steps has the property that the second step ensures. -/
theorem bind (hx : Yields x P) (hf : ∀ a, P a → Yields (f a) Q) : Yields (x >>= f) Q := by
  intro s b u h
  rcases bind_ok_iff.1 h with ⟨a, t, ha, hb⟩
  exact hf a (hx s a t ha) t b u hb

/-- A property that is drawn may be weakened. -/
theorem mono (h : Yields x P) (himp : ∀ a, P a → P' a) : Yields x P' :=
  fun s a t ha => himp a (h s a t ha)

/-- Two properties that are drawn hold together. -/
theorem and (h : Yields x P) (h' : Yields x P') : Yields x fun a => P a ∧ P' a :=
  fun s a t ha => ⟨h s a t ha, h' s a t ha⟩

end Yields

theorem yields_pure {a : α} {P : α → Prop} (h : P a) : Yields (pure a : Draw σ α) P := by
  intro s b t hb
  rcases pure_ok_iff.1 hb with ⟨rfl, -⟩
  exact h

/-- A draw that stops yields nothing, so all that it yields has any property. -/
theorem yields_stop {fault : DrawFault} {P : α → Prop} : Yields (stop fault : Draw σ α) P := by
  intro s a t h
  cases h

theorem yields_true (x : Draw σ α) : Yields x fun _ => True := fun _ _ _ _ => trivial

/-- A choice yields what both of its branches yield. -/
theorem yields_ite {c : Prop} [Decidable c] {x y : Draw σ α} {P : α → Prop}
    (hx : c → Yields x P) (hy : ¬ c → Yields y P) : Yields (if c then x else y) P := by
  by_cases h : c
  · rw [if_pos h]
    exact hx h
  · rw [if_neg h]
    exact hy h

/-! ## Values one after the other -/

section

variable {draw : Draw σ α} {n : Nat} {s u : Source σ} {values : List α}

/-- Values are put behind those that were there. -/
theorem timesOnto_ok_iff {done : List α} :
    timesOnto draw done n s = .ok (values, u) ↔
      ∃ rest, times draw n s = .ok (rest, u) ∧ values = done.reverse ++ rest := by
  -- What is there already plays no part in what is drawn.
  have hshift : ∀ (done : List α) (s : Source σ), timesOnto draw done n s =
      (timesOnto draw [] n s).map fun drawn => (done.reverse ++ drawn.1, drawn.2) := by
    induction n with
    | zero =>
      intro done s
      show Except.ok (done.reverse, s) = Except.ok (done.reverse ++ [], s)
      rw [List.append_nil]
    | succ n ih =>
      intro done s
      rw [timesOnto, timesOnto]
      rcases draw s with fault | ⟨next, t⟩
      · rfl
      · dsimp only
        rw [ih (next :: done), ih [next]]
        rcases timesOnto draw [] n t with fault | ⟨rest, u⟩
        · rfl
        · show Except.ok ((next :: done).reverse ++ rest, u) =
            Except.ok (done.reverse ++ ([next].reverse ++ rest), u)
          rw [List.reverse_cons, List.append_assoc]
          rfl
  rw [hshift, times]
  rcases timesOnto draw [] n s with fault | ⟨rest, t⟩
  · constructor
    · intro h
      cases h
    · rintro ⟨rest, h, -⟩
      cases h
  · constructor
    · intro h
      cases h
      exact ⟨rest, rfl, rfl⟩
    · rintro ⟨rest', h, rfl⟩
      cases h
      rfl

theorem times_zero : times draw 0 s = .ok ([], s) := rfl

/-- Several values are one value and then the others. -/
theorem times_succ_ok_iff :
    times draw (n + 1) s = .ok (values, u) ↔
      ∃ first t rest, draw s = .ok (first, t) ∧ times draw n t = .ok (rest, u) ∧
        values = first :: rest := by
  rw [times, timesOnto]
  rcases draw s with fault | ⟨first, t⟩
  · constructor
    · intro h
      cases h
    · rintro ⟨first, t, rest, h, -⟩
      cases h
  · dsimp only
    rw [timesOnto_ok_iff]
    constructor
    · rintro ⟨rest, hrest, rfl⟩
      exact ⟨first, t, rest, rfl, hrest, rfl⟩
    · rintro ⟨first', t', rest, h, hrest, rfl⟩
      cases h
      exact ⟨rest, hrest, rfl⟩

end

/-- A number of values, each with the property. -/
theorem Yields.times {draw : Draw σ α} {P : α → Prop} (h : Yields draw P) (n : Nat) :
    Yields (times draw n) fun values => values.length = n ∧ ∀ a ∈ values, P a := by
  induction n with
  | zero =>
    intro s values t heq
    cases heq
    exact ⟨rfl, List.forall_mem_nil _⟩
  | succ n ih =>
    intro s values u heq
    obtain ⟨first, t, rest, hfirst, hrest, rfl⟩ := times_succ_ok_iff.1 heq
    obtain ⟨hlength, hall⟩ := ih t rest u hrest
    exact ⟨congrArg (· + 1) hlength, List.forall_mem_cons.2 ⟨h s first t hfirst, hall⟩⟩

/-! ## Numbers -/

/--
The offset with the carry stays below the size: together they are the floor of
`size` times a fraction below one.
-/
theorem offset_lt {values size first second : Nat} (hfirst : first < values)
    (hsecond : second < values) (hsize : 0 < size) :
    first * size / values +
      (if values ≤ first * size % values + second * size / values then 1 else 0) < size := by
  -- Multiplied by `values`, the offset is at most `first * size` and a carry.
  have hvalues : 0 < values := Nat.zero_lt_of_lt hfirst
  have hproduct := Nat.div_add_mod (first * size) values
  have hle : first * size + size ≤ values * size := by
    have := Nat.mul_le_mul_right size (Nat.succ_le_of_lt hfirst)
    rwa [Nat.succ_mul] at this
  have hcarry : second * size / values < size := by
    rw [Nat.div_lt_iff_lt_mul hvalues, Nat.mul_comm size]
    exact Nat.mul_lt_mul_of_pos_right hsecond hsize
  by_contra hge
  split at hge
  · rename_i hmany
    have hmul := Nat.mul_le_mul_left values (Nat.le_of_not_lt hge)
    rw [Nat.mul_add, Nat.mul_one] at hmul
    omega
  · have hmul := Nat.mul_le_mul_left values (Nat.le_of_not_lt hge)
    rw [Nat.add_zero] at hmul
    omega

/--
A uniform number lies in its range, if that begins at zero or is smaller than what
is drawn from.
-/
theorem yields_uniform {values : Nat} {draw : Draw σ Nat} (hdraw : Yields draw (· < values))
    {low high : Nat} (hrange : low = 0 ∨ high - low + 1 < values) :
    Yields (uniform values draw low high) fun n => low ≤ n ∧ n ≤ high := by
  unfold uniform
  refine yields_ite (fun _ => yields_stop) fun hle => ?_
  refine hdraw.bind fun first hfirst => ?_
  by_cases hwraps : (high - low + 1) % values = 0
  · -- Only a range that is not smaller wraps around; then any number is in the range.
    rw [if_pos hwraps]
    have hvalues := Nat.le_of_dvd (Nat.succ_pos _) (Nat.dvd_of_mod_eq_zero hwraps)
    exact yields_pure (by omega)
  rw [if_neg hwraps]
  have hsize := Nat.pos_of_ne_zero hwraps
  have hmost := Nat.mod_le (high - low + 1) values
  refine yields_ite (fun _ => hdraw.bind fun second hsecond => yields_pure ?_) fun _ =>
    yields_pure ?_
  · have := offset_lt hfirst hsecond hsize
    refine ⟨?_, by omega⟩
    rw [Nat.add_assoc]
    exact Nat.le_add_right _ _
  · have := offset_lt hfirst (Nat.zero_lt_of_lt hfirst) hsize
    refine ⟨Nat.le_add_right _ _, ?_⟩
    omega

variable [WordStream σ]

/-- A word has 32 bits. -/
theorem yields_word : Yields (word : Draw σ Nat) (· < UInt32.size) := by
  intro s n t h
  rw [word] at h
  split at h
  · rename_i w u _
    cases h
    exact w.toNat_lt
  · cases h

/-- Two words have 64 bits. -/
theorem yields_doubleWord : Yields (doubleWord : Draw σ Nat) (· < UInt64.size) := by
  refine yields_word.bind fun low hlow => yields_word.bind fun high hhigh => yields_pure ?_
  have : UInt64.size = UInt32.size * UInt32.size := rfl
  have := Nat.mul_le_mul_right UInt32.size (Nat.succ_le_of_lt hhigh)
  rw [Nat.succ_mul] at this
  omega

/-- A number is drawn from its range, if the range has fewer than 2^32 numbers. -/
theorem yields_within {low high : Nat} (h : high - low + 1 < UInt32.size) :
    Yields (within low high : Draw σ Nat) fun n => low ≤ n ∧ n ≤ high :=
  yields_uniform yields_word (.inr h)

/-- A number is drawn from its range, if the range has fewer than 2^64 numbers. -/
theorem yields_within64 {low high : Nat} (h : high - low + 1 < UInt64.size) :
    Yields (within64 low high : Draw σ Nat) fun n => low ≤ n ∧ n ≤ high :=
  yields_uniform yields_doubleWord (.inr h)

/-! ## Members of a list -/

/-- What is picked is a member of the list, or what stands in for one. -/
theorem yields_pick (items : Array α) (other : α) :
    Yields (pick items other : Draw σ α) fun a => a ∈ items ∨ a = other := by
  unfold pick
  refine yields_ite (fun _ => yields_pure (.inr rfl)) fun _ =>
    (yields_true _).bind fun place _ => yields_pure ?_
  rw [Array.getD_eq_getD_getElem?]
  cases h : items[place]? with
  | none => exact .inr rfl
  | some a => exact .inl (Array.mem_of_getElem? h)

/-- A place of a list that is not empty lies within it. -/
theorem yields_placeBelow {size : Nat} (hpos : 0 < size) :
    Yields (placeBelow size : Draw σ Nat) (· < size) := by
  unfold placeBelow
  refine yields_ite (fun _ => ?_) fun _ => ?_
  · exact (yields_uniform yields_word (.inl rfl)).mono fun place hplace => by omega
  · exact (yields_uniform yields_doubleWord (.inl rfl)).mono fun place hplace => by omega

/-- What is picked of a list that is not empty is a member of it. -/
theorem yields_pick_mem {items : Array α} (hne : items ≠ #[]) (other : α) :
    Yields (pick items other : Draw σ α) (· ∈ items) := by
  have hpos : 0 < items.size := Array.size_pos_iff.2 hne
  unfold pick
  refine yields_ite (fun hempty => absurd (Array.isEmpty_iff.1 hempty) hne) fun _ => ?_
  refine (yields_placeBelow hpos).bind fun place hlt => yields_pure ?_
  rw [Array.getD_eq_getD_getElem?, Array.getElem?_eq_getElem hlt]
  exact Array.getElem_mem hlt

end LinkedDocs.Random.Draw
