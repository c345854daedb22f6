import LinkedDocs.Proofs.Draws

/-!
# Draws and the words that they take

What a draw yields depends on the words that it takes, and on nothing else of the
source: another source with these words yields the same, also one with more words
behind them. A draw that takes a bounded number of words succeeds wherever as many
are left. And every number of a range, and every member of a list, is drawn by some
words.

* `Source.Takes`: the words between two states of a source.
* `Reads`, `Local`: the words behind a value.
* `Bounded`: how many words a draw takes at most.
* `CanYield`, `canYield_within`, `canYield_pick`: values that some words yield.
-/

namespace LinkedDocs.Random

variable {σ : Type}

/-! ## Words of a source -/

section

variable [WordStream σ]

/-- Taking these words, one after the other, leads from the first state to the second. -/
inductive Source.Takes : Source σ → List UInt32 → Source σ → Prop
  | nil (s : Source σ) : Takes s [] s
  | cons {s t u : Source σ} {w : UInt32} {ws : List UInt32} (head : s.next? = some (w, t))
      (tail : Takes t ws u) : Takes s (w :: ws) u

/-- The source with a greater limit. -/
def Source.allow (s : Source σ) (more : Nat) : Source σ := { s with limit := s.limit + more }

namespace Source.Takes

variable {s t u : Source σ} {ws vs : List UInt32}

theorem append (h : Takes s ws t) (h' : Takes t vs u) : Takes s (ws ++ vs) u := by
  induction h with
  | nil s => exact h'
  | cons head tail ih => exact .cons head (ih h')

/-- Words are taken in two steps exactly if they are taken at once. -/
theorem append_iff : Takes s (ws ++ vs) u ↔ ∃ t, Takes s ws t ∧ Takes t vs u := by
  constructor
  · intro h
    induction ws generalizing s with
    | nil => exact ⟨s, .nil s, h⟩
    | cons w ws ih =>
      cases h with
      | cons head tail =>
        obtain ⟨t, hws, hvs⟩ := ih tail
        exact ⟨t, .cons head hws, hvs⟩
  · rintro ⟨t, h, h'⟩
    exact h.append h'

/-- Each word that is taken leaves one fewer. -/
theorem remaining (h : Takes s ws t) : t.remaining + ws.length = s.remaining := by
  induction h with
  | nil s => rfl
  | cons head tail ih =>
    have hnext := Source.next?_remaining head
    rw [List.length_cons]
    omega

/-- The same words are taken where more are allowed. -/
theorem allow (h : Takes s ws t) (more : Nat) : Takes (s.allow more) ws (t.allow more) := by
  induction h with
  | nil s => exact .nil _
  | @cons s t u w ws head tail ih =>
    refine .cons ?_ ih
    unfold Source.next? at head ⊢
    by_cases hless : s.drawn < s.limit
    · rw [if_pos hless] at head
      cases head
      exact if_pos (Nat.lt_add_right more hless)
    · rw [if_neg hless] at head
      cases head

end Source.Takes

end

/-- Words can be written down for a source that has them in front. -/
theorem exists_takes (ws : List UInt32) : ∃ s t : Source Script, s.Takes ws t := by
  -- Some words are taken already; the others are still to come.
  have hbehind : ∀ (front ws : List UInt32), ∃ t : Source Script, Source.Takes
      ⟨⟨(front ++ ws).toArray, front.length⟩, (front ++ ws).length, front.length⟩ ws t := by
    intro front ws
    induction ws generalizing front with
    | nil => exact ⟨_, .nil _⟩
    | cons w ws ih =>
      obtain ⟨t, ht⟩ := ih (front ++ [w])
      rw [List.append_assoc, List.singleton_append, List.length_append,
        List.length_singleton] at ht
      refine ⟨t, .cons ?_ ht⟩
      have hless : front.length < (front ++ w :: ws).length := by
        rw [List.length_append, List.length_cons]
        omega
      have hword : (front ++ w :: ws).toArray.getD
          (front.length % (front ++ w :: ws).toArray.size) 0 = w := by
        rw [List.size_toArray, Nat.mod_eq_of_lt hless, Array.getD_eq_getD_getElem?,
          List.getElem?_toArray, List.getElem?_append_right (Nat.le_refl _), Nat.sub_self]
        rfl
      unfold Source.next?
      rw [if_pos hless]
      show some ((front ++ w :: ws).toArray.getD
        (front.length % (front ++ w :: ws).toArray.size) 0, _) = _
      rw [hword]
  obtain ⟨t, ht⟩ := hbehind [] ws
  exact ⟨_, t, ht⟩

namespace Draw

variable {α β : Type} {x : Draw σ α} {f : α → Draw σ β} {a : α} {b : β}

/-! ## Draws that take a bounded number of words -/

/-- The draw succeeds where so many words are left, and takes no more of them. -/
def Bounded (draw : Draw σ α) (most : Nat) : Prop :=
  ∀ s : Source σ, most ≤ s.remaining → ∃ a t, draw s = .ok (a, t) ∧ s.remaining ≤ t.remaining + most

theorem bounded_pure (a : α) : Bounded (pure a : Draw σ α) 0 :=
  fun s _ => ⟨a, s, rfl, Nat.le_add_right _ _⟩

theorem Bounded.mono {most most' : Nat} (h : Bounded x most) (hle : most ≤ most') :
    Bounded x most' := by
  intro s hs
  obtain ⟨a, t, ha, ht⟩ := h s (Nat.le_trans hle hs)
  exact ⟨a, t, ha, by omega⟩

/-- Two steps take no more words than both of them. -/
theorem Bounded.bind {P : α → Prop} {most most' : Nat} (hx : Bounded x most) (hP : Yields x P)
    (hf : ∀ a, P a → Bounded (f a) most') : Bounded (x >>= f) (most + most') := by
  intro s hs
  obtain ⟨a, t, ha, ht⟩ := hx s (by omega)
  obtain ⟨b, u, hb, hu⟩ := hf a (hP s a t ha) t (by omega)
  exact ⟨b, u, bind_ok_iff.2 ⟨a, t, ha, hb⟩, by omega⟩

theorem Bounded.map_pure {most : Nat} (h : Bounded x most) (g : α → β) :
    Bounded (x >>= fun a => pure (g a)) most :=
  h.bind (yields_true x) fun a _ => bounded_pure (g a)

theorem Bounded.times {most : Nat} (h : Bounded x most) (n : Nat) :
    Bounded (times x n) (n * most) := by
  induction n with
  | zero => exact fun s _ => ⟨[], s, rfl, Nat.le_add_right _ _⟩
  | succ n ih =>
    intro s hs
    rw [Nat.succ_mul] at hs
    obtain ⟨first, t, hfirst, ht⟩ := h s (by omega)
    obtain ⟨rest, u, hrest, hu⟩ := ih t (by omega)
    refine ⟨first :: rest, u, times_succ_ok_iff.2 ⟨first, t, rest, hfirst, hrest, rfl⟩, ?_⟩
    rw [Nat.succ_mul]
    omega

/-- A number of a range takes at most two draws. -/
theorem bounded_uniform {values low high most : Nat} {draw : Draw σ Nat} (h : Bounded draw most)
    (hle : low ≤ high) : Bounded (uniform values draw low high) (most + most) := by
  unfold uniform
  rw [if_neg (Nat.not_lt.2 hle)]
  refine h.bind (yields_true _) fun first _ => ?_
  dsimp only
  split
  · exact (bounded_pure _).mono (Nat.zero_le _)
  · split
    · exact h.bind (yields_true _) fun _ _ => bounded_pure _
    · exact (bounded_pure _).mono (Nat.zero_le _)

variable [WordStream σ]

theorem bounded_word : Bounded (word : Draw σ Nat) 1 := by
  intro s h
  rcases hnext : s.next? with - | ⟨w, t⟩
  · have := Source.next?_eq_none_iff.1 hnext
    omega
  · refine ⟨w.toNat, t, ?_, Nat.le_of_eq (Source.next?_remaining hnext).symm⟩
    unfold word
    rw [hnext]

/-! ## What is drawn, and from which words -/

/-- From whichever source these words are taken, the draw takes them and yields the value. -/
def Reads (draw : Draw σ α) (ws : List UInt32) (a : α) : Prop :=
  ∀ s t : Source σ, s.Takes ws t → draw s = .ok (a, t)

/-- What is drawn is told by the words taken. -/
def Local (draw : Draw σ α) : Prop :=
  ∀ s a t, draw s = .ok (a, t) → ∃ ws, s.Takes ws t ∧ Reads draw ws a

/-- Some words yield the value. -/
def CanYield (draw : Draw σ α) (a : α) : Prop := ∃ ws, Reads draw ws a

theorem reads_pure (a : α) : Reads (pure a : Draw σ α) [] a := by
  intro s t h
  cases h
  rfl

/-- Two steps read the words of the first and then those of the second. -/
theorem Reads.bind {ws vs : List UInt32} (hx : Reads x ws a) (hf : Reads (f a) vs b) :
    Reads (x >>= f) (ws ++ vs) b := by
  intro s u h
  obtain ⟨t, hws, hvs⟩ := Source.Takes.append_iff.1 h
  exact bind_ok_iff.2 ⟨a, t, hx s t hws, hf t u hvs⟩

theorem reads_word (w : UInt32) : Reads (word : Draw σ Nat) [w] w.toNat := by
  intro s t h
  cases h with
  | cons head tail =>
    cases tail
    unfold word
    rw [head]

theorem reads_times_zero : Reads (times x 0) [] [] := by
  intro s t h
  cases h
  rfl

theorem Reads.times_succ {n : Nat} {ws vs : List UInt32} {rest : List α} (hx : Reads x ws a)
    (hrest : Reads (times x n) vs rest) : Reads (times x (n + 1)) (ws ++ vs) (a :: rest) := by
  intro s u h
  obtain ⟨t, hws, hvs⟩ := Source.Takes.append_iff.1 h
  exact times_succ_ok_iff.2 ⟨a, t, rest, hx s t hws, hrest t u hvs, rfl⟩

/-! ## Draws that depend on the words taken -/

theorem local_pure (a : α) : Local (pure a : Draw σ α) := by
  intro s b t h
  cases h
  exact ⟨[], .nil s, reads_pure a⟩

theorem local_stop (fault : DrawFault) : Local (stop fault : Draw σ α) := by
  intro s a t h
  cases h

theorem local_word : Local (word : Draw σ Nat) := by
  intro s n t h
  unfold word at h
  rcases hnext : s.next? with - | ⟨w, u⟩
  · rw [hnext] at h
    cases h
  · rw [hnext] at h
    cases h
    exact ⟨[w], .cons hnext (.nil t), reads_word w⟩

/-- Two steps depend on their words alone if each of them does. -/
theorem Local.bind (hx : Local x) (hf : ∀ a, Local (f a)) : Local (x >>= f) := by
  intro s b u h
  obtain ⟨a, t, ha, hb⟩ := bind_ok_iff.1 h
  obtain ⟨ws, hws, hreads⟩ := hx s a t ha
  obtain ⟨vs, hvs, hreads'⟩ := hf a t b u hb
  exact ⟨ws ++ vs, hws.append hvs, hreads.bind hreads'⟩

theorem local_ite {c : Prop} [Decidable c] {x y : Draw σ α} (hx : Local x) (hy : Local y) :
    Local (if c then x else y) := by
  split
  · exact hx
  · exact hy

/-- Several values are told by all the words taken for them. -/
theorem Local.times (h : Local x) (n : Nat) : Local (times x n) := by
  induction n with
  | zero =>
    intro s values t heq
    cases heq
    exact ⟨[], .nil s, reads_times_zero⟩
  | succ n ih =>
    intro s values u heq
    obtain ⟨first, t, rest, hfirst, hrest, rfl⟩ := times_succ_ok_iff.1 heq
    obtain ⟨ws, hws, hreads⟩ := h s first t hfirst
    obtain ⟨vs, hvs, hreads'⟩ := ih t rest u hrest
    exact ⟨ws ++ vs, hws.append hvs, hreads.times_succ hreads'⟩

/-- Where more words are allowed, the same is drawn. -/
theorem Local.allow (h : Local x) {s t : Source σ} (hx : x s = .ok (a, t)) (more : Nat) :
    x (s.allow more) = .ok (a, t.allow more) := by
  obtain ⟨ws, hws, hreads⟩ := h s a t hx
  exact hreads _ _ (hws.allow more)

/-- Where a draw takes no word, it yields the same value everywhere. -/
theorem Local.remaining_lt (h : Local x) {s t : Source σ} (hx : x s = .ok (a, t)) :
    t.remaining < s.remaining ∨ t = s ∧ ∀ u, x u = .ok (a, u) := by
  obtain ⟨ws, hws, hreads⟩ := h s a t hx
  cases hws with
  | nil => exact .inr ⟨rfl, fun u => hreads u u (.nil u)⟩
  | cons head tail =>
    have := (Source.Takes.cons head tail).remaining
    rw [List.length_cons] at this
    exact .inl (by omega)

/-! ## Values that can be drawn -/

theorem canYield_pure (a : α) : CanYield (pure a : Draw σ α) a := ⟨[], reads_pure a⟩

/-- Two steps can yield what the second can behind the first. -/
theorem CanYield.bind (hx : CanYield x a) (hf : CanYield (f a) b) : CanYield (x >>= f) b := by
  obtain ⟨ws, hws⟩ := hx
  obtain ⟨vs, hvs⟩ := hf
  exact ⟨ws ++ vs, hws.bind hvs⟩

/-- A value can be drawn again and again. -/
theorem CanYield.times (h : CanYield x a) (n : Nat) :
    CanYield (times x n) (List.replicate n a) := by
  obtain ⟨ws, hws⟩ := h
  induction n with
  | zero => exact ⟨[], reads_times_zero⟩
  | succ n ih =>
    obtain ⟨vs, hvs⟩ := ih
    exact ⟨ws ++ vs, hws.times_succ hvs⟩

theorem canYield_word {n : Nat} (h : n < UInt32.size) : CanYield (word : Draw σ Nat) n := by
  refine ⟨[UInt32.ofNat n], ?_⟩
  have hword := reads_word (σ := σ) (UInt32.ofNat n)
  rwa [UInt32.toNat_ofNat_of_lt' h] at hword

/-- The two halves of a number draw it. -/
theorem canYield_doubleWord {n : Nat} (h : n < UInt64.size) :
    CanYield (doubleWord : Draw σ Nat) n := by
  have hpos : 0 < UInt32.size := by decide
  have hhigh : n / UInt32.size < UInt32.size := by
    rw [Nat.div_lt_iff_lt_mul hpos]
    exact h
  refine (canYield_word (Nat.mod_lt n hpos)).bind ((canYield_word hhigh).bind ?_)
  rw [Nat.mul_comm, Nat.mod_add_div]
  exact canYield_pure n

/-! ## Numbers of a range -/

section

variable {values low high : Nat} {draw : Draw σ Nat}

/-- A number of a range depends on the words that it takes alone. -/
theorem local_uniform (h : Local draw) : Local (uniform values draw low high) := by
  unfold uniform
  refine local_ite (local_stop _) (h.bind fun first => local_ite (local_pure _) ?_)
  exact local_ite (h.bind fun _ => local_pure _) (local_pure _)

/-- The least draw whose product with the size reaches an offset leaves a small remainder. -/
theorem exists_first {values : Nat} (size k : Nat) (hk : k < size) (hsize : size ≤ values) :
    ∃ first < values, first * size / values = k ∧ first * size % values < size := by
  have hdiv := Nat.div_add_mod (k * values + (size - 1)) size
  have hmod := Nat.mod_lt (k * values + (size - 1)) (Nat.zero_lt_of_lt hk)
  generalize (k * values + (size - 1)) / size = first at hdiv
  rw [Nat.mul_comm size first] at hdiv
  have hlower : k * values ≤ first * size := by omega
  have hupper : first * size < k * values + size := by omega
  have hnext : k * values + values ≤ size * values := by
    have := Nat.mul_le_mul_right values (Nat.succ_le_of_lt hk)
    rwa [Nat.succ_mul] at this
  have hoffset : first * size / values = k := by
    apply Nat.div_eq_of_lt_le hlower
    rw [Nat.succ_mul]
    omega
  refine ⟨first, ?_, hoffset, ?_⟩
  · by_contra hge
    have := Nat.mul_le_mul_right size (Nat.le_of_not_lt hge)
    rw [Nat.mul_comm values size] at this
    omega
  · have hproduct := Nat.div_add_mod (first * size) values
    rw [hoffset, Nat.mul_comm values k] at hproduct
    omega

/-- Every number of a range can be drawn. -/
theorem canYield_uniform (hdraw : ∀ n < values, CanYield draw n) {n : Nat} (hlow : low ≤ n)
    (hhigh : n ≤ high) (hrange : high - low + 1 < values) :
    CanYield (uniform values draw low high) n := by
  obtain ⟨first, hfirst, hoffset, hrest⟩ :=
    exists_first (high - low + 1) (n - low) (by omega) (Nat.le_of_lt hrange)
  unfold uniform
  rw [if_neg (Nat.not_lt.2 (Nat.le_trans hlow hhigh)), Nat.mod_eq_of_lt hrange]
  refine (hdraw first hfirst).bind ?_
  dsimp only
  rw [if_neg (Nat.succ_ne_zero _), hoffset, Nat.add_sub_cancel' hlow]
  split
  · -- A second draw of zero adds no carry.
    refine (hdraw 0 (Nat.zero_lt_of_lt hfirst)).bind ?_
    rw [Nat.zero_mul, Nat.zero_div, if_neg (by omega)]
    exact canYield_pure n
  · exact canYield_pure n

end

theorem local_doubleWord : Local (doubleWord : Draw σ Nat) :=
  local_word.bind fun _ => local_word.bind fun _ => local_pure _

theorem bounded_doubleWord : Bounded (doubleWord : Draw σ Nat) 2 :=
  bounded_word.bind (yields_true _) fun _ _ =>
    bounded_word.bind (yields_true _) fun _ _ => bounded_pure _

/-- In particular every number of a range of fewer than 2^32 numbers. -/
theorem canYield_within {low high n : Nat} (hlow : low ≤ n) (hhigh : n ≤ high)
    (hrange : high - low + 1 < UInt32.size) : CanYield (within low high : Draw σ Nat) n :=
  canYield_uniform (fun _ => canYield_word) hlow hhigh hrange

/-! ## Members of a list -/

theorem local_pick (items : Array α) (other : α) : Local (pick items other : Draw σ α) := by
  unfold pick placeBelow
  refine local_ite (local_pure _) (Local.bind (local_ite ?_ ?_) fun _ => local_pure _)
  · exact local_uniform local_word
  · exact local_uniform local_doubleWord

/-- To pick an item takes four words at most. -/
theorem bounded_pick (items : Array α) (other : α) : Bounded (pick items other : Draw σ α) 4 := by
  have hplace : Bounded (placeBelow items.size : Draw σ Nat) 4 := by
    unfold placeBelow
    split
    · exact (bounded_uniform bounded_word (Nat.zero_le _)).mono (by decide)
    · exact bounded_uniform bounded_doubleWord (Nat.zero_le _)
  unfold pick
  split
  · exact (bounded_pure _).mono (Nat.zero_le _)
  · exact hplace.bind (yields_true _) fun _ _ => bounded_pure _

/-- Every member of a list can be picked. -/
theorem canYield_pick {items : Array α} (hsize : items.size < UInt64.size) (hmem : a ∈ items)
    (other : α) : CanYield (pick items other : Draw σ α) a := by
  obtain ⟨place, hplace, hitem⟩ := Array.mem_iff_getElem.1 hmem
  have hcan : CanYield (placeBelow items.size : Draw σ Nat) place := by
    unfold placeBelow
    split
    · exact canYield_within (Nat.zero_le _) (by omega) (by omega)
    · exact canYield_uniform (fun _ => canYield_doubleWord) (Nat.zero_le _) (by omega) (by omega)
  unfold pick
  rw [if_neg fun hempty => absurd (Array.isEmpty_iff_size_eq_zero.1 hempty) (by omega)]
  refine hcan.bind ?_
  rw [Array.getD_eq_getD_getElem?, Array.getElem?_eq_getElem hplace, hitem]
  exact canYield_pure a

end Draw

end LinkedDocs.Random
