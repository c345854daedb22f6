import LinkedDocs.Proofs.Draws
import LinkedDocs.Sample
import LinkedDocs.Prose

/-!
# Faults that a draw never stops with

A draw avoids a fault if it stops with it from no source. What draws are put
together from avoids what all of the parts avoid; so the draws of words, texts and
samples avoid every fault that has its own cause elsewhere.

* `Avoids.bind`, `Avoids.times`: draws one after the other.
* `avoids_within`, `avoids_pick`: numbers and members of a list.
* `Prose.avoids_fill`, `Prose.avoids_text`: pieces and text.
-/

namespace LinkedDocs.Random.Draw

variable {σ α β : Type} {fault : DrawFault}

/-- From no source does the draw stop with the fault. -/
def Avoids (draw : Draw σ α) (fault : DrawFault) : Prop := ∀ s, draw s ≠ .error fault

/-- Two draws stop where the first does, or the second on what is left. -/
theorem bind_error_iff {x : Draw σ α} {f : α → Draw σ β} {s : Source σ} :
    (x >>= f) s = .error fault ↔
      x s = .error fault ∨ ∃ a t, x s = .ok (a, t) ∧ f a t = .error fault := by
  rw [bind_eq]
  cases x s with
  | error other =>
    constructor
    · intro h
      cases h
      exact .inl rfl
    · rintro (h | ⟨a, t, h, -⟩)
      · cases h
        rfl
      · cases h
  | ok p =>
    constructor
    · intro h
      exact .inr ⟨p.1, p.2, rfl, h⟩
    · rintro (h | ⟨a, t, h, hf⟩)
      · cases h
      · cases h
        exact hf

theorem avoids_pure (a : α) : Avoids (pure a : Draw σ α) fault := by
  intro s h
  cases h

/-- A draw that stops with one fault avoids the others. -/
theorem avoids_stop {other : DrawFault} (h : other ≠ fault) :
    Avoids (stop other : Draw σ α) fault := by
  intro s heq
  cases heq
  exact h rfl

/-- The second draw matters only on what the first can yield. -/
theorem Avoids.bind {x : Draw σ α} {f : α → Draw σ β} {P : α → Prop} (hx : Avoids x fault)
    (hP : Yields x P) (hf : ∀ a, P a → Avoids (f a) fault) : Avoids (x >>= f) fault := by
  intro s h
  rcases bind_error_iff.1 h with hfirst | ⟨a, t, ha, hsecond⟩
  · exact hx s hfirst
  · exact hf a (hP s a t ha) t hsecond

/-- A result that is only reshaped brings no fault. -/
theorem Avoids.map_pure {x : Draw σ α} (h : Avoids x fault) (g : α → β) :
    Avoids (x >>= fun a => pure (g a)) fault :=
  h.bind (yields_true x) fun a _ => avoids_pure (g a)

/-- A choice avoids a fault if both of its branches do. -/
theorem avoids_ite {c : Prop} [Decidable c] {x y : Draw σ α} (hx : c → Avoids x fault)
    (hy : ¬ c → Avoids y fault) : Avoids (if c then x else y) fault := by
  by_cases h : c
  · rw [if_pos h]
    exact hx h
  · rw [if_neg h]
    exact hy h

/-- A draw that is repeated brings no fault that it does not bring once. -/
theorem Avoids.times {x : Draw σ α} (h : Avoids x fault) (n : Nat) : Avoids (times x n) fault := by
  -- What has been drawn already plays no part.
  have honto : ∀ done, Avoids (timesOnto x done n) fault := by
    induction n with
    | zero =>
      intro done s heq
      cases heq
    | succ n ih =>
      intro done s heq
      rw [timesOnto] at heq
      rcases hfirst : x s with other | ⟨first, t⟩
      · rw [hfirst] at heq
        cases heq
        exact h s hfirst
      · rw [hfirst] at heq
        exact ih (first :: done) t heq
  exact honto []

/-! ## Numbers and members of a list -/

/-- A number from a range that is not empty brings no fault but those of its words. -/
theorem avoids_uniform {values low high : Nat} {draw : Draw σ Nat} (h : Avoids draw fault)
    (hle : low ≤ high) : Avoids (uniform values draw low high) fault := by
  unfold uniform
  refine avoids_ite (fun hlt => absurd hle (Nat.not_le.2 hlt)) fun _ => ?_
  refine h.bind (yields_true _) fun first _ => ?_
  refine avoids_ite (fun _ => avoids_pure _) fun _ => avoids_ite (fun _ => ?_) fun _ => ?_
  · exact h.map_pure _
  · exact avoids_pure _

variable [WordStream σ]

/-- A word fails to be drawn only where the words run out. -/
theorem avoids_word (h : fault ≠ .exhausted) : Avoids (word : Draw σ Nat) fault := by
  intro s heq
  unfold word at heq
  split at heq
  · cases heq
  · cases heq
    exact h rfl

theorem avoids_doubleWord (h : fault ≠ .exhausted) : Avoids (doubleWord : Draw σ Nat) fault :=
  (avoids_word h).bind (yields_true _) fun _ _ => (avoids_word h).map_pure _

/-- A number of a range that is not empty fails to be drawn only where the words run out. -/
theorem avoids_within (h : fault ≠ .exhausted) {low high : Nat} (hle : low ≤ high) :
    Avoids (within low high : Draw σ Nat) fault :=
  avoids_uniform (avoids_word h) hle

theorem avoids_within64 (h : fault ≠ .exhausted) {low high : Nat} (hle : low ≤ high) :
    Avoids (within64 low high : Draw σ Nat) fault :=
  avoids_uniform (avoids_doubleWord h) hle

/-- An item fails to be picked only where the words run out. -/
theorem avoids_pick (h : fault ≠ .exhausted) (items : Array α) (other : α) :
    Avoids (pick items other : Draw σ α) fault := by
  unfold pick placeBelow
  refine avoids_ite (fun _ => avoids_pure _) fun _ => Avoids.map_pure (avoids_ite ?_ ?_) _
  · exact fun _ => avoids_within h (Nat.zero_le _)
  · exact fun _ => avoids_within64 h (Nat.zero_le _)

end LinkedDocs.Random.Draw

/-! ## Text -/

namespace LinkedDocs.Prose

open LinkedDocs.Random LinkedDocs.Random.Draw

variable {σ : Type} {fault : DrawFault}

/-- A round brings no fault but those of its pieces. -/
theorem avoids_restOfRound {limit : Nat} {separator : Char} {piece : Draw σ String}
    (h : Avoids piece fault) (kept : List String) (size : Nat) :
    Avoids (restOfRound limit separator piece kept size) fault := by
  intro s heq
  -- The room below the limit falls with each piece that is kept.
  induction hn : limit - size using Nat.strongRecOn generalizing kept size s with
  | ind n ih =>
    rw [restOfRound] at heq
    rcases hnext : piece s with other | ⟨next, t⟩
    · rw [hnext] at heq
      cases heq
      exact h s hnext
    rw [hnext] at heq
    dsimp only at heq
    split at heq
    · have hpos := separator.utf8Size_pos
      exact ih _ (by omega) _ _ t heq rfl
    · cases heq

theorem avoids_round {limit : Nat} {separator : Char} {piece : Draw σ String}
    (h : Avoids piece fault) : Avoids (round limit separator piece) fault :=
  h.bind (yields_true _) fun _ _ =>
    avoids_ite (fun _ => avoids_restOfRound h _ _) fun _ => avoids_pure _

/-- Filling up adds only the fault that it can never end. -/
theorem avoids_fill {limit : Nat} {separator : Char} {piece : Draw σ String}
    (h : Avoids piece fault) (hends : fault ≠ .endless) :
    Avoids (fill limit separator piece) fault := by
  intro s heq
  -- A lost round took a word, so fewer words are left.
  induction hn : s.remaining using Nat.strongRecOn generalizing s with
  | ind n ih =>
    rw [fill] at heq
    split at heq
    · rename_i other hround
      cases heq
      exact avoids_round h s hround
    · split at heq
      · rename_i hless
        exact ih _ (hn ▸ hless) _ heq rfl
      · cases heq
        exact hends rfl
    · cases heq

variable [WordStream σ] [Lexicon σ]

/-- A sentence fails to be drawn only where the words run out. -/
theorem avoids_sentence (h : fault ≠ .exhausted) (vocabulary : Vocabulary) :
    Avoids (sentence vocabulary : Draw σ String) fault :=
  (avoids_within h (by decide)).bind (yields_true _) fun count _ =>
    ((avoids_pick h _ _).times count).map_pure _

/-- A paragraph fails to be drawn only where the words run out. -/
theorem avoids_paragraph (h : fault ≠ .exhausted) (vocabulary : Vocabulary) :
    Avoids (paragraph vocabulary : Draw σ String) fault :=
  (avoids_within h (by decide)).bind (yields_true _) fun count _ =>
    ((avoids_sentence h vocabulary).times count).map_pure _

/-- Text runs out of words, or can never end, and has no other fault. -/
theorem avoids_text (h : fault ≠ .exhausted) (hends : fault ≠ .endless) (limit : Nat)
    (vocabulary : Vocabulary) : Avoids (text limit vocabulary : Draw σ String) fault := by
  unfold text
  refine avoids_ite (fun _ => ?_) fun _ => avoids_ite (fun _ => ?_) fun _ => ?_
  · exact (avoids_fill (avoids_pick h _ _) hends).map_pure _
  · exact (avoids_fill (avoids_sentence h vocabulary) hends).map_pure _
  · exact (avoids_fill (avoids_paragraph h vocabulary) hends).map_pure _

/-- A number of sentences runs out of words, or is too long a list. -/
theorem avoids_sentences (h : fault ≠ .exhausted) (hlong : fault ≠ .listTooLong) (count : Nat)
    (vocabulary : Vocabulary) : Avoids (sentences count vocabulary : Draw σ (List String)) fault :=
  avoids_ite (fun _ => avoids_stop hlong.symm) fun _ => (avoids_sentence h vocabulary).times count

end LinkedDocs.Prose

/-! ## Samples -/

namespace LinkedDocs.Sample

open LinkedDocs.Random LinkedDocs.Random.Draw

variable {σ : Type} [WordStream σ] {fault : DrawFault}

/-- A handle fails to be drawn only where the words run out. -/
theorem avoids_handle (h : fault ≠ .exhausted) (ending : String) :
    Avoids (handle ending : Draw σ String) fault := by
  have hcharacter : ∀ low high : Char, low.toNat ≤ high.toNat →
      Avoids (character low high : Draw σ Char) fault :=
    fun low high hle => (avoids_within h hle).map_pure _
  refine (avoids_within h (by decide)).bind (yields_true _) fun letterCount _ => ?_
  refine (avoids_within h (by decide)).bind (yields_true _) fun digitCount _ => ?_
  refine ((hcharacter _ _ (by decide)).times letterCount).bind (yields_true _) fun letters _ => ?_
  exact ((hcharacter _ _ (by decide)).times digitCount).map_pure _

/-- A decimal fails to be drawn only where the words run out. -/
theorem avoids_decimal (h : fault ≠ .exhausted) {low high : Nat} (hle : low ≤ high) :
    Avoids (decimal low high : Draw σ String) fault :=
  (avoids_within64 h hle).map_pure _

/-- A company name of the lists that come with the library only runs out of words. -/
theorem avoids_joinedNames (h : fault ≠ .exhausted) :
    Avoids (Lexicon.joinedNames : Draw σ String) fault :=
  (avoids_pick h _ _).bind (yields_true _) fun _ _ =>
    (avoids_pick h _ _).bind (yields_true _) fun _ _ =>
      (avoids_pick h _ _).bind (yields_true _) fun _ _ => (avoids_pick h _ _).map_pure _

end LinkedDocs.Sample
