import LinkedDocs.Prose
import LinkedDocs.Proofs.Draws

/-!
# Rounds of pieces

Filling up draws pieces in rounds. A round that begins with a piece that is too
long is lost; the first other one keeps as many of its pieces as fit: joined they
stay below the limit, with the next piece they would not, and only that one is
dropped.

* `Lost`, `LastRound`: the rounds that are lost, and the one that is kept.
* `restOfRound_ok`, `round_ok`, `fill_ok`: what filling up has drawn and kept.
* `yields_fill`: the pieces that are kept.

Lengths are counted in UTF-8 bytes.
-/

namespace LinkedDocs.Prose

open LinkedDocs.Random LinkedDocs.Random.Draw

variable {σ : Type}

/-! ## Pieces that are joined -/

/-- The pieces with the separator between them. -/
def joined (separator : Char) (pieces : List String) : String :=
  (String.singleton separator).intercalate pieces

theorem joined_singleton (separator : Char) (piece : String) : joined separator [piece] = piece :=
  String.intercalate_singleton

/-- The joined length grows by the length of the separator and of the piece. -/
theorem size_joined (separator : Char) {pieces : List String} (h : pieces ≠ []) (next : String) :
    (joined separator (pieces ++ [next])).utf8ByteSize =
      (joined separator pieces).utf8ByteSize + separator.utf8Size + next.utf8ByteSize := by
  unfold joined
  rw [String.intercalate_append_of_ne_nil h (List.cons_ne_nil _ _), String.utf8ByteSize_append,
    String.utf8ByteSize_append, String.utf8ByteSize_singleton, String.intercalate_singleton]

/-! ## Rounds -/

/-- Rounds that were lost between two states of a source: each drew one piece, too long a one. -/
structure Lost (limit : Nat) (piece : Draw σ String) (s u : Source σ) (lost : List String) :
    Prop where
  drawn : times piece lost.length s = .ok (lost, u)
  too_long : ∀ first ∈ lost, limit ≤ first.utf8ByteSize

/--
A round that keeps pieces: with the next one of those that it drew they would have
reached the limit, and that is the only one that it drops.
-/
structure LastRound (limit : Nat) (separator : Char) (piece : Draw σ String) (u t : Source σ)
    (kept : List String) (dropped : String) : Prop where
  drawn : times piece (kept.length + 1) u = .ok (kept ++ [dropped], t)
  ne_nil : kept ≠ []
  size_lt : (joined separator kept).utf8ByteSize < limit
  le_size : limit ≤ (joined separator (kept ++ [dropped])).utf8ByteSize

variable {limit : Nat} {separator : Char} {piece : Draw σ String} {kept : List String}
  {s t : Source σ}

/-- Pieces are drawn until one would reach the limit. -/
theorem restOfRound_ok {size : Nat} {pieces : List String} (hne : kept ≠ [])
    (hsize : size = (joined separator kept.reverse).utf8ByteSize) (hlt : size < limit)
    (h : restOfRound limit separator piece kept size s = .ok (pieces, t)) :
    ∃ more dropped, pieces = kept.reverse ++ more ∧
      times piece (more.length + 1) s = .ok (more ++ [dropped], t) ∧
      (joined separator pieces).utf8ByteSize < limit ∧
      limit ≤ (joined separator (pieces ++ [dropped])).utf8ByteSize := by
  -- The room below the limit falls with each piece that is kept.
  induction hn : limit - size using Nat.strongRecOn generalizing kept size s with
  | ind n ih =>
    rw [restOfRound] at h
    rcases hnext : piece s with fault | ⟨next, u⟩
    · rw [hnext] at h
      cases h
    rw [hnext] at h
    dsimp only at h
    have hreverse : kept.reverse ≠ [] := fun hnil => hne (List.reverse_eq_nil_iff.1 hnil)
    have hjoined := size_joined separator hreverse next
    by_cases hless : size + separator.utf8Size + next.utf8ByteSize < limit
    · rw [if_pos hless] at h
      have hpos := separator.utf8Size_pos
      obtain ⟨more, dropped, rfl, hdrawn, hfits, hfull⟩ := ih _ (by omega)
        (List.cons_ne_nil next kept) (by rw [List.reverse_cons, hjoined, hsize])
        hless h rfl
      refine ⟨next :: more, dropped, ?_, ?_, hfits, hfull⟩
      · rw [List.reverse_cons, List.append_assoc]
        rfl
      · exact times_succ_ok_iff.2 ⟨next, u, more ++ [dropped], hnext, hdrawn, rfl⟩
    · rw [if_neg hless] at h
      cases h
      refine ⟨[], next, (List.append_nil _).symm, ?_, hsize ▸ hlt, ?_⟩
      · exact times_succ_ok_iff.2 ⟨next, t, [], hnext, times_zero, rfl⟩
      · rw [hjoined]
        omega

/-- A round either loses its first piece or keeps as many as fit. -/
theorem round_ok (h : round limit separator piece s = .ok (kept, t)) :
    (kept = [] ∧ ∃ first, piece s = .ok (first, t) ∧ limit ≤ first.utf8ByteSize) ∨
      ∃ dropped, LastRound limit separator piece s t kept dropped := by
  unfold round at h
  obtain ⟨first, u, hfirst, h⟩ := Draw.bind_ok_iff.1 h
  by_cases hlt : first.utf8ByteSize < limit
  · rw [if_pos hlt] at h
    have hsingle : first.utf8ByteSize = (joined separator [first].reverse).utf8ByteSize := by
      rw [List.reverse_singleton, joined_singleton]
    obtain ⟨more, dropped, rfl, hdrawn, hfits, hfull⟩ :=
      restOfRound_ok (List.cons_ne_nil first []) hsingle hlt h
    refine .inr ⟨dropped, ?_, List.cons_ne_nil _ _, hfits, hfull⟩
    exact times_succ_ok_iff.2 ⟨first, u, more ++ [dropped], hfirst, hdrawn, rfl⟩
  · rw [if_neg hlt] at h
    obtain ⟨rfl, rfl⟩ := Draw.pure_ok_iff.1 h
    exact .inl ⟨rfl, first, hfirst, Nat.le_of_not_lt hlt⟩

/-- Filling up loses rounds until one keeps pieces. -/
theorem fill_ok (h : fill limit separator piece s = .ok (kept, t)) :
    ∃ lost u dropped, Lost limit piece s u lost ∧
      LastRound limit separator piece u t kept dropped := by
  -- A lost round took a word, so fewer words are left.
  induction hn : s.remaining using Nat.strongRecOn generalizing s with
  | ind n ih =>
    rw [fill] at h
    split at h
    · cases h
    · rename_i u hround
      split at h
      · rename_i hless
        rcases round_ok hround with ⟨-, first, hfirst, hlong⟩ | ⟨dropped, hlast⟩
        · obtain ⟨lost, v, dropped, hlost, hlast⟩ := ih _ (hn ▸ hless) h rfl
          refine ⟨first :: lost, v, dropped, ⟨?_, ?_⟩, hlast⟩
          · exact times_succ_ok_iff.2 ⟨first, u, lost, hfirst, hlost.drawn, rfl⟩
          · exact List.forall_mem_cons.2 ⟨hlong, hlost.too_long⟩
        · exact absurd rfl hlast.ne_nil
      · cases h
    · rename_i pieces u hne hround
      cases h
      obtain ⟨dropped, hlast⟩ := (round_ok hround).resolve_left fun hnil => hne hnil.1
      exact ⟨[], s, dropped, ⟨times_zero, List.forall_mem_nil _⟩, hlast⟩

/-! ## Pieces that are kept -/

/-- Pieces with a property, at least one, whose joined length is below the limit. -/
structure Fits (limit : Nat) (separator : Char) (P : String → Prop) (pieces : List String) :
    Prop where
  ne_nil : pieces ≠ []
  all : ∀ piece ∈ pieces, P piece
  size_lt : ((String.singleton separator).intercalate pieces).utf8ByteSize < limit

/-- Filling up yields pieces that fit, however many rounds are lost. -/
theorem yields_fill {P : String → Prop} (hpiece : Yields piece P) :
    Yields (fill limit separator piece) (Fits limit separator P) := by
  intro s kept t h
  obtain ⟨lost, u, dropped, -, hlast⟩ := fill_ok h
  obtain ⟨-, hall⟩ := hpiece.times _ u _ t hlast.drawn
  refine ⟨hlast.ne_nil, ?_, hlast.size_lt⟩
  intro piece hmem
  exact hall piece (List.mem_append_left _ hmem)

end LinkedDocs.Prose
