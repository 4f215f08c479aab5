import Deliberation.Proofs.Number.Linear
import Deliberation.Proofs.Search.Growth
import Deliberation.Proofs.Search.Ranking

namespace Deliberation.Search

open Number

namespace Score

variable {s u : Score}

theorem unpack_value (s : Score) : s.value.toModel.unpack =
    Float.Model.UnpackedFloat.unpack .binary64 s.bits.toBitVec :=
  unpack_ofBits s.bits

theorem place_zero_le (h : InUnit s.value) :
    toLex (0, toLex (0, 0)) ≤ place s.value.toModel.unpack :=
  (le_iff_place (x := 0.0) (by decide) (isNaN_of_isFinite h.isFinite)).1 h.zero_le

theorem bits_le (h : InUnit s.value) : s.bits.toNat ≤ signBound := by
  refine Nat.not_lt.1 fun hlt => not_lt_of_ge (place_zero_le h) ?_
  have hnan : s.value.toModel.unpack.isNaN = false := isNaN_of_isFinite h.isFinite
  rw [unpack_value] at hnan ⊢
  exact place_lt_zero hlt hnan

-- The remainder takes minus zero to zero and leaves the bits of the others as they are.
theorem place_value (h : InUnit s.value) :
    place s.value.toModel.unpack = placeOfBits (s.bits.toNat % signBound) := by
  have hzero := place_zero_le h
  have hfinite : s.value.toModel.unpack.isFinite = true := h.isFinite
  rw [unpack_value] at hzero hfinite ⊢
  rcases (bits_le h).lt_or_eq with hlt | he
  · rw [Nat.mod_eq_of_lt hlt]
    exact place_of_lt hlt hfinite
  · rw [he, Nat.mod_self]
    exact le_antisymm (place_of_le he.ge) hzero

theorem value_le_iff (hs : InUnit s.value) (hu : InUnit u.value) :
    s.value ≤ u.value ↔ s.bits.toNat % signBound ≤ u.bits.toNat % signBound := by
  rw [le_iff_place (isNaN_of_isFinite hs.isFinite) (isNaN_of_isFinite hu.isFinite),
    place_value hs, place_value hu, placeOfBits_strictMono.le_iff_le]

theorem value_le_value (h : s.rank ≤ u.rank) (hs : InUnit s.value) (hu : InUnit u.value) :
    s.value ≤ u.value := by
  have hsb := bits_le hs
  have hub := bits_le hu
  rw [value_le_iff hs hu]
  simp only [rank, signBound] at *
  omega

end Score

theorem Tree.Grown.best?_improves {t u : Tree} (hu : u.Grown) (h : t.nodes <+: u.nodes) {m : Node}
    {x : Score} (hm : t.best? = some m) (hx : m.score = some x) :
    ∃ n y, u.best? = some n ∧ n.score = some y ∧ x.value ≤ y.value := by
  have ht : (t.nodes.map Node.id).Nodup := hu.nodup_ids.sublist (h.sublist.map Node.id)
  have hmem : m ∈ u.nodes := h.subset (best?_eq_some ht hm).1
  cases hb : u.best? with
  | none =>
    rw [best?_eq_none hb m hmem] at hx
    cases hx
  | some n =>
    obtain ⟨hn, hs, hfirst⟩ := best?_eq_some hu.nodup_ids hb
    obtain ⟨y, hy⟩ := Option.isSome_iff_exists.1 hs
    have hrank : x.rank ≤ y.rank := by
      refine Int.not_lt.1 fun hlt => Bool.eq_false_iff.1 (hfirst m hmem) ?_
      exact outranks_iff.2 ⟨x, y, hx, hy, .inl hlt⟩
    exact ⟨n, y, rfl, hy,
      Score.value_le_value hrank (hu.scored m hmem x hx) (hu.scored n hn y hy)⟩

end Deliberation.Search
