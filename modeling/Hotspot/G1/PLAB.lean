import Mathlib.Data.Nat.Defs

/-!
# The promotion-local allocation buffer

`G1PLAB` (`gc/g1/g1Allocator.hpp`) inherits its allocation path from `PLAB`, whose code
(`gc/shared/plab.hpp`) is not part of this repository's sources.  It is modelled here from the
spec's Buffer (section 4.2): a bump-pointer range `[bottom, limit)` with a frontier `top`.
`allocate(n)` succeeds iff `top + n ≤ limit` and returns the old `top`;
`allocate_aligned(n, k)` first pads `top` up to a multiple of `k`, recording the pad as waste;
`undo_allocation(a, n)` of the most recent allocation sets `top` back to `a`; retiring records
the unused tail as waste and leaves no room for further allocations.

Addresses are byte addresses and sizes are counted in words of `HeapWordSize` bytes, as
`HeapWord*` arithmetic is.  The invariant `bottom ≤ top ≤ limit` is a field of the structure,
so every operation below shows it keeps it.

## Main definitions

* `align_up x k`: `x` rounded up to a multiple of `k`
* `PLAB`: the buffer, with `set_buf`, `allocate`, `allocate_aligned`, `undo_allocation`,
  `retire` and `flush_and_retire_stats`

## Main results

* `PLAB.undo_allocation_allocate`: an undone allocation is served again at the same address,
  and the buffer ends as the first allocation left it
* `PLAB.allocate_aligned_of_dvd`: on an aligned frontier the padded path is the plain one
* `PLAB.undo_allocation_allocate_aligned`: the round trip on the padded path
-/

namespace Hotspot

/-- Modelled from the spec: `align_pointer_up`, the frontier rounded up to the next multiple of
`alignment` (a zero alignment leaves it). -/
def align_up (addr alignment : Nat) : Nat :=
  addr + (alignment - addr % alignment) % alignment

theorem le_align_up (addr alignment : Nat) : addr ≤ align_up addr alignment :=
  Nat.le_add_right _ _

theorem align_up_of_dvd {addr alignment : Nat} (h : alignment ∣ addr) :
    align_up addr alignment = addr := by
  rw [align_up, Nat.mod_eq_zero_of_dvd h, Nat.sub_zero, Nat.mod_self, Nat.add_zero]

theorem dvd_align_up (addr : Nat) {alignment : Nat} (h : 0 < alignment) :
    alignment ∣ align_up addr alignment := by
  have hdiv := Nat.div_add_mod addr alignment
  have hlt := Nat.mod_lt addr h
  unfold align_up
  rcases Nat.eq_zero_or_pos (addr % alignment) with h0 | hpos
  · rw [h0, Nat.sub_zero, Nat.mod_self, Nat.add_zero]
    exact Nat.dvd_of_mod_eq_zero h0
  · rw [Nat.mod_eq_of_lt (by omega : alignment - addr % alignment < alignment)]
    exact ⟨addr / alignment + 1, by rw [Nat.mul_add, Nat.mul_one]; omega⟩

/-- Modelled from the spec: the statistics sink a buffer flushes its waste into. -/
structure PLABStats where
  wasted : Nat
  deriving DecidableEq, Repr

/-- Modelled from the spec: the Buffer `{ start, current, limit }` of section 4.2, here under
`PLAB`'s own names `bottom`, `top` and `end()` (`limit`), with the desired size `word_sz` that
`set_buf` carves and the bytes `wasted` to padding and retirement since the last flush. -/
@[ext]
structure PLAB where
  word_sz : Nat
  bottom : Nat
  top : Nat
  limit : Nat
  wasted : Nat
  bottom_le_top : bottom ≤ top
  top_le_limit : top ≤ limit
  deriving DecidableEq

namespace PLAB

variable (HeapWordSize : Nat)

/-- `PLAB::set_buf`: a fresh range of `word_sz` words starting at `buf`. -/
def set_buf (p : PLAB) (buf : Nat) : PLAB :=
  { p with bottom := buf, top := buf, limit := buf + p.word_sz * HeapWordSize,
           bottom_le_top := le_rfl, top_le_limit := Nat.le_add_right _ _ }

/-- `PLAB::allocate`: bump `top` by `word_sz` words when they fit below `limit`; the result is
the old `top`, or `none` for `NULL`. -/
def allocate (p : PLAB) (word_sz : Nat) : PLAB × Option Nat :=
  if h : p.top + word_sz * HeapWordSize ≤ p.limit then
    ({ p with top := p.top + word_sz * HeapWordSize,
              bottom_le_top := Nat.le_trans p.bottom_le_top (Nat.le_add_right _ _), top_le_limit := h },
     some p.top)
  else (p, none)

/-- `PLAB::allocate_aligned`: pad `top` up to `alignment_in_bytes`, counting the pad as waste,
then allocate; a pad that would leave the buffer fails without touching it. -/
def allocate_aligned (p : PLAB) (word_sz alignment_in_bytes : Nat) : PLAB × Option Nat :=
  if h : align_up p.top alignment_in_bytes ≤ p.limit then
    allocate HeapWordSize
      { p with top := align_up p.top alignment_in_bytes,
               wasted := p.wasted + (align_up p.top alignment_in_bytes - p.top),
               bottom_le_top := Nat.le_trans p.bottom_le_top (le_align_up _ _), top_le_limit := h }
      word_sz
  else (p, none)

/-- `PLAB::undo_allocation`: only the most recent allocation, the one ending at `top`, is
rolled back; any other undo is rejected and leaves the buffer as it was. -/
def undo_allocation (p : PLAB) (obj word_sz : Nat) : PLAB :=
  if h : p.bottom ≤ obj ∧ obj + word_sz * HeapWordSize = p.top then
    { p with top := obj, bottom_le_top := h.1, top_le_limit := by have := p.top_le_limit; omega }
  else p

/-- The unused tail of the buffer. -/
def remaining (p : PLAB) : Nat := p.limit - p.top

/-- `PLAB::invalidate`: move `bottom` and `top` to the end, so nothing more fits. -/
def invalidate (p : PLAB) : PLAB :=
  { p with bottom := p.limit, top := p.limit, bottom_le_top := le_rfl, top_le_limit := le_rfl }

/-- `PLAB::retire`: the unused tail becomes waste and the buffer is invalidated. -/
def retire (p : PLAB) : PLAB :=
  { p.invalidate with wasted := p.wasted + p.remaining }

/-- `PLAB::flush_and_retire_stats`: retire the tail and move all the waste into `stats`. -/
def flush_and_retire_stats (p : PLAB) (stats : PLABStats) : PLAB × PLABStats :=
  ({ p.invalidate with wasted := 0 }, ⟨stats.wasted + (p.wasted + p.remaining)⟩)

/-! ## Allocation and its undo -/

variable {HeapWordSize}

/-- What a successful `allocate` did: the old frontier is returned and bumped, nothing else
moves. -/
theorem allocate_eq_some {p q : PLAB} {word_sz a : Nat}
    (h : p.allocate HeapWordSize word_sz = (q, some a)) :
    a = p.top ∧ q.top = p.top + word_sz * HeapWordSize ∧ q.word_sz = p.word_sz ∧
      q.bottom = p.bottom ∧ q.limit = p.limit ∧ q.wasted = p.wasted := by
  unfold allocate at h
  split at h
  · cases h; exact ⟨rfl, rfl, rfl, rfl, rfl, rfl⟩
  · cases h

theorem allocate_top (p : PLAB) (word_sz : Nat) :
    (p.allocate HeapWordSize word_sz).1.top =
      if p.top + word_sz * HeapWordSize ≤ p.limit then p.top + word_sz * HeapWordSize
      else p.top := by
  unfold allocate; split <;> simp [*]

/-- A failed `allocate` leaves the buffer as it was. -/
theorem allocate_eq_none {p q : PLAB} {word_sz : Nat}
    (h : p.allocate HeapWordSize word_sz = (q, none)) : q = p := by
  unfold allocate at h; split at h
  · cases h
  · exact (Prod.mk.inj h).1.symm

theorem allocate_result (p : PLAB) (word_sz : Nat) :
    (p.allocate HeapWordSize word_sz).2 =
      if p.top + word_sz * HeapWordSize ≤ p.limit then some p.top else none := by
  unfold allocate; split <;> simp [*]

/-- **Undo restores the buffer**: rolling back the allocation just made gives back exactly the
buffer it was made from. -/
theorem undo_allocation_allocate {p q : PLAB} {word_sz a : Nat}
    (h : p.allocate HeapWordSize word_sz = (q, some a)) :
    q.undo_allocation HeapWordSize a word_sz = p := by
  obtain ⟨rfl, htop, hsz, hbot, hlim, hw⟩ := allocate_eq_some h
  unfold undo_allocation
  rw [dif_pos ⟨hbot ▸ p.bottom_le_top, htop.symm⟩]
  ext <;> simp [*]

theorem undo_allocation_top (p : PLAB) (obj word_sz : Nat) :
    (p.undo_allocation HeapWordSize obj word_sz).top =
      if p.bottom ≤ obj ∧ obj + word_sz * HeapWordSize = p.top then obj else p.top := by
  unfold undo_allocation; split <;> simp [*]

/-- On a frontier already aligned to `alignment_in_bytes` the padded path pads nothing and is the
plain bump. -/
theorem allocate_aligned_of_dvd {p : PLAB} {alignment_in_bytes : Nat} (word_sz : Nat)
    (h : alignment_in_bytes ∣ p.top) :
    p.allocate_aligned HeapWordSize word_sz alignment_in_bytes = p.allocate HeapWordSize word_sz := by
  have hup := align_up_of_dvd h
  unfold allocate_aligned
  rw [dif_pos (by rw [hup]; exact p.top_le_limit)]
  congr 1
  ext <;> simp [hup]

/-- The padded path never moves the frontier down, even when it fails after padding. -/
theorem le_allocate_aligned_top (p : PLAB) (word_sz alignment_in_bytes : Nat) :
    p.top ≤ (p.allocate_aligned HeapWordSize word_sz alignment_in_bytes).1.top := by
  have := le_align_up p.top alignment_in_bytes
  unfold allocate_aligned; split
  · rw [allocate_top]; dsimp only; split <;> omega
  · exact le_rfl

/-- A successful padded allocation is a plain one from a padded buffer whose frontier is the
returned address, a multiple of the alignment. -/
theorem allocate_aligned_eq_some {p q : PLAB} {word_sz alignment_in_bytes a : Nat}
    (h : p.allocate_aligned HeapWordSize word_sz alignment_in_bytes = (q, some a)) :
    a = align_up p.top alignment_in_bytes ∧
      ∃ p' : PLAB, p'.top = a ∧ p'.allocate HeapWordSize word_sz = (q, some a) := by
  unfold allocate_aligned at h
  split at h
  · exact ⟨(allocate_eq_some h).1, _, (allocate_eq_some h).1.symm, h⟩
  · cases h

/-- **The round trip on the padded path**: an undone padded allocation is served again at the
same address, pads nothing the second time, and leaves the buffer as the first one did. -/
theorem undo_allocation_allocate_aligned {p q : PLAB} {word_sz alignment_in_bytes a : Nat}
    (hk : 0 < alignment_in_bytes)
    (h : p.allocate_aligned HeapWordSize word_sz alignment_in_bytes = (q, some a)) :
    (q.undo_allocation HeapWordSize a word_sz).allocate_aligned HeapWordSize word_sz
      alignment_in_bytes = (q, some a) := by
  obtain ⟨ha, p', rfl, hp'⟩ := allocate_aligned_eq_some h
  rw [undo_allocation_allocate hp', allocate_aligned_of_dvd _ (ha ▸ dvd_align_up _ hk), hp']

/-! ## The range between two installations

Only `set_buf` and retirement move `bottom` and `limit`; the allocation path moves `top` alone.
A buffer whose range has shrunk to its end, as an invalidated one has, serves no allocation of
a positive size. -/

@[simp] theorem allocate_bottom (p : PLAB) (word_sz : Nat) :
    (p.allocate HeapWordSize word_sz).1.bottom = p.bottom := by
  unfold allocate; split <;> rfl

@[simp] theorem allocate_limit (p : PLAB) (word_sz : Nat) :
    (p.allocate HeapWordSize word_sz).1.limit = p.limit := by
  unfold allocate; split <;> rfl

@[simp] theorem allocate_aligned_bottom (p : PLAB) (word_sz alignment_in_bytes : Nat) :
    (p.allocate_aligned HeapWordSize word_sz alignment_in_bytes).1.bottom = p.bottom := by
  unfold allocate_aligned; split <;> simp

@[simp] theorem allocate_aligned_limit (p : PLAB) (word_sz alignment_in_bytes : Nat) :
    (p.allocate_aligned HeapWordSize word_sz alignment_in_bytes).1.limit = p.limit := by
  unfold allocate_aligned; split <;> simp

@[simp] theorem undo_allocation_bottom (p : PLAB) (obj word_sz : Nat) :
    (p.undo_allocation HeapWordSize obj word_sz).bottom = p.bottom := by
  unfold undo_allocation; split <;> rfl

@[simp] theorem undo_allocation_limit (p : PLAB) (obj word_sz : Nat) :
    (p.undo_allocation HeapWordSize obj word_sz).limit = p.limit := by
  unfold undo_allocation; split <;> rfl

theorem allocate_eq_none_of_empty {p : PLAB} (hp : p.bottom = p.limit) {word_sz : Nat}
    (hw : 0 < word_sz * HeapWordSize) : (p.allocate HeapWordSize word_sz).2 = none := by
  have := p.bottom_le_top
  rw [allocate_result, if_neg (by omega)]

theorem allocate_aligned_eq_none_of_empty {p : PLAB} (hp : p.bottom = p.limit) {word_sz : Nat}
    (alignment_in_bytes : Nat) (hw : 0 < word_sz * HeapWordSize) :
    (p.allocate_aligned HeapWordSize word_sz alignment_in_bytes).2 = none := by
  unfold allocate_aligned; split
  · exact allocate_eq_none_of_empty (by exact hp) hw
  · rfl

/-! ## Alignment of the frontier -/

/-- A plain allocation keeps the frontier a multiple of `k` when its size is one. -/
theorem dvd_allocate_top {p : PLAB} {k : Nat} (word_sz : Nat) (ht : k ∣ p.top)
    (hsz : k ∣ word_sz * HeapWordSize) : k ∣ (p.allocate HeapWordSize word_sz).1.top := by
  rw [allocate_top]; split
  · exact Nat.dvd_add ht hsz
  · exact ht

/-- A padded allocation to a multiple of `k` keeps the frontier a multiple of `k` when its
size is one. -/
theorem dvd_allocate_aligned_top {p : PLAB} {k alignment_in_bytes : Nat} (word_sz : Nat)
    (ht : k ∣ p.top) (hk : k ∣ alignment_in_bytes) (hpos : 0 < alignment_in_bytes)
    (hsz : k ∣ word_sz * HeapWordSize) :
    k ∣ (p.allocate_aligned HeapWordSize word_sz alignment_in_bytes).1.top := by
  unfold allocate_aligned; split
  · exact dvd_allocate_top word_sz (Nat.dvd_trans hk (dvd_align_up _ hpos)) hsz
  · exact ht

/-- An undo of a size that is a multiple of `k` keeps the frontier a multiple of `k`. -/
theorem dvd_undo_allocation_top {p : PLAB} {k : Nat} (obj word_sz : Nat) (ht : k ∣ p.top)
    (hsz : k ∣ word_sz * HeapWordSize) : k ∣ (p.undo_allocation HeapWordSize obj word_sz).top := by
  rw [undo_allocation_top]; split
  · rename_i h
    exact (Nat.dvd_add_right hsz).1 (by rw [Nat.add_comm, h.2]; exact ht)
  · exact ht

end PLAB

end Hotspot
