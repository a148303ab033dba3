import Hotspot.G1.G1PLAB

/-!
# The per-worker allocator and its two-tier allocation path

`G1ParGCAllocator` (`gc/g1/g1Allocator.hpp`) is what one collector thread allocates evacuated
objects with.  `plab_allocate` bumps the thread's own buffer for the destination, padding to
the survivor alignment for young objects when one is in effect; `allocate` falls back to
`allocate_direct_or_new_plab` when the buffer has no room; `undo_allocation` hands the last
allocation back to the same buffer.  The one implementation, `G1DefaultParGCAllocator`, keeps
a surviving and a tenured buffer and finds them through `alloc_buffer`.

`allocate_direct_or_new_plab` and the region code behind it live in `g1Allocator.cpp`, which
is not among the sources; it is a parameter here, and no result below depends on what it does.

## Main definitions

* `InCSetState`: the destination of an evacuated object
* `G1ParGCAllocator`: the survivor alignment in effect and the two buffers
* `calc_survivor_alignment_bytes`, `alloc_buffer`, `plab_allocate`, `allocate`,
  `undo_allocation`

## Main results

* `G1ParGCAllocator.plab_allocate_of_alloc_buffer`: the buffer call `plab_allocate` makes
* `G1ParGCAllocator.undo_then_allocate`: an undone allocation is served again, from the
  buffer, at the same address, leaving every buffer as the first allocation did
-/

namespace Hotspot

/-- Modelled from the spec: the destination tag of an evacuated object (`g1InCSetState.hpp` is
not among the sources), numbered in the order the tag lists its values. -/
inductive InCSetState
  | NotInCSet
  | Young
  | Old
  deriving DecidableEq, Repr

namespace InCSetState

/-- `InCSetState::value`. -/
def value : InCSetState → Int
  | NotInCSet => 0
  | Young => 1
  | Old => 2

/-- `InCSetState::is_young`. -/
def is_young (dest : InCSetState) : Bool := dest == Young

end InCSetState

/-- The state of a `G1DefaultParGCAllocator`: `_survivor_alignment_bytes`, the `const uint`
fixed at construction, and the buffers `_alloc_buffers` points at for the young and the old
destination. -/
structure G1ParGCAllocator where
  survivor_alignment_bytes : UInt32
  surviving_alloc_buffer : G1PLAB
  tenured_alloc_buffer : G1PLAB
  deriving DecidableEq

namespace G1ParGCAllocator

variable {AllocationContext_t : Type} (HeapWordSize : Nat)

/-- `G1DefaultParGCAllocator::alloc_buffer`: the buffer of `dest`.  No buffer is installed for
objects outside the collection set, which the second `assert` rejects (the first, `is_valid`,
holds of every tag). -/
def alloc_buffer (a : G1ParGCAllocator) (dest : InCSetState) (_context : AllocationContext_t) :
    Except String G1PLAB :=
  match dest with
  | .Young => .ok a.surviving_alloc_buffer
  | .Old => .ok a.tenured_alloc_buffer
  | .NotInCSet => .error ("Allocation buffer is NULL: " ++ toString dest.value)

/-- A write through the pointer `alloc_buffer` returns. -/
def set_alloc_buffer (a : G1ParGCAllocator) (dest : InCSetState) (buffer : G1PLAB) :
    G1ParGCAllocator :=
  match dest with
  | .Young => { a with surviving_alloc_buffer := buffer }
  | .Old => { a with tenured_alloc_buffer := buffer }
  | .NotInCSet => a

/-- `G1ParGCAllocator::plab_allocate`: bump the buffer of `dest`, padded to the survivor
alignment for young objects when one is in effect.  The `uint` alignment widens to the `size_t`
that `allocate_aligned` takes. -/
def plab_allocate (a : G1ParGCAllocator) (dest : InCSetState) (word_sz : Nat)
    (context : AllocationContext_t) : Except String (G1ParGCAllocator × Option Nat) := do
  let buffer ← a.alloc_buffer dest context
  let r := if a.survivor_alignment_bytes == 0 || !dest.is_young then
      buffer.allocate HeapWordSize word_sz
    else
      buffer.allocate_aligned HeapWordSize word_sz a.survivor_alignment_bytes.toNat
  pure (a.set_alloc_buffer dest r.1, r.2)

/-- The buffer call `plab_allocate` makes: the plain bump, or the padded one for young objects
under a survivor alignment. -/
def plab_call (survivor_alignment_bytes : UInt32) (dest : InCSetState) (buffer : G1PLAB)
    (word_sz : Nat) : G1PLAB × Option Nat :=
  if survivor_alignment_bytes == 0 || !dest.is_young then buffer.allocate HeapWordSize word_sz
  else buffer.allocate_aligned HeapWordSize word_sz survivor_alignment_bytes.toNat

/-- `G1ParGCAllocator::allocate`: the buffer first, then `allocate_direct_or_new_plab`. -/
def allocate
    (allocate_direct_or_new_plab : G1ParGCAllocator → InCSetState → Nat → AllocationContext_t →
      Except String (G1ParGCAllocator × Option Nat))
    (a : G1ParGCAllocator) (dest : InCSetState) (word_sz : Nat) (context : AllocationContext_t) :
    Except String (G1ParGCAllocator × Option Nat) := do
  let (a, obj) ← a.plab_allocate HeapWordSize dest word_sz context
  match obj with
  | some _ => pure (a, obj)
  | none => allocate_direct_or_new_plab a dest word_sz context

/-- `G1ParGCAllocator::undo_allocation`: hand `obj` back to the buffer of `dest`. -/
def undo_allocation (a : G1ParGCAllocator) (dest : InCSetState) (obj word_sz : Nat)
    (context : AllocationContext_t) : Except String G1ParGCAllocator := do
  let buffer ← a.alloc_buffer dest context
  pure (a.set_alloc_buffer dest (buffer.undo_allocation HeapWordSize obj word_sz))

/-! ## The buffer of a destination -/

variable {HeapWordSize}

theorem alloc_buffer_set_alloc_buffer {a : G1ParGCAllocator} {dest : InCSetState}
    {context : AllocationContext_t} {buffer : G1PLAB} (h : a.alloc_buffer dest context = .ok buffer)
    (buffer' : G1PLAB) : (a.set_alloc_buffer dest buffer').alloc_buffer dest context = .ok buffer' := by
  cases dest <;> simp_all [alloc_buffer, set_alloc_buffer]

@[simp] theorem set_alloc_buffer_set_alloc_buffer (a : G1ParGCAllocator) (dest : InCSetState)
    (buffer buffer' : G1PLAB) :
    (a.set_alloc_buffer dest buffer).set_alloc_buffer dest buffer' =
      a.set_alloc_buffer dest buffer' := by
  cases dest <;> rfl

@[simp] theorem survivor_alignment_bytes_set_alloc_buffer (a : G1ParGCAllocator)
    (dest : InCSetState) (buffer : G1PLAB) :
    (a.set_alloc_buffer dest buffer).survivor_alignment_bytes = a.survivor_alignment_bytes := by
  cases dest <;> rfl

variable (HeapWordSize)

/-- `plab_allocate` is the buffer call on the buffer of `dest`, written back. -/
theorem plab_allocate_of_alloc_buffer {a : G1ParGCAllocator} {dest : InCSetState}
    {context : AllocationContext_t} {buffer : G1PLAB} (h : a.alloc_buffer dest context = .ok buffer)
    (word_sz : Nat) :
    a.plab_allocate HeapWordSize dest word_sz context =
      .ok (a.set_alloc_buffer dest (plab_call HeapWordSize a.survivor_alignment_bytes dest buffer word_sz).1,
        (plab_call HeapWordSize a.survivor_alignment_bytes dest buffer word_sz).2) := by
  rw [plab_allocate, h]; rfl

theorem alloc_buffer_of_plab_allocate {a : G1ParGCAllocator} {dest : InCSetState}
    {context : AllocationContext_t} {word_sz : Nat} {r : G1ParGCAllocator × Option Nat}
    (h : a.plab_allocate HeapWordSize dest word_sz context = .ok r) :
    ∃ buffer, a.alloc_buffer dest context = .ok buffer := by
  cases dest
  · cases h
  all_goals exact ⟨_, rfl⟩

/-- What a `plab_allocate` that returned did: the buffer call on the buffer of `dest`, written
back. -/
theorem plab_allocate_eq_ok {a a₁ : G1ParGCAllocator} {dest : InCSetState}
    {context : AllocationContext_t} {word_sz : Nat} {r : Option Nat}
    (h : a.plab_allocate HeapWordSize dest word_sz context = .ok (a₁, r)) :
    ∃ buffer q, a.alloc_buffer dest context = .ok buffer ∧
      plab_call HeapWordSize a.survivor_alignment_bytes dest buffer word_sz = (q, r) ∧
      a₁ = a.set_alloc_buffer dest q := by
  obtain ⟨buffer, hb⟩ := alloc_buffer_of_plab_allocate HeapWordSize h
  rw [plab_allocate_of_alloc_buffer HeapWordSize hb, Except.ok.injEq, Prod.mk.injEq] at h
  exact ⟨buffer, _, hb, Prod.ext rfl h.2, h.1.symm⟩

/-- An address from the buffer is what `allocate` returns. -/
theorem allocate_of_plab_allocate
    (allocate_direct_or_new_plab : G1ParGCAllocator → InCSetState → Nat → AllocationContext_t →
      Except String (G1ParGCAllocator × Option Nat))
    {a a₁ : G1ParGCAllocator} {dest : InCSetState} {context : AllocationContext_t}
    {word_sz obj : Nat} (h : a.plab_allocate HeapWordSize dest word_sz context = .ok (a₁, some obj)) :
    a.allocate HeapWordSize allocate_direct_or_new_plab dest word_sz context = .ok (a₁, some obj) := by
  rw [allocate, h]; rfl

/-! ## Undo, then allocate again -/

/-- A survivor alignment in effect, one other than `0`, is a positive number of bytes. -/
theorem toNat_pos_of_ne_zero {k : UInt32} (h : k ≠ 0) : 0 < k.toNat :=
  Nat.pos_of_ne_zero fun h0 => h (UInt32.toNat.inj h0)

/-- The buffer call, undone, is served again at the same address and leaves the buffer as the
first call did: on the plain path the undo restores the buffer, on the padded one the frontier
is already aligned. -/
theorem plab_call_undo_allocation {survivor_alignment_bytes : UInt32} {dest : InCSetState}
    {buffer q : G1PLAB} {word_sz obj : Nat}
    (h : plab_call HeapWordSize survivor_alignment_bytes dest buffer word_sz = (q, some obj)) :
    plab_call HeapWordSize survivor_alignment_bytes dest (q.undo_allocation HeapWordSize obj word_sz)
      word_sz = (q, some obj) := by
  unfold plab_call at h ⊢
  split at h
  · rw [if_pos ‹_›, G1PLAB.undo_allocation_allocate HeapWordSize h, h]
  · rename_i hn
    rw [if_neg hn]
    exact G1PLAB.undo_allocation_allocate_aligned HeapWordSize
      (toNat_pos_of_ne_zero fun h0 => hn (by simp [h0])) h

/-- **Undo, then allocate again.**  When `allocate(dest, n, ctx)` is served from the buffer at
`obj`, undoing it and allocating `n` words again is served from the buffer again, at `obj`, and
leaves every buffer of the allocator as the first allocation left it; on the plain and on the
survivor-aligned path alike. -/
theorem undo_then_allocate
    (allocate_direct_or_new_plab : G1ParGCAllocator → InCSetState → Nat → AllocationContext_t →
      Except String (G1ParGCAllocator × Option Nat))
    {a a₁ : G1ParGCAllocator} {dest : InCSetState} {context : AllocationContext_t}
    {word_sz obj : Nat} (h : a.plab_allocate HeapWordSize dest word_sz context = .ok (a₁, some obj)) :
    a.allocate HeapWordSize allocate_direct_or_new_plab dest word_sz context = .ok (a₁, some obj) ∧
      ∃ a₂, a₁.undo_allocation HeapWordSize dest obj word_sz context = .ok a₂ ∧
        a₂.plab_allocate HeapWordSize dest word_sz context = .ok (a₁, some obj) ∧
        a₂.allocate HeapWordSize allocate_direct_or_new_plab dest word_sz context =
          .ok (a₁, some obj) := by
  obtain ⟨buffer, q, hb, hcall, rfl⟩ := plab_allocate_eq_ok HeapWordSize h
  have hb₁ := alloc_buffer_set_alloc_buffer hb q
  have hplab : ((a.set_alloc_buffer dest q).set_alloc_buffer dest
      (q.undo_allocation HeapWordSize obj word_sz)).plab_allocate HeapWordSize dest word_sz context =
      .ok (a.set_alloc_buffer dest q, some obj) := by
    rw [plab_allocate_of_alloc_buffer HeapWordSize (alloc_buffer_set_alloc_buffer hb₁ _),
      survivor_alignment_bytes_set_alloc_buffer, survivor_alignment_bytes_set_alloc_buffer,
      plab_call_undo_allocation HeapWordSize hcall, set_alloc_buffer_set_alloc_buffer,
      set_alloc_buffer_set_alloc_buffer]
  exact ⟨allocate_of_plab_allocate HeapWordSize _ h, _, by rw [undo_allocation, hb₁]; rfl, hplab,
    allocate_of_plab_allocate HeapWordSize _ hplab⟩

/-- The round trip on the survivor-aligned path: a young buffer at frontier 8 with alignment 16
pads to 16, serves 2 words there, and serves them there again after the undo. -/
theorem undo_then_allocate_padded :
    let a : G1ParGCAllocator :=
      ⟨16, ⟨⟨4, 8, 8, 72, 0, by decide, by decide⟩, false⟩, ⟨⟨4, 0, 0, 0, 0, le_rfl, le_rfl⟩, true⟩⟩
    ∃ a₁, a.plab_allocate 8 .Young 2 () = .ok (a₁, some 16) ∧
      ∃ a₂, a₁.undo_allocation 8 .Young 16 2 () = .ok a₂ ∧
        a₂.plab_allocate 8 .Young 2 () = .ok (a₁, some 16) := by
  intro a
  obtain ⟨a₁, h⟩ : ∃ a₁, a.plab_allocate 8 .Young 2 () = .ok (a₁, some 16) := ⟨_, rfl⟩
  exact ⟨a₁, h,
    (undo_then_allocate 8 (fun a _ _ _ => .ok (a, none)) h).2.imp fun _ h => ⟨h.1, h.2.1⟩⟩

end G1ParGCAllocator

end Hotspot
