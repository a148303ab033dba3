import Hotspot.G1.G1PLAB

/-!
# The live objects of a buffer never overlap

A collector thread bumps its buffer once per evacuated object, and hands the most recent one
back with `undo_allocation` when it loses the race to install its copy.  This module follows,
beside the calls of `G1PLAB.step`, the objects the installed buffer has handed out and not
taken back: the ghost list `live`, most recent first, each object as its address and its size
in bytes.  As long as every undo names the most recent live object, as `undo_allocation`'s
contract asks, the live objects stay stacked below the frontier: no two of them overlap, and
none reaches into the memory the buffer hands out next.

## Main definitions

* `Stacked top live`: each live object ends at or below the start of the one allocated after
  it, and the most recent at or below `top`
* `G1PLAB.liveAfter`, `G1PLAB.liveRun`: the live objects after a call and after a run
* `G1PLAB.UndoesLast`: every undo of a run names the most recent live object

## Main results

* `G1PLAB.stacked_liveAfter`: one call keeps the live objects stacked below the frontier
* `G1PLAB.live_objects_disjoint`: after any run that keeps the undo contract, the live objects
  are pairwise disjoint and below the frontier
-/

namespace Hotspot

/-- The live objects, most recent first, each as its address and its size in bytes, stacked
below `top`. -/
def Stacked : Nat → List (Nat × Nat) → Prop
  | _, [] => True
  | top, (a, n) :: live => a + n ≤ top ∧ Stacked a live

theorem Stacked.mono : ∀ {top top' : Nat} {live : List (Nat × Nat)},
    Stacked top live → top ≤ top' → Stacked top' live
  | _, _, [], _, _ => trivial
  | _, _, (_, _) :: _, ⟨h, hs⟩, hle => ⟨Nat.le_trans h hle, hs⟩

/-- Stacked objects end below the frontier, and each ends before any more recent one starts. -/
theorem Stacked.pairwise : ∀ {top : Nat} {live : List (Nat × Nat)}, Stacked top live →
    (∀ b ∈ live, b.1 + b.2 ≤ top) ∧ live.Pairwise (fun b c => c.1 + c.2 ≤ b.1)
  | _, [], _ => ⟨by simp, .nil⟩
  | top, (a, n) :: live, ⟨h, hs⟩ => by
    obtain ⟨hbelow, hpw⟩ := Stacked.pairwise hs
    refine ⟨?_, .cons hbelow hpw⟩
    rintro b (_ | ⟨_, hb⟩)
    · exact h
    · have := hbelow b hb; omega

namespace G1PLAB

variable (HeapWordSize : Nat)

/-- The live objects after one call: a successful allocation adds the object it returns, an
undo that takes effect drops the most recent one, and `set_buf` installs a buffer that has
handed out nothing. -/
def liveAfter (s : G1PLAB × PLABStats) (live : List (Nat × Nat)) : G1PLABOp → List (Nat × Nat)
  | .set_buf _ => []
  | .allocate word_sz =>
    match (s.1.allocate HeapWordSize word_sz).2 with
    | some a => (a, word_sz * HeapWordSize) :: live
    | none => live
  | .allocate_aligned word_sz alignment_in_bytes =>
    match (s.1.allocate_aligned HeapWordSize word_sz alignment_in_bytes).2 with
    | some a => (a, word_sz * HeapWordSize) :: live
    | none => live
  | .undo_allocation obj word_sz =>
    if s.1.bottom ≤ obj ∧ obj + word_sz * HeapWordSize = s.1.top then live.tail else live
  | .retire | .flush_and_retire_stats => live

/-- The live objects after a run, the calls taking the states `run` goes through. -/
def liveRun : G1PLAB × PLABStats → List (Nat × Nat) → List G1PLABOp → List (Nat × Nat)
  | _, live, [] => live
  | s, live, op :: ops => liveRun (step HeapWordSize s op).1 (liveAfter HeapWordSize s live op) ops

/-- The contract of `undo_allocation`: the object handed back is the most recent live one. -/
def NamesLast (live : List (Nat × Nat)) : G1PLABOp → Prop
  | .undo_allocation obj word_sz => live.head? = some (obj, word_sz * HeapWordSize)
  | _ => True

/-- Every call of the run keeps the contract of `undo_allocation`. -/
def UndoesLast : G1PLAB × PLABStats → List (Nat × Nat) → List G1PLABOp → Prop
  | _, _, [] => True
  | s, live, op :: ops => NamesLast HeapWordSize live op ∧
    UndoesLast (step HeapWordSize s op).1 (liveAfter HeapWordSize s live op) ops

instance (live : List (Nat × Nat)) : ∀ op, Decidable (NamesLast HeapWordSize live op)
  | .undo_allocation _ _ => inferInstanceAs (Decidable (_ = _))
  | .set_buf _ | .retire | .flush_and_retire_stats | .allocate _ | .allocate_aligned _ _ =>
    inferInstanceAs (Decidable True)

instance decUndoesLast : ∀ s live ops, Decidable (UndoesLast HeapWordSize s live ops)
  | _, _, [] => inferInstanceAs (Decidable True)
  | s, live, op :: ops =>
    haveI := decUndoesLast (step HeapWordSize s op).1 (liveAfter HeapWordSize s live op) ops
    inferInstanceAs (Decidable (_ ∧ _))

/-- **One call** keeps the live objects stacked below the frontier.  Allocations push the old
frontier, or the padded one above it; retirement only raises the frontier to the end; and an
undo that names the most recent object moves the frontier back to exactly its start. -/
theorem stacked_liveAfter {s : G1PLAB × PLABStats} {live : List (Nat × Nat)}
    (h : Stacked s.1.top live) {op : G1PLABOp} (hop : NamesLast HeapWordSize live op) :
    Stacked (step HeapWordSize s op).1.1.top (liveAfter HeapWordSize s live op) := by
  cases op with
  | set_buf buf => trivial
  | retire =>
    refine h.mono ?_
    simp only [step, retire]
    split
    · exact le_rfl
    · exact s.1.top_le_limit
  | flush_and_retire_stats => exact h.mono s.1.top_le_limit
  | allocate word_sz =>
    simp only [liveAfter, step, allocate]
    rcases hq : s.1.toPLAB.allocate HeapWordSize word_sz with ⟨q, _ | a⟩
    · simpa [PLAB.allocate_eq_none hq] using h
    · obtain ⟨rfl, htop, -⟩ := PLAB.allocate_eq_some hq
      exact ⟨by simp [htop], h⟩
  | allocate_aligned word_sz alignment_in_bytes =>
    have hle : s.1.top ≤
        (s.1.toPLAB.allocate_aligned HeapWordSize word_sz alignment_in_bytes).1.top :=
      PLAB.le_allocate_aligned_top _ _ _
    simp only [liveAfter, step, allocate_aligned]
    rcases hq : s.1.toPLAB.allocate_aligned HeapWordSize word_sz alignment_in_bytes with
      ⟨q, _ | a⟩ <;> rw [hq] at hle
    · exact h.mono hle
    · obtain ⟨rfl, p', hp', hall⟩ := PLAB.allocate_aligned_eq_some hq
      obtain ⟨-, htop, -⟩ := PLAB.allocate_eq_some hall
      exact ⟨by simp [htop, hp'], h.mono (le_align_up _ _)⟩
  | undo_allocation obj word_sz =>
    simp only [liveAfter, step, undo_allocation]
    split
    · rename_i hc
      obtain ⟨rest, rfl⟩ : ∃ rest, live = (obj, word_sz * HeapWordSize) :: rest := by
        cases live with
        | nil => cases hop
        | cons b rest => simp [NamesLast] at hop; exact ⟨rest, by rw [hop]⟩
      simpa [PLAB.undo_allocation_top, hc] using h.2
    · simp [PLAB.undo_allocation_top, *]

theorem stacked_liveRun {s : G1PLAB × PLABStats} {live : List (Nat × Nat)}
    {ops : List G1PLABOp} (h : Stacked s.1.top live) (hu : UndoesLast HeapWordSize s live ops) :
    Stacked (run HeapWordSize s ops).1.1.top (liveRun HeapWordSize s live ops) := by
  induction ops generalizing s live with
  | nil => exact h
  | cons op ops ih => exact ih (stacked_liveAfter HeapWordSize h hu.1) hu.2

/-- **Live objects never overlap**: after any run on one buffer in which every undo names the
most recent live object, the objects handed out since the buffer was installed and not taken
back are pairwise disjoint, each ending before any more recent one starts, and all lie below
the frontier the next allocation starts from. -/
theorem live_objects_disjoint (s : G1PLAB × PLABStats) (ops : List G1PLABOp)
    (h : UndoesLast HeapWordSize s [] ops) :
    (∀ b ∈ liveRun HeapWordSize s [] ops, b.1 + b.2 ≤ (run HeapWordSize s ops).1.1.top) ∧
      (liveRun HeapWordSize s [] ops).Pairwise (fun b c => c.1 + c.2 ≤ b.1) :=
  (stacked_liveRun HeapWordSize (by trivial) h).pairwise

/-- Two objects, the second padded to 64 bytes and handed back, then a third in its place. -/
theorem live_objects_disjoint_undo_padded :
    let s : G1PLAB × PLABStats := (⟨⟨64, 0, 0, 0, 0, le_rfl, le_rfl⟩, true⟩, ⟨0⟩)
    let ops : List G1PLABOp :=
      [.set_buf 4096, .allocate 2, .allocate_aligned 3 64, .undo_allocation 4160 3, .allocate 1]
    liveRun 8 s [] ops = [(4160, 8), (4096, 16)] ∧
      (∀ b ∈ liveRun 8 s [] ops, b.1 + b.2 ≤ (run 8 s ops).1.1.top) ∧
      (liveRun 8 s [] ops).Pairwise (fun b c => c.1 + c.2 ≤ b.1) :=
  ⟨rfl, live_objects_disjoint 8 _ _ (by decide)⟩

end G1PLAB

end Hotspot
