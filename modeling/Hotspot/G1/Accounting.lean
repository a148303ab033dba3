import Hotspot.G1.LiveObjects

/-!
# Every byte of a buffer is accounted for

A buffer installed by `set_buf` covers `word_sz` words.  Every byte its frontier passes over
is either part of an object still live or recorded as waste: the pad `allocate_aligned` skips
to reach the alignment, and the tail `retire` and `flush_and_retire_stats` give up.  The waste
stays in the buffer's `wasted` until a flush moves it into the statistics sink.  An undone
allocation moves the frontier back over exactly the object it takes back.

This module follows that accounting along any run of calls after one `set_buf`.  The bytes
between the start of the buffer and its frontier are always the live bytes plus the waste
recorded since the installation, counting the waste in the buffer and in the sink together.
Once the buffer is retired its frontier is at its end, so the live bytes and the new waste add
up to exactly the capacity: retiring or flushing again counts nothing twice.

## Main definitions

* `G1PLAB.liveBytes`: the bytes of the live objects
* `G1PLAB.Balanced`: the frontier is the live bytes and the new waste past the start

## Main results

* `G1PLAB.balanced_step`, `G1PLAB.balanced_run`: every call but `set_buf` keeps the balance
* `G1PLAB.live_bytes_add_waste`: once retired, live bytes and waste make up the capacity
-/

namespace Hotspot

/-! ## The waste of one call -/

namespace PLAB

variable {HeapWordSize : Nat}

@[simp] theorem undo_allocation_wasted (p : PLAB) (obj word_sz : Nat) :
    (p.undo_allocation HeapWordSize obj word_sz).wasted = p.wasted := by
  unfold undo_allocation; split <;> rfl

/-- A successful padded allocation moves the frontier over the pad it records as waste and the
object it returns. -/
theorem allocate_aligned_eq_some_wasted {p q : PLAB} {word_sz alignment_in_bytes a : Nat}
    (h : p.allocate_aligned HeapWordSize word_sz alignment_in_bytes = (q, some a)) :
    q.top + p.wasted = p.top + q.wasted + word_sz * HeapWordSize := by
  have := le_align_up p.top alignment_in_bytes
  unfold allocate_aligned at h
  split at h
  · obtain ⟨-, htop, -, -, -, hw⟩ := allocate_eq_some h
    dsimp only at htop hw
    omega
  · cases h

/-- A failed padded allocation moves the frontier over the pad it records as waste, if any. -/
theorem allocate_aligned_eq_none_wasted {p q : PLAB} {word_sz alignment_in_bytes : Nat}
    (h : p.allocate_aligned HeapWordSize word_sz alignment_in_bytes = (q, none)) :
    q.top + p.wasted = p.top + q.wasted := by
  have := le_align_up p.top alignment_in_bytes
  unfold allocate_aligned at h
  split at h
  · rw [allocate_eq_none h]
    dsimp only
    omega
  · cases h; rfl

end PLAB

namespace G1PLAB

variable (HeapWordSize : Nat)

/-- The bytes of the live objects. -/
def liveBytes : List (Nat × Nat) → Nat
  | [] => 0
  | b :: live => b.2 + liveBytes live

@[simp] theorem liveBytes_nil : liveBytes [] = 0 := rfl

@[simp] theorem liveBytes_cons (b : Nat × Nat) (live : List (Nat × Nat)) :
    liveBytes (b :: live) = b.2 + liveBytes live := rfl

/-- The frontier of the buffer installed at `base`, when `w0` bytes of waste had been recorded
in the buffer and the sink together, lies past `base` by the live bytes and the waste recorded
since. -/
def Balanced (base w0 : Nat) (s : G1PLAB × PLABStats) (live : List (Nat × Nat)) : Prop :=
  s.1.top + w0 = base + liveBytes live + (s.1.wasted + s.2.wasted)

/-- The object an undo that keeps the contract takes back is the most recent live one. -/
theorem eq_cons_of_namesLast {live : List (Nat × Nat)} {obj word_sz : Nat}
    (h : NamesLast HeapWordSize live (.undo_allocation obj word_sz)) :
    live = (obj, word_sz * HeapWordSize) :: live.tail := by
  cases live with
  | nil => cases h
  | cons b rest => simp only [NamesLast, List.head?_cons, Option.some.injEq] at h; rw [h]; rfl

/-- **One call** other than `set_buf` keeps the balance: an allocation adds its object to the
live bytes and its pad to the waste, an undo that keeps the contract takes back exactly the
bytes it moves the frontier over, and retirement records the tail it gives up. -/
theorem balanced_step {base w0 : Nat} {s : G1PLAB × PLABStats} {live : List (Nat × Nat)}
    (h : Balanced base w0 s live) {op : G1PLABOp} (hop : NamesLast HeapWordSize live op)
    (hs : ∀ b, op ≠ .set_buf b) :
    Balanced base w0 (step HeapWordSize s op).1 (liveAfter HeapWordSize s live op) := by
  have hlim := s.1.top_le_limit
  unfold Balanced at h ⊢
  cases op with
  | set_buf buf => exact absurd rfl (hs buf)
  | retire =>
    simp only [step, retire, liveAfter]
    split
    · exact h
    · simp only [PLAB.retire, PLAB.invalidate, PLAB.remaining]; omega
  | flush_and_retire_stats =>
    simp only [step, flush_and_retire_stats, PLAB.flush_and_retire_stats, PLAB.invalidate,
      PLAB.remaining, liveAfter]
    omega
  | allocate word_sz =>
    simp only [liveAfter, step, allocate]
    rcases hq : s.1.toPLAB.allocate HeapWordSize word_sz with ⟨q, _ | a⟩
    · rw [PLAB.allocate_eq_none hq]; exact h
    · obtain ⟨-, htop, -, -, -, hw⟩ := PLAB.allocate_eq_some hq
      simp only [liveBytes_cons]
      omega
  | allocate_aligned word_sz alignment_in_bytes =>
    simp only [liveAfter, step, allocate_aligned]
    rcases hq : s.1.toPLAB.allocate_aligned HeapWordSize word_sz alignment_in_bytes with
      ⟨q, _ | a⟩
    · have := PLAB.allocate_aligned_eq_none_wasted hq
      dsimp only; omega
    · have := PLAB.allocate_aligned_eq_some_wasted hq
      simp only [liveBytes_cons]
      omega
  | undo_allocation obj word_sz =>
    simp only [liveAfter, step, undo_allocation, PLAB.undo_allocation_wasted,
      PLAB.undo_allocation_top]
    split
    · rename_i hc
      rw [eq_cons_of_namesLast HeapWordSize hop, liveBytes_cons] at h
      omega
    · exact h

/-- Along a run without `set_buf` in which every undo keeps the contract, the balance holds at
every step. -/
theorem balanced_run {base w0 : Nat} {s : G1PLAB × PLABStats} {live : List (Nat × Nat)}
    {ops : List G1PLABOp} (h : Balanced base w0 s live) (hu : UndoesLast HeapWordSize s live ops)
    (hs : ∀ op ∈ ops, ∀ b, op ≠ .set_buf b) :
    Balanced base w0 (run HeapWordSize s ops).1 (liveRun HeapWordSize s live ops) := by
  induction ops generalizing s live with
  | nil => exact h
  | cons op ops ih =>
    exact ih (balanced_step HeapWordSize h hu.1 (hs op (List.mem_cons_self _ _))) hu.2
      fun o ho => hs o (List.mem_cons_of_mem _ ho)

/-- No call but `set_buf` moves the end of the range. -/
theorem limit_run {s : G1PLAB × PLABStats} {ops : List G1PLABOp}
    (hs : ∀ op ∈ ops, ∀ b, op ≠ .set_buf b) :
    (run HeapWordSize s ops).1.1.limit = s.1.limit := by
  induction ops generalizing s with
  | nil => rfl
  | cons op ops ih =>
    rw [run_cons, ih fun o ho => hs o (List.mem_cons_of_mem _ ho)]
    have hop := hs op (List.mem_cons_self _ _)
    cases op with
    | set_buf buf => exact absurd rfl (hop buf)
    | retire => simp only [step, retire]; split <;> rfl
    | _ => simp [step, allocate, allocate_aligned, undo_allocation, flush_and_retire_stats,
        PLAB.flush_and_retire_stats, PLAB.invalidate]

/-- **Every byte is accounted for.**  Take a buffer installed by `set_buf buf`, and any run of
calls after it without another `set_buf`, in which every undo names the most recent live
object.  The frontier lies past `buf` by exactly the live bytes and the waste recorded since
the installation, in the buffer and in the sink together.  Once the buffer is retired or
flushed, the live bytes and that waste add up to exactly its capacity of `word_sz` words,
however often it was retired or flushed. -/
theorem live_bytes_add_waste (s : G1PLAB × PLABStats) (buf : Nat) (ops : List G1PLABOp)
    (hs : ∀ op ∈ ops, ∀ b, op ≠ .set_buf b)
    (hu : UndoesLast HeapWordSize s [] (.set_buf buf :: ops)) :
    (run HeapWordSize s (.set_buf buf :: ops)).1.1.top + (s.1.wasted + s.2.wasted) =
        buf + liveBytes (liveRun HeapWordSize s [] (.set_buf buf :: ops)) +
          ((run HeapWordSize s (.set_buf buf :: ops)).1.1.wasted +
            (run HeapWordSize s (.set_buf buf :: ops)).1.2.wasted) ∧
      ((run HeapWordSize s (.set_buf buf :: ops)).1.1.retired = true →
        liveBytes (liveRun HeapWordSize s [] (.set_buf buf :: ops)) +
          ((run HeapWordSize s (.set_buf buf :: ops)).1.1.wasted +
            (run HeapWordSize s (.set_buf buf :: ops)).1.2.wasted) =
        s.1.word_sz * HeapWordSize + (s.1.wasted + s.2.wasted)) := by
  have hbal : Balanced buf (s.1.wasted + s.2.wasted) (step HeapWordSize s (.set_buf buf)).1 [] := by
    simp [Balanced, step, set_buf, PLAB.set_buf]
  have h := balanced_run HeapWordSize hbal hu.2 hs
  refine ⟨h, fun hr => ?_⟩
  have hempty := retiredInvalidated_run HeapWordSize
    (show RetiredInvalidated (step HeapWordSize s (.set_buf buf)).1.1 from fun h' => by simp at h')
    ops hr
  have hlim : (run HeapWordSize (step HeapWordSize s (.set_buf buf)).1 ops).1.1.limit =
      buf + s.1.word_sz * HeapWordSize := limit_run HeapWordSize hs
  have hbt := (run HeapWordSize (step HeapWordSize s (.set_buf buf)).1 ops).1.1.bottom_le_top
  have htl := (run HeapWordSize (step HeapWordSize s (.set_buf buf)).1 ops).1.1.top_le_limit
  unfold Balanced at h
  simp only [run_cons, liveRun, liveAfter]
  omega

/-- A buffer of 64 words installed at 4096 serves two words, then three padded to 64 bytes and
handed back, then one word, and is retired and flushed.  Sixteen and eight bytes stay live, and
the 48-byte pad and the 440-byte tail go to the sink: 512 bytes, the capacity. -/
theorem live_bytes_add_waste_padded :
    let s : G1PLAB × PLABStats := (⟨⟨64, 0, 0, 0, 0, le_rfl, le_rfl⟩, true⟩, ⟨0⟩)
    let ops : List G1PLABOp := [.allocate 2, .allocate_aligned 3 64, .undo_allocation 4160 3,
      .allocate 1, .retire, .flush_and_retire_stats]
    liveBytes (liveRun 8 s [] (.set_buf 4096 :: ops)) = 24 ∧
      (run 8 s (.set_buf 4096 :: ops)).1.2.wasted = 488 ∧
      ((run 8 s (.set_buf 4096 :: ops)).1.1.retired = true →
        liveBytes (liveRun 8 s [] (.set_buf 4096 :: ops)) +
            ((run 8 s (.set_buf 4096 :: ops)).1.1.wasted +
              (run 8 s (.set_buf 4096 :: ops)).1.2.wasted) =
          s.1.word_sz * 8 + (s.1.wasted + s.2.wasted)) :=
  ⟨rfl, rfl, (live_bytes_add_waste 8 _ 4096 _ (by simp) (by decide)).2⟩

end G1PLAB

end Hotspot
