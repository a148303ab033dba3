import Hotspot.G1.PLAB
import Mathlib.Data.List.Count

/-!
# `G1PLAB`: every installed buffer is retired at most once

`G1PLAB` (`gc/g1/g1Allocator.hpp`) adds one flag to `PLAB`: `set_buf` clears `_retired`,
`retire` runs the base `PLAB::retire()` only while the flag is clear and then sets it,
`flush_and_retire_stats` sets it unconditionally, and the destructor checks it with
`guarantee`.  The inherited `allocate`, `allocate_aligned` and `undo_allocation` never read
it.

The methods below return, beside the new buffer, the calls they make into the base class,
with their arguments.  Replaying that log on the base buffer gives exactly the base buffer a run
leaves (`base_run`), so the log is the history of the base class and counts how often
`PLAB::retire()` ran on it.  Splitting a run at its `set_buf` calls, each installed buffer sees
the base retirement exactly once when a `retire()` comes before any flush, and never
otherwise; and the destructor's check passes exactly when the last installed buffer was
retired or flushed.

## Main definitions

* `G1PLAB`: a `PLAB` with `retired`, and its methods `set_buf`, `retire`,
  `flush_and_retire_stats` and `destroy` (the destructor)
* `PLABCall.apply`, `PLABCall.replay`: what the base calls do, one by one and as a log
* `G1PLABOp`, `G1PLAB.step`, `G1PLAB.run`: calls on one buffer and their runs
* `RetiresBeforeFlush I`: a `retire()` of `I` with no flush before it

## Main results

* `G1PLAB.base_run`: the base buffer a run leaves is the replay of the run's log
* `G1PLAB.retire_calls_of_retired`, `G1PLAB.retire_calls_of_live`: the base retirements
  of a run without `set_buf`, from a retired and from a live buffer
* `G1PLAB.retired_run_iff`: the flag after such a run
* `G1PLAB.retire_once_per_set_buf`: the law over whole runs
* `G1PLAB.retired_allocate_eq_none`: a retired buffer serves no allocation
-/

namespace Hotspot

/-- The calls a `G1PLAB` makes into its base class `PLAB`, with their arguments. -/
inductive PLABCall
  | set_buf (buf : Nat)
  | retire
  | flush_and_retire_stats
  | allocate (word_sz : Nat)
  | allocate_aligned (word_sz alignment_in_bytes : Nat)
  | undo_allocation (obj word_sz : Nat)
  deriving DecidableEq, Repr

namespace PLABCall

variable (HeapWordSize : Nat)

/-- What a base call does to the buffer and to the statistics sink it flushes into. -/
def apply : PLABCall → PLAB × PLABStats → PLAB × PLABStats
  | .set_buf buf, s => (s.1.set_buf HeapWordSize buf, s.2)
  | .retire, s => (s.1.retire, s.2)
  | .flush_and_retire_stats, s => s.1.flush_and_retire_stats s.2
  | .allocate word_sz, s => ((s.1.allocate HeapWordSize word_sz).1, s.2)
  | .allocate_aligned word_sz alignment_in_bytes, s =>
    ((s.1.allocate_aligned HeapWordSize word_sz alignment_in_bytes).1, s.2)
  | .undo_allocation obj word_sz, s => (s.1.undo_allocation HeapWordSize obj word_sz, s.2)

/-- The base calls of a log, made one after another. -/
def replay (calls : List PLABCall) (s : PLAB × PLABStats) : PLAB × PLABStats :=
  calls.foldl (fun s c => c.apply HeapWordSize s) s

theorem replay_append (xs ys : List PLABCall) (s : PLAB × PLABStats) :
    replay HeapWordSize (xs ++ ys) s = replay HeapWordSize ys (replay HeapWordSize xs s) :=
  List.foldl_append _ _ _ _

end PLABCall

/-- `G1PLAB`: a `PLAB` with the flag `_retired`. -/
structure G1PLAB extends PLAB where
  retired : Bool
  deriving DecidableEq

/-- The calls a collector thread makes on one `G1PLAB`. -/
inductive G1PLABOp
  | set_buf (buf : Nat)
  | retire
  | flush_and_retire_stats
  | allocate (word_sz : Nat)
  | allocate_aligned (word_sz alignment_in_bytes : Nat)
  | undo_allocation (obj word_sz : Nat)
  deriving DecidableEq, Repr

/-- The calls that leave the buffer retired. -/
def G1PLABOp.Retires (op : G1PLABOp) : Prop :=
  op = .retire ∨ op = .flush_and_retire_stats

/-- A `retire()` call of `I` that no `flush_and_retire_stats` call of `I` precedes. -/
def RetiresBeforeFlush (I : List G1PLABOp) : Prop :=
  ∃ I₁ I₂, I = I₁ ++ G1PLABOp.retire :: I₂ ∧ G1PLABOp.flush_and_retire_stats ∉ I₁

theorem not_retiresBeforeFlush_nil : ¬ RetiresBeforeFlush [] := by
  rintro ⟨I₁, I₂, h, -⟩
  simp at h

theorem retiresBeforeFlush_retire (I : List G1PLABOp) : RetiresBeforeFlush (.retire :: I) :=
  ⟨[], I, rfl, by simp⟩

theorem not_retiresBeforeFlush_flush (I : List G1PLABOp) :
    ¬ RetiresBeforeFlush (.flush_and_retire_stats :: I) := by
  rintro ⟨_ | ⟨op, I₁⟩, I₂, h, hf⟩ <;> simp at h
  exact hf (h.1 ▸ List.mem_cons_self _ _)

/-- A call that is neither a retirement nor a flush does not decide the predicate. -/
theorem retiresBeforeFlush_cons {op : G1PLABOp} (hr : op ≠ .retire)
    (hf : op ≠ .flush_and_retire_stats) (I : List G1PLABOp) :
    RetiresBeforeFlush (op :: I) ↔ RetiresBeforeFlush I := by
  constructor
  · rintro ⟨_ | ⟨op', I₁⟩, I₂, h, hI₁⟩
    · exact absurd (List.cons.inj h).1 hr
    · obtain ⟨rfl, rfl⟩ := List.cons.inj h
      exact ⟨I₁, I₂, rfl, fun hm => hI₁ (List.mem_cons_of_mem _ hm)⟩
  · rintro ⟨I₁, I₂, rfl, hI₁⟩
    exact ⟨op :: I₁, I₂, rfl, by simp [hI₁, Ne.symm hf]⟩

namespace G1PLAB

variable (HeapWordSize : Nat)

/-- `G1PLAB::set_buf`: install a new buffer, not retired yet. -/
def set_buf (p : G1PLAB) (buf : Nat) : G1PLAB × List PLABCall :=
  ({ toPLAB := p.toPLAB.set_buf HeapWordSize buf, retired := false }, [.set_buf buf])

/-- `G1PLAB::retire`: the base retirement runs only on a buffer not retired yet. -/
def retire (p : G1PLAB) : G1PLAB × List PLABCall :=
  if p.retired then (p, [])
  else ({ toPLAB := p.toPLAB.retire, retired := true }, [.retire])

/-- `G1PLAB::flush_and_retire_stats`: flush through the base class, then mark the buffer
retired. -/
def flush_and_retire_stats (p : G1PLAB) (stats : PLABStats) :
    (G1PLAB × PLABStats) × List PLABCall :=
  let r := p.toPLAB.flush_and_retire_stats stats
  (({ toPLAB := r.1, retired := true }, r.2), [.flush_and_retire_stats])

/-- `G1PLAB::~G1PLAB`: `guarantee(_retired, ...)`. -/
def destroy (p : G1PLAB) : Except String Unit :=
  if p.retired then .ok () else .error "Allocation buffer has not been retired"

/-- The inherited `PLAB::allocate`. -/
def allocate (p : G1PLAB) (word_sz : Nat) : G1PLAB × Option Nat :=
  (⟨(p.toPLAB.allocate HeapWordSize word_sz).1, p.retired⟩,
    (p.toPLAB.allocate HeapWordSize word_sz).2)

/-- The inherited `PLAB::allocate_aligned`. -/
def allocate_aligned (p : G1PLAB) (word_sz alignment_in_bytes : Nat) : G1PLAB × Option Nat :=
  (⟨(p.toPLAB.allocate_aligned HeapWordSize word_sz alignment_in_bytes).1, p.retired⟩,
    (p.toPLAB.allocate_aligned HeapWordSize word_sz alignment_in_bytes).2)

/-- The inherited `PLAB::undo_allocation`. -/
def undo_allocation (p : G1PLAB) (obj word_sz : Nat) : G1PLAB :=
  ⟨p.toPLAB.undo_allocation HeapWordSize obj word_sz, p.retired⟩

/-- One call on the buffer and the statistics sink it flushes into, with the base calls it
makes.  The inherited calls are the base calls themselves. -/
def step (s : G1PLAB × PLABStats) : G1PLABOp → (G1PLAB × PLABStats) × List PLABCall
  | .set_buf buf => (((s.1.set_buf HeapWordSize buf).1, s.2), (s.1.set_buf HeapWordSize buf).2)
  | .retire => ((s.1.retire.1, s.2), s.1.retire.2)
  | .flush_and_retire_stats => s.1.flush_and_retire_stats s.2
  | .allocate word_sz => (((s.1.allocate HeapWordSize word_sz).1, s.2), [.allocate word_sz])
  | .allocate_aligned word_sz alignment_in_bytes =>
    (((s.1.allocate_aligned HeapWordSize word_sz alignment_in_bytes).1, s.2),
      [.allocate_aligned word_sz alignment_in_bytes])
  | .undo_allocation obj word_sz =>
    ((s.1.undo_allocation HeapWordSize obj word_sz, s.2), [.undo_allocation obj word_sz])

/-- A run of calls: the final state and, call by call, the base calls made. -/
def run (s : G1PLAB × PLABStats) : List G1PLABOp → (G1PLAB × PLABStats) × List (List PLABCall)
  | [] => (s, [])
  | op :: ops =>
    let t := run (step HeapWordSize s op).1 ops
    (t.1, (step HeapWordSize s op).2 :: t.2)

@[simp] theorem run_nil (s : G1PLAB × PLABStats) : run HeapWordSize s [] = (s, []) := rfl

@[simp] theorem run_cons (s : G1PLAB × PLABStats) (op : G1PLABOp) (ops : List G1PLABOp) :
    run HeapWordSize s (op :: ops) =
      ((run HeapWordSize (step HeapWordSize s op).1 ops).1,
        (step HeapWordSize s op).2 :: (run HeapWordSize (step HeapWordSize s op).1 ops).2) := rfl

/-- A run over a concatenation is the run of the first part followed by the run of the second
from where the first stopped. -/
theorem run_append (s : G1PLAB × PLABStats) (xs ys : List G1PLABOp) :
    run HeapWordSize s (xs ++ ys) =
      ((run HeapWordSize (run HeapWordSize s xs).1 ys).1,
        (run HeapWordSize s xs).2 ++ (run HeapWordSize (run HeapWordSize s xs).1 ys).2) := by
  induction xs generalizing s with
  | nil => rfl
  | cons op xs ih => simp [ih]

theorem length_run (s : G1PLAB × PLABStats) (ops : List G1PLABOp) :
    (run HeapWordSize s ops).2.length = ops.length := by
  induction ops generalizing s <;> simp [*]

theorem destroy_eq_ok (p : G1PLAB) : p.destroy = .ok () ↔ p.retired = true := by
  unfold destroy; split <;> simp [*]

/-! ## The log is the history of the base class -/

/-- The base-class part of the buffer, with the statistics sink. -/
def base (s : G1PLAB × PLABStats) : PLAB × PLABStats := (s.1.toPLAB, s.2)

/-- The base calls that the calls at positions `i` to `i + n - 1` of a run make, in order. -/
def baseCalls (s : G1PLAB × PLABStats) (ops : List G1PLABOp) (i n : Nat) : List PLABCall :=
  (((run HeapWordSize s ops).2.drop i).take n).flatten

/-- One call changes the base buffer and the sink by exactly the base calls it records. -/
theorem base_step (s : G1PLAB × PLABStats) (op : G1PLABOp) :
    base (step HeapWordSize s op).1 =
      PLABCall.replay HeapWordSize (step HeapWordSize s op).2 (base s) := by
  cases op with
  | retire => simp only [step, retire]; split <;> rfl
  | _ => rfl

/-- **The log is the base class's history**: the base buffer and the sink a run leaves are
what the base calls it records make of them, in order. -/
theorem base_run (s : G1PLAB × PLABStats) (ops : List G1PLABOp) :
    base (run HeapWordSize s ops).1 =
      PLABCall.replay HeapWordSize (run HeapWordSize s ops).2.flatten (base s) := by
  induction ops generalizing s with
  | nil => rfl
  | cons op ops ih =>
    simp only [run_cons, List.flatten_cons, PLABCall.replay_append]
    rw [ih, base_step]

/-! ## The inherited allocation path -/

@[simp] theorem allocate_retired (p : G1PLAB) (word_sz : Nat) :
    (p.allocate HeapWordSize word_sz).1.retired = p.retired := rfl

@[simp] theorem allocate_aligned_retired (p : G1PLAB) (word_sz alignment_in_bytes : Nat) :
    (p.allocate_aligned HeapWordSize word_sz alignment_in_bytes).1.retired = p.retired := rfl

@[simp] theorem undo_allocation_retired (p : G1PLAB) (obj word_sz : Nat) :
    (p.undo_allocation HeapWordSize obj word_sz).retired = p.retired := rfl

theorem allocate_eq_some_iff {p q : G1PLAB} {word_sz a : Nat} :
    p.allocate HeapWordSize word_sz = (q, some a) ↔
      p.toPLAB.allocate HeapWordSize word_sz = (q.toPLAB, some a) ∧ q.retired = p.retired := by
  obtain ⟨q, r⟩ := q
  simp only [allocate, Prod.mk.injEq, G1PLAB.mk.injEq, Prod.ext_iff]
  tauto

/-- Undoing the allocation just made gives back the buffer it was made from. -/
theorem undo_allocation_allocate {p q : G1PLAB} {word_sz a : Nat}
    (h : p.allocate HeapWordSize word_sz = (q, some a)) :
    q.undo_allocation HeapWordSize a word_sz = p := by
  obtain ⟨h, hr⟩ := (allocate_eq_some_iff HeapWordSize).1 h
  simp only [undo_allocation, PLAB.undo_allocation_allocate h, hr]

/-- On the padded path, an undone allocation is served again at the same address and leaves
the buffer as the first allocation did. -/
theorem undo_allocation_allocate_aligned {p q : G1PLAB} {word_sz alignment_in_bytes a : Nat}
    (hk : 0 < alignment_in_bytes)
    (h : p.allocate_aligned HeapWordSize word_sz alignment_in_bytes = (q, some a)) :
    (q.undo_allocation HeapWordSize a word_sz).allocate_aligned HeapWordSize word_sz
      alignment_in_bytes = (q, some a) := by
  obtain ⟨q, r⟩ := q
  simp only [allocate_aligned, Prod.mk.injEq, G1PLAB.mk.injEq, Prod.ext_iff] at h
  obtain ⟨⟨h1, rfl⟩, h2⟩ := h
  have hp : p.toPLAB.allocate_aligned HeapWordSize word_sz alignment_in_bytes = (q, some a) :=
    Prod.ext h1 h2
  simp [allocate_aligned, undo_allocation, PLAB.undo_allocation_allocate_aligned hk hp]

/-- On an aligned frontier the inherited padded path is the plain one. -/
theorem allocate_aligned_of_dvd {p : G1PLAB} {alignment_in_bytes : Nat} (word_sz : Nat)
    (h : alignment_in_bytes ∣ p.top) :
    p.allocate_aligned HeapWordSize word_sz alignment_in_bytes = p.allocate HeapWordSize word_sz := by
  simp only [allocate_aligned, allocate, PLAB.allocate_aligned_of_dvd word_sz h]

/-! ## What one call does to the flag -/

@[simp] theorem step_set_buf_retired (s : G1PLAB × PLABStats) (buf : Nat) :
    (step HeapWordSize s (.set_buf buf)).1.1.retired = false := rfl

@[simp] theorem step_set_buf_calls (s : G1PLAB × PLABStats) (buf : Nat) :
    (step HeapWordSize s (.set_buf buf)).2 = [.set_buf buf] := rfl

@[simp] theorem step_flush_retired (s : G1PLAB × PLABStats) :
    (step HeapWordSize s .flush_and_retire_stats).1.1.retired = true := rfl

@[simp] theorem step_flush_calls (s : G1PLAB × PLABStats) :
    (step HeapWordSize s .flush_and_retire_stats).2 = [.flush_and_retire_stats] := rfl

/-- `retire()` on a retired buffer does nothing. -/
theorem step_retire_of_retired {s : G1PLAB × PLABStats} (hs : s.1.retired = true) :
    step HeapWordSize s .retire = (s, []) := by
  simp [step, retire, hs]

/-- `retire()` on a live buffer runs the base retirement and sets the flag. -/
theorem step_retire_of_live {s : G1PLAB × PLABStats} (hs : s.1.retired = false) :
    (step HeapWordSize s .retire).1.1.retired = true ∧
      (step HeapWordSize s .retire).2 = [.retire] := by
  simp [step, retire, hs]

/-- A call other than `set_buf`, `retire` and a flush keeps the flag and never reaches the base
retirement. -/
theorem step_of_not_retires (s : G1PLAB × PLABStats) {op : G1PLABOp}
    (hs : ∀ b, op ≠ .set_buf b) (hr : op ≠ .retire) (hf : op ≠ .flush_and_retire_stats) :
    (step HeapWordSize s op).1.1.retired = s.1.retired ∧
      (step HeapWordSize s op).2.count .retire = 0 := by
  cases op <;> simp_all [step]

/-! ## Runs between two `set_buf` calls -/

/-- From a retired buffer, a run without `set_buf` never reaches the base retirement, and the
buffer stays retired. -/
theorem retire_calls_of_retired {s : G1PLAB × PLABStats} (hs : s.1.retired = true)
    {I : List G1PLABOp} (hI : ∀ op ∈ I, ∀ b, op ≠ .set_buf b) :
    (run HeapWordSize s I).2.flatten.count .retire = 0 ∧
      (run HeapWordSize s I).1.1.retired = true := by
  induction I generalizing s with
  | nil => exact ⟨rfl, hs⟩
  | cons op I ih =>
    have hI' := fun o ho => hI o (List.mem_cons_of_mem op ho)
    have hop := hI op (List.mem_cons_self op I)
    by_cases hr : op = .retire
    · subst hr
      simpa [step_retire_of_retired HeapWordSize hs] using ih hs hI'
    by_cases hf : op = .flush_and_retire_stats
    · subst hf
      simpa using ih (step_flush_retired HeapWordSize s) hI'
    · obtain ⟨hret, hcnt⟩ := step_of_not_retires HeapWordSize s hop hr hf
      simpa [hcnt] using ih (hret.trans hs) hI'

/-- **From a live buffer**, a run without `set_buf` reaches the base retirement exactly once if
a `retire()` comes before any flush, and never otherwise. -/
theorem retire_calls_of_live {s : G1PLAB × PLABStats} (hs : s.1.retired = false)
    {I : List G1PLABOp} (hI : ∀ op ∈ I, ∀ b, op ≠ .set_buf b) :
    (RetiresBeforeFlush I → (run HeapWordSize s I).2.flatten.count .retire = 1) ∧
      (¬ RetiresBeforeFlush I → (run HeapWordSize s I).2.flatten.count .retire = 0) := by
  induction I generalizing s with
  | nil => exact ⟨fun h => absurd h not_retiresBeforeFlush_nil, fun _ => rfl⟩
  | cons op I ih =>
    have hI' := fun o ho => hI o (List.mem_cons_of_mem op ho)
    have hop := hI op (List.mem_cons_self op I)
    by_cases hr : op = .retire
    · subst hr
      obtain ⟨hret, hcalls⟩ := step_retire_of_live HeapWordSize hs
      refine ⟨fun _ => ?_, fun h => absurd (retiresBeforeFlush_retire I) h⟩
      simpa [hcalls] using (retire_calls_of_retired HeapWordSize hret hI').1
    by_cases hf : op = .flush_and_retire_stats
    · subst hf
      exact ⟨fun h => absurd h (not_retiresBeforeFlush_flush I),
        fun _ => by
          simpa using (retire_calls_of_retired HeapWordSize (step_flush_retired HeapWordSize s) hI').1⟩
    · obtain ⟨hret, hcnt⟩ := step_of_not_retires HeapWordSize s hop hr hf
      rw [retiresBeforeFlush_cons hr hf]
      simpa [hcnt] using ih (hret.trans hs) hI'

/-- After a run without `set_buf` the buffer is retired exactly when it was before or the run
retired or flushed it. -/
theorem retired_run_iff (s : G1PLAB × PLABStats) {I : List G1PLABOp}
    (hI : ∀ op ∈ I, ∀ b, op ≠ .set_buf b) :
    (run HeapWordSize s I).1.1.retired = true ↔ s.1.retired = true ∨ ∃ op ∈ I, op.Retires := by
  induction I generalizing s with
  | nil => simp
  | cons op I ih =>
    have hI' := fun o ho => hI o (List.mem_cons_of_mem op ho)
    have hop := hI op (List.mem_cons_self op I)
    rw [run_cons, ih _ hI']
    cases op with
    | set_buf b => exact absurd rfl (hop b)
    | retire => cases h : s.1.retired <;> simp [step, retire, h, G1PLABOp.Retires]
    | flush_and_retire_stats => simp [step, flush_and_retire_stats, G1PLABOp.Retires]
    | _ => simp [step, G1PLABOp.Retires]

/-- **Each installed buffer is retired once.**  In any run on one `G1PLAB`, take a `set_buf`
call and the calls `I` after it up to the next `set_buf` (or any shorter stretch).  Over these
calls the base buffer and the sink go through exactly the base calls the calls record, and
among them `PLAB::retire()` runs exactly once if `I` has a `retire()` that no flush precedes,
and not at all otherwise.  When no `set_buf` follows, the destructor's `guarantee` passes
exactly when `I` retires or flushes the buffer. -/
theorem retire_once_per_set_buf (s : G1PLAB × PLABStats) (pre I post : List G1PLABOp)
    (buf : Nat) (hI : ∀ op ∈ I, ∀ b, op ≠ .set_buf b) :
    base (run HeapWordSize s (pre ++ .set_buf buf :: I)).1 =
        PLABCall.replay HeapWordSize
          (baseCalls HeapWordSize s (pre ++ .set_buf buf :: I ++ post) pre.length (I.length + 1))
          (base (run HeapWordSize s pre).1) ∧
    (RetiresBeforeFlush I →
      (baseCalls HeapWordSize s (pre ++ .set_buf buf :: I ++ post) pre.length
        (I.length + 1)).count .retire = 1) ∧
    (¬ RetiresBeforeFlush I →
      (baseCalls HeapWordSize s (pre ++ .set_buf buf :: I ++ post) pre.length
        (I.length + 1)).count .retire = 0) ∧
    ((run HeapWordSize s (pre ++ .set_buf buf :: I)).1.1.destroy = .ok () ↔
      ∃ op ∈ I, op.Retires) := by
  have hlogs : baseCalls HeapWordSize s (pre ++ .set_buf buf :: I ++ post) pre.length
      (I.length + 1) = (run HeapWordSize (run HeapWordSize s pre).1 (.set_buf buf :: I)).2.flatten := by
    rw [baseCalls, List.append_assoc, run_append, run_append, List.drop_left' (length_run _ _ _),
      List.take_left' (by rw [length_run]; rfl)]
  have hlive : (step HeapWordSize (run HeapWordSize s pre).1 (.set_buf buf)).1.1.retired = false :=
    rfl
  have hcalls := retire_calls_of_live HeapWordSize hlive hI
  refine ⟨by rw [hlogs, run_append, base_run], fun h => ?_, fun h => ?_, ?_⟩
  · rw [hlogs]; simpa using hcalls.1 h
  · rw [hlogs]; simpa using hcalls.2 h
  · rw [run_append, run_cons, destroy_eq_ok, retired_run_iff HeapWordSize _ hI, hlive]
    simp

/-- The law at a buffer installed at 4096, retired twice and then flushed: the base retirement
runs once and the destructor's check passes. -/
theorem retire_once_per_set_buf_twice :
    (baseCalls 8 ((⟨⟨64, 0, 0, 0, 0, le_rfl, le_rfl⟩, true⟩ : G1PLAB), ⟨0⟩)
        [.set_buf 4096, .retire, .retire, .flush_and_retire_stats] 0 4).count .retire = 1 ∧
      (run 8 ((⟨⟨64, 0, 0, 0, 0, le_rfl, le_rfl⟩, true⟩ : G1PLAB), ⟨0⟩)
        [.set_buf 4096, .retire, .retire, .flush_and_retire_stats]).1.1.destroy = .ok () := by
  have h := retire_once_per_set_buf 8 ((⟨⟨64, 0, 0, 0, 0, le_rfl, le_rfl⟩, true⟩ : G1PLAB), ⟨0⟩)
    [] [.retire, .retire, .flush_and_retire_stats] [] 4096 (by simp)
  exact ⟨h.2.1 (retiresBeforeFlush_retire _), by simpa using h.2.2.2.2 ⟨.retire, by simp, .inl rfl⟩⟩

/-! ## A retired buffer hands out nothing

Retiring and flushing invalidate the buffer, shrinking its range to its end, and only
`set_buf`, which clears the flag, gives it a range again.  So along any run from a state where
it holds, a retired buffer has an empty range and serves no allocation of a positive size until
it is installed again. -/

/-- A retired buffer's range is empty, at its end. -/
def RetiredInvalidated (p : G1PLAB) : Prop := p.retired = true → p.bottom = p.limit

theorem retiredInvalidated_step {s : G1PLAB × PLABStats} (h : RetiredInvalidated s.1)
    (op : G1PLABOp) : RetiredInvalidated (step HeapWordSize s op).1.1 := by
  cases op with
  | set_buf buf => intro h'; simp at h'
  | retire =>
    cases hs : s.1.retired
    · intro _; simp [step, retire, hs, PLAB.retire, PLAB.invalidate]
    · rw [step_retire_of_retired HeapWordSize hs]; exact h
  | flush_and_retire_stats => intro _; rfl
  | _ => simpa [step, RetiredInvalidated, allocate, allocate_aligned, undo_allocation] using h

theorem retiredInvalidated_run {s : G1PLAB × PLABStats} (h : RetiredInvalidated s.1)
    (ops : List G1PLABOp) : RetiredInvalidated (run HeapWordSize s ops).1.1 := by
  induction ops generalizing s with
  | nil => exact h
  | cons op ops ih => exact ih (retiredInvalidated_step HeapWordSize h op)

/-- **A retired buffer hands out nothing**: along any run from a state where a retired buffer
has an empty range, whenever the buffer is retired no allocation of a positive size succeeds,
plain or padded. -/
theorem retired_allocate_eq_none (s : G1PLAB × PLABStats) (hs : RetiredInvalidated s.1)
    (ops : List G1PLABOp) (hr : (run HeapWordSize s ops).1.1.retired = true)
    (word_sz alignment_in_bytes : Nat) (hw : 0 < word_sz * HeapWordSize) :
    ((run HeapWordSize s ops).1.1.allocate HeapWordSize word_sz).2 = none ∧
      ((run HeapWordSize s ops).1.1.allocate_aligned HeapWordSize word_sz
        alignment_in_bytes).2 = none := by
  have he := retiredInvalidated_run HeapWordSize hs ops hr
  exact ⟨PLAB.allocate_eq_none_of_empty he hw, PLAB.allocate_aligned_eq_none_of_empty he _ hw⟩

/-- A buffer installed at 4096, bumped, retired and handed an undo that it rejects: it serves
neither a plain nor a padded allocation of two words. -/
theorem retired_allocate_eq_none_after_retire :
    let s := run 8 ((⟨⟨64, 0, 0, 0, 0, le_rfl, le_rfl⟩, true⟩ : G1PLAB), ⟨0⟩)
      [.set_buf 4096, .allocate 2, .retire, .undo_allocation 4096 2]
    (s.1.1.allocate 8 2).2 = none ∧ (s.1.1.allocate_aligned 8 2 16).2 = none :=
  retired_allocate_eq_none 8 _ (fun _ => rfl) _ (by rfl) 2 16 (by decide)

end G1PLAB

end Hotspot
