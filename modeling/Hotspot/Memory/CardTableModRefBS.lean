import Mathlib.Logic.Function.Basic

/-!
# The card-marking post-write barrier

`CardTableModRefBS::inline_write_ref_field` (`memory/cardTableModRefBS.inline.hpp`) runs after
a reference has been stored into `field`.  It dirties the card of the card table that covers
`field`, with a releasing store when asked to.  The collector later scans only dirty cards for
references into the young generation, so a card the barrier missed would hide a reference, and
a card it dirtied elsewhere would only cost a scan.

`byte_for` and `dirty_card` belong to `cardTableModRefBS.hpp`, which is not among the sources;
here they are parameters.  A releasing store is ordered after the stores before it.  This model
takes the view of one thread, which sees the same byte on both paths.

## Main definitions

* `OrderAccess.release_store`, `CardTableModRefBS.inline_write_ref_field`
* `CardTableModRefBS.RefWrite`, `CardTableModRefBS.writeAll`: reference writes through the
  barrier, and their runs

## Main results

* `CardTableModRefBS.writeAll_apply`: after any run of writes the cards of the written fields,
  and only they, have changed, to `dirty_card`
-/

namespace Hotspot

/-- `OrderAccess::release_store(p, v)`, as one thread sees it: the store of `v` at `p`. -/
def OrderAccess.release_store (mem : Nat → Int8) (p : Nat) (v : Int8) : Nat → Int8 :=
  Function.update mem p v

namespace CardTableModRefBS

variable (byte_for : Nat → Nat) (dirty_card : Int8)

/-- `inline_write_ref_field(field, newVal, release)`: dirty the card of `field` in the card
table `byte_map`.  The value stored, `newVal`, is not read. -/
def inline_write_ref_field {oop : Type} (byte_map : Nat → Int8) (field : Nat) (_newVal : oop)
    (release : Bool) : Nat → Int8 :=
  let byte := byte_for field
  if release then OrderAccess.release_store byte_map byte dirty_card
  else Function.update byte_map byte dirty_card

/-- A reference store that goes through the barrier: the field, the value and whether the
barrier releases. -/
structure RefWrite (oop : Type) where
  field : Nat
  newVal : oop
  release : Bool

/-- The card table after a run of reference stores through the barrier. -/
def writeAll {oop : Type} (byte_map : Nat → Int8) : List (RefWrite oop) → Nat → Int8
  | [] => byte_map
  | w :: ws =>
    writeAll (inline_write_ref_field byte_for dirty_card byte_map w.field w.newVal w.release) ws

/-- One barrier dirties the card of its field and leaves every other card. -/
theorem inline_write_ref_field_apply {oop : Type} (byte_map : Nat → Int8) (field : Nat)
    (newVal : oop) (release : Bool) (i : Nat) :
    inline_write_ref_field byte_for dirty_card byte_map field newVal release i =
      if i = byte_for field then dirty_card else byte_map i := by
  unfold inline_write_ref_field OrderAccess.release_store
  split <;> exact Function.update_apply _ _ _ _

/-- **The barrier marks exactly the written cards.**  After any run of reference stores through
`inline_write_ref_field`, releasing or not, the card of every field written holds `dirty_card`,
and every other card holds what it held before.  The values stored play no part. -/
theorem writeAll_apply {oop : Type} (byte_map : Nat → Int8) (ws : List (RefWrite oop))
    (i : Nat) :
    writeAll byte_for dirty_card byte_map ws i =
      if ∃ w ∈ ws, byte_for w.field = i then dirty_card else byte_map i := by
  induction ws generalizing byte_map with
  | nil => simp [writeAll]
  | cons w ws ih =>
    rw [writeAll, ih, inline_write_ref_field_apply]
    by_cases hw : i = byte_for w.field
    · simp [hw]
    · simp only [hw, if_false, List.mem_cons, exists_eq_or_imp, Ne.symm hw, false_or]

end CardTableModRefBS

end Hotspot
