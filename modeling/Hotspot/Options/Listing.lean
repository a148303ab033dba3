import Hotspot.Options.JVMOptionsUtils
import Mathlib.Data.List.Forall2

/-!
# What `getJVMOptions` reads from a well-formed listing

A line of the `-XX:+PrintFlagsRanges` listing is, token by token, `type name [ lo ... hi ]
o1 ... om` or `type name [ ... ] o1 ... om`, where `o1` opens the origin with `{` and some
`oi` closes it with `}`.  This module describes such lines independently of the parser
(`RangesLine`), and the map a listing of them should produce: `put(name, option)` folded over
the lines after the first whose range presence is the one asked for and whose origin is
accepted.

The parser decides whether a line has a range by its fourth token alone: a range whose lower
bound is itself `...` reads as no range, and its upper bound and `]` then become part of the
origin.  Away from that one token the parser produces exactly the expected map, including the
`NumberFormatException` the name dependency of `CMSPrecleanDenominator` throws on a lower bound
that is not an `int`.

## Main definitions

* `RangesLine`: a line of the listing, by its parts
* `expectedOptions`: the map the listing describes
* `RangesLine.render`, `renderListing`: a listing printed from its lines

## Main results

* `JVMOptionsUtils.parseOptionLine_of_tokens`: one line
* `JVMOptionsUtils.getJVMOptions_eq_expectedOptions`: a whole listing
* `JVMOptionsUtils.getJVMOptions_ellipsis_lower_bound_and_non_int_min`: a range with lower
  bound `...` is not read as a range, and a lower bound beyond `int` throws
* `JVMOptionsUtils.getJVMOptions_renderListing`: a printed listing reads back as the map it
  describes
-/

namespace Hotspot

/-! ## Lines of the listing -/

/-- A line of the listing by its parts: `type name [ lo ... hi ] o1 ... om` when `range` is
`some (lo, hi)`, `type name [ ... ] o1 ... om` when it is `none`; `origin` is `o1 ... om`. -/
structure RangesLine where
  type : String
  name : String
  range : Option (String × String)
  origin : List String

namespace RangesLine

/-- The whitespace-separated tokens of the line. -/
def tokens (l : RangesLine) : List String :=
  l.type :: l.name :: "[" ::
    ((match l.range with
      | some (lo, hi) => [lo, "...", hi]
      | none => ["..."]) ++ "]" :: l.origin)

/-- `o1 ... om` run together. -/
def originChars (l : RangesLine) : List Char := (l.origin.map String.data).flatten

/-- `o1` begins with `{`, and `o1 ... om` together hold a `}`. -/
def WellFormed (l : RangesLine) : Prop :=
  (∃ o os, l.origin = o :: os ∧ o.data.head? = some '{') ∧ '}' ∈ l.originChars

/-- The origin: `o1 ... om` run together, without everything from the first `}` on and
without the leading character. -/
def originText (l : RangesLine) : String :=
  String.mk ((l.originChars.takeWhile (· != '}')).drop 1)

/-- The origin of a well-formed line is what `substring(1, indexOf("}"))` cuts out of
`o1 ... om` run together. -/
theorem substring_origin {l : RangesLine} (hl : l.WellFormed) :
    Java.substring (String.mk l.originChars) 1 (Java.indexOf (String.mk l.originChars) '}') =
      .ok l.originText := by
  obtain ⟨⟨⟨_ | ⟨c, cs⟩⟩, os, ho, hbrace⟩, hmem⟩ := hl
  · simp at hbrace
  · obtain rfl : c = '{' := by simpa using hbrace
    have hchars : l.originChars = '{' :: (cs ++ (os.map String.data).flatten) := by
      simp [originChars, ho]
    rw [hchars] at hmem ⊢
    rw [Java.substring_indexOf_close ((List.mem_cons.1 hmem).resolve_left (by decide))]
    simp [originText, hchars]

/-- The option the line describes, before its name dependency: created with the line's type
and name, marked with the line's range when it has one, with the prepends of its origin. -/
def option (defaultRange : String → String × String) (l : RangesLine) : JVMOption :=
  let o := JVMOption.createVMOption defaultRange l.type l.name
  JVMOptionsUtils.addTypeDependency
    (match l.range with
      | some (lo, hi) => { o with withRange := true, min := lo, max := hi }
      | none => o)
    l.originText

@[simp] theorem option_name (defaultRange : String → String × String) (l : RangesLine) :
    (l.option defaultRange).name = l.name := by
  rcases l with ⟨_, _, _ | _, _⟩ <;>
    simp [option, JVMOptionsUtils.addTypeDependency, apply_ite JVMOption.name,
      JVMOption.createVMOption]

/-- The line is kept: its range presence is `withRanges` and its origin is accepted. -/
def Kept (withRanges : Bool) (acceptOrigin : String → Bool) (l : RangesLine) : Prop :=
  l.range.isSome = withRanges ∧ acceptOrigin l.originText = true

instance (withRanges : Bool) (acceptOrigin : String → Bool) (l : RangesLine) :
    Decidable (l.Kept withRanges acceptOrigin) :=
  inferInstanceAs (Decidable (_ ∧ _))

/-- The line printed with one space between its tokens. -/
def render (l : RangesLine) : String :=
  String.mk (List.intercalate [' '] (l.tokens.map String.data))

/-- Every token is a nonempty run of non-delimiters, so that the printed line reads back. -/
def Printable (l : RangesLine) : Prop :=
  ∀ t ∈ l.tokens, t.data ≠ [] ∧ ∀ c ∈ t.data, Java.isDelimiter c = false

instance (l : RangesLine) : Decidable l.Printable :=
  inferInstanceAs (Decidable (∀ t ∈ l.tokens, _))

/-- A printed line is not empty and holds no line terminator. -/
theorem render_line {l : RangesLine} (hp : l.Printable) :
    l.render.data ≠ [] ∧ ∀ c ∈ l.render.data, c ≠ '\n' ∧ c ≠ '\r' := by
  refine ⟨by simp [render, tokens, Java.intercalate_cons_cons], fun c hc => ?_⟩
  rcases Java.mem_intercalate hc with hc | ⟨x, hx, hc⟩
  · simp at hc; subst hc; decide
  · obtain ⟨t, ht, rfl⟩ := List.mem_map.1 hx
    have hd := (hp t ht).2 c hc
    constructor <;> rintro rfl <;> simp [Java.isDelimiter] at hd

end RangesLine

/-! ## The map a listing describes -/

/-- One line's part in the map: `put(name, option)` when the line is kept, with the prepends
of the option's name dependency after those of its origin. -/
def putExpected (defaultRange : String → String × String) (withRanges : Bool)
    (acceptOrigin : String → Bool) (m : LinkedHashMap String JVMOption) (l : RangesLine) :
    Except JavaException (LinkedHashMap String JVMOption) :=
  if l.Kept withRanges acceptOrigin then
    (JVMOptionsUtils.addNameDependency (l.option defaultRange)).map (m.put l.name)
  else pure m

/-- The map a listing describes: `putExpected` folded over its lines, in order. -/
def expectedOptions (defaultRange : String → String × String) (withRanges : Bool)
    (acceptOrigin : String → Bool) (ls : List RangesLine) :
    Except JavaException (LinkedHashMap String JVMOption) :=
  ls.foldlM (putExpected defaultRange withRanges acceptOrigin) LinkedHashMap.empty

/-- A listing printed: its header line, then its lines, with a line feed between lines. -/
def renderListing (header : String) (ls : List RangesLine) : String :=
  String.mk (List.intercalate ['\n'] ((header :: ls.map RangesLine.render).map String.data))

/-! ## What the parser reads

The loop body is taken line by line (`parseOptionLine_of_tokens`), the loop by induction over
the lines (`getJVMOptionsLoop_eq_foldlM`), and where the fold throws from where the name
dependency does (`foldlM_putExpected_isOk`). -/

namespace JVMOptionsUtils

variable (defaultRange : String → String × String) (withRanges : Bool)
  (acceptOrigin : String → Bool)

/-- **One line**: on a well-formed line whose lower bound is not `...`, the loop body puts the
option the line describes exactly when the line is kept. -/
theorem parseOptionLine_of_tokens {line : String} {l : RangesLine} (hl : l.WellFormed)
    (hlo : ∀ lo hi, l.range = some (lo, hi) → lo ≠ "...")
    (htok : Java.tokenize [] line.data = l.tokens) :
    parseOptionLine defaultRange withRanges acceptOrigin line =
      if l.Kept withRanges acceptOrigin then
        (addNameDependency (l.option defaultRange)).map fun o => some (l.name, o)
      else .ok none := by
  have hst : Java.StringTokenizer.new line = ⟨l.tokens⟩ := by rw [Java.StringTokenizer.new, htok]
  have horigin := RangesLine.substring_origin hl
  obtain ⟨⟨o, os, ho, -⟩, -⟩ := hl
  rcases l with ⟨type, name, _ | ⟨lo, hi⟩, origin⟩ <;> simp only at ho <;> subst ho <;>
    simp only [parseOptionLine, hst, RangesLine.tokens, RangesLine.originChars, hlo,
      appendRemainingTokens_eq, List.map_cons, List.flatten_cons, List.cons_append, List.nil_append,
      List.singleton_append, Java.StringTokenizer.nextToken_cons, Java.except_ok_bind,
      bind_pure_comp, pure_bind, bne_iff_ne, ne_eq, Bool.not_eq_eq_eq_not,
      Bool.not_true, ite_not, Option.some.injEq, Prod.mk.injEq, true_and, reduceIte, Char.isValue]
      at horigin ⊢ <;>
    cases withRanges <;>
    simp only [horigin, RangesLine.Kept, RangesLine.option, JVMOption.optionWithRange,
      JVMOption.setMin, JVMOption.setMax, Java.except_ok_bind, Option.isSome_none,
      Option.isSome_some, Bool.false_eq_true, Bool.true_eq_false, true_and, false_and,
      reduceIte, Char.isValue] <;> rfl

/-- **The loop**: over lines that read as well-formed `RangesLine`s without a `...` lower bound,
the `while` loop of `getJVMOptions` is the fold of `putExpected`. -/
theorem getJVMOptionsLoop_eq_foldlM {lines : List String} {ls : List RangesLine}
    (hl : ∀ l ∈ ls, l.WellFormed) (hlo : ∀ l ∈ ls, ∀ lo hi, l.range = some (lo, hi) → lo ≠ "...")
    (htok : List.Forall₂ (fun line l => Java.tokenize [] line.data = l.tokens) lines ls)
    (m : LinkedHashMap String JVMOption) :
    getJVMOptionsLoop defaultRange withRanges acceptOrigin m lines =
      ls.foldlM (putExpected defaultRange withRanges acceptOrigin) m := by
  induction htok generalizing m with
  | nil => rfl
  | @cons line l lines ls hline _ ih =>
    have ih' := ih (fun l' h => hl l' (.tail _ h)) (fun l' h => hlo l' (.tail _ h))
    rw [List.foldlM_cons, getJVMOptionsLoop,
      parseOptionLine_of_tokens defaultRange withRanges acceptOrigin (hl l (.head _))
        (hlo l (.head _)) hline, putExpected]
    split_ifs
    · cases addNameDependency (l.option defaultRange) <;> simp [Except.map, ih']
    · simp [ih']

/-- The fold throws exactly when the name dependency of a kept line throws. -/
theorem foldlM_putExpected_isOk (ls : List RangesLine) (m : LinkedHashMap String JVMOption) :
    (∃ m', ls.foldlM (putExpected defaultRange withRanges acceptOrigin) m = .ok m') ↔
      ∀ l ∈ ls, l.Kept withRanges acceptOrigin →
        ∃ o, addNameDependency (l.option defaultRange) = .ok o := by
  induction ls generalizing m with
  | nil => exact ⟨fun _ _ h => absurd h (List.not_mem_nil _), fun _ => ⟨m, rfl⟩⟩
  | cons l ls ih =>
    rw [List.foldlM_cons, putExpected]
    split_ifs with hk
    · cases h : addNameDependency (l.option defaultRange) <;> simp [Except.map, h, hk, ih]
    · simp [hk, ih]

/-- **A whole listing**: when every line after the first reads as a well-formed `RangesLine`
whose lower bound is not `...`, `getJVMOptions` returns the map the listing describes, and it
throws exactly when a kept `CMSPrecleanDenominator` line carries a lower bound that is not an
`int`. -/
theorem getJVMOptions_eq_expectedOptions (input : String) (ls : List RangesLine)
    (hl : ∀ l ∈ ls, l.WellFormed) (hlo : ∀ l ∈ ls, ∀ lo hi, l.range = some (lo, hi) → lo ≠ "...")
    (htok : List.Forall₂ (fun line l => Java.tokenize [] line.data = l.tokens)
      (Java.readLines [] input.data).tail ls) :
    getJVMOptions defaultRange input withRanges acceptOrigin =
        expectedOptions defaultRange withRanges acceptOrigin ls ∧
      ((∃ m, getJVMOptions defaultRange input withRanges acceptOrigin = .ok m) ↔
        ∀ l ∈ ls, l.Kept withRanges acceptOrigin → l.name = "CMSPrecleanDenominator" →
          ∃ v, Java.parseInt (l.option defaultRange).min = .ok v) := by
  have heq : getJVMOptions defaultRange input withRanges acceptOrigin =
      expectedOptions defaultRange withRanges acceptOrigin ls :=
    getJVMOptionsLoop_eq_foldlM defaultRange withRanges acceptOrigin hl hlo htok _
  refine ⟨heq, ?_⟩
  rw [heq, expectedOptions, foldlM_putExpected_isOk]
  simp only [addNameDependency_isOk, RangesLine.option_name]

/-- A listing with a ranged `CMSPrecleanDenominator` whose lower bound is the Arabic-Indic digit
one, which `new Integer` reads as 1, a compiler option whose origin is split over two tokens,
and an option without a range, which is skipped. -/
theorem getJVMOptions_cms_listing :
    getJVMOptions (fun _ => ("0", "0"))
        ("Ranges:\n" ++
          "uintx CMSPrecleanDenominator [ ١ ... 100 ] \x7bproduct\x7d\n" ++
          "intx Tier3InvocationThreshold [ 0 ... 2147483647 ] \x7bC1 product\x7d\n" ++
          "bool UseG1GC [ ... ] \x7bproduct\x7d")
        true (fun o => Java.contains o "product") =
      .ok ⟨[("CMSPrecleanDenominator", ⟨"uintx", "CMSPrecleanDenominator", true, "١", "100",
          ["-XX:+UseConcMarkSweepGC", "-XX:CMSPrecleanNumerator=0"]⟩),
        ("Tier3InvocationThreshold", ⟨"intx", "Tier3InvocationThreshold", true, "0",
          "2147483647", ["-Xcomp"]⟩)]⟩ :=
  (getJVMOptions_eq_expectedOptions _ _ _ _
    [⟨"uintx", "CMSPrecleanDenominator", some ("١", "100"), ["\x7bproduct\x7d"]⟩,
     ⟨"intx", "Tier3InvocationThreshold", some ("0", "2147483647"), ["\x7bC1", "product\x7d"]⟩,
     ⟨"bool", "UseG1GC", none, ["\x7bproduct\x7d"]⟩]
    (by simp [RangesLine.WellFormed, RangesLine.originChars]) (by simp) (by decide)).1.trans rfl

/-- Both halves of the reading fail on some listing, whatever bounds the option types carry by
default.  A range whose lower bound is itself `...` reads as no range, so that, asked for
options with ranges, the parser skips the line.  And `new Integer(...)` throws on the lower
bound of a `CMSPrecleanDenominator` beyond the range of `int`. -/
theorem getJVMOptions_ellipsis_lower_bound_and_non_int_min :
    (¬ ∃ defaultRange : String → String × String, ∀ (input : String) (withRanges : Bool)
      (acceptOrigin : String → Bool) (ls : List RangesLine), (∀ l ∈ ls, l.WellFormed) →
      List.Forall₂ (fun line l => Java.tokenize [] line.data = l.tokens)
        (Java.readLines [] input.data).tail ls →
      getJVMOptions defaultRange input withRanges acceptOrigin =
        expectedOptions defaultRange withRanges acceptOrigin ls) ∧
    (¬ ∃ defaultRange : String → String × String, ∀ (input : String) (withRanges : Bool)
      (acceptOrigin : String → Bool) (ls : List RangesLine), (∀ l ∈ ls, l.WellFormed) →
      List.Forall₂ (fun line l => Java.tokenize [] line.data = l.tokens)
        (Java.readLines [] input.data).tail ls →
      ∃ m, getJVMOptions defaultRange input withRanges acceptOrigin = .ok m) := by
  constructor
  · rintro ⟨d, h⟩
    let input := "Ranges:\nintx Foo [ ... ... 5 ] \x7bproduct\x7d"
    let l : RangesLine := ⟨"intx", "Foo", some ("...", "5"), ["\x7bproduct\x7d"]⟩
    have hread := h input true (fun _ => true) [l]
      (by simp [l, RangesLine.WellFormed, RangesLine.originChars]) (by decide)
    have hskip : getJVMOptions d input true (fun _ => true) = .ok ⟨[]⟩ := rfl
    have hput : expectedOptions d true (fun _ => true) [l] =
        .ok ⟨[("Foo", ⟨"intx", "Foo", true, "...", "5", []⟩)]⟩ := rfl
    rw [hskip, hput] at hread
    simp at hread
  · rintro ⟨d, h⟩
    let input := "Ranges:\nuintx CMSPrecleanDenominator [ 4294967296 ... 100 ] \x7bproduct\x7d"
    let l : RangesLine :=
      ⟨"uintx", "CMSPrecleanDenominator", some ("4294967296", "100"), ["\x7bproduct\x7d"]⟩
    obtain ⟨m, hm⟩ := h input true (fun _ => true) [l]
      (by simp [l, RangesLine.WellFormed, RangesLine.originChars]) (by decide)
    have hthrow : getJVMOptions d input true (fun _ => true) =
        .error (.NumberFormatException "4294967296") := rfl
    rw [hthrow] at hm
    cases hm

/-- **Printing and reading back**: a listing printed from printable, well-formed lines whose
lower bounds are not `...`, under any header line, reads back as the map it describes. -/
theorem getJVMOptions_renderListing (header : String) (ls : List RangesLine)
    (hh : ∀ c ∈ header.data, c ≠ '\n' ∧ c ≠ '\r')
    (hp : ∀ l ∈ ls, l.Printable) (hl : ∀ l ∈ ls, l.WellFormed)
    (hlo : ∀ l ∈ ls, ∀ lo hi, l.range = some (lo, hi) → lo ≠ "...") :
    getJVMOptions defaultRange (renderListing header ls) withRanges acceptOrigin =
      expectedOptions defaultRange withRanges acceptOrigin ls := by
  have hlines : (Java.readLines [] (renderListing header ls).data).tail =
      ls.map RangesLine.render := by
    rw [renderListing, List.map_cons, Java.readLines_tail_intercalate _ _ hh,
      Java.readLines_intercalate]
    simp only [List.mem_map]
    rintro _ ⟨l, hl', rfl⟩
    exact RangesLine.render_line (hp l hl')
  apply getJVMOptionsLoop_eq_foldlM defaultRange withRanges acceptOrigin hl hlo
  rw [hlines, List.forall₂_map_left_iff, List.forall₂_same]
  exact fun l hl' => Java.tokenize_intercalate _ (hp l hl')

/-- Two lines without a range, printed under a header and read back. -/
theorem getJVMOptions_renderListing_no_ranges :
    getJVMOptions (fun _ => ("0", "0"))
        (renderListing "[Global flags ranges]"
          [⟨"intx", "CICompilerCount", none, ["\x7bproduct\x7d"]⟩,
           ⟨"uintx", "G1ConcRefinementThreads", none, ["\x7bproduct\x7d"]⟩])
        false (fun _ => true) =
      expectedOptions (fun _ => ("0", "0")) false (fun _ => true)
        [⟨"intx", "CICompilerCount", none, ["\x7bproduct\x7d"]⟩,
         ⟨"uintx", "G1ConcRefinementThreads", none, ["\x7bproduct\x7d"]⟩] :=
  getJVMOptions_renderListing _ _ _ _ _ (by decide) (by decide)
    (by simp [RangesLine.WellFormed, RangesLine.originChars]) (by simp)

end JVMOptionsUtils

end Hotspot
