import Hotspot.Options.Text

/-!
# Reading the `-XX:+PrintFlagsRanges` listing

`JVMOptionsUtils.getJVMOptions` skips the first line of the listing and reads every other line
as `<type> <name> [ <min> ... <max> ] {<origin>}` (or `[ ... ]` without a range).  It keeps the
options whose range presence is the one asked for and whose origin the predicate accepts,
gives each the command-line prepends its origin and its name call for, and puts it into a
`LinkedHashMap` under its name.

`JVMOption.java` is not among the sources.  The option is modelled as the record of what the
parser and the two dependency helpers set and read; the bounds a fresh option carries before
`setMin`/`setMax` are those of its type, a parameter `defaultRange` here.

## Main definitions

* `JVMOption`, `LinkedHashMap`: the option record and the map it is put into
* `addNameDependency`, `addTypeDependency`: the prepends an option needs
* `parseOptionLine`: one pass of the loop body; `getJVMOptions`: the whole reader

## Main results

* `JVMOptionsUtils.addNameDependency_isOk`: the only exception the dependencies throw
* `JVMOptionsUtils.getJVMOptions_entries_named`: each entry is stored under its option's name,
  with the range flag asked for
-/

namespace Hotspot

/-- Modelled from its uses here (`JVMOption.java` is not among the sources): the type and name
an option is created with, whether it was marked as having a range, its bounds, and the
arguments to prepend on a command line testing it. -/
structure JVMOption where
  type : String
  name : String
  withRange : Bool
  min : String
  max : String
  prepend : List String
  deriving DecidableEq, Repr

namespace JVMOption

/-- `JVMOption.createVMOption(type, name)`: an option without a range of its own, carrying the
bounds `defaultRange type` of its type. -/
def createVMOption (defaultRange : String → String × String) (type name : String) : JVMOption :=
  ⟨type, name, false, (defaultRange type).1, (defaultRange type).2, []⟩

/-- `optionWithRange()`: the range is defined in the VM. -/
def optionWithRange (o : JVMOption) : JVMOption := { o with withRange := true }

/-- `setMin`. -/
def setMin (o : JVMOption) (min : String) : JVMOption := { o with min := min }

/-- `setMax`. -/
def setMax (o : JVMOption) (max : String) : JVMOption := { o with max := max }

/-- `getName`. -/
def getName (o : JVMOption) : String := o.name

/-- `getMin`. -/
def getMin (o : JVMOption) : String := o.min

/-- `getMax`. -/
def getMax (o : JVMOption) : String := o.max

/-- `addPrepend`: one more argument, after those already there. -/
def addPrepend (o : JVMOption) (prepend : String) : JVMOption :=
  { o with prepend := o.prepend ++ [prepend] }

@[simp] theorem addPrepend_name (o : JVMOption) (p : String) : (o.addPrepend p).name = o.name :=
  rfl

@[simp] theorem addPrepend_min (o : JVMOption) (p : String) : (o.addPrepend p).min = o.min := rfl

@[simp] theorem addPrepend_withRange (o : JVMOption) (p : String) :
    (o.addPrepend p).withRange = o.withRange := rfl

end JVMOption

/-- `LinkedHashMap`, by its entries in insertion order. -/
structure LinkedHashMap (K V : Type) where
  entries : List (K × V)
  deriving DecidableEq, Repr

namespace LinkedHashMap

variable {K V : Type} [DecidableEq K]

/-- `new LinkedHashMap<>()`. -/
def empty : LinkedHashMap K V := ⟨[]⟩

/-- `put`: a new key goes last; a key already there keeps its place and takes the new value. -/
def put (m : LinkedHashMap K V) (k : K) (v : V) : LinkedHashMap K V :=
  if m.entries.any (·.1 == k) then ⟨m.entries.map fun e => if e.1 = k then (k, v) else e⟩
  else ⟨m.entries ++ [(k, v)]⟩

/-- `keySet()`, in insertion order. -/
def keys (m : LinkedHashMap K V) : List K := m.entries.map Prod.fst

/-- `put` adds its key last when it is new and leaves the keys as they were otherwise. -/
theorem keys_put (m : LinkedHashMap K V) (k : K) (v : V) :
    (m.put k v).keys = if k ∈ m.keys then m.keys else m.keys ++ [k] := by
  by_cases h : k ∈ m.keys
  · have hany : m.entries.any (·.1 == k) = true := by
      obtain ⟨e, he, rfl⟩ := List.mem_map.1 h
      exact List.any_eq_true.2 ⟨e, he, by simp⟩
    rw [if_pos h]
    simp only [put, hany, if_true, keys, List.map_map]
    refine List.map_congr_left fun e _ => ?_
    by_cases he : e.1 = k <;> simp [he]
  · have hany : m.entries.any (·.1 == k) = false :=
      List.any_eq_false.2 fun e he hek => h (List.mem_map.2 ⟨e, he, by simpa using hek⟩)
    rw [if_neg h]
    simp [put, hany, keys]

/-- An entry after `put` was there before, or is the one put. -/
theorem mem_put {m : LinkedHashMap K V} {k : K} {v : V} {e : K × V}
    (h : e ∈ (m.put k v).entries) : e ∈ m.entries ∨ e = (k, v) := by
  unfold put at h
  split at h
  · obtain ⟨e', he', rfl⟩ := List.mem_map.1 h
    split
    · exact .inr rfl
    · exact .inl he'
  · simpa using h

end LinkedHashMap

namespace JVMOptionsUtils

open JVMOption

/-- `addNameDependency`: the collector an option's name belongs to, and the bound of a
companion option that keeps its constraint satisfiable.  `new Integer(option.getMin())` throws
`NumberFormatException` when the bound is not an `int`. -/
def addNameDependency (option : JVMOption) : Except JavaException JVMOption := do
  let name := option.getName
  let option := if Java.startsWith name "G1" then option.addPrepend "-XX:+UseG1GC" else option
  let option :=
    if Java.startsWith name "CMS" then option.addPrepend "-XX:+UseConcMarkSweepGC" else option
  match name with
  | "MinHeapFreeRatio" => return option.addPrepend "-XX:MaxHeapFreeRatio=100"
  | "MaxHeapFreeRatio" => return option.addPrepend "-XX:MinHeapFreeRatio=0"
  | "MinMetaspaceFreeRatio" => return option.addPrepend "-XX:MaxMetaspaceFreeRatio=100"
  | "MaxMetaspaceFreeRatio" => return option.addPrepend "-XX:MinMetaspaceFreeRatio=0"
  | "CMSOldPLABMin" => return option.addPrepend ("-XX:CMSOldPLABMax=" ++ option.getMax)
  | "CMSOldPLABMax" => return option.addPrepend ("-XX:CMSOldPLABMin=" ++ option.getMin)
  | "CMSPrecleanNumerator" =>
    return option.addPrepend ("-XX:CMSPrecleanDenominator=" ++ option.getMax)
  | "CMSPrecleanDenominator" =>
    let min ← Java.parseInt option.getMin
    return option.addPrepend ("-XX:CMSPrecleanNumerator=" ++ toString (Java.intSub min 1))
  | "InitialTenuringThreshold" =>
    return option.addPrepend ("-XX:MaxTenuringThreshold=" ++ option.getMax)
  | _ => return option

/-- The name dependency throws only for `CMSPrecleanDenominator`, and for it exactly when the
lower bound is not an `int`. -/
theorem addNameDependency_isOk (option : JVMOption) :
    (∃ o, addNameDependency option = .ok o) ↔
      (option.name = "CMSPrecleanDenominator" → ∃ v, Java.parseInt option.min = .ok v) := by
  by_cases hn : option.name = "CMSPrecleanDenominator"
  · simp only [addNameDependency, getName, getMin, hn, apply_ite JVMOption.min, addPrepend_min,
      ite_self, true_implies]
    cases Java.parseInt option.min <;> simp
  · simp only [addNameDependency, getName, hn, false_implies, iff_true]
    split <;> first | exact ⟨_, rfl⟩ | simp_all

/-- The name dependency keeps the option's name and range flag; it only adds prepends. -/
theorem addNameDependency_eq_ok {option o : JVMOption} (h : addNameDependency option = .ok o) :
    o.name = option.name ∧ o.withRange = option.withRange := by
  simp only [addNameDependency, getName, getMin, getMax] at h
  split at h <;> first
    | (cases h; simp [apply_ite JVMOption.name, apply_ite JVMOption.withRange])
    | (cases hv : Java.parseInt _ <;> rw [hv] at h <;> cases h
       simp [apply_ite JVMOption.name, apply_ite JVMOption.withRange])

/-- `addTypeDependency(option, type)`: compiler options run the VM in compilation mode.  The
parser passes the option's origin as `type`. -/
def addTypeDependency (option : JVMOption) (type : String) : JVMOption :=
  if Java.contains type "C1" || Java.contains type "C2" then option.addPrepend "-Xcomp"
  else option

@[simp] theorem addTypeDependency_name (option : JVMOption) (type : String) :
    (addTypeDependency option type).name = option.name := by
  unfold addTypeDependency; split <;> rfl

@[simp] theorem addTypeDependency_withRange (option : JVMOption) (type : String) :
    (addTypeDependency option type).withRange = option.withRange := by
  unfold addTypeDependency; split <;> rfl

/-- The loop `while (st.hasMoreTokens()) token += st.nextToken();` over the tokens left. -/
def appendRemainingTokens (token : String) : List String → String
  | [] => token
  | t :: ts => appendRemainingTokens (token ++ t) ts

/-- The loop runs the remaining tokens together after `token`. -/
theorem appendRemainingTokens_eq (token : String) (ts : List String) :
    appendRemainingTokens token ts = String.mk ((token :: ts).map String.data).flatten := by
  induction ts generalizing token with
  | nil => simp [appendRemainingTokens]
  | cons t ts ih => simp [appendRemainingTokens, ih]

variable (defaultRange : String → String × String)

/-- One pass of the `while` loop of `getJVMOptions`, on `line`: the entry it puts, or `none`
where the pass ends in `continue` or the origin is not accepted. -/
def parseOptionLine (withRanges : Bool) (acceptOrigin : String → Bool) (line : String) :
    Except JavaException (Option (String × JVMOption)) := do
  let st := Java.StringTokenizer.new line
  let (type, st) ← st.nextToken
  let (name, st) ← st.nextToken
  let mut option := createVMOption defaultRange type name
  -- Skip '['
  let (_, st) ← st.nextToken
  -- Read min range or "..." if range is absent
  let (token, st) ← st.nextToken
  let mut st := st
  if token != "..." then
    if !withRanges then
      return none
    option := option.optionWithRange
    option := option.setMin token
    -- Read "..." and skip it, then the max value
    let (_, st') ← st.nextToken
    let (token, st') ← st'.nextToken
    option := option.setMax token
    st := st'
  else if withRanges then
    return none
  -- Skip ']'
  let (_, st₁) ← st.nextToken
  -- Read origin of the option
  let (token, st₂) ← st₁.nextToken
  let token := appendRemainingTokens token st₂.tokens
  let token ← Java.substring token 1 (Java.indexOf token '}')
  if acceptOrigin token then
    option := addTypeDependency option token
    option ← addNameDependency option
    return some (name, option)
  return none

/-- A pass that puts an entry puts it under the option's name, with the range flag asked for:
the range branch runs on only when ranges are asked for and marks the option, the other branch
only when they are not. -/
theorem parseOptionLine_eq_some {withRanges : Bool} {acceptOrigin : String → Bool}
    {line name : String} {o : JVMOption}
    (h : parseOptionLine defaultRange withRanges acceptOrigin line = .ok (some (name, o))) :
    o.name = name ∧ o.withRange = withRanges := by
  simp only [parseOptionLine, bind, Except.bind, pure, Except.pure] at h
  repeat' split at h
  all_goals cases h
  all_goals
    obtain ⟨h1, h2⟩ := addNameDependency_eq_ok ‹_›
    simp_all [createVMOption, optionWithRange, setMin, setMax]

/-- The `while` loop of `getJVMOptions` over the lines still to read. -/
def getJVMOptionsLoop (withRanges : Bool) (acceptOrigin : String → Bool)
    (allOptions : LinkedHashMap String JVMOption) :
    List String → Except JavaException (LinkedHashMap String JVMOption)
  | [] => .ok allOptions
  | line :: lines => do
    match ← parseOptionLine defaultRange withRanges acceptOrigin line with
    | some (name, option) =>
      getJVMOptionsLoop withRanges acceptOrigin (allOptions.put name option) lines
    | none => getJVMOptionsLoop withRanges acceptOrigin allOptions lines

/-- `getJVMOptions(inputReader, withRanges, acceptOrigin)`: skip the first line, then run the
loop over the others. -/
def getJVMOptions (input : String) (withRanges : Bool) (acceptOrigin : String → Bool) :
    Except JavaException (LinkedHashMap String JVMOption) :=
  getJVMOptionsLoop defaultRange withRanges acceptOrigin LinkedHashMap.empty
    (Java.readLines [] input.data).tail

/-! ## Invariants of the map

Whatever the input, every pass of the loop either leaves the map or `put`s the entry its line
describes, so a property of the map that every such `put` keeps holds of the map returned
(`getJVMOptionsLoop_invariant`).  Every entry a pass puts is named after its key and carries
the range flag asked for. -/

theorem getJVMOptionsLoop_invariant (withRanges : Bool) (acceptOrigin : String → Bool)
    (P : LinkedHashMap String JVMOption → Prop)
    (hput : ∀ m line name o, P m →
      parseOptionLine defaultRange withRanges acceptOrigin line = .ok (some (name, o)) →
      P (m.put name o)) :
    ∀ (allOptions : LinkedHashMap String JVMOption) {m : LinkedHashMap String JVMOption}
      {lines : List String}, P allOptions →
      getJVMOptionsLoop defaultRange withRanges acceptOrigin allOptions lines = .ok m → P m
  | _, _, [], hm, h => by cases h; exact hm
  | allOptions, m, line :: lines, hm, h => by
    rw [getJVMOptionsLoop] at h
    cases hp : parseOptionLine defaultRange withRanges acceptOrigin line with
    | error e => rw [hp] at h; cases h
    | ok r =>
      rw [hp] at h
      rcases r with _ | ⟨name, option⟩
      · exact getJVMOptionsLoop_invariant withRanges acceptOrigin P hput _ hm h
      · exact getJVMOptionsLoop_invariant withRanges acceptOrigin P hput _
          (hput _ _ _ _ hm hp) h

/-- **Entries fit their keys**: on any input, every entry of the map `getJVMOptions` returns is
stored under its option's name, and every option's range flag is `withRanges`. -/
theorem getJVMOptions_entries_named (input : String) (withRanges : Bool)
    (acceptOrigin : String → Bool) {m : LinkedHashMap String JVMOption}
    (h : getJVMOptions defaultRange input withRanges acceptOrigin = .ok m) :
    ∀ e ∈ m.entries, e.2.name = e.1 ∧ e.2.withRange = withRanges :=
  getJVMOptionsLoop_invariant defaultRange withRanges acceptOrigin
    (fun m => ∀ e ∈ m.entries, e.2.name = e.1 ∧ e.2.withRange = withRanges)
    (fun _ _ _ _ hm hp e he => (LinkedHashMap.mem_put he).elim (hm e) fun he' => by
      subst he'; exact parseOptionLine_eq_some defaultRange hp)
    LinkedHashMap.empty (fun _ he => absurd he (List.not_mem_nil _)) h

/-- Asked for options with ranges, a listing of a ranged and an unranged option: only the
ranged one is returned, marked as such, under its name. -/
theorem getJVMOptions_entries_named_ranged :
    let input := "Ranges:\nuintx MaxTenuringThreshold [ 0 ... 15 ] \x7bproduct\x7d\n" ++
      "bool UseTLAB [ ... ] \x7bpd product\x7d"
    let m : LinkedHashMap String JVMOption :=
      ⟨[("MaxTenuringThreshold", ⟨"uintx", "MaxTenuringThreshold", true, "0", "15", []⟩)]⟩
    getJVMOptions (fun _ => ("0", "0")) input true (fun _ => true) = .ok m ∧
      ∀ e ∈ m.entries, e.2.name = e.1 ∧ e.2.withRange = true := by
  intro input m
  have h : getJVMOptions (fun _ => ("0", "0")) input true (fun _ => true) = .ok m := rfl
  exact ⟨h, getJVMOptions_entries_named _ _ _ _ h⟩

end JVMOptionsUtils

end Hotspot
