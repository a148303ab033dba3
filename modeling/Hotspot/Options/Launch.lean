import Hotspot.Options.JVMOptionsUtils

/-!
# Asking a VM for its options

`getOptionsAsMap` starts a VM of the type of the current one, with the additional arguments,
`-XX:+PrintFlagsRanges` and `-version`, and reads the listing it prints with `getJVMOptions`.
`getOptions` lists the options of that map in order; `getOptionsWithRange` and
`getOptionsWithRangeAsMap` ask for the options with a range, for the origins a predicate
accepts or for all of them.

Starting the process is outside the program: it is a parameter here, the text the started VM
prints on its standard output for a command line, or what starting it, reading its output and
waiting for it throws.  The command line does not depend on whether ranges are asked for, so
two calls that differ only there read the same listing.  Every option the reader returns comes
from a line of that listing which names it and is of the kind asked for.  So the options with a
range and those without never share a name, as long as the listing does not list one name both
ways.

## Main definitions

* `Platform`, `JVMOptionsUtils.VMType`: the type of the current VM and its flag
* `JVMOptionsUtils.runJava`, `JVMOptionsUtils.getOptionsAsMap`, `JVMOptionsUtils.getOptions`
  and the narrower `getOptionsWithRange` and `getOptionsWithRangeAsMap`
* `JVMOptionsUtils.lineKind`: the name a line gives its option and whether it gives a range

## Main results

* `JVMOptionsUtils.lineKind_of_parseOptionLine`: an entry comes from a line of its kind
* `JVMOptionsUtils.getOptionsAsMap_keys_disjoint`: options with and without a range are told
  apart
-/

namespace Hotspot

/-- Modelled from its uses here (`jdk.test.lib.Platform` is not among the sources): the type
of the current VM. -/
structure Platform where
  isServer : Bool
  isClient : Bool
  isMinimal : Bool
  isGraal : Bool
  deriving DecidableEq, Repr

namespace JVMOptionsUtils

/-- `PRINT_FLAGS_RANGES`. -/
def PRINT_FLAGS_RANGES : String := "-XX:+PrintFlagsRanges"

/-- The static initializer of `VMType`: the flag that starts a VM of the current type, or
`null`. -/
def VMType (platform : Platform) : Option String :=
  if platform.isServer then some "-server"
  else if platform.isClient then some "-client"
  else if platform.isMinimal then some "-minimal"
  else if platform.isGraal then some "-graal"
  else none

/-- The command line `runJava` that `getOptionsAsMap` starts a VM with. -/
def runJava (VMType : Option String) (additionalArgs : List String) : List String :=
  (if additionalArgs.length > 0 then additionalArgs else []) ++ VMType.toList ++
    [PRINT_FLAGS_RANGES, "-version"]

variable {ε : Type} (defaultRange : String → String × String)
  (start : List String → Except ε String) (VMType : Option String)

/-- `getOptionsAsMap(withRanges, acceptOrigin, additionalArgs)`: start a VM with `runJava` and
read its listing.  `start` gives what the started VM prints, or what starting it, reading its
output and waiting for it throws; the reader's own exceptions are the other summand. -/
def getOptionsAsMap (withRanges : Bool) (acceptOrigin : String → Bool)
    (additionalArgs : List String) : Except (ε ⊕ JavaException) (LinkedHashMap String JVMOption) :=
  do
  let output ← (start (runJava VMType additionalArgs)).mapError Sum.inl
  (getJVMOptions defaultRange output withRanges acceptOrigin).mapError Sum.inr

/-- `getOptions(withRanges, acceptOrigin, additionalArgs)`: the options of the map, in order. -/
def getOptions (withRanges : Bool) (acceptOrigin : String → Bool)
    (additionalArgs : List String) : Except (ε ⊕ JavaException) (List JVMOption) :=
  (getOptionsAsMap defaultRange start VMType withRanges acceptOrigin additionalArgs).map
    fun m => m.entries.map Prod.snd

/-- `getOptionsWithRange(acceptOrigin, additionalArgs)`. -/
def getOptionsWithRange (acceptOrigin : String → Bool) (additionalArgs : List String) :
    Except (ε ⊕ JavaException) (List JVMOption) :=
  getOptions defaultRange start VMType true acceptOrigin additionalArgs

/-- `getOptionsWithRange(additionalArgs)`: every origin accepted. -/
def getOptionsWithRangeAnyOrigin (additionalArgs : List String) :
    Except (ε ⊕ JavaException) (List JVMOption) :=
  getOptionsWithRange defaultRange start VMType (fun _ => true) additionalArgs

/-- `getOptionsWithRangeAsMap(acceptOrigin, additionalArgs)`. -/
def getOptionsWithRangeAsMap (acceptOrigin : String → Bool) (additionalArgs : List String) :
    Except (ε ⊕ JavaException) (LinkedHashMap String JVMOption) :=
  getOptionsAsMap defaultRange start VMType true acceptOrigin additionalArgs

/-- `getOptionsWithRangeAsMap(additionalArgs)`: every origin accepted. -/
def getOptionsWithRangeAsMapAnyOrigin (additionalArgs : List String) :
    Except (ε ⊕ JavaException) (LinkedHashMap String JVMOption) :=
  getOptionsWithRangeAsMap defaultRange start VMType (fun _ => true) additionalArgs

/-! ## Where an entry comes from -/

/-- The name a line of the listing gives its option and whether it gives it a range, as
`getJVMOptions` reads them: the second token, and a fourth token other than `...`. -/
def lineKind (line : String) : Option (String × Bool) :=
  match Java.tokenize [] line.data with
  | _ :: name :: _ :: token :: _ => some (name, token != "...")
  | _ => none

variable {defaultRange}

/-- A pass that puts an entry reads it from a line that names it and is of the kind asked
for. -/
theorem lineKind_of_parseOptionLine {withRanges : Bool} {acceptOrigin : String → Bool}
    {line name : String} {o : JVMOption}
    (h : parseOptionLine defaultRange withRanges acceptOrigin line = .ok (some (name, o))) :
    lineKind line = some (name, withRanges) := by
  unfold parseOptionLine at h
  rw [Java.StringTokenizer.new] at h
  unfold lineKind
  generalize Java.tokenize [] line.data = ts at h ⊢
  rcases ts with _ | ⟨t₁, _ | ⟨t₂, _ | ⟨t₃, _ | ⟨t₄, rest⟩⟩⟩⟩
  iterate 4 cases h
  simp only [Java.StringTokenizer.nextToken_cons, Java.except_ok_bind] at h
  -- a line of four tokens or more: the entry is named by the second, and a pass puts one only
  -- when the fourth is of the kind asked for
  simp only [bind, Except.bind, pure, Except.pure] at h
  split_ifs at h with h4 hw hw
  · cases h
  · obtain rfl : withRanges = true := by simpa using hw
    repeat' split at h
    all_goals cases h
    simpa using h4
  · cases h
  · obtain rfl : withRanges = false := by simpa using hw
    repeat' split at h
    all_goals cases h
    simpa using h4

/-- Every key of the map the loop returns was there before, or is named by a line the loop read
that is of the kind asked for. -/
theorem mem_keys_getJVMOptionsLoop {withRanges : Bool} {acceptOrigin : String → Bool} :
    ∀ (allOptions : LinkedHashMap String JVMOption) {m : LinkedHashMap String JVMOption}
      {lines : List String},
      getJVMOptionsLoop defaultRange withRanges acceptOrigin allOptions lines = .ok m →
      ∀ k ∈ m.keys, k ∈ allOptions.keys ∨ ∃ line ∈ lines, lineKind line = some (k, withRanges)
  | _, _, [], h, k, hk => by cases h; exact .inl hk
  | allOptions, m, line :: lines, h, k, hk => by
    rw [getJVMOptionsLoop] at h
    cases hp : parseOptionLine defaultRange withRanges acceptOrigin line with
    | error e => rw [hp] at h; cases h
    | ok r =>
      rw [hp] at h
      rcases r with _ | ⟨name, option⟩
      · exact (mem_keys_getJVMOptionsLoop _ h k hk).imp_right
          fun ⟨l, hl, hkind⟩ => ⟨l, .tail _ hl, hkind⟩
      · rcases mem_keys_getJVMOptionsLoop _ h k hk with hk | ⟨l, hl, hkind⟩
        · rw [LinkedHashMap.keys_put] at hk
          split_ifs at hk
          · exact .inl hk
          · rcases List.mem_append.1 hk with hk | hk
            · exact .inl hk
            · rw [List.mem_singleton.1 hk]
              exact .inr ⟨line, .head _, lineKind_of_parseOptionLine hp⟩
        · exact .inr ⟨l, .tail _ hl, hkind⟩

/-- The listing names no option both with and without a range, as the reader sees its lines
after the first. -/
def NoMixedKinds (output : String) : Prop :=
  ∀ p ∈ (Java.readLines [] output.data).tail.filterMap lineKind,
    ∀ q ∈ (Java.readLines [] output.data).tail.filterMap lineKind, p.1 = q.1 → p.2 = q.2

instance : DecidablePred NoMixedKinds := fun _ =>
  inferInstanceAs (Decidable (∀ p ∈ _, ∀ q ∈ _, _))

/-- Every key of the map `getJVMOptions` returns is named by a line after the first of the
kind asked for. -/
theorem mem_keys_getJVMOptions {output : String} {withRanges : Bool}
    {acceptOrigin : String → Bool} {m : LinkedHashMap String JVMOption}
    (h : getJVMOptions defaultRange output withRanges acceptOrigin = .ok m) {k : String}
    (hk : k ∈ m.keys) :
    (k, withRanges) ∈ (Java.readLines [] output.data).tail.filterMap lineKind := by
  rcases mem_keys_getJVMOptionsLoop _ h k hk with hk | ⟨line, hl, hkind⟩
  · cases hk
  · exact List.mem_filterMap.2 ⟨line, hl, hkind⟩

/-- What a call of `getOptionsAsMap` that returned did: read the listing the VM printed for
`runJava`. -/
theorem getOptionsAsMap_eq_ok {withRanges : Bool} {acceptOrigin : String → Bool}
    {additionalArgs : List String} {m : LinkedHashMap String JVMOption}
    (h : getOptionsAsMap defaultRange start VMType withRanges acceptOrigin additionalArgs = .ok m) :
    ∃ output, start (runJava VMType additionalArgs) = .ok output ∧
      getJVMOptions defaultRange output withRanges acceptOrigin = .ok m := by
  unfold getOptionsAsMap at h
  cases hs : start (runJava VMType additionalArgs) with
  | error e => simp [hs, Except.mapError, bind, Except.bind] at h
  | ok output =>
    refine ⟨output, rfl, ?_⟩
    cases hr : getJVMOptions defaultRange output withRanges acceptOrigin <;>
      simp_all [Except.mapError, bind, Except.bind]

/-- **Options with and without a range are told apart.**  `getOptionsWithRangeAsMap` and
`getOptionsAsMap` without ranges start the VM with the same command line, whatever else they
ask for, and so read the same listing.  When that listing names no option both with and without
a range, the two maps they return share no option name. -/
theorem getOptionsAsMap_keys_disjoint (acceptOrigin : String → Bool)
    (additionalArgs : List String) {m₁ m₂ : LinkedHashMap String JVMOption}
    (h₁ : getOptionsWithRangeAsMap defaultRange start VMType acceptOrigin additionalArgs = .ok m₁)
    (h₂ : getOptionsAsMap defaultRange start VMType false acceptOrigin additionalArgs = .ok m₂)
    (hlisting : ∀ output, start (runJava VMType additionalArgs) = .ok output →
      NoMixedKinds output) :
    ∀ k ∈ m₁.keys, k ∉ m₂.keys := by
  intro k hk₁ hk₂
  obtain ⟨output, hs, hr₁⟩ := getOptionsAsMap_eq_ok start VMType h₁
  obtain ⟨output', hs', hr₂⟩ := getOptionsAsMap_eq_ok start VMType h₂
  obtain rfl : output = output' := Except.ok.inj (hs.symm.trans hs')
  exact Bool.noConfusion (hlisting output hs _ (mem_keys_getJVMOptions hr₁ hk₁) _
    (mem_keys_getJVMOptions hr₂ hk₂) rfl)

/-- A VM listing one option with a range and one without: asked for each kind, the reader
returns one of them each. -/
theorem getOptionsAsMap_keys_disjoint_two_kinds :
    let start : List String → Except Unit String := fun _ =>
      .ok ("Ranges:\nintx CICompilerCount [ 1 ... 64 ] \x7bproduct\x7d\n" ++
        "bool UseTLAB [ ... ] \x7bpd product\x7d")
    let m₁ : LinkedHashMap String JVMOption :=
      ⟨[("CICompilerCount", ⟨"intx", "CICompilerCount", true, "1", "64", []⟩)]⟩
    let m₂ : LinkedHashMap String JVMOption :=
      ⟨[("UseTLAB", ⟨"bool", "UseTLAB", false, "0", "0", []⟩)]⟩
    getOptionsWithRangeAsMap (fun _ => ("0", "0")) start (some "-server") (fun _ => true) [] =
        .ok m₁ ∧
      getOptionsAsMap (fun _ => ("0", "0")) start (some "-server") false (fun _ => true) [] =
        .ok m₂ ∧
      ∀ k ∈ m₁.keys, k ∉ m₂.keys := by
  intro start m₁ m₂
  have h₁ : getOptionsWithRangeAsMap (fun _ => ("0", "0")) start (some "-server") (fun _ => true)
      [] = .ok m₁ := rfl
  have h₂ : getOptionsAsMap (fun _ => ("0", "0")) start (some "-server") false (fun _ => true)
      [] = .ok m₂ := rfl
  exact ⟨h₁, h₂, getOptionsAsMap_keys_disjoint start (some "-server") (fun _ => true) [] h₁ h₂
    fun _ h => by cases h; decide⟩

end JVMOptionsUtils

end Hotspot
