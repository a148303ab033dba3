import Hotspot.Options.JVMOptionsUtils

/-!
# Reporting failures

The option tests report a failure through `JVMOptionsUtils.failedMessage`, which prints
`TEST FAILED: ` and the message on `System.err` and appends the message to the static
`finalFailedMessage`: in parentheses, ended by the platform's line separator.
`getMessageWithFailures()` returns that text.  The overload for an option value first formats
the option's name, the kind of value, the value and the message into one sentence.
`printOutputContent` prints a process's output on `System.err` only.

So `getMessageWithFailures()` is a log with one line per failure.  As long as no failure
message holds a line terminator of its own, `readLine` hands the failures back, in the order
they were reported, each in its parentheses.

The four `run*Tests` methods count failures by adding up, in `int` arithmetic, what the test
of each option returns.  While the total fits in an `int` the count is that total, and it is
zero exactly when no test failed.

## Main definitions

* `Java.format`: `String.format` for the conversions `%s`, `%n` and `%%`
* `Reports`, `ReportCall`, `JVMOptionsUtils.reportAll`: what reporting changes, the calls that
  report, and their runs
* `JVMOptionsUtils.runTests`: the loop of `runCommandLineTests`, `runDynamicTests`,
  `runJcmdTests` and `runAttachTests`

## Main results

* `JVMOptionsUtils.finalFailedMessage_reportAll`: the text a run of reports appends
* `JVMOptionsUtils.failures_round_trip`: `getMessageWithFailures()` read line by line
* `JVMOptionsUtils.runTests_eq_total`: the failure count while it fits in an `int`
-/

namespace Hotspot

namespace Java

/-- `String.format(format, args)` on the characters of `format`, for the conversions the tests
use: `%s` takes the next argument, `%n` is the line separator and `%%` a percent sign.  It is
`none` where `String.format` throws: for a `%s` with no argument left
(`MissingFormatArgumentException`) and for any other conversion
(`UnknownFormatConversionException`).  Arguments left over are ignored. -/
def formatChars (lineSeparator : String) : List Char → List String → Option (List Char)
  | [], _ => some []
  | '%' :: 's' :: _, [] => none
  | '%' :: 's' :: fmt, arg :: args => (arg.data ++ ·) <$> formatChars lineSeparator fmt args
  | '%' :: 'n' :: fmt, args => (lineSeparator.data ++ ·) <$> formatChars lineSeparator fmt args
  | '%' :: '%' :: fmt, args => ('%' :: ·) <$> formatChars lineSeparator fmt args
  | '%' :: _, _ => none
  | c :: fmt, args => (c :: ·) <$> formatChars lineSeparator fmt args

/-- `String.format(fmt, args)`, with `System.lineSeparator()` for `%n`. -/
def format (lineSeparator fmt : String) (args : List String) : Option String :=
  (formatChars lineSeparator fmt.data args).map String.mk

/-- `int` addition, wrapping around at 32 bits. -/
def intAdd (a b : Int) : Int :=
  (a + b + 2147483648) % 4294967296 - 2147483648

/-- Below the top of the `int` range, `int` addition of non-negative values is addition. -/
theorem intAdd_of_lt {a b : Int} (ha : 0 ≤ a) (hb : 0 ≤ b) (h : a + b < 2147483648) :
    intAdd a b = a + b := by
  unfold intAdd
  rw [Int.emod_eq_of_lt (by omega) (by omega)]
  omega

/-- A line without terminators, ended by `\n` or `\r\n`, is read as itself. -/
theorem readLines_terminated {sep : String} (hsep : sep = "\n" ∨ sep = "\r\n")
    {l : List Char} (hl : ∀ c ∈ l, c ≠ '\n' ∧ c ≠ '\r') (rest : List Char) :
    readLines [] (l ++ sep.data ++ rest) = String.mk l :: readLines [] rest := by
  rw [List.append_assoc, readLines_append_line [] l _ hl, List.nil_append]
  rcases hsep with rfl | rfl <;> simp [readLines]

/-- **Round trip of terminated lines**: lines without terminators, each ended by `\n` or
`\r\n`, are the lines `readLine` returns. -/
theorem readLines_flatMap {sep : String} (hsep : sep = "\n" ∨ sep = "\r\n") :
    ∀ ls : List String, (∀ l ∈ ls, ∀ c ∈ l.data, c ≠ '\n' ∧ c ≠ '\r') →
      readLines [] (ls.flatMap fun l => l.data ++ sep.data) = ls
  | [], _ => rfl
  | l :: ls, h => by
    rw [List.flatMap_cons, readLines_terminated hsep (h l (.head _)),
      readLines_flatMap hsep ls fun l' hl' => h l' (.tail _ hl')]

end Java

/-- What the reporting methods change: the static `finalFailedMessage`, and the text written to
`System.err`. -/
structure Reports where
  finalFailedMessage : String
  err : String
  deriving DecidableEq, Repr

/-- The calls that report: `failedMessage(message)`, its overload
`failedMessage(optionName, value, valid, message)`, and `printOutputContent(output)` with the
output's standard output and standard error. -/
inductive ReportCall
  | failedMessage (message : String)
  | failedOptionMessage (optionName value : String) (valid : Bool) (message : String)
  | printOutputContent (stdout stderr : String)
  deriving DecidableEq, Repr

/-- The failure a call reports, if any, in the words of the test. -/
def ReportCall.failure : ReportCall → Option String
  | .failedMessage message => some message
  | .failedOptionMessage optionName value valid message =>
    some ("Error processing option " ++ optionName ++ " with " ++
      (if valid then "valid" else "invalid") ++ " value '" ++ value ++ "'! " ++ message)
  | .printOutputContent _ _ => none

namespace JVMOptionsUtils

variable (lineSeparator : String)

/-- `System.err.println(x)`. -/
def println (r : Reports) (x : String) : Reports :=
  { r with err := r.err ++ x ++ lineSeparator }

/-- `failedMessage(message)`: print the failure, and append it to `finalFailedMessage` in
parentheses, ended by the line separator. -/
def failedMessage (r : Reports) (message : String) : Option Reports := do
  let r := println lineSeparator r ("TEST FAILED: " ++ message)
  let line ← Java.format lineSeparator "(%s)%n" [message]
  return { r with finalFailedMessage := r.finalFailedMessage ++ line }

/-- `failedMessage(optionName, value, valid, message)`: the failure of an option value, as one
sentence. -/
def failedOptionMessage (r : Reports) (optionName value : String) (valid : Bool)
    (message : String) : Option Reports := do
  let temp := if valid then "valid" else "invalid"
  let text ← Java.format lineSeparator "Error processing option %s with %s value '%s'! %s"
    [optionName, temp, value, message]
  failedMessage lineSeparator r text

/-- `printOutputContent(output)`. -/
def printOutputContent (r : Reports) (stdout stderr : String) : Option Reports := do
  let out ← Java.format lineSeparator "stdout content[%s]" [stdout]
  let err ← Java.format lineSeparator "stderr content[%s]%n" [stderr]
  return println lineSeparator (println lineSeparator r out) err

/-- `getMessageWithFailures()`. -/
def getMessageWithFailures (r : Reports) : String := r.finalFailedMessage

/-- One reporting call; `none` where a format throws. -/
def report (r : Reports) : ReportCall → Option Reports
  | .failedMessage message => failedMessage lineSeparator r message
  | .failedOptionMessage optionName value valid message =>
    failedOptionMessage lineSeparator r optionName value valid message
  | .printOutputContent stdout stderr => printOutputContent lineSeparator r stdout stderr

/-- A run of reporting calls. -/
def reportAll (r : Reports) (calls : List ReportCall) : Option Reports :=
  calls.foldlM (report lineSeparator) r

/-- The failures a run of calls reports, in order. -/
def failures (calls : List ReportCall) : List String := calls.filterMap ReportCall.failure

@[simp] theorem failures_nil : failures [] = [] := rfl

@[simp] theorem failures_cons (c : ReportCall) (calls : List ReportCall) :
    failures (c :: calls) = c.failure.toList ++ failures calls := by
  cases h : c.failure <;> simp [failures, List.filterMap_cons, h]

/-! ## The log of failures -/

/-- The line `failedMessage` appends for a failure. -/
theorem format_paren (message : String) :
    Java.format lineSeparator "(%s)%n" [message] = some ("(" ++ message ++ ")" ++ lineSeparator) := by
  simp [Java.format, Java.formatChars, String.ext_iff]

/-- The sentence the overload formats is the failure it reports. -/
theorem format_option (optionName temp value message : String) :
    Java.format lineSeparator "Error processing option %s with %s value '%s'! %s"
        [optionName, temp, value, message] =
      some ("Error processing option " ++ optionName ++ " with " ++ temp ++ " value '" ++ value ++
        "'! " ++ message) := by
  simp [Java.format, Java.formatChars, String.ext_iff]

theorem failedMessage_eq (r : Reports) (message : String) :
    failedMessage lineSeparator r message =
      some ⟨r.finalFailedMessage ++ ("(" ++ message ++ ")" ++ lineSeparator),
        r.err ++ ("TEST FAILED: " ++ message) ++ lineSeparator⟩ := by
  simp [failedMessage, format_paren, println]

theorem failedOptionMessage_eq (r : Reports) (optionName value : String) (valid : Bool)
    (message : String) :
    failedOptionMessage lineSeparator r optionName value valid message =
      failedMessage lineSeparator r
        ((ReportCall.failedOptionMessage optionName value valid message).failure.getD "") := by
  simp [failedOptionMessage, format_option, ReportCall.failure]

theorem printOutputContent_eq (r : Reports) (stdout stderr : String) :
    printOutputContent lineSeparator r stdout stderr =
      some (println lineSeparator (println lineSeparator r ("stdout content[" ++ stdout ++ "]"))
        ("stderr content[" ++ stderr ++ "]" ++ lineSeparator)) := by
  have hout : Java.format lineSeparator "stdout content[%s]" [stdout] =
      some ("stdout content[" ++ stdout ++ "]") := by
    simp [Java.format, Java.formatChars, String.ext_iff]
  have herr : Java.format lineSeparator "stderr content[%s]%n" [stderr] =
      some ("stderr content[" ++ stderr ++ "]" ++ lineSeparator) := by
    simp [Java.format, Java.formatChars, String.ext_iff]
  simp [printOutputContent, hout, herr]

/-- One call appends to `finalFailedMessage` the line of the failure it reports, and nothing
if it reports none. -/
theorem report_eq_some (r : Reports) (c : ReportCall) :
    ∃ r', report lineSeparator r c = some r' ∧
      r'.finalFailedMessage.data = r.finalFailedMessage.data ++
        c.failure.toList.flatMap fun m => ("(" ++ m ++ ")").data ++ lineSeparator.data := by
  cases c with
  | failedMessage message =>
    exact ⟨_, failedMessage_eq lineSeparator r message, by simp [ReportCall.failure]⟩
  | failedOptionMessage optionName value valid message =>
    exact ⟨_, (failedOptionMessage_eq lineSeparator r optionName value valid message).trans
      (failedMessage_eq lineSeparator r _), by simp [ReportCall.failure]⟩
  | printOutputContent stdout stderr =>
    exact ⟨_, printOutputContent_eq lineSeparator r stdout stderr,
      by simp [ReportCall.failure, println]⟩

/-- **The text a run of reports appends**: every run of reporting calls returns, and appends to
`finalFailedMessage` the line of each failure it reports, in order. -/
theorem finalFailedMessage_reportAll (r : Reports) (calls : List ReportCall) :
    ∃ r', reportAll lineSeparator r calls = some r' ∧
      r'.finalFailedMessage.data = r.finalFailedMessage.data ++
        (failures calls).flatMap fun m => ("(" ++ m ++ ")").data ++ lineSeparator.data := by
  induction calls generalizing r with
  | nil => exact ⟨r, rfl, by simp⟩
  | cons c calls ih =>
    obtain ⟨r₁, h₁, hm₁⟩ := report_eq_some lineSeparator r c
    obtain ⟨r', h', hm'⟩ := ih r₁
    refine ⟨r', by simp [reportAll, h₁, ← h'], ?_⟩
    rw [hm', hm₁, failures_cons, List.flatMap_append, List.append_assoc]

/-- **The log of failures reads back.**  With `\n` or `\r\n` as line separator, take any run
of `failedMessage`, its overload and `printOutputContent` from the start, where
`finalFailedMessage` is empty, whose failures hold no line terminator.  It returns, and
`readLine` over `getMessageWithFailures()` gives back exactly the failures reported, in order,
each in its parentheses. -/
theorem failures_round_trip (hsep : lineSeparator = "\n" ∨ lineSeparator = "\r\n") (err : String)
    (calls : List ReportCall) (hcalls : ∀ m ∈ failures calls, ∀ c ∈ m.data, c ≠ '\n' ∧ c ≠ '\r') :
    ∃ r', reportAll lineSeparator ⟨"", err⟩ calls = some r' ∧
      Java.readLines [] (getMessageWithFailures r').data =
        (failures calls).map fun m => "(" ++ m ++ ")" := by
  obtain ⟨r', h, hm⟩ := finalFailedMessage_reportAll lineSeparator ⟨"", err⟩ calls
  refine ⟨r', h, ?_⟩
  have hlines : ∀ l ∈ (failures calls).map (fun m => "(" ++ m ++ ")"),
      ∀ c ∈ l.data, c ≠ '\n' ∧ c ≠ '\r' := by
    simp only [List.mem_map]
    rintro _ ⟨m, hm, rfl⟩ c hc
    simp only [String.data_append, List.mem_append] at hc
    rcases hc with (hc | hc) | hc
    · simp_all [String.data]
    · exact hcalls m hm c hc
    · simp_all [String.data]
  rw [getMessageWithFailures, hm, ← Java.readLines_flatMap hsep _ hlines, List.flatMap_map]
  rfl

/-- Two failures, one of them for an option value, with the output of a process printed between
them: the log reads back as the two failures in parentheses. -/
theorem failures_round_trip_option_value :
    ∃ r', reportAll "\n" ⟨"", ""⟩ [.failedMessage "MinHeapFreeRatio not set",
        .printOutputContent "Java start-up!" "", .failedOptionMessage "MaxHeapFreeRatio" "101"
          false "exit code 0"] = some r' ∧
      Java.readLines [] (getMessageWithFailures r').data =
        ["(MinHeapFreeRatio not set)",
          "(Error processing option MaxHeapFreeRatio with invalid value '101'! exit code 0)"] := by
  obtain ⟨r', h, hl⟩ := failures_round_trip "\n" (.inl rfl) "" [.failedMessage "MinHeapFreeRatio not set",
      .printOutputContent "Java start-up!" "", .failedOptionMessage "MaxHeapFreeRatio" "101"
        false "exit code 0"] (by decide)
  exact ⟨r', h, hl.trans (by decide)⟩

/-! ## Counting failures -/

variable {ε : Type}

/-- The loop `runCommandLineTests`, `runDynamicTests`, `runJcmdTests` and `runAttachTests`
share: `failed += test(option)` over the options in order, in `int` arithmetic, from `0`.  An
exception a test throws ends the loop. -/
def runTests (test : JVMOption → Except ε Int) (options : List JVMOption) : Except ε Int :=
  options.foldlM (fun failed option => do return Java.intAdd failed (← test option)) 0

/-- `runCommandLineTests(options)`, over `JVMOption.testCommandLine()`. -/
def runCommandLineTests (testCommandLine : JVMOption → Except ε Int)
    (options : List JVMOption) : Except ε Int :=
  runTests testCommandLine options

/-- `runDynamicTests(options)`, over `JVMOption.testDynamic()`. -/
def runDynamicTests (testDynamic : JVMOption → Except ε Int) (options : List JVMOption) :
    Except ε Int :=
  runTests testDynamic options

/-- `runJcmdTests(options)`, over `JVMOption.testJcmd()`. -/
def runJcmdTests (testJcmd : JVMOption → Except ε Int) (options : List JVMOption) :
    Except ε Int :=
  runTests testJcmd options

/-- `runAttachTests(options)`, over `JVMOption.testAttach()`. -/
def runAttachTests (testAttach : JVMOption → Except ε Int) (options : List JVMOption) :
    Except ε Int :=
  runTests testAttach options

/-- From a count `acc`, the loop adds up the counts of the options while the sum fits. -/
theorem foldlM_intAdd (test : JVMOption → Except ε Int) (counts : JVMOption → Nat) :
    ∀ (options : List JVMOption) (acc : Nat), (∀ o ∈ options, test o = .ok (counts o)) →
      acc + options.foldr (fun o n => counts o + n) 0 < 2147483648 →
      options.foldlM (fun failed option => do return Java.intAdd failed (← test option))
          (acc : Int) = .ok ((acc + options.foldr (fun o n => counts o + n) 0 : Nat) : Int)
  | [], acc, _, _ => rfl
  | o :: options, acc, htest, hfit => by
    simp only [List.foldr_cons] at hfit
    have hstep : (do return Java.intAdd (acc : Int) (← test o) : Except ε Int) =
        .ok ((acc + counts o : Nat) : Int) := by
      rw [htest o (.head _), Java.except_ok_bind,
        Java.intAdd_of_lt (by omega) (by omega) (by omega)]
      push_cast; rfl
    simp only [List.foldlM_cons]
    rw [hstep, Java.except_ok_bind, foldlM_intAdd test counts options (acc + counts o)
      (fun o' h => htest o' (.tail _ h)) (by omega), List.foldr_cons, Nat.add_assoc]

theorem foldr_counts_eq_zero (counts : JVMOption → Nat) :
    ∀ options : List JVMOption,
      options.foldr (fun o n => counts o + n) 0 = 0 ↔ ∀ o ∈ options, counts o = 0
  | [] => by simp
  | o :: options => by
    simp only [List.foldr_cons, List.forall_mem_cons, ← foldr_counts_eq_zero counts options]
    omega

/-- **The count is the total while it fits.**  When the test of every option returns its
number of failures and their total stays below `2^31`, the loop returns the total, and so it
returns `0` exactly when no test failed.  Past `2^31` the `int` sum wraps around. -/
theorem runTests_eq_total (test : JVMOption → Except ε Int) (counts : JVMOption → Nat)
    (options : List JVMOption) (htest : ∀ o ∈ options, test o = .ok (counts o))
    (hfit : options.foldr (fun o n => counts o + n) 0 < 2147483648) :
    runTests test options = .ok (options.foldr (fun o n => counts o + n) 0 : Nat) ∧
      (runTests test options = .ok 0 ↔ ∀ o ∈ options, counts o = 0) := by
  have h : runTests test options = .ok (options.foldr (fun o n => counts o + n) 0 : Nat) := by
    have := foldlM_intAdd test counts options 0 htest (by omega)
    rwa [Nat.zero_add] at this
  refine ⟨h, ?_⟩
  rw [h, ← foldr_counts_eq_zero counts options, Except.ok.injEq]
  omega

/-- Two options, the second failing twice: the count is two, not zero. -/
theorem runTests_eq_total_two_options :
    let test : JVMOption → Except String Int := fun o => .ok (if o.name = "MaxHeapFreeRatio" then 2 else 0)
    let options : List JVMOption := [⟨"uintx", "MinHeapFreeRatio", true, "0", "100", []⟩,
      ⟨"uintx", "MaxHeapFreeRatio", true, "0", "100", []⟩]
    runTests test options = .ok 2 ∧ (runTests test options = .ok 0 ↔
      ∀ o ∈ options, (if o.name = "MaxHeapFreeRatio" then 2 else 0) = 0) :=
  runTests_eq_total _ (fun o => if o.name = "MaxHeapFreeRatio" then 2 else 0) _
    (by simp) (by decide)

end JVMOptionsUtils

end Hotspot
