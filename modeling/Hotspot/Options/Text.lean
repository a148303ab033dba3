import Mathlib.Data.List.Basic

/-!
# The Java text primitives of the option-validation tests

`JVMOptionsUtils.getJVMOptions` (`test/runtime/CommandLine/OptionsValidation`) reads the
`-XX:+PrintFlagsRanges` listing with `BufferedReader.readLine`, splits each line with a default
`StringTokenizer`, cuts the origin out with `indexOf` and `substring`, and `new Integer(...)`
parses a bound in one dependency.  This module gives those library calls the meaning the parser
relies on, with the exceptions they throw as errors.

Java strings are taken as sequences of Unicode scalar values; the only positions the parser
computes are those of `{` and `}`, which are one UTF-16 unit each, so counting in scalar values
cuts out the same text.

## Main definitions

* `readLines`: the lines `readLine` returns, up to the end of the stream
* `tokenize`, `StringTokenizer`: the tokens of a default `StringTokenizer`
* `indexOf`, `substring`, `startsWith`, `contains`: the `String` methods used
* `Character.digit`, `parseInt`, `intSub`: the decimal digits of `new Integer(s)`, its value,
  and `int` subtraction

## Main results

* `tokenize_intercalate`: a default `StringTokenizer` hands back the words of a line written
  with single spaces
* `readLines_intercalate`: `readLine` hands back the lines of a text written with line feeds
-/

namespace Hotspot

/-- The unchecked exceptions the parser can raise. -/
inductive JavaException
  | NoSuchElementException
  | StringIndexOutOfBoundsException
  | NumberFormatException (s : String)
  deriving DecidableEq, Repr

namespace Java

/-- `BufferedReader.readLine` called until it returns `null`: the lines of the text, each
ended by `\n`, `\r` or `\r\n`.  `line` is the part of the current line read so far; a last line
without a terminator counts, an empty one does not. -/
def readLines (line : List Char) : List Char → List String
  | [] => if line.isEmpty then [] else [String.mk line]
  | '\n' :: rest => String.mk line :: readLines [] rest
  | '\r' :: '\n' :: rest => String.mk line :: readLines [] rest
  | '\r' :: rest => String.mk line :: readLines [] rest
  | c :: rest => readLines (line ++ [c]) rest

/-- The delimiters of a `StringTokenizer` built without any: `" \t\n\r\f"`. -/
def isDelimiter (c : Char) : Bool :=
  c == ' ' || c == '\t' || c == '\n' || c == '\r' || c == '\x0c'

/-- The tokens of a default `StringTokenizer`, the maximal runs of non-delimiters, scanning with
the open `token` as a carry. -/
def tokenize (token : List Char) : List Char → List String
  | [] => if token.isEmpty then [] else [String.mk token]
  | c :: rest =>
    if isDelimiter c then
      if token.isEmpty then tokenize [] rest else String.mk token :: tokenize [] rest
    else tokenize (token ++ [c]) rest

/-- A `StringTokenizer`: the tokens it has still to hand out. -/
structure StringTokenizer where
  tokens : List String

namespace StringTokenizer

/-- `new StringTokenizer(str)`. -/
def new (str : String) : StringTokenizer := ⟨tokenize [] str.data⟩

/-- `StringTokenizer.nextToken`. -/
def nextToken (st : StringTokenizer) : Except JavaException (String × StringTokenizer) :=
  match st.tokens with
  | [] => .error .NoSuchElementException
  | t :: ts => .ok (t, ⟨ts⟩)

/-- `StringTokenizer.hasMoreTokens`. -/
def hasMoreTokens (st : StringTokenizer) : Bool := !st.tokens.isEmpty

@[simp] theorem nextToken_cons (t : String) (ts : List String) :
    nextToken ⟨t :: ts⟩ = .ok (t, ⟨ts⟩) := rfl

@[simp] theorem nextToken_nil : nextToken ⟨[]⟩ = .error .NoSuchElementException := rfl

end StringTokenizer

/-- `String.startsWith`. -/
def startsWith (s pre : String) : Bool := pre.data.isPrefixOf s.data

/-- `sub` occurs in a list of characters. -/
def containsChars (sub : List Char) : List Char → Bool
  | [] => sub.isEmpty
  | c :: cs => sub.isPrefixOf (c :: cs) || containsChars sub cs

/-- `String.contains`. -/
def contains (s sub : String) : Bool := containsChars sub.data s.data

/-- `String.indexOf` of a one-character string: the first position of `c`, or `-1`. -/
def indexOf (s : String) (c : Char) : Int :=
  match s.data.findIdx? (· == c) with
  | some i => i
  | none => -1

/-- `String.substring(beginIndex, endIndex)`. -/
def substring (s : String) (beginIndex endIndex : Int) : Except JavaException String :=
  if 0 ≤ beginIndex ∧ beginIndex ≤ endIndex ∧ endIndex ≤ s.length then
    .ok (String.mk ((s.data.drop beginIndex.toNat).take (endIndex - beginIndex).toNat))
  else .error .StringIndexOutOfBoundsException

namespace Character

/-- The code point of the digit zero of each set of decimal digits (Unicode general category
`Nd`) in the Basic Multilingual Plane, from Unicode 7.0 on; each set is the ten code points
from its zero. -/
def decimalDigitZeros : List Nat :=
  [0x30, 0x660, 0x6F0, 0x7C0, 0x966, 0x9E6, 0xA66, 0xAE6, 0xB66, 0xBE6, 0xC66, 0xCE6, 0xD66,
    0xDE6, 0xE50, 0xED0, 0xF20, 0x1040, 0x1090, 0x17E0, 0x1810, 0x1946, 0x19D0, 0x1A80, 0x1A90,
    0x1B50, 0x1BB0, 0x1C40, 0x1C50, 0xA620, 0xA8D0, 0xA900, 0xA9D0, 0xA9F0, 0xAA50, 0xABF0,
    0xFF10]

/-- `Character.digit(ch, 10)`: the value of a decimal digit of any script, and `none` where
Java returns `-1`.  A Java `char` is a UTF-16 unit, so a character beyond the Basic
Multilingual Plane is two surrogates there, neither of them a digit. -/
def digit (ch : Char) : Option Nat :=
  (decimalDigitZeros.find? fun z => z ≤ ch.toNat && ch.toNat < z + 10).map (ch.toNat - ·)

end Character

/-- The value of a string of decimal digits, from the values of its digits. -/
def digitsValue (ds : List Nat) : Nat :=
  ds.foldl (fun n d => 10 * n + d) 0

/-- `Integer.parseInt(s)`, which `new Integer(s)` calls: an optional sign, then at least one
decimal digit of any script (`Character.digit(c, 10)`), with the value in the range of
`int`. -/
def parseInt (s : String) : Except JavaException Int :=
  let (negative, cs) : Bool × List Char := match s.data with
    | '-' :: cs => (true, cs)
    | '+' :: cs => (false, cs)
    | cs => (false, cs)
  match cs.mapM Character.digit with
  | some (d :: ds) =>
    let v : Int := if negative then -(digitsValue (d :: ds) : Int) else digitsValue (d :: ds)
    if -2147483648 ≤ v ∧ v ≤ 2147483647 then .ok v else .error (.NumberFormatException s)
  | _ => .error (.NumberFormatException s)

/-- `int` subtraction, wrapping around at 32 bits. -/
def intSub (a b : Int) : Int :=
  (a - b + 2147483648) % 4294967296 - 2147483648

/-! ## Evaluation lemmas -/

@[simp] theorem except_ok_bind {ε α β : Type} (a : α) (f : α → Except ε β) :
    (Except.ok a >>= f) = f a := rfl

@[simp] theorem except_error_bind {ε α β : Type} (e : ε) (f : α → Except ε β) :
    (Except.error e >>= f) = .error e := rfl

/-- The first `}` of a list that holds one, and the characters before it. -/
theorem findIdx?_close_brace : ∀ {cs : List Char}, '}' ∈ cs →
    ∃ k, cs.findIdx? (· == '}') = some k ∧ cs.take k = cs.takeWhile (· != '}') ∧ k ≤ cs.length
  | c :: cs, h => by
    by_cases hc : c = '}'
    · subst hc
      exact ⟨0, by simp, by simp, by simp⟩
    · obtain ⟨k, hk, htake, hle⟩ :=
        findIdx?_close_brace ((List.mem_cons.1 h).resolve_left (Ne.symm hc))
      refine ⟨k + 1, by simp [hc, hk], by simp [hc, htake], by simp; omega⟩

/-- `s.substring(1, s.indexOf("}"))` on a string that opens with `{` and holds a `}`: the
text between the `{` and the first `}`. -/
theorem substring_indexOf_close {cs : List Char} (h : '}' ∈ cs) :
    substring (String.mk ('{' :: cs)) 1 (indexOf (String.mk ('{' :: cs)) '}') =
      .ok (String.mk (cs.takeWhile (· != '}'))) := by
  obtain ⟨k, hk, htake, hle⟩ := findIdx?_close_brace h
  simp [substring, indexOf, hk, htake]
  omega

/-! ## Round trips

A line printed as its words with one space between them, and a text printed as its lines with
a line feed between them, read back as those words and lines.  Both readers scan with an open
carry, so each proof extends the carry by one run of ordinary characters
(`tokenize_append_word`, `readLines_append_line`) and then closes it at the separator. -/

theorem intercalate_cons_cons {α : Type} (sep x y : List α) (xs : List (List α)) :
    List.intercalate sep (x :: y :: xs) = x ++ sep ++ List.intercalate sep (y :: xs) := by
  simp [List.intercalate]

/-- A character of words joined by `sep` is in `sep` or in one of the words. -/
theorem mem_intercalate {α : Type} {sep : List α} {a : α} :
    ∀ {xs : List (List α)}, a ∈ List.intercalate sep xs → a ∈ sep ∨ ∃ x ∈ xs, a ∈ x
  | [], h => by simp [List.intercalate] at h
  | [x], h => .inr ⟨x, .head _, by simpa [List.intercalate] using h⟩
  | x :: y :: xs, h => by
    rw [intercalate_cons_cons, List.mem_append, List.mem_append] at h
    rcases h with (h | h) | h
    · exact .inr ⟨x, .head _, h⟩
    · exact .inl h
    · obtain h | ⟨z, hz, h⟩ := mem_intercalate h
      · exact .inl h
      · exact .inr ⟨z, .tail _ hz, h⟩

theorem isDelimiter_space : isDelimiter ' ' = true := rfl

/-- A run of non-delimiters extends the open token. -/
theorem tokenize_append_word : ∀ (token w rest : List Char),
    (∀ c ∈ w, isDelimiter c = false) → tokenize token (w ++ rest) = tokenize (token ++ w) rest
  | token, [], rest, _ => by simp
  | token, c :: w, rest, hw => by
    rw [List.cons_append, tokenize, if_neg (by simp [hw c (.head _)]),
      tokenize_append_word _ w rest fun c h => hw c (.tail _ h)]
    simp

/-- **Round trip of a line**: words that are nonempty runs of non-delimiters, written with one
space between them, are the tokens of the line. -/
theorem tokenize_intercalate : ∀ (ws : List String),
    (∀ w ∈ ws, w.data ≠ [] ∧ ∀ c ∈ w.data, isDelimiter c = false) →
    tokenize [] (List.intercalate [' '] (ws.map String.data)) = ws
  | [], _ => rfl
  | [w], h => by
    have hw := h w (.head _)
    simpa [List.intercalate, tokenize, hw.1] using tokenize_append_word [] w.data [] hw.2
  | w :: w' :: ws, h => by
    have hw := h w (.head _)
    rw [List.map_cons, List.map_cons, intercalate_cons_cons, List.append_assoc,
      tokenize_append_word [] w.data _ hw.2, List.nil_append, List.singleton_append, tokenize,
      if_pos isDelimiter_space, if_neg (by simpa using hw.1), ← List.map_cons,
      tokenize_intercalate (w' :: ws) fun v hv => h v (.tail _ hv)]

/-- A run of characters other than line terminators extends the line being read. -/
theorem readLines_append_line : ∀ (line l rest : List Char),
    (∀ c ∈ l, c ≠ '\n' ∧ c ≠ '\r') → readLines line (l ++ rest) = readLines (line ++ l) rest
  | line, [], rest, _ => by simp
  | line, c :: l, rest, hl => by
    obtain ⟨hn, hr⟩ := hl c (.head _)
    rw [List.cons_append, readLines.eq_5 _ _ _ hn (fun _ h => absurd h hr) hr,
      readLines_append_line _ l rest fun c h => hl c (.tail _ h)]
    simp

/-- **Round trip of a text**: nonempty lines without line terminators, written with a line feed
between them, are the lines `readLine` returns. -/
theorem readLines_intercalate : ∀ (ls : List String),
    (∀ l ∈ ls, l.data ≠ [] ∧ ∀ c ∈ l.data, c ≠ '\n' ∧ c ≠ '\r') →
    readLines [] (List.intercalate ['\n'] (ls.map String.data)) = ls
  | [], _ => rfl
  | [l], h => by
    have hl := h l (.head _)
    simpa [List.intercalate, readLines, hl.1] using readLines_append_line [] l.data [] hl.2
  | l :: l' :: ls, h => by
    have hl := h l (.head _)
    rw [List.map_cons, List.map_cons, intercalate_cons_cons, List.append_assoc,
      readLines_append_line [] l.data _ hl.2, List.nil_append, List.singleton_append, readLines,
      ← List.map_cons, readLines_intercalate (l' :: ls) fun v hv => h v (.tail _ hv)]

/-- A first line without line terminators, empty or not, is the first line `readLine` returns:
the lines after it read as if it were not there. -/
theorem readLines_tail_intercalate (first : List Char) (ls : List (List Char))
    (hfirst : ∀ c ∈ first, c ≠ '\n' ∧ c ≠ '\r') :
    (readLines [] (List.intercalate ['\n'] (first :: ls))).tail =
      readLines [] (List.intercalate ['\n'] ls) := by
  cases ls with
  | nil =>
    have hone : List.intercalate ['\n'] [first] = first ++ [] := by simp [List.intercalate]
    rw [hone, readLines_append_line [] first [] hfirst, readLines]
    split <;> rfl
  | cons l ls =>
    rw [intercalate_cons_cons, List.append_assoc, readLines_append_line [] first _ hfirst,
      List.nil_append, List.singleton_append, readLines, List.tail_cons]

end Java

end Hotspot
