/-
**Labels in ASCII.**

A label with characters beyond ASCII is written as its ASCII characters, a hyphen if there are any,
and the others as numbers.  The others are taken by code point and, among equal ones, by place; each
is given by how many steps it is from the one before, a step being a place in the label or, past its
end, the next code point.  A number is written with digits of base 36, the lowest first; a digit
below a threshold ends it.  The thresholds follow the sizes of the numbers before.

Main definitions:

* `ZoneKeeper.Host.Punycode.encode` — the written form of a label;
* `ZoneKeeper.Host.Punycode.decode?` — the label that a written form stands for.
-/

import ZoneKeeper.Unicode.Table

set_option autoImplicit false

namespace ZoneKeeper.Host.Punycode

open ZoneKeeper.Unicode

/-! ### Digits and thresholds -/

/-- The digit of a value below 36: letters first. -/
def digit (n : Nat) : Char :=
  if n < 26 then Char.ofNat ('a'.toNat + n) else Char.ofNat ('0'.toNat + (n - 26))

/-- The value of a digit. -/
def digitValue? (c : Char) : Option Nat :=
  if 'a' ≤ c ∧ c ≤ 'z' then some (c.toNat - 'a'.toNat)
  else if '0' ≤ c ∧ c ≤ '9' then some (c.toNat - '0'.toNat + 26)
  else none

/-- The threshold at a position, which is counted in steps of 36 from 36 on. -/
def threshold (bias position : Nat) : Nat :=
  if position ≤ bias then 1 else if bias + 26 ≤ position then 26 else position - bias

theorem threshold_pos (bias position : Nat) : 1 ≤ threshold bias position := by
  unfold threshold
  split
  · omega
  · split <;> omega

theorem threshold_le (bias position : Nat) : threshold bias position ≤ 26 := by
  unfold threshold
  split
  · omega
  · split <;> omega

/-- How many times a size can be divided by 35 until it is at most 455, and what is left then. -/
def shrink (times size : Nat) : Nat × Nat :=
  if 455 < size then shrink (times + 1) (size / 35) else (times, size)
termination_by size
decreasing_by exact Nat.div_lt_self (by omega) (by omega)

/-- The bias after a number, of which `count` have been written with it. -/
def adapt (isFirst : Bool) (number count : Nat) : Nat :=
  let damped := if isFirst then number / 700 else number / 2
  let (times, rest) := shrink 0 (damped + damped / count)
  36 * times + 36 * rest / (rest + 38)

/-! ### Writing -/

/-- The digits of a number from a position on. -/
def writeNumber (bias position number : Nat) : List Char :=
  let t := threshold bias position
  if number < t then [digit number]
  else
    digit (t + (number - t) % (36 - t)) ::
      writeNumber bias (position + 36) ((number - t) / (36 - t))
termination_by number
decreasing_by
  have := threshold_pos bias position
  have := threshold_le bias position
  calc (number - threshold bias position) / (36 - threshold bias position)
      ≤ number - threshold bias position := Nat.div_le_self _ _
    _ < number := by omega

/-- What has been written, and where the next character is counted from. -/
structure Writer where
  written : List Char := []
  /-- The steps since the last character written. -/
  steps : Nat := 0
  bias : Nat := 72
  /-- How many characters of the label are written. -/
  count : Nat

/-- Passes a character of the label in the round of `code`. -/
def Writer.pass (basic code : Nat) (w : Writer) (c : Char) : Writer :=
  if c.toNat < code then { w with steps := w.steps + 1 }
  else if c.toNat = code then
    { written := w.written ++ writeNumber w.bias 36 w.steps
      steps := 0
      bias := adapt (w.count == basic) w.steps (w.count + 1)
      count := w.count + 1 }
  else w

/-- The rounds of the code points `codes`, with `next` the first one that has had none. -/
def Writer.rounds (label : List Char) (basic : Nat) (w : Writer) (next : Nat) :
    List Nat → Writer
  | [] => w
  | code :: codes =>
      let start := { w with steps := w.steps + (code - next) * (w.count + 1) }
      let passed := label.foldl (pass basic code) start
      rounds label basic { passed with steps := passed.steps + 1 } (code + 1) codes

/-- Puts a number into ascending ones, unless it is among them. -/
def insertCode (n : Nat) : List Nat → List Nat
  | [] => [n]
  | m :: ms => if n < m then n :: m :: ms else if n = m then m :: ms else m :: insertCode n ms

/-- The code points beyond ASCII in a label, ascending. -/
def codesOf (label : List Char) : List Nat :=
  ((label.filter (!isAscii ·)).map Char.toNat).foldr insertCode []

/-- The written form of a label. -/
def encode (label : List Char) : List Char :=
  let basic := label.filter isAscii
  let writer : Writer := { count := basic.length }
  (if basic = [] then [] else basic ++ ['-']) ++
    (writer.rounds label basic.length 0x80 (codesOf label)).written

/-! ### Reading -/

/-- Reads a number from a position on: `total` so far, with the next digit worth `weight`. -/
def readNumber? (bias position weight total : Nat) : List Char → Option (Nat × List Char)
  | [] => none
  | c :: r =>
      match digitValue? c with
      | none => none
      | some d =>
          let t := threshold bias position
          if d < t then some (total + d * weight, r)
          else readNumber? bias (position + 36) (weight * (36 - t)) (total + d * weight) r

/-- Reading a number uses characters up. -/
theorem length_of_readNumber? {bias position weight total number : Nat} {cs rest : List Char}
    (h : readNumber? bias position weight total cs = some (number, rest)) :
    rest.length < cs.length := by
  induction cs generalizing position weight total with
  | nil => simp [readNumber?] at h
  | cons c r ih =>
      rw [readNumber?] at h
      split at h
      · simp at h
      · dsimp only at h
        split at h
        · obtain ⟨-, rfl⟩ := Prod.mk.inj (Option.some.inj h)
          simp
        · have := ih h
          simp only [List.length_cons]
          omega

/-- A code point that is a character. -/
def charOf? (code : Nat) : Option Char :=
  if code < 0xD800 ∨ (0xDFFF < code ∧ code < 0x110000) then some (Char.ofNat code) else none

/-- Puts the characters that the numbers stand for into a label: `place` and `code` are those of the
next one if its number is zero. -/
def fill? (bias code place : Nat) (label cs : List Char) : Option (List Char) :=
  if cs = [] then some label
  else
    match h : readNumber? bias 36 1 0 cs with
    | none => none
    | some (number, rest) =>
        have := length_of_readNumber? h
        let size := label.length + 1
        let code := code + (place + number) / size
        let place := (place + number) % size
        match charOf? code with
        | none => none
        | some c =>
            fill? (adapt (label.all isAscii) number size) code (place + 1)
              (label.insertIdx place c) rest
termination_by cs.length

/-- What stands before the last hyphen and what stands after it.  All is after it if there is none or
if nothing stands before it: the hyphen follows ASCII characters only. -/
def splitLastHyphen (cs : List Char) : List Char × List Char :=
  match (cs.reverse.dropWhile (· != '-')).drop 1 with
  | [] => ([], cs)
  | basic => (basic.reverse, (cs.reverse.takeWhile (· != '-')).reverse)

/-- The label that a written form stands for. -/
def decode? (cs : List Char) : Option (List Char) :=
  let (basic, numbers) := splitLastHyphen cs
  if basic.all isAscii then fill? 72 0x80 0 basic numbers else none

end ZoneKeeper.Host.Punycode
