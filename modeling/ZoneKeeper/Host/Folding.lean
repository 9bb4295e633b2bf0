/-
**Folding of host names.**

Host names that differ only in case, in width or in another way of writing the same characters are
the same name.  Folding replaces each character by the ones it stands for, leaves out those that
are not seen, and refuses those that may not stand in a name.  In ASCII it is the lower case.

Main definitions:

* `ZoneKeeper.Host.FoldingRule` — what the characters of a range are folded to;
* `ZoneKeeper.Host.foldChar?` — what a character is folded to;
* `ZoneKeeper.Host.fold?` — the folded name in its composed normal form;
* `ZoneKeeper.Host.isFolded` — a character that folding keeps.
-/

import ZoneKeeper.Host.FoldingTable
import ZoneKeeper.Unicode.Normal

set_option autoImplicit false

namespace ZoneKeeper.Host

open ZoneKeeper.Text ZoneKeeper.Unicode

/-- What the characters of a range are folded to. -/
inductive FoldingRule
  /-- Each of them to these characters. -/
  | to (cs : List Char)
  /-- The first one to this character, the others in step. -/
  | inStep (first : Nat)
  /-- Every second one, from the first on, to the one after it. -/
  | pairs
  deriving DecidableEq, Repr

/-- The range and the rule that a word of the table stands for. -/
def readFolding (word : List Char) : Range × FoldingRule :=
  let range := readRange (word.takeWhile fun c => hexDigitOrHyphen c)
  match word.dropWhile fun c => hexDigitOrHyphen c with
  | ['='] => (range, .to [])
  | '=' :: cs => (range, .to ((fields '+' cs).map (Char.ofNat ∘ hexNumber)))
  | '>' :: cs => (range, .inStep (hexNumber cs))
  | _ => (range, .pairs)
where
  /-- Part of a range. -/
  hexDigitOrHyphen (c : Char) : Bool := c == '-' || (hexValue? c).isSome

/-- The rules of the table with their ranges. -/
def foldings : List (Range × FoldingRule) :=
  (tableWords foldingTable).map readFolding

/-- The ranges of characters that may not stand in a name. -/
def refusedRanges : List Range := readRanges refusedTable

/-- What the rule of a range says of a character in it. -/
def FoldingRule.apply (range : Range) (c : Char) : FoldingRule → List Char
  | .to cs => cs
  | .inStep first => [Char.ofNat (first + (c.toNat - range.first))]
  | .pairs => if (c.toNat - range.first) % 2 = 0 then [Char.ofNat (c.toNat + 1)] else [c]

/-- What a character is folded to, if it may stand in a name. -/
def foldChar? (c : Char) : Option (List Char) :=
  if isAscii c then some [c.toLower]
  else
    match foldings.find? (·.1.contains c) with
    | some (range, rule) => some (rule.apply range c)
    | none => if covers refusedRanges c then none else some [c]

/-- The folded name, if all its characters may stand in one. -/
def fold? (cs : List Char) : Option (List Char) :=
  if cs.all isAscii then some (cs.map Char.toLower)
  else (cs.mapM foldChar?).map fun folded => normalize folded.flatten

/-- Folding keeps the character. -/
def isFolded (c : Char) : Bool :=
  foldChar? c == some [c]

end ZoneKeeper.Host
