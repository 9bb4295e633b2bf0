/-
**The composed normal form.**

Texts that mean the same can differ in two ways: a composite can be written as its parts, and marks
that do not touch can stand in any order.  In the normal form every composite that can be formed is
formed.  It is reached in three steps: composites are taken apart, the marks of each letter are
sorted by their class, and what can be joined is joined from the left.

Main definitions:

* `ZoneKeeper.Unicode.sortMarks` — sorting the marks;
* `ZoneKeeper.Unicode.joinParts` — joining what can be joined;
* `ZoneKeeper.Unicode.normalize` — the normal form.
-/

import ZoneKeeper.Unicode.CombiningClass
import ZoneKeeper.Unicode.Composite

set_option autoImplicit false

namespace ZoneKeeper.Unicode

/-- Puts a mark into sorted ones.  It goes behind marks of a lower class only, so marks of the same
class keep their order. -/
def placeMark (mark : Char) : List Char → List Char
  | [] => [mark]
  | c :: r =>
      if 0 < combiningClass c ∧ combiningClass c < combiningClass mark then c :: placeMark mark r
      else mark :: c :: r

/-- The text with the marks between any two other characters sorted by their class. -/
def sortMarks : List Char → List Char
  | [] => []
  | c :: r => if combiningClass c = 0 then c :: sortMarks r else placeMark c (sortMarks r)

/-- The character cannot be joined across those that stand between, latest first: one of its own
class or a higher one is among them. -/
def isBlocked (between : List Char) (c : Char) : Bool :=
  match between with
  | [] => false
  | d :: _ => combiningClass c ≤ combiningClass d

/-- Joins what follows the character `base` and the marks `after` it that could not be joined,
latest first. -/
def joinFrom (base : Char) (after : List Char) : List Char → List Char
  | [] => base :: after.reverse
  | c :: r =>
      match if isBlocked after c then none else join? base c with
      | some whole => joinFrom whole after r
      | none =>
          if combiningClass c = 0 then base :: after.reverse ++ joinFrom c [] r
          else joinFrom base (c :: after) r

/-- The text with everything joined that can be. -/
def joinParts : List Char → List Char
  | [] => []
  | c :: r => if combiningClass c = 0 then joinFrom c [] r else c :: joinParts r

/-- The normal form of a text. -/
def normalize (cs : List Char) : List Char :=
  joinParts (sortMarks (cs.flatMap parts))

end ZoneKeeper.Unicode
