/-
**Paths of addresses.**

A path is the names of directories and of what is in them, each after a slash.  Reading takes the
steps to the same and the parent directory and escapes the characters that may not stand in a name.
Nobody steps out of the first directory, nor out of a drive: a name of a letter and a colon, or a
bar in place of the colon.  A path to a local file has no empty names in front, and its drive is
written with the colon.

Main definitions:

* `ZoneKeeper.Http.Path.isDrive` — the name of a drive;
* `ZoneKeeper.Http.Path.walk` — the names after all steps are taken;
* `ZoneKeeper.Http.Path.ofNames`, `ZoneKeeper.Http.Path.ofFileNames` — the path of some names.
-/

import ZoneKeeper.Http.Percent
import ZoneKeeper.Text.Fields

set_option autoImplicit false

namespace ZoneKeeper.Http.Path

open ZoneKeeper.Text

/-- May stand in a name. -/
def standsInName (c : Char) : Bool :=
  isGraphic c && !([' ', '"', '#', '<', '>', '?', '`', '\x7b', '\x7d'].contains c)

/-- The name stands for the directory it is in. -/
def isSameDirectory (name : List Char) : Bool :=
  name == ['.'] || name.map Char.toLower == ['%', '2', 'e']

/-- The name stands for the parent directory. -/
def isParentDirectory (name : List Char) : Bool :=
  let lower := name.map Char.toLower
  lower == ['.', '.'] || lower == ['.', '%', '2', 'e'] || lower == ['%', '2', 'e', '.'] ||
    lower == ['%', '2', 'e', '%', '2', 'e']

/-- The name is that of a drive. -/
def isDrive : List Char → Bool
  | [letter, mark] => letter.isAlpha && (mark == ':' || mark == '|')
  | _ => false

/-- The name begins with that of a drive, and ends there or goes on with a backslash. -/
def beginsWithDrive (name : List Char) : Bool :=
  isDrive (name.take 2) && (name.drop 2).head?.all (· == '\\')

/-- A drive's name with the colon. -/
def driveName (name : List Char) : List Char :=
  name.take 1 ++ [':']

/-- One step up from the names `done`, latest first. -/
def parent : List (List Char) → List (List Char)
  | [] => []
  | name :: done => if beginsWithDrive name then name :: done else done

/-- The names after all steps are taken; `done` are the names so far, latest first.  A path that
ends in a step ends in the directory itself, which is an empty name.  With `file` set, the first
name may be a drive's. -/
def walk (file : Bool) (done : List (List Char)) : List (List Char) → List (List Char)
  | [] => done.reverse
  | name :: rest =>
      let here := if rest = [] then [[]] else []
      if isParentDirectory name then walk file (here ++ parent done) rest
      else if isSameDirectory name then walk file (here ++ done) rest
      else if file ∧ done = [] ∧ isDrive name then walk file [driveName name] rest
      else walk file (percentEncode standsInName name :: done) rest

/-- The path of names. -/
def ofNames (names : List (List Char)) : List Char :=
  '/' :: joinFields '/' (walk false [] names)

/-- The path of names that lead to a local file, and whether they lead to a drive. -/
def ofFileNames (names : List (List Char)) : List Char × Bool :=
  let walked := walk true [] names
  ('/' :: (joinFields '/' walked).dropWhile (· == '/'), (walked.head?.map isDrive).getD false)

end ZoneKeeper.Http.Path
