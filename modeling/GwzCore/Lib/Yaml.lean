import Mathlib

/-!
# Document values

A YAML document as a tree of scalars, sequences, mappings and tagged values. The order of
a mapping's entries is no part of its value, so entries are kept in one canonical order
and two mappings are equal when their lists of entries are. A key that is not a string is
kept by its text. Numbers are kept by their text too.
-/
namespace GwzCore

inductive YamlKey where
  | text (key : String)
  | other (shown : String)
  deriving DecidableEq

inductive YamlScalar where
  | null
  | bool (value : Bool)
  | number (shown : String)
  | string (value : String)
  deriving DecidableEq

inductive Yaml where
  | scalar (value : YamlScalar)
  | sequence (items : List Yaml)
  | mapping (entries : List (YamlKey × Yaml))
  | tagged (tag : String) (value : Yaml)

namespace Yaml

mutual

def decEq : (a b : Yaml) → Decidable (a = b)
  | .scalar a, .scalar b => decidable_of_iff (a = b) (by simp)
  | .sequence as, .sequence bs =>
    match decEqItems as bs with
    | isTrue h => isTrue (by rw [h])
    | isFalse h => isFalse (by intro heq; cases heq; exact h rfl)
  | .mapping as, .mapping bs =>
    match decEqEntries as bs with
    | isTrue h => isTrue (by rw [h])
    | isFalse h => isFalse (by intro heq; cases heq; exact h rfl)
  | .tagged s a, .tagged t b =>
    match decEq a b with
    | isTrue h =>
      if hst : s = t then isTrue (by rw [h, hst])
      else isFalse (by intro heq; cases heq; exact hst rfl)
    | isFalse h => isFalse (by intro heq; cases heq; exact h rfl)
  | .scalar _, .sequence _ | .scalar _, .mapping _ | .scalar _, .tagged _ _
  | .sequence _, .scalar _ | .sequence _, .mapping _ | .sequence _, .tagged _ _
  | .mapping _, .scalar _ | .mapping _, .sequence _ | .mapping _, .tagged _ _
  | .tagged _ _, .scalar _ | .tagged _ _, .sequence _ | .tagged _ _, .mapping _ =>
    isFalse (by intro h; cases h)

def decEqItems : (as bs : List Yaml) → Decidable (as = bs)
  | [], [] => isTrue rfl
  | a :: as, b :: bs =>
    match decEq a b, decEqItems as bs with
    | isTrue ha, isTrue hs => isTrue (by rw [ha, hs])
    | isFalse ha, _ => isFalse (by intro heq; cases heq; exact ha rfl)
    | _, isFalse hs => isFalse (by intro heq; cases heq; exact hs rfl)
  | [], _ :: _ | _ :: _, [] => isFalse (by simp)

def decEqEntries : (as bs : List (YamlKey × Yaml)) → Decidable (as = bs)
  | [], [] => isTrue rfl
  | (k, a) :: as, (l, b) :: bs =>
    match decEq a b, decEqEntries as bs with
    | isTrue ha, isTrue hs =>
      if hk : k = l then isTrue (by rw [ha, hs, hk])
      else isFalse (by intro heq; cases heq; exact hk rfl)
    | isFalse ha, _ => isFalse (by intro heq; cases heq; exact ha rfl)
    | _, isFalse hs => isFalse (by intro heq; cases heq; exact hs rfl)
  | [], _ :: _ | _ :: _, [] => isFalse (by simp)

end

instance : DecidableEq Yaml := decEq

end Yaml

end GwzCore
