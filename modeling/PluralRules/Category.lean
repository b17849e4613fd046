/-!
The six plural categories, their names, and the order in which they are listed.
-/

namespace PluralRules

inductive Category where
  | zero
  | one
  | two
  | few
  | many
  | other
deriving DecidableEq

namespace Category

def all : List Category := [zero, one, two, few, many, other]

def name : Category → String
  | zero => "zero"
  | one => "one"
  | two => "two"
  | few => "few"
  | many => "many"
  | other => "other"

def rank : Category → Nat
  | zero => 0
  | one => 1
  | two => 2
  | few => 3
  | many => 4
  | other => 5

def sort (categories : List Category) : List Category :=
  categories.mergeSort fun a b => a.rank ≤ b.rank

structure Unknown where
  name : String
deriving DecidableEq

def Unknown.message (unknown : Unknown) : String :=
  s!"unknown plural category '{unknown.name}', expected one of: "
    ++ ", ".intercalate (all.map Category.name)

def ofName (name : String) : Except Unknown Category :=
  match all.find? fun category => category.name == name with
  | some category => .ok category
  | none => .error ⟨name⟩

theorem ofName_name (category : Category) : ofName category.name = .ok category := by
  cases category <;> rfl

end Category

end PluralRules
