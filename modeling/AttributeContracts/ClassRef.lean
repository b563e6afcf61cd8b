/-
# Class references

A class carries its identity, its name and the chain of classes it extends. The
chain of a class that was made without a parent ends with the class of all
objects; only a class that extends nothing at all is outside of it. Two classes
may share a name; sameness is equality of the whole chain, and a class made
twice differs in identity. Subclassing is reflexive and follows the chain.
-/

namespace AttributeContracts

/-- What tells two otherwise alike things apart: a name that this library keeps
for its own, or a serial number drawn once. -/
inductive Identity where
  | named (name : String)
  | drawn (serial : Nat)
deriving DecidableEq, Repr

/-- A class, with the class that it extends. -/
inductive ClassRef where
  /-- A class that extends nothing. -/
  | root (identity : Identity) (name : String)
  | derived (identity : Identity) (name : String) (parent : ClassRef)
deriving DecidableEq, Repr

namespace ClassRef

def name : ClassRef → String
  | .root _ name => name
  | .derived _ name _ => name

/-- Whether a class is another one or extends it, directly or not. -/
def isSubclassOf : ClassRef → ClassRef → Bool
  | .root identity name, base => base = .root identity name
  | .derived identity name parent, base =>
      base = .derived identity name parent || parent.isSubclassOf base

@[simp] theorem isSubclassOf_self (c : ClassRef) : c.isSubclassOf c = true := by
  cases c <;> simp [isSubclassOf]

theorem isSubclassOf_trans {a b c : ClassRef} (first : a.isSubclassOf b = true)
    (second : b.isSubclassOf c = true) : a.isSubclassOf c = true := by
  induction a with
  | root identity name => simp_all [isSubclassOf]
  | derived identity name parent ih =>
      rw [isSubclassOf, Bool.or_eq_true, decide_eq_true_eq] at first
      rcases first with rfl | above
      · exact second
      · rw [isSubclassOf, ih above, Bool.or_true]

/-- The class of all objects. -/
def object : ClassRef := .root (.named "Object") "Object"

/-- Base class of constraint payloads. -/
def payload : ClassRef := .derived (.named "Payload") "Payload" .object

/-- The default validation group. -/
def defaultGroup : ClassRef := .derived (.named "Default") "Default" .object

end ClassRef

end AttributeContracts
