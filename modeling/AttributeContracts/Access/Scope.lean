/-
# Access scopes

Reading attributes off a constraint and making one are guarded by permissions. A
scope grants them always, or only while one of its privileged blocks is open, or
by scripted rules. A restricted scope counts its open blocks, because a plain
flag would be cleared by the inner of two nested blocks.

A scope also remembers what was asked of it: each block entered and left, and
each check with the elevation it saw.
-/

import AttributeContracts.Failure

namespace AttributeContracts

/-- The two guarded operations. -/
inductive Permission where
  | readAttributes
  | createInstance
deriving DecidableEq, Repr

/-- A permission as it is spelled in messages and rules. -/
def Permission.text : Permission → String
  | .readAttributes => "read-attributes"
  | .createInstance => "create-instance"

/-- How access is granted by configuration. -/
inductive AccessMode where
  | unrestricted
  | restricted
deriving DecidableEq, Repr

def AccessMode.text : AccessMode → String
  | .unrestricted => "unrestricted"
  | .restricted => "restricted"

/-- The mode of a name. -/
def AccessMode.ofText? : String → Option AccessMode
  | "unrestricted" => some .unrestricted
  | "restricted" => some .restricted
  | _ => none

/-- What happened to a scope. -/
inductive ScopeEvent where
  | enter
  /-- The elevation is the one after the block. -/
  | leave (elevated : Bool)
  | check (permission : String) (elevated : Bool)
deriving DecidableEq, Repr

/-- What a scripted rule does when its permission is checked. -/
inductive Denial where
  | denied
  | failing (message : String)
  | raising (value : Value)
  /-- Grants or fails by what the scope has seen so far. -/
  | judging (verdict : List ScopeEvent → Except Failure Unit)

/-- How a scope grants permissions. -/
inductive ScopeRule where
  | unrestricted
  /-- Grants everything inside a privileged block; counts the open ones. -/
  | restricted (depth : Nat)
  /-- Follows a rule for each listed permission and grants all others. -/
  | scripted (denials : Members Denial)

/-- A scope and the events it has seen, oldest first. -/
structure Scope where
  rule : ScopeRule
  events : List ScopeEvent

namespace Scope

/-- The scope of a mode of access, with no block open. -/
def ofMode : AccessMode → Scope
  | .unrestricted => ⟨.unrestricted, []⟩
  | .restricted => ⟨.restricted 0, []⟩

/-- The number of open privileged blocks that a scope counts. -/
def depth (scope : Scope) : Nat :=
  match scope.rule with
  | .restricted depth => depth
  | _ => 0

/-- Whether a privileged block is open; only a restricted scope is ever elevated. -/
def elevated (scope : Scope) : Bool := 0 < scope.depth

/-- Opens a privileged block. -/
def enter (scope : Scope) : Scope :=
  let rule := match scope.rule with
    | .restricted depth => .restricted (depth + 1)
    | rule => rule
  ⟨rule, scope.events ++ [.enter]⟩

/-- Closes a privileged block. -/
def leave (scope : Scope) : Scope :=
  let rule := match scope.rule with
    | .restricted depth => .restricted (depth - 1)
    | rule => rule
  let closed : Scope := ⟨rule, scope.events⟩
  ⟨rule, scope.events ++ [.leave closed.elevated]⟩

/-- Whether a permission is granted now. -/
def grants (scope : Scope) (permission : String) : Except Failure Unit :=
  match scope.rule with
  | .unrestricted => .ok ()
  | .restricted depth => if 0 < depth then .ok () else .error (.accessDenied permission)
  | .scripted denials =>
      match Members.find? denials permission with
      | none => .ok ()
      | some .denied => .error (.accessDenied permission)
      | some (.failing message) => .error (.scripted message)
      | some (.raising value) => .error (.thrown value)
      | some (.judging verdict) => verdict scope.events

/-- Remembers that a permission is about to be checked. -/
def checking (scope : Scope) (permission : String) : Scope :=
  ⟨scope.rule, scope.events ++ [.check permission scope.elevated]⟩

end Scope

end AttributeContracts
