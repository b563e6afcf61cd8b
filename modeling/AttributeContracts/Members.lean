/-
# Named members and their order

A record is kept as the assignments that made it, oldest first, so that nothing
about it is true by construction of the list alone. Three views read it. The
value of a name is its last assignment. A name holds the place of its first
assignment. Enumeration lists index-like names first, ascending, and then the
other names by place. Lookup never sorts and enumeration never looks a name up
twice; the lemmas say that the views speak of the same names.
-/

namespace AttributeContracts

/-- The assignments that made a record, oldest first. -/
abbrev Members (α : Type) := List (String × α)

namespace Members

variable {α β : Type}

/-- The value of a name: its last assignment. -/
def find? : Members α → String → Option α
  | [], _ => none
  | (assigned, value) :: rest, name =>
      match find? rest name with
      | some later => some later
      | none => if assigned = name then some value else none

/-- Whether a name is assigned at all. -/
def declares (members : Members α) (name : String) : Bool :=
  members.any fun member => member.1 = name

/-- The assigned names, each once, by the place of its first assignment. -/
def places : Members α → List String
  | [] => []
  | (name, _) :: rest => name :: (places rest).filter (· ≠ name)

/-- The greatest index-like name. -/
def greatestIndex : Nat := 4294967294

/-- The number an index-like name spells: canonical decimal within the limit. -/
def index? (name : String) : Option Nat :=
  match name.toList with
  | [] => none
  | first :: rest =>
      if (first :: rest).all Char.isDigit ∧ (first ≠ '0' ∨ rest = []) then
        let value := Nat.ofDigitChars 10 (first :: rest) 0
        if value ≤ greatestIndex then some value else none
      else none

/-- Puts an index-like name before the first one that is greater. -/
def insertIndex (index : Nat) (name : String) : List (Nat × String) → List (Nat × String)
  | [] => [(index, name)]
  | other :: rest =>
      if index ≤ other.1 then (index, name) :: other :: rest
      else other :: insertIndex index name rest

/-- The index-like names among some names, ascending. -/
def indexNames : List String → List (Nat × String)
  | [] => []
  | name :: rest =>
      match index? name with
      | some index => insertIndex index name (indexNames rest)
      | none => indexNames rest

/-- Index-like names ascending, then the other names as they come. -/
def ordered (names : List String) : List String :=
  (indexNames names).map Prod.snd ++ names.filter fun name => (index? name).isNone

/-- The own names of a record in the order of enumeration. -/
def names (members : Members α) : List String := ordered (places members)

/-- The members of a record in the order of enumeration. -/
def enumerate (members : Members α) : List (String × α) :=
  (names members).filterMap fun name => (find? members name).map fun value => (name, value)

@[simp] theorem find?_nil (name : String) : find? ([] : Members α) name = none := rfl

theorem find?_cons (assigned : String) (value : α) (rest : Members α) (name : String) :
    find? ((assigned, value) :: rest) name =
      (find? rest name).or (if assigned = name then some value else none) := by
  simp only [find?]
  cases find? rest name <;> rfl

/-- A value found is the value of some assignment of that name. -/
theorem mem_of_find? {members : Members α} {name : String} {value : α}
    (found : find? members name = some value) : (name, value) ∈ members := by
  induction members with
  | nil => simp at found
  | cons member rest ih =>
      obtain ⟨assigned, first⟩ := member
      rw [find?_cons] at found
      cases later : find? rest name with
      | some v =>
          rw [later] at found
          exact List.mem_cons_of_mem _ (ih (later.trans found))
      | none =>
          rw [later] at found
          by_cases same : assigned = name
          · simp_all
          · simp [same] at found

/-- Lookup finds exactly the assigned names. -/
theorem find?_isSome (members : Members α) (name : String) :
    (find? members name).isSome = declares members name := by
  induction members with
  | nil => rfl
  | cons member rest ih =>
      obtain ⟨assigned, value⟩ := member
      rw [find?_cons, Option.isSome_or, ih]
      by_cases same : assigned = name <;> simp [declares, same]

/-- Changing the values keeps the names and maps what is found. -/
theorem find?_map (f : α → β) (members : Members α) (name : String) :
    find? (members.map fun member => (member.1, f member.2)) name =
      (find? members name).map f := by
  induction members with
  | nil => rfl
  | cons member rest ih =>
      obtain ⟨assigned, value⟩ := member
      simp only [List.map_cons, find?_cons, ih]
      cases find? rest name <;> by_cases same : assigned = name <;> simp [same]

end Members

end AttributeContracts
