/-
# Attribute maps

Values by attribute name, in the order in which the names were first put. A name
put again keeps its place and takes the new value. That every name occurs once
is part of the type, so the size is the number of names.
-/

import AttributeContracts.Value

namespace AttributeContracts

/-- Attribute values by name, each name once, in the order of first putting. -/
structure AttributeMap where
  entries : List (String × Value)
  distinct : (entries.map Prod.fst).Nodup

namespace AttributeMap

/-- Overwrites the first entry of a name, or adds one at the end. -/
def putEntry (name : String) (value : Value) : List (String × Value) → List (String × Value)
  | [] => [(name, value)]
  | (other, held) :: rest =>
      if other = name then (name, value) :: rest
      else (other, held) :: putEntry name value rest

theorem map_fst_putEntry (name : String) (value : Value) (entries : List (String × Value)) :
    (putEntry name value entries).map Prod.fst =
      if name ∈ entries.map Prod.fst then entries.map Prod.fst
      else entries.map Prod.fst ++ [name] := by
  induction entries with
  | nil => rfl
  | cons entry rest ih =>
      obtain ⟨other, held⟩ := entry
      by_cases same : other = name
      · simp [putEntry, same]
      · simp only [putEntry, if_neg same, List.map_cons, ih, List.mem_cons]
        by_cases held : name ∈ rest.map Prod.fst
        · simp [held]
        · simp [held, Ne.symm same]

theorem nodup_putEntry (name : String) (value : Value) {entries : List (String × Value)}
    (distinct : (entries.map Prod.fst).Nodup) :
    ((putEntry name value entries).map Prod.fst).Nodup := by
  rw [map_fst_putEntry]
  split
  · exact distinct
  · next absent =>
      refine List.nodup_append.2 ⟨distinct, by simp, ?_⟩
      intro other held last isLast same
      rw [List.mem_singleton] at isLast
      exact absent (isLast ▸ same ▸ held)

def empty : AttributeMap := ⟨[], List.nodup_nil⟩

/-- The value of a name. A name can be present with the value `undefined`. -/
def get? (map : AttributeMap) (name : String) : Option Value :=
  (map.entries.find? fun entry => entry.1 = name).map Prod.snd

def contains (map : AttributeMap) (name : String) : Bool := (map.get? name).isSome

def size (map : AttributeMap) : Nat := map.entries.length

/-- The names in the order in which they were first put. -/
def names (map : AttributeMap) : List String := map.entries.map Prod.fst

def put (map : AttributeMap) (name : String) (value : Value) : AttributeMap :=
  ⟨putEntry name value map.entries, nodup_putEntry name value map.distinct⟩

/-- The map that some entries make when they are put in turn. -/
def ofList (entries : List (String × Value)) : AttributeMap :=
  entries.foldl (fun map entry => map.put entry.1 entry.2) empty

private theorem find?_putEntry (name : String) (value : Value) (asked : String)
    (entries : List (String × Value)) :
    ((putEntry name value entries).find? fun entry => entry.1 = asked).map Prod.snd =
      if asked = name then some value
      else (entries.find? fun entry => entry.1 = asked).map Prod.snd := by
  induction entries with
  | nil => by_cases same : name = asked <;> simp [putEntry, same, eq_comm]
  | cons entry rest ih =>
      obtain ⟨other, held⟩ := entry
      by_cases here : other = name
      · by_cases same : asked = name
        · simp [putEntry, here, same]
        · simp [putEntry, here, same, Ne.symm same]
      · by_cases found : other = asked
        · subst found
          simp [putEntry, here]
        · simp only [putEntry, if_neg here, List.find?_cons, found, decide_false]
          exact ih

/-- A put is seen under its name and nowhere else. -/
theorem get?_put (map : AttributeMap) (name : String) (value : Value) (asked : String) :
    (map.put name value).get? asked = if asked = name then some value else map.get? asked :=
  find?_putEntry name value asked map.entries

@[simp] theorem get?_empty (name : String) : empty.get? name = none := rfl

/-- A put keeps the names, or adds its own at the end. -/
theorem names_put (map : AttributeMap) (name : String) (value : Value) :
    (map.put name value).names = if name ∈ map.names then map.names else map.names ++ [name] :=
  map_fst_putEntry name value map.entries

end AttributeMap

end AttributeContracts
