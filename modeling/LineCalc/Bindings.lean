/-!
# Bindings of names

Names are bound in the order in which they first appear. Binding a name again
replaces its value and keeps its place; no name is ever removed.
-/

namespace LineCalc

/-- Names and their values, in the order of first appearance. -/
structure Bindings (α : Type) where
  entries : List (String × α)

namespace Bindings

variable {α : Type}

/-- No bindings. -/
def empty : Bindings α := ⟨[]⟩

/-- The value of a name in a list of entries. -/
def find? (name : String) : List (String × α) → Option α
  | [] => none
  | entry :: rest => if entry.1 = name then some entry.2 else find? name rest

/-- A list of entries with the value of a name replaced, or added at the end. -/
def put (name : String) (value : α) : List (String × α) → List (String × α)
  | [] => [(name, value)]
  | entry :: rest =>
      if entry.1 = name then (name, value) :: rest else entry :: put name value rest

/-- The value of a name. -/
def get? (bindings : Bindings α) (name : String) : Option α := find? name bindings.entries

/-- Whether a name is bound. -/
def contains (bindings : Bindings α) (name : String) : Bool := (bindings.get? name).isSome

/-- Bind a name, or bind it again. -/
def insert (bindings : Bindings α) (name : String) (value : α) : Bindings α :=
  ⟨put name value bindings.entries⟩

/-- Bind the names of a list in order; a later value of a name wins. -/
def ofList (entries : List (String × α)) : Bindings α :=
  entries.foldl (fun bindings entry => bindings.insert entry.1 entry.2) empty

/-- The names in order. -/
def names (bindings : Bindings α) : List String := bindings.entries.map Prod.fst

@[simp] theorem get?_empty (name : String) : (empty : Bindings α).get? name = none := rfl

theorem find?_put (name other : String) (value : α) (entries : List (String × α)) :
    find? other (put name value entries) =
      if name = other then some value else find? other entries := by
  induction entries with
  | nil => simp [put, find?]
  | cons entry rest ih =>
      by_cases h : entry.1 = name
      · by_cases h' : name = other <;> simp_all [put, find?]
      · by_cases h' : entry.1 = other
        · subst h'
          simp [put, find?, h, Ne.symm h]
        · simp [put, find?, h, h', ih]

/-- Binding a name changes the value of that name only. -/
@[simp] theorem get?_insert (bindings : Bindings α) (name other : String) (value : α) :
    (bindings.insert name value).get? other =
      if name = other then some value else bindings.get? other := by
  simp [get?, insert, find?_put]

end Bindings

end LineCalc
