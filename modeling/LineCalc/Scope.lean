import LineCalc.Line

/-!
# Scopes

A scope is a set of bindings that is worked on step by step. The bindings stand in
a cell of a store, and binding a name changes this cell in place. A view is the
address of a cell: looking through it reads the cell as it is at that moment, and
nothing can be written through it. A step that fails leaves the bindings as they
were.

## Implementation notes

A view knows its cell and not the scope that gave it out. That it shows the
bindings of the scope is a fact about the steps and no part of the definition.
-/

namespace LineCalc

/-- Cells that hold bindings. The address of a cell is its place in the list. -/
structure Store where
  cells : List (Bindings Float)

namespace Store

/-- The number of cells, which is also the address of the next new one. -/
def size (store : Store) : Nat := store.cells.length

/-- The bindings in a cell. Where there is no cell there are none. -/
def read (store : Store) (address : Nat) : Bindings Float := store.cells.getD address .empty

/-- Replace the bindings in a cell. -/
def write (store : Store) (address : Nat) (bindings : Bindings Float) : Store :=
  ⟨store.cells.set address bindings⟩

/-- Make a new cell. -/
def allocate (store : Store) (bindings : Bindings Float) : Store := ⟨store.cells ++ [bindings]⟩

variable {store : Store} {address : Nat}

@[simp] theorem size_write (bindings : Bindings Float) :
    (store.write address bindings).size = store.size := by
  simp [size, write]

@[simp] theorem size_allocate (bindings : Bindings Float) :
    (store.allocate bindings).size = store.size + 1 := by
  simp [size, allocate]

theorem read_write_self (h : address < store.size) (bindings : Bindings Float) :
    (store.write address bindings).read address = bindings := by
  rw [size] at h
  simp [read, write, h]

theorem read_write_of_ne {other : Nat} (h : other ≠ address) (bindings : Bindings Float) :
    (store.write address bindings).read other = store.read other := by
  simp [read, write, Ne.symm h]

@[simp] theorem read_allocate_self (bindings : Bindings Float) :
    (store.allocate bindings).read store.size = bindings := by
  simp [read, allocate, size]

theorem read_allocate_of_lt (h : address < store.size) (bindings : Bindings Float) :
    (store.allocate bindings).read address = store.read address := by
  simp only [read, allocate, List.getD_eq_getElem?_getD, List.getElem?_append_left h]

end Store

/-- A scope and the store it works in. -/
structure Scope where
  store : Store
  /-- The cell of the bindings. -/
  address : Nat
  isCell : address < store.size
  /-- The cells behind the views that were given out, in order. -/
  views : List Nat

namespace Scope

/-- One step of work on a scope. -/
inductive Step where
  | bind (name : String) (value : Float)
  | lookup (name : String)
  | freeze
  | view (index : Nat)
  | writeView (index : Nat) (name : String) (value : Float)
  | eval (source : String)

/-- What a step answers. -/
inductive Reply where
  | bindings (entries : List (String × Float))
  | value (x : Float)
  | view (index : Nat)
  | readOnly
  /-- No view with this number was given out. -/
  | unknownView
  | failed (diagnostic : Diagnostic)

/-- The bindings of a scope. -/
def bindings (scope : Scope) : Bindings Float := scope.store.read scope.address

/-- A new scope that starts with a copy of the bindings in a cell. -/
def copyOf (store : Store) (given : Nat) : Scope where
  store := store.allocate (store.read given)
  address := store.size
  isCell := by simp
  views := []

/-- A scope that starts with a copy of given bindings, which stand in a cell of their
own. Of two bindings for the same name the later one wins. -/
def ofList (entries : List (String × Float)) : Scope :=
  copyOf ((Store.mk []).allocate (.ofList entries)) 0

/-- Bind a name, or bind it again, in the cell of the scope. -/
def bind (scope : Scope) (name : String) (value : Float) : Scope :=
  { scope with
    store := scope.store.write scope.address (scope.bindings.insert name value)
    isCell := by simpa using scope.isCell }

/-- Give out one more view, which leads to the cell of the scope. -/
def freeze (scope : Scope) : Scope := { scope with views := scope.views ++ [scope.address] }

/-- What a view shows, if it was given out. -/
def look? (scope : Scope) (index : Nat) : Option (Bindings Float) :=
  scope.views[index]?.map scope.store.read

/-- A scope for one evaluation, with a copy of the bindings. -/
def inner (scope : Scope) : Scope := copyOf scope.store scope.address

/-- The scope after an evaluation: the cell of the copy is left behind. -/
def afterEval (scope : Scope) : Scope :=
  { scope with
    store := scope.inner.store
    isCell := Nat.lt_trans scope.isCell scope.inner.isCell }

/-- The value of the final expression of a line; its definitions are passed over. -/
def evalLine (bindings : Bindings Float) (source : String) : Except Diagnostic Float :=
  match Line.program .any source with
  | .error d => .error d
  | .ok p =>
      match p.result.evaluate .error bindings with
      | .error e => .error (.unplaced (.eval e))
      | .ok x => .ok x

/-- The answer to a step, and the scope after it. -/
def step (scope : Scope) : Step → Reply × Scope
  | .bind name value =>
      let next := scope.bind name value
      (.bindings next.bindings.entries, next)
  | .lookup name =>
      match scope.bindings.lookup name with
      | .ok x => (.value x, scope)
      | .error e => (.failed (.unplaced (.eval e)), scope)
  | .freeze => (.view scope.views.length, scope.freeze)
  | .view index =>
      match scope.look? index with
      | some bindings => (.bindings bindings.entries, scope)
      | none => (.unknownView, scope)
  | .writeView index _ _ =>
      match scope.look? index with
      | some _ => (.readOnly, scope)
      | none => (.unknownView, scope)
  | .eval source =>
      match evalLine scope.inner.bindings source with
      | .ok x => (.value x, scope.afterEval)
      | .error d => (.failed d, scope.afterEval)

/-- The events of a step. -/
def stepEvents (scope : Scope) : Step → List Event
  | .bind name _ => if scope.bindings.contains name then [.shadowed name] else []
  | .eval source => Line.programEvents .any source
  | _ => []

/-- The answers to steps in order, and the scope after them. -/
def run (scope : Scope) : List Step → List Reply × Scope
  | [] => ([], scope)
  | first :: rest =>
      let (reply, next) := scope.step first
      let (replies, last) := next.run rest
      (reply :: replies, last)

/-- The events of steps in order. -/
def runEvents (scope : Scope) : List Step → List Event
  | [] => []
  | first :: rest => scope.stepEvents first ++ (scope.step first).2.runEvents rest

end Scope

end LineCalc
