import LedgerGateway.Json

/-! Documents of named tables. A document is read into an object; keys with dots and headers open
the tables on their way, and a table that has been defined is not opened again. -/

namespace LedgerGateway.Toml

/-- What a key stands for while a document is read. A table is implicit while only tables within it
have been named, and dotted when a dotted key has opened it. -/
inductive Entry where
  | value (value : Json)
  | table (implicit dotted : Bool) (members : List (String × Entry))
  | tables (elements : List (List (String × Entry)))

abbrev Members := List (String × Entry)

namespace Entry

def find? (key : String) (ms : Members) : Option Entry :=
  (ms.find? fun m => m.1 == key).map Prod.snd

/-- Puts an entry in the place of the one with the same key, or at the end. -/
def put (key : String) (e : Entry) : Members → Members
  | [] => [(key, e)]
  | m :: rest => if m.1 == key then (key, e) :: rest else m :: put key e rest

/-- Changes the table at the end of a path, opening the tables on the way. The last one of several
tables stands for them. A dotted path must not pass through tables that have been defined; the
change is told whether the table is dotted. -/
def update (dottedPath : Bool) (change : Bool → Members → Option Members) :
    (path : List String) → (dotted : Bool) → Members → Option Members
  | [], dotted, ms => change dotted ms
  | key :: path, _, ms =>
    match find? key ms with
    | none => do
      let inner ← update dottedPath change path dottedPath []
      return put key (.table true dottedPath inner) ms
    | some (.value _) => none
    | some (.tables elements) =>
      match elements.reverse with
      | [] => none
      | last :: before => do
        let inner ← update dottedPath change path false last
        return put key (.tables (inner :: before).reverse) ms
    | some (.table implicit dotted inner) =>
      if dottedPath && !implicit then none
      else do
        let inner ← update dottedPath change path dotted inner
        return put key (.table implicit dotted inner) ms

/-- Defines a key in the table that the keys before it lead to. Tables that are mixed of dotted keys
and others are refused, and so is a key that is there already. -/
def define (path : List String) (key : String) (value : Json) (ms : Members) : Option Members :=
  update true (fun dotted ms =>
    if dotted = path.isEmpty then none
    else
      match find? key ms with
      | none => some (put key (.value value) ms)
      | some _ => none) path false ms

/-- Opens the table of a header, which may have been named by longer headers before. -/
def openTable (path : List String) (key : String) (root : Members) : Option Members :=
  update false (fun _ ms =>
    match find? key ms with
    | none => some (put key (.table false false []) ms)
    | some (.table true false inner) => some (put key (.table false false inner) ms)
    | some _ => none) path false root

/-- Adds a table to those of a doubled header. -/
def addTable (path : List String) (key : String) (root : Members) : Option Members :=
  update false (fun _ ms =>
    match find? key ms with
    | none => some (put key (.tables [[]]) ms)
    | some (.tables elements) => some (put key (.tables (elements ++ [[]])) ms)
    | some _ => none) path false root

mutual

def toJson : Entry → Json
  | value v => v
  | table _ _ ms => .object (membersToJson ms)
  | tables elements => .array (elementsToJson elements)

def membersToJson : List (String × Entry) → List (String × Json)
  | [] => []
  | (key, e) :: rest => (key, e.toJson) :: membersToJson rest

def elementsToJson : List (List (String × Entry)) → List Json
  | [] => []
  | ms :: rest => .object (membersToJson ms) :: elementsToJson rest

end

end Entry

end LedgerGateway.Toml
