import CppAdvice.Document.Fault

/-!
# Fields of a document

Readers for the plain values of a document, and for records: an object with named fields, or an
array of the fields in order. A record is read from the front, so the first fault of a text is the
one reported.
-/

namespace CppAdvice.Document

/-- The outcome of reading. -/
abbrev Reading (α : Type) := Except Fault α

/-- Stops with a fault of shape. -/
def misshapen {α : Type} (fault : ShapeFault) : Reading α :=
  .error (.shape fault)

/-- The number of arrays and objects that may be open at once. -/
def depthLimit : Nat := 127

/-- Names a value that is not what was due, or complains that it cannot be read at all. -/
def wrongType {α : Type} (due : Due) : Json → Reading α
  | .null => misshapen (.wrongType .null due)
  | .bool b => misshapen (.wrongType (.bool b) due)
  | .number (.natural n) => misshapen (.wrongType (.integer n.toNat) due)
  | .number (.negative n) => misshapen (.wrongType (.integer (-n)) due)
  | .number (.decimal d) =>
    match d.toFloat? with
    | some f => misshapen (.wrongType (.float f) due)
    | none => .error .malformed
  | .string (some s) => misshapen (.wrongType (.string s) due)
  | .array _ => misshapen (.wrongType .sequence due)
  | .object _ => misshapen (.wrongType .map due)
  | .string none | .broken => .error .malformed

/-- Reads a string. -/
def readString : Json → Reading String
  | .string (some s) => .ok s
  | v => wrongType .string v

/-- Reads a boolean. -/
def readBool : Json → Reading Bool
  | .bool b => .ok b
  | v => wrongType .boolean v

/-- Reads a whole number that fits 64 bits. -/
def readNatural (due : Due) : Json → Reading UInt64
  | .number (.natural n) => .ok n
  | .number (.negative n) => misshapen (.wrongValue (.integer (-n)) due)
  | v => wrongType due v

/-- Reads a value that may be absent, written as `null`. -/
def readOption {α : Type} (read : Json → Reading α) : Json → Reading (Option α)
  | .null => .ok none
  | v => some <$> read v

/-- Reads an array whose items are all of one sort; `depth` arrays and objects are open around
it. -/
def readList {α : Type} (read : (depth : Nat) → Json → Reading α) (depth : Nat) :
    Json → Reading (List α)
  | .array items => if depth < depthLimit then items.mapM (read (depth + 1)) else .error .malformed
  | v => wrongType .sequence v

/-- A field of a record: its name, whether it has to be there, and how its value is read into what
is already known of the record. -/
structure Field (σ : Type) where
  name : String
  required : Bool
  read : Json → σ → Reading σ

namespace Field

/-- A field that has to be there. -/
def needed {σ α : Type} (name : String) (read : Json → Reading α) (set : α → σ → σ) : Field σ where
  name
  required := true
  read v s := (set · s) <$> read v

/-- A field that may be left out. -/
def optional {σ α : Type} (name : String) (read : Json → Reading α) (set : α → σ → σ) :
    Field σ where
  name
  required := false
  read v s := (set · s) <$> read v

end Field

/-- A record: its name and its fields in order. -/
structure Record (σ : Type) where
  name : String
  fields : List (Field σ)

namespace Record

variable {σ : Type}

/-- Reads the members of an object one after another. `seen` holds the fields read so far; other
members only have to be well formed. -/
def readMembers (r : Record σ) : (members : List (Json.Key × Json)) → (seen : List String) → σ →
    Reading (List String × σ)
  | [], seen, s => .ok (seen, s)
  | (.name k, v) :: members, seen, s =>
    match r.fields.find? (·.name = k) with
    | none => if v.whole then r.readMembers members seen s else .error .malformed
    | some field =>
      if k ∈ seen then misshapen (.duplicateField k)
      else do
        let s ← field.read v s
        r.readMembers members (k :: seen) s
  | _ :: _, _, _ => .error .malformed

/-- Complains about the first field that has to be there and is not. -/
def checkMissing (r : Record σ) (seen : List String) : Reading Unit :=
  match r.fields.find? fun field => field.required && !seen.contains field.name with
  | some field => misshapen (.missingField field.name)
  | none => .ok ()

/-- Reads an object, starting from the values of fields that are left out. -/
def readObject (r : Record σ) (start : σ) (members : List (Json.Key × Json)) : Reading σ := do
  let (seen, s) ← r.readMembers members [] start
  r.checkMissing seen
  return s

/-- Reads items as the given fields, the first of which has the given number; yields the items left
over. -/
def readItems (r : Record σ) : (fields : List (Field σ)) → (number : Nat) → List Json → σ →
    Reading (List Json × σ)
  | [], _, items, s => .ok (items, s)
  | field :: fields, number, [], s =>
    if field.required then misshapen (.tooShort number r.name r.fields.length)
    else r.readItems fields (number + 1) [] s
  | field :: fields, number, v :: items, s => do
    let s ← field.read v s
    r.readItems fields (number + 1) items s

/-- Reads a record that stands in the document itself, at the given depth. -/
def read (r : Record σ) (start : σ) (depth : Nat) : Json → Reading σ
  | .object members =>
    if depth < depthLimit then r.readObject start members else .error .malformed
  | .array items =>
    if depth < depthLimit then do
      let (rest, s) ← r.readItems r.fields 0 items start
      if rest.isEmpty then return s else .error .malformed
    else .error .malformed
  | v => wrongType (.record r.name) v

/-- Reads a record in a value that has been read in full before. -/
def readKept (r : Record σ) (start : σ) : Json → Reading σ
  | .object members => r.readObject start members
  | .array items => do
    let (rest, s) ← r.readItems r.fields 0 items start
    if rest.isEmpty then return s else misshapen (.tooLong items.length r.fields.length)
  | v => wrongType (.record r.name) v

end Record

/-- A choice between named variants. -/
structure Choice (α : Type) where
  /-- The variants with their names, in order. -/
  variants : List (String × α)
  /-- What an unknown name stands for, if anything. -/
  fallback : Option α := none

namespace Choice

variable {α : Type}

/-- The variant with the given name. -/
def ofName (c : Choice α) (name : String) : Reading α :=
  match c.variants.find? (·.1 = name) with
  | some (_, variant) => .ok variant
  | none =>
    match c.fallback with
    | some variant => .ok variant
    | none => misshapen (.unknownVariant name (c.variants.map (·.1)))

/-- Reads a choice that stands in the document itself: a name, or an object with the name as its
only key and nothing in it. Any other value is not well formed here. -/
def read (c : Choice α) (depth : Nat) : Json → Reading α
  | .string (some name) => c.ofName name
  | .object members =>
    if depthLimit ≤ depth then .error .malformed
    else match members with
      | (.name name, v) :: rest => do
        let variant ← c.ofName name
        match v with
        | .null => if rest.isEmpty then return variant else .error .malformed
        | v => wrongType .nothing v
      | _ => .error .malformed
  | _ => .error .malformed

/-- Reads a choice in a value that has been read in full before. -/
def readKept (c : Choice α) : Json → Reading α
  | .string (some name) => c.ofName name
  | .object [(.name name, v)] => do
    let variant ← c.ofName name
    match v with
    | .null => return variant
    | .object [] => return variant
    | v => wrongType .nothing v
  | .object _ => misshapen (.wrongValue .map .singleKey)
  | v => wrongType .variant v

end Choice

end CppAdvice.Document
