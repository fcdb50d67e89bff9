import SchemaEvolution.Json.Value

/-! # Reading domain values out of JSON

A record is read from an object, or from an array that lists its fields in their declared order
and may stop early.  A known key may not be repeated, and a closed record has no other key.  An
absent field and a null are different things: only `optional?` takes a null.  A name out of a
list may be written as the key of an object, whose value says nothing.
-/

namespace SchemaEvolution.Json

variable {α : Type}

abbrev Members := List (String × Json)

def repeatsKey (members : Members) : Bool :=
  match members with
  | [] => false
  | (k, _) :: rest => rest.any (·.1 == k) || repeatsKey rest

/-- The members of a record with the given fields. -/
def record? (fields : List String) (closed : Bool) : Json → Option Members
  | .array items => if items.length ≤ fields.length then some (fields.zip items) else none
  | .object members =>
    let known := members.filter fun (k, _) => fields.contains k
    if repeatsKey known || (closed && known.length != members.length) then none
    else some known
  | _ => none

/-- The tag of a tagged record, and the record without it. -/
def tagged? (key : String) : Json → Option (Json × Json)
  | .array (tag :: items) => some (tag, .array items)
  | .object members =>
    match members.partition (·.1 == key) with
    | ([(_, tag)], rest) => some (tag, .object rest)
    | _ => none
  | _ => none

namespace Members

/-- A field that has to be there. -/
def required? (members : Members) (key : String) (decode : Json → Option α) : Option α :=
  (members.lookup key).bind decode

/-- A field with a value for its absence. -/
def withDefault? (members : Members) (key : String) (absent : α) (decode : Json → Option α) :
    Option α :=
  match members.lookup key with
  | none => some absent
  | some v => decode v

/-- A field that may be absent or null. -/
def optional? (members : Members) (key : String) (decode : Json → Option α) :
    Option (Option α) :=
  match members.lookup key with
  | none | some .null => some none
  | some v => (decode v).map some

end Members

def string? : Json → Option String
  | .string s => some s
  | _ => none

def bool? : Json → Option Bool
  | .bool b => some b
  | _ => none

def intWithin? (low high : Int) : Json → Option Int
  | .number (.integer n) => if low ≤ n && n ≤ high then some n else none
  | _ => none

/-- An unsigned word of 64 bits. -/
def word64? (v : Json) : Option Nat := (intWithin? 0 Digits.word64Max v).map Int.toNat

def list? (decode : Json → Option α) : Json → Option (List α)
  | .array items => items.mapM decode
  | _ => none

/-- Where a value stands: inside of a tagged record or not. -/
inductive Enclosure
  | plain
  | tagged
deriving Repr, DecidableEq

/-- Whether a value is no content: null, and inside of a tagged record an empty object too. -/
def isVoid : Enclosure → Json → Bool
  | _, .null => true
  | .tagged, .object [] => true
  | _, _ => false

/-- One of finitely many names, written as a string or as a key without content. -/
def variant? (enclosure : Enclosure) (names : List (String × α)) : Json → Option α
  | .string s => names.lookup s
  | .object [(s, content)] => if isVoid enclosure content then names.lookup s else none
  | _ => none

end SchemaEvolution.Json
