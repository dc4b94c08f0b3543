/-!
# JSON values

A JSON number is kept the way it was read: a non-negative integer that fits in 64 bits, a
negative integer that fits in 64 signed bits, or a double. Objects keep their members sorted by
key with each key once; `Value.insert` keeps that shape, a later member replacing an earlier one
of the same key.
-/

namespace EntitySchema.Json

/-- A JSON number as read. -/
inductive Number where
  /-- An integer in `[0, 2^64)`. -/
  | natural (n : Nat)
  /-- An integer in `[-2^63, 0)`. -/
  | negative (n : Int)
  /-- Any other number, as a double. -/
  | float (x : Float)

/-- A JSON value. -/
inductive Value where
  | null
  | bool (b : Bool)
  | number (n : Number)
  | string (s : String)
  | array (items : List Value)
  /-- Members in the order they are written out. -/
  | object (members : List (String × Value))

namespace Value

/-- Inserts a member into members sorted by key, replacing one of the same key. -/
def insertMember (key : String) (v : Value) : List (String × Value) → List (String × Value)
  | [] => [(key, v)]
  | (k, w) :: rest =>
    if key < k then (key, v) :: (k, w) :: rest
    else if key = k then (key, v) :: rest
    else (k, w) :: insertMember key v rest

def field? (v : Value) (key : String) : Option Value :=
  match v with
  | .object members => members.lookup key
  | _ => none

def str? : Value → Option String
  | .string s => some s
  | _ => none

def arr? : Value → Option (List Value)
  | .array items => some items
  | _ => none

def bool? : Value → Option Bool
  | .bool b => some b
  | _ => none

def isNull : Value → Bool
  | .null => true
  | _ => false

def int? : Value → Option Int
  | .number (.natural n) => if n < Nat.pow 2 63 then some n else none
  | .number (.negative n) => some n
  | _ => none

def strField? (v : Value) (key : String) : Option String := (v.field? key).bind str?

def arrField? (v : Value) (key : String) : Option (List Value) := (v.field? key).bind arr?

def boolField? (v : Value) (key : String) : Option Bool := (v.field? key).bind bool?

end Value

def Value.ofOption (s : Option String) : Value := match s with
  | some s => .string s
  | none => .null

def Value.ofStrings (xs : List String) : Value := .array (xs.map .string)

def Value.ofNat (n : Nat) : Value := .number (.natural n)

def Value.ofInt (n : Int) : Value :=
  if n < 0 then .number (.negative n) else .number (.natural n.toNat)

end EntitySchema.Json
