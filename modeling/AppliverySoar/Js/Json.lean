import AppliverySoar.Js.Value

/-!
# Bodies of answers

What the services read of a body that was parsed from JSON: its members, the
items of a list endpoint (extractItems.ts), and the moment that a value names.
-/

namespace AppliverySoar.Js

namespace Value

/-- `v?.[key]` of a parsed body. -/
def member (v : Value) (key : String) : Value :=
  match v with
  | .obj fields => (fields.lookup key).getD .undefined
  | _ => .undefined

/-- `v[key]` of a parsed body: `null` and `undefined` have no members. -/
def read (v : Value) (key : String) : Except String Value :=
  match v with
  | .undefined => .error ("Cannot read properties of undefined (reading '" ++ key ++ "')")
  | .null => .error ("Cannot read properties of null (reading '" ++ key ++ "')")
  | v => .ok (v.member key)

/-- `new Date(v)`: a moment, or an invalid date. -/
def date (r : Runtime) (v : Value) : Option ℚ :=
  match v with
  | .num _ | .bool _ | .null | .undefined => v.number r
  | v => r.parseDate (v.text r)

end Value

def extractItems (data : Value) : List Value :=
  match data with
  | .arr items => items
  | .obj _ =>
    match data.member "items" with
    | .arr items => items
    | _ =>
      match data.member "data" with
      | .arr items => items
      | inner =>
        match inner.member "items" with
        | .arr items => items
        | _ => []
  | _ => []

end AppliverySoar.Js
