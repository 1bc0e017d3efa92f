import Mathlib.Data.List.Infix
import Mathlib.Data.Rat.Defs

/-!
# JavaScript values

The values that JSON columns and normalized records hold, with the conversions
of the language: `String(v)`, `Number(v)`, `Boolean(v)`, `v ?? w`, `v === w` and
the reading of a property. A number is a rational; `none` stands for `NaN`. What
a runtime has of its own (the clock, the parsers of dates and numbers, the
properties that objects inherit) is a parameter.
-/

namespace AppliverySoar.Js

/-! ## Texts -/

/-- What `\s` and `trim` take for white space. -/
def isSpace (c : Char) : Bool :=
  [' ', '\t', '\n', '\x0b', '\x0c', '\r', '\u00a0', '\u1680', '\u2028', '\u2029', '\u202f', '\u205f',
    '\u3000', '\ufeff'].contains c || ('\u2000' ≤ c && c ≤ '\u200a')

/-- `s.trim()`. -/
def trim (s : List Char) : List Char :=
  ((s.dropWhile isSpace).reverse.dropWhile isSpace).reverse

/-- `Number.parseInt(s, 10)`. -/
def parseInt (s : List Char) : Option ℤ :=
  let digitsOf (t : List Char) : Option ℕ :=
    match t.takeWhile Char.isDigit with
    | [] => none
    | ds => some (ds.foldl (fun n c => n * 10 + (c.toNat - '0'.toNat)) 0)
  match s.dropWhile isSpace with
  | '-' :: t => (digitsOf t).map fun n => -(n : ℤ)
  | '+' :: t => (digitsOf t).map fun n => (n : ℤ)
  | t => (digitsOf t).map fun n => (n : ℤ)

/-- `s.includes(t)`. -/
def includes (s t : String) : Bool :=
  decide (t.toList <:+: s.toList)

/-- `s.replace(c, t)`: the first `c` is replaced. -/
def replaceFirst (c : Char) (t : List Char) : List Char → List Char
  | [] => []
  | a :: s => if a = c then t ++ s else a :: replaceFirst c t s

/-! ## Values -/

/-- A value. `set` is a `Set` of strings, `func` a function by its source. -/
inductive Value
  | undefined
  | null
  | bool (b : Bool)
  | num (n : ℚ)
  | str (s : String)
  | arr (l : List Value)
  | obj (fields : List (String × Value))
  | set (l : List String)
  | func (source : String)

/-- What the conversions take from the runtime: `Date.now()`, `Date.parse`,
`Number` of a text, `String` of a number, `toLowerCase`, and the properties
that an object and a `Set` inherit. -/
structure Runtime where
  now : ℚ
  parseDate : String → Option ℚ
  parseNumber : String → Option ℚ
  printNumber : ℚ → String
  toLowerCase : String → String
  inherited : String → Value
  setMember : List String → String → Value

namespace Value

/-- `v === null || v === undefined`. -/
def isNullish : Value → Bool
  | .undefined | .null => true
  | _ => false

/-- `v ?? w`. -/
def orElse (v w : Value) : Value :=
  if v.isNullish then w else v

/-- `Boolean(v)`. -/
def truthy : Value → Bool
  | .undefined | .null => false
  | .bool b => b
  | .num n => n ≠ 0
  | .str s => s ≠ ""
  | _ => true

mutual

/-- `String(v)`. -/
def text (r : Runtime) : Value → String
  | .undefined => "undefined"
  | .null => "null"
  | .bool b => if b then "true" else "false"
  | .num n => r.printNumber n
  | .str s => s
  | .arr l => ",".intercalate (texts r l)
  | .obj _ => "[object Object]"
  | .set _ => "[object Set]"
  | .func source => source

/-- The elements of an array, as `join` prints them. -/
def texts (r : Runtime) : List Value → List String
  | [] => []
  | v :: vs => (if v.isNullish then "" else text r v) :: texts r vs

end

/-- `Number(v)`. -/
def number (r : Runtime) : Value → Option ℚ
  | .undefined => none
  | .null => some 0
  | .bool b => some (if b then 1 else 0)
  | .num n => some n
  | v => r.parseNumber (v.text r)

/-- `v === w` for values that are not objects. -/
def strictEq : Value → Value → Bool
  | .undefined, .undefined => true
  | .null, .null => true
  | .bool a, .bool b => a = b
  | .num m, .num n => m = n
  | .str s, .str t => s = t
  | _, _ => false

/-- `typeof v === "object"` for what is neither `null` nor an array. -/
def isObject : Value → Bool
  | .obj _ | .set _ => true
  | _ => false

/-- `v[key]` of an object. What else has properties is read for none that it
has. -/
def prop (r : Runtime) (v : Value) (key : String) : Value :=
  match v with
  | .obj fields => (fields.lookup key).getD (r.inherited key)
  | .set l => r.setMember l key
  | _ => .undefined

/-- `key in v` for an object. -/
def has (r : Runtime) (v : Value) (key : String) : Bool :=
  match v with
  | .obj fields => (fields.lookup key).isSome || !(r.inherited key).isNullish
  | _ => false

/-- `v ?? []`, `none` where the methods of arrays throw. -/
def elements : Value → Option (List Value)
  | .undefined | .null => some []
  | .arr l => some l
  | _ => none

end Value

/-- `a < b` for numbers one of which may be `NaN`. -/
def less : Option ℚ → Option ℚ → Bool
  | some a, some b => a < b
  | _, _ => false

example : parseInt "28000 ".toList = some 28000 := by decide +kernel

end AppliverySoar.Js
