import EarthStation.Decimal.Reader

/-!
# Value — what a YAML document holds

* `Yaml.Value`: nulls, booleans, numbers, strings, sequences and mappings.
* `Yaml.Value.ofPlain?`: what a scalar without quotes stands for.
-/

namespace EarthStation.Yaml

inductive Value where
  | null
  | bool (value : Bool)
  | integer (value : Int)
  | float (value : Float)
  | string (value : String)
  | sequence (items : List Value)
  /-- Pairs in the order of the document, no key twice. -/
  | mapping (entries : List (Value × Value))
  /-- A value with a tag of the document's own. -/
  | tagged (tag : String) (value : Value)

namespace Value

mutual

/-- Holds of equal values. -/
def same : Value → Value → Bool
  | null, null => true
  | bool a, bool b => a == b
  | integer a, integer b => a == b
  | float a, float b => a == b || (a != a && b != b)
  | string a, string b => a == b
  | sequence a, sequence b => sameItems a b
  | mapping a, mapping b => sameEntries a b
  | tagged s a, tagged t b => s == t && same a b
  | _, _ => false

def sameItems : List Value → List Value → Bool
  | [], [] => true
  | a :: as, b :: bs => same a b && sameItems as bs
  | _, _ => false

def sameEntries : List (Value × Value) → List (Value × Value) → Bool
  | [], [] => true
  | (k, a) :: as, (l, b) :: bs => same k l && same a b && sameEntries as bs
  | _, _ => false

end

/-- The value itself under its tags. -/
def untagged : Value → Value
  | tagged _ v => untagged v
  | v => v

/-! ## Scalars without quotes -/

def nullOf? (text : String) : Option Value :=
  if ["null", "Null", "NULL", "~"].contains text then some null else none

def boolOf? (text : String) : Option Value :=
  if ["true", "True", "TRUE"].contains text then some (bool true)
  else if ["false", "False", "FALSE"].contains text then some (bool false)
  else none

/-- The value of a digit in a base up to sixteen. -/
def digitIn? (base : Nat) (c : Char) : Option Nat :=
  let value :=
    if '0' ≤ c ∧ c ≤ '9' then c.toNat - '0'.toNat
    else if 'a' ≤ c ∧ c ≤ 'f' then c.toNat - 'a'.toNat + 10
    else if 'A' ≤ c ∧ c ≤ 'F' then c.toNat - 'A'.toNat + 10
    else base
  if value < base then some value else none

/-- The number that digits in a base stand for. -/
def natural? (base : Nat) (cs : List Char) : Option Nat :=
  if cs.isEmpty then none
  else cs.foldlM (fun n c => (digitIn? base c).map (base * n + ·)) 0

/-- Holds of several digits that begin with a zero, which are no number. -/
def hasLeadingZero : List Char → Bool
  | '0' :: c :: rest => (c :: rest).all Decimal.isDigit
  | _ => false

/-- A whole number without sign; a letter after a zero gives the base. -/
def magnitude? : List Char → Option Nat
  | '0' :: 'x' :: rest => natural? 16 rest
  | '0' :: 'o' :: rest => natural? 8 rest
  | '0' :: 'b' :: rest => natural? 2 rest
  | cs => if hasLeadingZero cs then none else natural? 10 cs

/-- A whole number with an optional sign. -/
def integerOf? : List Char → Option Int
  | '-' :: rest => (magnitude? rest).map fun n => -(n : Int)
  | '+' :: rest => (magnitude? rest).map fun n => (n : Int)
  | rest => (magnitude? rest).map fun n => (n : Int)

/-- A decimal fraction, or one of the words for infinity and undefined numbers. -/
def floatOf? (cs : List Char) : Option Float :=
  let text := String.ofList cs
  if [".inf", ".Inf", ".INF", "+.inf", "+.Inf", "+.INF"].contains text then some (1.0 / 0.0)
  else if ["-.inf", "-.Inf", "-.INF"].contains text then some (-1.0 / 0.0)
  else if [".nan", ".NaN", ".NAN"].contains text then some (0.0 / 0.0)
  else
    let unsigned := match cs with
      | '-' :: rest | '+' :: rest => rest
      | cs => cs
    if hasLeadingZero unsigned then none
    else match Decimal.readFloat? cs with
      | some x => if x.isFinite then some x else none
      | none => none

/-- Keeps whole numbers of 64 bits, and fails for those of up to 128 bits; still larger ones are read
as fractions. -/
def ofInteger? (n : Int) (cs : List Char) : Option Value :=
  if -Int.pow 2 63 ≤ n ∧ n < Int.pow 2 64 then some (integer n)
  else if -Int.pow 2 127 ≤ n ∧ n < Int.pow 2 128 then none
  else match floatOf? cs with
    | some x => some (float x)
    | none => some (string (String.ofList cs))

/-- What a scalar without quotes stands for; `none` for a number that does not fit. -/
def ofPlain? (text : String) : Option Value :=
  if text.isEmpty then some null
  else match nullOf? text, boolOf? text, integerOf? text.toList, floatOf? text.toList with
    | some v, _, _, _ => some v
    | none, some v, _, _ => some v
    | none, none, some n, _ => ofInteger? n text.toList
    | none, none, none, some x => some (float x)
    | none, none, none, none => some (string text)

end Value

end EarthStation.Yaml
