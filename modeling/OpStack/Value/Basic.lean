import OpStack.Payload.Basic

/-!
# OpStack.Value.Basic

The payloads of a program that is run: a few types with their names, and the values of
these types.
-/

namespace OpStack

/-- The types that a payload can have.  They are all distinct and none converts
to another. -/
inductive Kind where
  | unit | bool | u8 | u32 | u64 | usize | i64 | string | str | bytes | optU32 | strings | headers
  /-- A number under a name of its own. -/
  | attempt
  /-- A payload inside a payload. -/
  | value
  deriving DecidableEq, Repr

/-- The name of the type in messages. -/
def Kind.typeName : Kind → String
  | unit => "()"
  | bool => "bool"
  | u8 => "u8"
  | u32 => "u32"
  | u64 => "u64"
  | usize => "usize"
  | i64 => "i64"
  | string => "alloc::string::String"
  | str => "&str"
  | bytes => "alloc::vec::Vec<u8>"
  | optU32 => "core::option::Option<u32>"
  | strings => "alloc::vec::Vec<alloc::string::String>"
  | headers =>
    "alloc::collections::btree::map::BTreeMap<alloc::string::String, alloc::string::String>"
  | attempt => "strata_oracle::values::Attempt"
  | value => "strata_middleware::types::Value"

/-- A payload of one of the types. -/
inductive Value where
  | unit
  | bool (b : Bool)
  | u8 (n : UInt8)
  | u32 (n : UInt32)
  | u64 (n : UInt64)
  | usize (n : UInt64)
  | i64 (n : Int64)
  | string (s : String)
  | str (s : String)
  | bytes (b : List UInt8)
  | optU32 (n : Option UInt32)
  | strings (ss : List String)
  /-- Names with their texts, in the order of the names. -/
  | headers (hs : List (String × String))
  | attempt (n : UInt32)
  | value (v : Value)
  deriving DecidableEq

/-- What a payload of the type holds. -/
def Kind.Content : Kind → Type
  | unit => Unit
  | bool => Bool
  | u8 => UInt8
  | u32 => UInt32
  | u64 => UInt64
  | usize => UInt64
  | i64 => Int64
  | string => String
  | str => String
  | bytes => List UInt8
  | optU32 => Option UInt32
  | strings => List String
  | headers => List (String × String)
  | attempt => UInt32
  | value => Value

namespace Value

/-- The type of the payload. -/
def kind : Value → Kind
  | unit => .unit
  | bool _ => .bool
  | u8 _ => .u8
  | u32 _ => .u32
  | u64 _ => .u64
  | usize _ => .usize
  | i64 _ => .i64
  | string _ => .string
  | str _ => .str
  | bytes _ => .bytes
  | optU32 _ => .optU32
  | strings _ => .strings
  | headers _ => .headers
  | attempt _ => .attempt
  | value _ => .value

/-- The payload of type `k` with the given content. -/
def of : (k : Kind) → k.Content → Value
  | .unit, _ => unit
  | .bool, b => bool b
  | .u8, n => u8 n
  | .u32, n => u32 n
  | .u64, n => u64 n
  | .usize, n => usize n
  | .i64, n => i64 n
  | .string, s => string s
  | .str, s => str s
  | .bytes, b => bytes b
  | .optU32, n => optU32 n
  | .strings, ss => strings ss
  | .headers, hs => headers hs
  | .attempt, n => attempt n
  | .value, v => value v

/-- The content of the payload. -/
def content : (v : Value) → v.kind.Content
  | unit => ()
  | bool b => b
  | u8 n => n
  | u32 n => n
  | u64 n => n
  | usize n => n
  | i64 n => n
  | string s => s
  | str s => s
  | bytes b => b
  | optU32 n => n
  | strings ss => ss
  | headers hs => hs
  | attempt n => n
  | value v => v

end Value

/-- The payloads of these types. -/
instance : Payloads where
  Kind := Kind
  decidableEq := inferInstance
  typeName := Kind.typeName
  Content := Kind.Content
  Payload := Value
  of := Value.of
  typed v := ⟨v.kind, v.content⟩
  typed_of k x := by cases k <;> rfl
  of_typed v := by cases v <;> rfl

/-- Puts the text under the name, in place of an earlier one; the names stay in order. -/
def insertHeader (name text : String) : List (String × String) → List (String × String)
  | [] => [(name, text)]
  | (n, t) :: hs =>
    if name = n then (n, text) :: hs
    else if name < n then (name, text) :: (n, t) :: hs
    else (n, t) :: insertHeader name text hs

end OpStack
