import Mathlib.Data.List.Infix

namespace AnyMapper

-- `reflect.Kind`. The constructors are in the order of Go's `iota` constants, so
-- `Kind.toCtorIdx` is the number the source compares with `<` and `>`.
inductive Kind where
  | invalid | bool | int | int8 | int16 | int32 | int64
  | uint | uint8 | uint16 | uint32 | uint64 | uintptr
  | float32 | float64 | complex64 | complex128
  | array | chan | func | interface | map | pointer | slice | string | struct
  | unsafePointer
deriving DecidableEq, Repr

-- The predeclared types other than `error`, with `unsafe.Pointer`.
inductive Basic where
  | bool | int | int8 | int16 | int32 | int64
  | uint | uint8 | uint16 | uint32 | uint64 | uintptr
  | float32 | float64 | complex64 | complex128 | string | unsafePointer
deriving DecidableEq, Repr

def Basic.kind : Basic → Kind
  | .bool => .bool | .int => .int | .int8 => .int8 | .int16 => .int16
  | .int32 => .int32 | .int64 => .int64 | .uint => .uint | .uint8 => .uint8
  | .uint16 => .uint16 | .uint32 => .uint32 | .uint64 => .uint64
  | .uintptr => .uintptr | .float32 => .float32 | .float64 => .float64
  | .complex64 => .complex64 | .complex128 => .complex128 | .string => .string
  | .unsafePointer => .unsafePointer

def Basic.name : Basic → String
  | .bool => "bool" | .int => "int" | .int8 => "int8" | .int16 => "int16"
  | .int32 => "int32" | .int64 => "int64" | .uint => "uint" | .uint8 => "uint8"
  | .uint16 => "uint16" | .uint32 => "uint32" | .uint64 => "uint64"
  | .uintptr => "uintptr" | .float32 => "float32" | .float64 => "float64"
  | .complex64 => "complex64" | .complex128 => "complex128" | .string => "string"
  | .unsafePointer => "unsafe.Pointer"

-- Characters of a Go identifier: letters, digits and `_`. Every non-ASCII character
-- is let through, which over-approximates Unicode letters and digits.
def isIdentChar (c : Char) : Bool := c.isAlphanum || c == '_' || 127 < c.toNat

-- A package name as `reflect` prints it in front of a defined type's name.
structure Ident where
  name : String
  valid : ∀ c ∈ name.data, isIdentChar c = true
deriving DecidableEq

-- A type declaration. Two defined types are identical iff they come from the
-- same declaration: the same package path and name.
structure TypeName where
  path : String
  pkg : Ident
  name : String
deriving DecidableEq

inductive ChanDir where
  | both | recv | send
deriving DecidableEq, Repr

-- `reflect.Type`. A defined type is named by its declaration; its underlying type
-- lives in a `TypeEnv`, so recursive declarations such as `type P *P` are types too.
mutual
inductive GoType where
  | basic (b : Basic)
  | error
  | named (n : TypeName)
  | array (len : Nat) (elem : GoType)
  | chan (dir : ChanDir) (elem : GoType)
  | func (params results : TypeList) (variadic : Bool)
  | interface (methods : MethodList)
  | map (key elem : GoType)
  | pointer (elem : GoType)
  | slice (elem : GoType)
  | struct (fields : FieldList)
inductive TypeList where
  | nil
  | cons (head : GoType) (tail : TypeList)
inductive FieldList where
  | nil
  | cons (name : String) (type : GoType) (tag : String) (tail : FieldList)
inductive MethodList where
  | nil
  | cons (name : String) (params results : TypeList) (variadic : Bool) (tail : MethodList)
end

deriving instance DecidableEq for GoType

-- Two lower-case hex digits, as `strconv` writes them in an escape.
def hex2 (n : Nat) : String := ⟨[Nat.digitChar (n / 16 % 16), Nat.digitChar (n % 16)]⟩

-- A character as `strconv.Quote` writes it: `"` and `\` escaped, the C escapes, `\x` for
-- the other ASCII control characters and `\u` for the Latin-1 characters that are not
-- printable. Characters beyond Latin-1 are taken as printable.
def quoteChar (c : Char) : String :=
  let n := c.toNat
  if n = 34 then "\\\"" else if n = 92 then "\\\\"
  else if n = 7 then "\\a" else if n = 8 then "\\b" else if n = 12 then "\\f"
  else if n = 10 then "\\n" else if n = 13 then "\\r" else if n = 9 then "\\t"
  else if n = 11 then "\\v"
  else if n < 32 ∨ n = 127 then "\\x" ++ hex2 n
  else if (128 ≤ n ∧ n ≤ 160) ∨ n = 173 then "\\u00" ++ hex2 n
  else c.toString

-- A struct tag as `reflect` prints it after the field's type: `" " + strconv.Quote(tag)`.
def quoteTag (tag : String) : String :=
  if tag = "" then "" else " \"" ++ String.join (tag.data.map quoteChar) ++ "\""

-- `reflect.Type.String()`.
mutual
def GoType.string : GoType → String
  | .basic b => b.name
  | .error => "error"
  | .named n => n.pkg.name ++ "." ++ n.name
  | .array len e => "[" ++ toString len ++ "]" ++ e.string
  | .chan .both e =>
      "chan " ++ match e with
        | .chan .recv e => "(<-chan " ++ e.string ++ ")"
        | e => e.string
  | .chan .recv e => "<-chan " ++ e.string
  | .chan .send e => "chan<- " ++ e.string
  | .func params results variadic => "func(" ++ params.string variadic ++ ")" ++ results.results
  | .interface methods =>
      "interface \x7b" ++ match methods with
        | .nil => "\x7d"
        | methods => " " ++ methods.string ++ " \x7d"
  | .map k e => "map[" ++ k.string ++ "]" ++ e.string
  | .pointer e => "*" ++ e.string
  | .slice e => "[]" ++ e.string
  | .struct fields =>
      "struct \x7b" ++ match fields with
        | .nil => "\x7d"
        | fields => " " ++ fields.string ++ " \x7d"
-- A comma-separated parameter list; the last entry of a variadic one prints as `...E`.
def TypeList.string (variadic : Bool) : TypeList → String
  | .nil => ""
  | .cons (.slice e) .nil => (if variadic then "..." else "[]") ++ e.string
  | .cons t .nil => t.string
  | .cons t ts => t.string ++ ", " ++ ts.string variadic
def TypeList.results : TypeList → String
  | .nil => ""
  | .cons t .nil => " " ++ t.string
  | .cons t ts => " (" ++ t.string ++ ", " ++ ts.string false ++ ")"
def FieldList.string : FieldList → String
  | .nil => ""
  | .cons name type tag .nil => name ++ " " ++ type.string ++ quoteTag tag
  | .cons name type tag tail => name ++ " " ++ type.string ++ quoteTag tag ++ "; " ++ tail.string
def MethodList.string : MethodList → String
  | .nil => ""
  | .cons name params results variadic .nil =>
      name ++ "(" ++ params.string variadic ++ ")" ++ results.results
  | .cons name params results variadic tail =>
      name ++ "(" ++ params.string variadic ++ ")" ++ results.results ++ "; " ++ tail.string
end

-- What a defined type's underlying type can be: neither defined nor `error`.
def GoType.IsLiteral : GoType → Prop
  | .named _ => False
  | .error => False
  | _ => True

-- The declarations of the program: the underlying type of every defined type.
structure TypeEnv where
  underlying : TypeName → GoType
  underlying_literal : ∀ n, (underlying n).IsLiteral

-- A program whose defined types are all empty structs, for concrete runs.
def structEnv : TypeEnv := ⟨fun _ => .struct .nil, fun _ => trivial⟩

-- The kind, element and key of a type that is not defined, read off its form.
-- `reflect` panics on `Elem` and `Key` of other kinds; no modelled code asks.
def GoType.formKind : GoType → Kind
  | .basic b => b.kind
  | .error => .interface
  | .named _ => .invalid
  | .array .. => .array
  | .chan .. => .chan
  | .func .. => .func
  | .interface _ => .interface
  | .map .. => .map
  | .pointer _ => .pointer
  | .slice _ => .slice
  | .struct _ => .struct

def GoType.formElem : GoType → GoType
  | .array _ e | .chan _ e | .map _ e | .pointer e | .slice e => e
  | t => t

def GoType.formKey : GoType → GoType
  | .map k _ => k
  | t => t

section Reflect

variable (env : TypeEnv)

-- `Type.Kind()`, `Type.Elem()` and `Type.Key()`: a defined type answers for its
-- underlying type.
def GoType.kind : GoType → Kind
  | .named n => (env.underlying n).formKind
  | t => t.formKind

def GoType.elem : GoType → GoType
  | .named n => (env.underlying n).formElem
  | t => t.formElem

def GoType.key : GoType → GoType
  | .named n => (env.underlying n).formKey
  | t => t.formKey

end Reflect

def GoType.isNamed : GoType → Bool
  | .named _ => true
  | _ => false

-- The package-level type variables of mapper.go.
def anyTy : GoType := .interface .nil
def boolTy : GoType := .basic .bool
def intTy : GoType := .basic .int
def int8Ty : GoType := .basic .int8
def int16Ty : GoType := .basic .int16
def int32Ty : GoType := .basic .int32
def int64Ty : GoType := .basic .int64
def uintTy : GoType := .basic .uint
def uint8Ty : GoType := .basic .uint8
def uint16Ty : GoType := .basic .uint16
def uint32Ty : GoType := .basic .uint32
def uint64Ty : GoType := .basic .uint64
def float32Ty : GoType := .basic .float32
def float64Ty : GoType := .basic .float64
def stringTy : GoType := .basic .string

-- `strings.HasPrefix`. Go compares bytes; for UTF-8 text, a byte prefix is a
-- character prefix, since the encoding is prefix-free.
def hasPrefix (s pre : String) : Bool := pre.data.isPrefixOf s.data

end AnyMapper
