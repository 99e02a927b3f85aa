import AnyMapper.Value

namespace AnyMapper

-- How a call ends: it returns, it panics, or a loop in it had not exited when the
-- fuel ran out.
inductive Outcome (α : Type) where
  | ret (a : α)
  | panic (msg : String)
  | diverge

namespace Outcome

instance : Monad Outcome where
  pure := .ret
  bind x f := match x with
    | .ret a => f a
    | .panic msg => .panic msg
    | .diverge => .diverge

def ofOption {α : Type} : Option α → Outcome α
  | some a => .ret a
  | none => .diverge

def ofExcept {α : Type} : Except String α → Outcome α
  | .ok a => .ret a
  | .error msg => .panic msg

@[simp] theorem ret_bind {α β : Type} (a : α) (f : α → Outcome β) : (ret a >>= f) = f a := rfl
@[simp] theorem panic_bind {α β : Type} (msg : String) (f : α → Outcome β) :
    (panic msg >>= f) = panic msg := rfl
@[simp] theorem diverge_bind {α β : Type} (f : α → Outcome β) : (diverge >>= f) = diverge := rfl
@[simp] theorem pure_eq {α : Type} (a : α) : (pure a : Outcome α) = ret a := rfl
@[simp] theorem map_ret {α β : Type} (f : α → β) (a : α) : (f <$> ret a) = ret (f a) := rfl

@[simp] theorem ofOption_some {α : Type} (a : α) : ofOption (some a) = ret a := rfl
@[simp] theorem ofOption_none {α : Type} : ofOption (none : Option α) = diverge := rfl
@[simp] theorem ofExcept_ok {α : Type} (a : α) : ofExcept (.ok a : Except String α) = ret a := rfl
@[simp] theorem ofExcept_error {α : Type} (msg : String) :
    ofExcept (.error msg : Except String α) = panic msg := rfl

theorem bind_eq_ret {α β : Type} {x : Outcome α} {f : α → Outcome β} {b : β} :
    (x >>= f) = ret b ↔ ∃ a, x = ret a ∧ f a = ret b := by
  cases x <;> simp

theorem ofExcept_eq_ret {α : Type} {x : Except String α} {a : α} :
    ofExcept x = ret a ↔ x = .ok a := by
  cases x <;> simp

theorem ofOption_eq_ret {α : Type} {x : Option α} {a : α} : ofOption x = ret a ↔ x = some a := by
  cases x <;> simp

theorem bind_eq_panic {α β : Type} {x : Outcome α} {f : α → Outcome β} {msg : String} :
    (x >>= f) = panic msg ↔ x = panic msg ∨ ∃ a, x = ret a ∧ f a = panic msg := by
  cases x <;> simp

theorem ofExcept_eq_panic {α : Type} {x : Except String α} {msg : String} :
    ofExcept x = panic msg ↔ x = .error msg := by
  cases x <;> simp

@[simp] theorem ofOption_ne_panic {α : Type} (x : Option α) (msg : String) : ofOption x ≠ panic msg := by
  cases x <;> simp

@[simp] theorem map_panic {α β : Type} (f : α → β) (msg : String) : (f <$> panic msg) = panic msg := rfl
@[simp] theorem map_diverge {α β : Type} (f : α → β) : (f <$> (diverge : Outcome α)) = diverge := rfl

-- Two outcomes alike up to a relation on what they return: both return related values,
-- both panic with one message, or neither returns.
def Rel {α β : Type} (R : α → β → Prop) : Outcome α → Outcome β → Prop
  | .ret a, .ret b => R a b
  | .panic msg, .panic msg' => msg = msg'
  | .diverge, .diverge => True
  | _, _ => False

theorem Rel.bind {α β γ δ : Type} {R : α → β → Prop} {S : γ → δ → Prop} {x : Outcome α}
    {y : Outcome β} {f : α → Outcome γ} {g : β → Outcome δ} (hxy : x.Rel R y)
    (hfg : ∀ a b, R a b → (f a).Rel S (g b)) : (x >>= f).Rel S (y >>= g) := by
  cases x <;> cases y <;> first | exact hfg _ _ hxy | exact hxy | exact hxy.elim

theorem Rel.bind_same {α γ δ : Type} {S : γ → δ → Prop} (x : Outcome α) {f : α → Outcome γ}
    {g : α → Outcome δ} (hfg : ∀ a, (f a).Rel S (g a)) : (x >>= f).Rel S (x >>= g) := by
  cases x
  · exact hfg _
  · rfl
  · trivial

-- What a projection sees of related outcomes is the same when it sees only what the
-- relation relates.
theorem Rel.map_eq {α β γ : Type} {R : α → β → Prop} {x : Outcome α} {y : Outcome β}
    {f : α → γ} {g : β → γ} (hxy : x.Rel R y) (hfg : ∀ a b, R a b → f a = g b) : f <$> x = g <$> y := by
  cases x <;> cases y <;> first | exact congrArg ret (hfg _ _ hxy) | exact congrArg panic hxy | exact hxy.elim | rfl

end Outcome

-- `binary.ByteOrder`, as the two orders of encoding/binary.
inductive ByteOrder where
  | bigEndian | littleEndian
deriving DecidableEq

-- `Context`. `custom` is an `any`: nil, or a boxed value.
structure Context where
  strictTypes : Bool
  tag : String
  byteOrder : Option ByteOrder
  disableCache : Bool
  fieldMapper : Option (String → String)
  custom : Data

-- The errors of mapper.go: the sentinels `InvalidSrcErr` and `InvalidDstErr`, an
-- `*InvalidMappingErr`, and whatever error a `MapFunc` of another file returns.
inductive MapError where
  | invalidSrc
  | invalidDst
  | invalidMapping (src dst : GoType) (reason : String)
  | other (msg : String)
deriving DecidableEq

def newInvalidMappingError (src dst : GoType) (reason : String) : MapError :=
  .invalidMapping src dst reason

-- `Error()`.
def MapError.error : MapError → String
  | .invalidSrc => "mapper: invalid source value"
  | .invalidDst => "mapper: invalid destination value"
  | .invalidMapping src dst reason =>
      if reason.length = 0 then "mapper: cannot map " ++ src.string ++ " to " ++ dst.string
      else "mapper: cannot map " ++ src.string ++ " to " ++ dst.string ++ ": " ++ reason
  | .other msg => msg

-- The Go runtime's panics: calling a nil func or reading through a nil pointer, and
-- assigning to an entry of a nil map.
def nilDereference : String := "runtime error: invalid memory address or nil pointer dereference"
def nilMapAssignment : String := "assignment to entry in nil map"

-- `MapFunc`: the two of mapper.go, whose code the model gives in `Map`, or a func value
-- of another file or of the program, named by a number and run by `Builtins.mapFunc`.
inductive MapFunc where
  | mapDirect
  | mapAny
  | other (name : Nat)
deriving DecidableEq

-- A `MapFuncProvider` func value: one of the four `New` registers, or one of the
-- program's, named by a number. `Builtins.provider` runs it.
inductive MapFuncProvider where
  | timeTypeMapper
  | bigIntTypeMapper
  | bigFloatTypeMapper
  | bigRatTypeMapper
  | other (name : Nat)
deriving DecidableEq

-- `Hooks`; `none` is a nil func. A value hook reads memory and returns a value.
structure Hooks where
  mapFuncHook : Option MapFuncProvider := none
  sourceValueHook : Option (Heap → Value → Value) := none
  destinationValueHook : Option (Heap → Value → Value) := none

-- `typeMapper`; `mapFunc = none` is a nil `MapFunc`.
structure TypeMapper where
  srcType : GoType
  dstType : GoType
  mapFunc : Option MapFunc
deriving DecidableEq

-- The exported fields of `Mapper`. `context` is `none` for a nil pointer. `mappers` is
-- a Go map: a lookup is `none` for an absent key and `some none` for a nil func.
structure Config where
  context : Option Context
  mappers : GoType → Option (Option MapFuncProvider)
  hooks : Hooks

-- `m.Mappers[t] != nil`.
def Config.hasMapper (c : Config) (t : GoType) : Bool :=
  match c.mappers t with
  | some (some _) => true
  | _ => false

-- `Mapper`. `cacheMap` is `none` when nil, as in a `Mapper` built by a struct literal.
-- The mutex only serialises cache accesses and is left out.
structure Mapper extends Config where
  cacheMap : Option (GoType → GoType → Option TypeMapper)

-- `m.cacheMap[typePair{src, dst}]`: a nil map reads as empty.
def Mapper.lookup (m : Mapper) (src dst : GoType) : Option TypeMapper :=
  m.cacheMap.bind fun c => c src dst

-- What a mapping call returns: its `error` (`none` for nil), memory and the mapper,
-- whose cache the call may have filled.
abbrev MapResult := Outcome (Option MapError × Heap × Mapper)

-- The func values mapper.go calls whose code is not in it: `builtInTypesMapper` of the
-- package's other files, and the providers and `MapFunc`s a mapper names. Go passes each
-- the `*Mapper`. A provider is called while `mapperFor` holds the cache's lock, and the
-- cache is unexported, so it reads the exported fields; a `MapFunc` may read and change
-- the whole mapper, as mapping through it does.
structure Builtins where
  builtInTypesMapper : Config → GoType → GoType → Option MapFunc
  provider : MapFuncProvider → Config → GoType → GoType → Option MapFunc
  mapFunc : Nat → Mapper → Option Context → Value → Value → Heap → MapResult

-- Package functions that find no `MapFunc`, for concrete runs.
def noBuiltins : Builtins where
  builtInTypesMapper _ _ _ := none
  provider _ _ _ _ := none
  mapFunc _ m _ _ _ h := .ret (none, h, m)

-- The types `New` registers providers for; the `Default` doc comment names them.
def timeTy : GoType := .named ⟨"time", ⟨"time", by decide⟩, "Time"⟩
def bigIntTy : GoType := .named ⟨"math/big", ⟨"big", by decide⟩, "Int"⟩
def bigFloatTy : GoType := .named ⟨"math/big", ⟨"big", by decide⟩, "Float"⟩
def bigRatTy : GoType := .named ⟨"math/big", ⟨"big", by decide⟩, "Rat"⟩

-- `New()`.
def Mapper.new : Mapper where
  context := some { strictTypes := false, tag := "map", byteOrder := some .bigEndian,
                    disableCache := false, fieldMapper := none, custom := .nil }
  mappers t :=
    if t = timeTy then some (some .timeTypeMapper)
    else if t = bigIntTy then some (some .bigIntTypeMapper)
    else if t = bigFloatTy then some (some .bigFloatTypeMapper)
    else if t = bigRatTy then some (some .bigRatTypeMapper)
    else none
  hooks := {}
  cacheMap := some fun _ _ => none

@[simp] theorem Mapper.new_hooks : Mapper.new.hooks = {} := rfl

@[simp] theorem Mapper.new_lookup (s d : GoType) : Mapper.new.lookup s d = none := rfl

-- `New` registers providers for defined types only.
@[simp] theorem Mapper.new_mappers_of_isNamed_false {t : GoType} (ht : t.isNamed = false) :
    Mapper.new.mappers t = none := by
  have hne : ∀ n, t ≠ .named n := by rintro n rfl; cases ht
  simp only [Mapper.new, timeTy, bigIntTy, bigFloatTy, bigRatTy, hne, if_false]

-- `Copy()`: the same configuration, with an empty cache. It reads the fields of
-- `m.Context`, so on a nil one it panics.
def Mapper.copy (m : Mapper) : Except String Mapper :=
  match m.context with
  | none => .error nilDereference
  | some ctx => .ok { context := some ctx, mappers := m.mappers, hooks := m.hooks,
                      cacheMap := some fun _ _ => none }

end AnyMapper
