import AnyMapper.Types

namespace AnyMapper

section Rendering

-- `reflect` prints a defined type as `pkg.Name`. A package name holds neither `[`
-- nor `.`, so no pattern with a `[` and no `.` can start such a name.
theorem hasPrefix_named (n : TypeName) (q : String) (hb : '[' ∈ q.data) (hd : '.' ∉ q.data) :
    hasPrefix (GoType.named n).string q = false := by
  rw [Bool.eq_false_iff]
  intro h
  simp only [GoType.string, hasPrefix, List.isPrefixOf_iff_prefix, String.data_append] at h
  have hdot : n.pkg.name.data ++ ['.'] <+: n.pkg.name.data ++ ".".data ++ n.name.data := by simp
  rcases List.prefix_or_prefix_of_prefix h hdot with h' | h'
  · rcases List.mem_append.mp (h'.subset hb) with h1 | h1
    · exact absurd (n.pkg.valid _ h1) (by decide)
    · simp at h1
  · exact hd (h'.subset (by simp))

-- Only slice and array types print with a leading `[`.
theorem eq_slice_or_array_of_hasPrefix {t : GoType} (h : hasPrefix t.string "[" = true) :
    (∃ e, t = .slice e) ∨ (∃ len e, t = .array len e) := by
  cases t with
  | basic b => cases b <;> simp [GoType.string, Basic.name, hasPrefix] at h
  | named n => simp [hasPrefix_named] at h
  | slice e => exact .inl ⟨e, rfl⟩
  | array len e => exact .inr ⟨len, e, rfl⟩
  | chan d e => cases d <;> (rw [GoType.string.eq_def] at h; simp [hasPrefix] at h)
  | _ => rw [GoType.string.eq_def] at h; simp [hasPrefix] at h

-- Only map types print with a leading `map[`.
theorem eq_map_of_hasPrefix {t : GoType} (h : hasPrefix t.string "map[" = true) :
    ∃ k e, t = .map k e := by
  cases t with
  | basic b => cases b <;> simp [GoType.string, Basic.name, hasPrefix] at h
  | named n => simp [hasPrefix_named] at h
  | map k e => exact ⟨k, e, rfl⟩
  | chan d e => cases d <;> (rw [GoType.string.eq_def] at h; simp [hasPrefix] at h)
  | _ => rw [GoType.string.eq_def] at h; simp [hasPrefix] at h

variable (env : TypeEnv)

theorem sizeOf_elem_lt_of_hasPrefix {t : GoType} (h : hasPrefix t.string "[" = true) :
    sizeOf (t.elem env) < sizeOf t := by
  rcases eq_slice_or_array_of_hasPrefix h with ⟨e, rfl⟩ | ⟨len, e, rfl⟩
  · simp only [GoType.elem, GoType.formElem, GoType.slice.sizeOf_spec]; omega
  · simp only [GoType.elem, GoType.formElem, GoType.array.sizeOf_spec, sizeOf_nat]; omega

theorem sizeOf_map_lt_of_hasPrefix {t : GoType} (h : hasPrefix t.string "map[" = true) :
    sizeOf (t.elem env) < sizeOf t ∧ sizeOf (t.key env) < sizeOf t := by
  obtain ⟨k, e, rfl⟩ := eq_map_of_hasPrefix h
  simp only [GoType.elem, GoType.key, GoType.formElem, GoType.formKey, GoType.map.sizeOf_spec]
  omega

end Rendering

-- `isSimpleType`. Go's `&&` short-circuits, so the recursive call is made only once
-- the printed name starts with `[` (or `map[`); that is also why the recursion ends
-- on defined types such as `type S []S`.
def isSimpleType (env : TypeEnv) (p : GoType) : Bool :=
  match p.kind env with
  | .bool => p == boolTy
  | .int => p == intTy
  | .int8 => p == int8Ty
  | .int16 => p == int16Ty
  | .int32 => p == int32Ty
  | .int64 => p == int64Ty
  | .uint => p == uintTy
  | .uint8 => p == uint8Ty
  | .uint16 => p == uint16Ty
  | .uint32 => p == uint32Ty
  | .uint64 => p == uint64Ty
  | .float32 => p == float32Ty
  | .float64 => p == float64Ty
  | .string => p == stringTy
  | .slice => if h : hasPrefix p.string "[" then isSimpleType env (p.elem env) else false
  | .array => if h : hasPrefix p.string "[" then isSimpleType env (p.elem env) else false
  | .map =>
      if h : hasPrefix p.string "map[" then
        isSimpleType env (p.elem env) && isSimpleType env (p.key env)
      else false
  | _ => false
termination_by sizeOf p
decreasing_by
  · exact sizeOf_elem_lt_of_hasPrefix env h
  · exact sizeOf_elem_lt_of_hasPrefix env h
  · exact (sizeOf_map_lt_of_hasPrefix env h).1
  · exact (sizeOf_map_lt_of_hasPrefix env h).2

-- The predeclared types the source compares against.
def simpleBasics : List Basic :=
  [.bool, .int, .int8, .int16, .int32, .int64, .uint, .uint8, .uint16, .uint32, .uint64,
    .float32, .float64, .string]

section Equations

variable (env : TypeEnv)

@[simp] theorem isSimpleType_basic (b : Basic) :
    isSimpleType env (.basic b) = decide (b ∈ simpleBasics) := by
  rw [isSimpleType]
  cases b <;> rfl

@[simp] theorem isSimpleType_named (n : TypeName) : isSimpleType env (.named n) = false := by
  rw [isSimpleType]
  split <;> simp_all [hasPrefix_named, boolTy, intTy, int8Ty, int16Ty, int32Ty, int64Ty,
    uintTy, uint8Ty, uint16Ty, uint32Ty, uint64Ty, float32Ty, float64Ty, stringTy]

@[simp] theorem isSimpleType_slice (e : GoType) :
    isSimpleType env (.slice e) = isSimpleType env e := by
  rw [isSimpleType]
  simp [GoType.kind, GoType.formKind, GoType.string, GoType.elem, GoType.formElem, hasPrefix]

@[simp] theorem isSimpleType_array (len : Nat) (e : GoType) :
    isSimpleType env (.array len e) = isSimpleType env e := by
  rw [isSimpleType]
  simp [GoType.kind, GoType.formKind, GoType.string, GoType.elem, GoType.formElem, hasPrefix]

@[simp] theorem isSimpleType_map (k e : GoType) :
    isSimpleType env (.map k e) = (isSimpleType env e && isSimpleType env k) := by
  rw [isSimpleType]
  simp [GoType.kind, GoType.formKind, GoType.string, GoType.elem, GoType.formElem,
    GoType.key, GoType.formKey, hasPrefix]

-- Pointers, interfaces, channels, functions and structs are never simple, whatever
-- their element or field types.
theorem isSimpleType_of_kind {t : GoType}
    (hk : t.kind env = .pointer ∨ t.kind env = .interface ∨ t.kind env = .chan ∨
      t.kind env = .func ∨ t.kind env = .struct) :
    isSimpleType env t = false := by
  rw [isSimpleType]
  rcases hk with h | h | h | h | h <;> simp [h]

@[simp] theorem isSimpleType_pointer (e : GoType) : isSimpleType env (.pointer e) = false :=
  isSimpleType_of_kind env (.inl rfl)

@[simp] theorem isSimpleType_interface (ms : MethodList) :
    isSimpleType env (.interface ms) = false :=
  isSimpleType_of_kind env (.inr (.inl rfl))

end Equations

-- The simple types by their form: the predeclared boolean, numeric and string types
-- except `uintptr` and the complex ones, and slices, arrays and maps of simple types.
-- Every constructor is a type literal, so no defined type is of this form.
inductive SimpleForm : GoType → Prop
  | predeclared {b : Basic} : b ∈ simpleBasics → SimpleForm (.basic b)
  | slice {e : GoType} : SimpleForm e → SimpleForm (.slice e)
  | array {len : Nat} {e : GoType} : SimpleForm e → SimpleForm (.array len e)
  | map {k e : GoType} : SimpleForm k → SimpleForm e → SimpleForm (.map k e)

-- The string-prefix test of the source tells defined types from type literals at
-- every level, so `isSimpleType` decides exactly the simple forms; in particular it
-- rejects every defined type and every type of a kind it has no case for.
theorem isSimpleType_iff_simpleForm (env : TypeEnv) :
    ∀ t, (isSimpleType env t = true ↔ SimpleForm t) ∧
      (t.isNamed = true ∨ t.kind env ∈ [Kind.pointer, .interface, .struct, .chan, .func,
        .complex64, .complex128, .uintptr] → isSimpleType env t = false)
  | .basic b => by
      refine ⟨⟨fun h => .predeclared (by simpa using h), by rintro ⟨hb⟩; simpa using hb⟩, ?_⟩
      cases b <;> simp [GoType.kind, GoType.formKind, GoType.isNamed, Basic.kind, simpleBasics]
  | .named n => ⟨by simp; rintro ⟨⟩, fun _ => isSimpleType_named env n⟩
  | .slice e => by
      refine ⟨?_, by simp [GoType.isNamed, GoType.kind, GoType.formKind]⟩
      rw [isSimpleType_slice, (isSimpleType_iff_simpleForm env e).1]
      exact ⟨.slice, fun h => by cases h; assumption⟩
  | .array len e => by
      refine ⟨?_, by simp [GoType.isNamed, GoType.kind, GoType.formKind]⟩
      rw [isSimpleType_array, (isSimpleType_iff_simpleForm env e).1]
      exact ⟨.array, fun h => by cases h; assumption⟩
  | .map k e => by
      refine ⟨?_, by simp [GoType.isNamed, GoType.kind, GoType.formKind]⟩
      rw [isSimpleType_map, Bool.and_eq_true, (isSimpleType_iff_simpleForm env e).1,
        (isSimpleType_iff_simpleForm env k).1]
      exact ⟨fun ⟨he, hk⟩ => .map hk he, fun h => by cases h; constructor <;> assumption⟩
  | .error => not_simple (by simp [GoType.kind, GoType.formKind]) (by rintro ⟨⟩)
  | .chan d e => not_simple (by simp [GoType.kind, GoType.formKind]) (by rintro ⟨⟩)
  | .func ps rs v => not_simple (by simp [GoType.kind, GoType.formKind]) (by rintro ⟨⟩)
  | .interface ms => not_simple (by simp [GoType.kind, GoType.formKind]) (by rintro ⟨⟩)
  | .pointer e => not_simple (by simp [GoType.kind, GoType.formKind]) (by rintro ⟨⟩)
  | .struct fs => not_simple (by simp [GoType.kind, GoType.formKind]) (by rintro ⟨⟩)
where
  not_simple {t : GoType} (hk : t.kind env = .pointer ∨ t.kind env = .interface ∨
      t.kind env = .chan ∨ t.kind env = .func ∨ t.kind env = .struct) (hs : ¬ SimpleForm t) :
      (isSimpleType env t = true ↔ SimpleForm t) ∧
        (t.isNamed = true ∨ t.kind env ∈ [Kind.pointer, .interface, .struct, .chan, .func,
          .complex64, .complex128, .uintptr] → isSimpleType env t = false) :=
    ⟨by simp [isSimpleType_of_kind env hk, hs], fun _ => isSimpleType_of_kind env hk⟩

end AnyMapper
