import AnyMapper.Types

namespace AnyMapper

-- What a Go variable holds, as far as the mapper looks at it. A pointer, map, slice,
-- channel or function is `nil` or refers to an allocation; an interface is `nil` or
-- boxes a value of its dynamic type; anything else is an opaque literal.
inductive Data where
  | nil
  | ref (a : Nat)
  | boxed (t : GoType) (d : Data)
  | lit (n : Nat)
deriving DecidableEq

-- A Go variable: its static type and what it holds.
structure Cell where
  ty : GoType
  data : Data
deriving DecidableEq

-- Memory: the cell at address `a` is `h[a]`. Pointers and interfaces refer to cells
-- by address, so value graphs may share cells and may be cyclic.
abbrev Heap := List Cell

namespace Heap

def read (h : Heap) (a : Nat) : Data :=
  match h[a]? with
  | some c => c.data
  | none => .nil

def write (h : Heap) (a : Nat) (d : Data) : Heap :=
  h.modify (fun c => { c with data := d }) a

def alloc (h : Heap) (c : Cell) : Heap := h ++ [c]

@[simp] theorem length_write (h : Heap) (a : Nat) (d : Data) :
    (h.write a d).length = h.length := by
  simp [write]

@[simp] theorem length_alloc (h : Heap) (c : Cell) : (h.alloc c).length = h.length + 1 := by
  simp [alloc]

theorem read_write_self (h : Heap) {a : Nat} (d : Data) (ha : a < h.length) :
    (h.write a d).read a = d := by
  simp [read, write, List.getElem?_modify, List.getElem?_eq_getElem ha]

theorem read_write_ne (h : Heap) {a b : Nat} (d : Data) (hne : a ≠ b) :
    (h.write a d).read b = h.read b := by
  simp only [read, write, List.getElem?_modify, hne, if_false]
  cases h[b]? <;> rfl

theorem getElem?_write_ty (h : Heap) (a b : Nat) (d : Data) :
    ((h.write a d)[b]?).map Cell.ty = (h[b]?).map Cell.ty := by
  simp only [write, List.getElem?_modify]
  cases h[b]? <;> simp; split <;> rfl

theorem read_alloc_lt (h : Heap) (c : Cell) {b : Nat} (hb : b < h.length) :
    (h.alloc c).read b = h.read b := by
  simp [read, alloc, List.getElem?_append_left hb]

theorem read_alloc_length (h : Heap) (c : Cell) : (h.alloc c).read h.length = c.data := by
  simp [read, alloc]

theorem read_of_length_le (h : Heap) {a : Nat} (ha : h.length ≤ a) : h.read a = .nil := by
  simp [read, List.getElem?_eq_none ha]

theorem lt_length_of_ty {h : Heap} {a : Nat} {t : GoType} (ha : (h[a]?).map Cell.ty = some t) :
    a < h.length := by
  by_contra hn
  rw [List.getElem?_eq_none (by omega)] at ha
  cases ha

theorem ty_alloc_lt (h : Heap) (c : Cell) {b : Nat} (hb : b < h.length) :
    ((h.alloc c)[b]?).map Cell.ty = (h[b]?).map Cell.ty := by
  simp [alloc, List.getElem?_append_left hb]

theorem ty_alloc_length (h : Heap) (c : Cell) : ((h.alloc c)[h.length]?).map Cell.ty = some c.ty := by
  simp [alloc]

end Heap

-- Where a `reflect.Value` finds its data: in a variable, which makes it addressable,
-- or carried along as a copy.
inductive Loc where
  | cell (a : Nat)
  | direct (d : Data)
deriving DecidableEq

def Loc.read (h : Heap) : Loc → Data
  | .cell a => h.read a
  | .direct d => d

-- `reflect.Value`: the zero `Value`, or a type, a location and the read-only flag that
-- marks values reached through unexported struct fields.
inductive Value where
  | invalid
  | mk (ty : GoType) (loc : Loc) (readOnly : Bool)
deriving DecidableEq

namespace Value

section Reflect

variable (env : TypeEnv) (h : Heap)

def isValid : Value → Bool
  | .invalid => false
  | .mk .. => true

-- `Value.Type()`; it panics on the zero `Value`, which every caller rules out first.
def type : Value → GoType
  | .invalid => anyTy
  | .mk t _ _ => t

def kind : Value → Kind
  | .invalid => .invalid
  | .mk t _ _ => t.kind env

def read : Value → Data
  | .invalid => .nil
  | .mk _ loc _ => loc.read h

-- `Value.IsNil()`, asked only of the kinds that can be nil.
def isNil (v : Value) : Bool := v.read h = .nil

-- `Value.CanSet()`: addressable and not read-only.
def canSet : Value → Bool
  | .mk _ (.cell _) ro => !ro
  | _ => false

theorem canSet_iff {v : Value} : v.canSet = true ↔ ∃ t a, v = .mk t (.cell a) false := by
  constructor
  · intro hv
    match v, hv with
    | .mk t (.cell a) false, _ => exact ⟨t, a, rfl⟩
  · rintro ⟨t, a, rfl⟩
    rfl

-- `Value.Elem()`: the value an interface boxes, or the variable a pointer points to.
-- It panics on other kinds; the modelled loops call it only on these two.
def elem : Value → Value
  | .invalid => .invalid
  | .mk t loc ro =>
      match t.kind env, loc.read h with
      | .interface, .boxed dt d => .mk dt (.direct d) ro
      | .pointer, .ref a => .mk (t.elem env) (.cell a) ro
      | _, _ => .invalid

end Reflect

end Value

section Reflect

variable (env : TypeEnv)

-- The zero value a fresh variable of type `t` holds.
def zero (t : GoType) : Data :=
  match t.kind env with
  | .chan | .func | .interface | .map | .pointer | .slice | .unsafePointer => .nil
  | _ => .lit 0

-- `reflect.New(t)`: a pointer to a fresh variable of type `t`.
def reflectNew (h : Heap) (t : GoType) : Value × Heap :=
  (.mk (.pointer t) (.direct (.ref h.length)) false, h.alloc ⟨t, zero env t⟩)

-- `reflect.MakeMap(t)`: a non-nil map whose runtime object is a fresh allocation.
def makeMap (h : Heap) (t : GoType) : Value × Heap :=
  (.mk t (.direct (.ref h.length)) false, h.alloc ⟨t, .lit 0⟩)

-- `reflect.MakeSlice(t, 0, 0)`: a non-nil empty slice over a fresh backing array.
def makeSlice (h : Heap) (t : GoType) : Value × Heap :=
  (.mk t (.direct (.ref h.length)) false, h.alloc ⟨.array 0 (t.elem env), .lit 0⟩)

def GoType.underlying : GoType → GoType
  | .named n => env.underlying n
  | t => t

-- Types without a name: the type literals other than the predeclared ones.
def GoType.isUnnamed : GoType → Bool
  | .basic _ | .error | .named _ => false
  | _ => true

-- Go's assignability as `Value.Set` checks it. Method sets are not modelled, so an
-- interface with methods accepts only values of its own type.
def assignable (x t : GoType) : Bool :=
  x == t ||
    ((x.isUnnamed || t.isUnnamed) && GoType.underlying env x == GoType.underlying env t) ||
    GoType.underlying env t == anyTy

-- `Value.Set(x)`. It panics unless `v` is settable and `x` is a valid, exported value
-- assignable to `v`'s type. Assigned to an interface, `x` is boxed with its type.
def Value.set (h : Heap) (v x : Value) : Except String Heap :=
  match v, x with
  | .invalid, _ => .error "reflect: call of reflect.Value.Set on zero Value"
  | .mk _ _ true, _ => .error "reflect: reflect.Value.Set using value obtained using unexported field"
  | .mk _ (.direct _) false, _ => .error "reflect: reflect.Value.Set using unaddressable value"
  | .mk _ (.cell _) false, .invalid => .error "reflect: call of reflect.Value.Set on zero Value"
  | .mk _ (.cell _) false, .mk _ _ true =>
      .error "reflect: reflect.Value.Set using value obtained using unexported field"
  | .mk t (.cell a) false, .mk xt xloc false =>
      if assignable env xt t then
        .ok (h.write a (if t.kind env = .interface && xt.kind env != .interface then
          .boxed xt (xloc.read h) else xloc.read h))
      else .error ("reflect.Set: value of type " ++ xt.string ++ " is not assignable to type " ++
        t.string)

theorem assignable_self (t : GoType) : assignable env t t = true := by simp [assignable]

theorem eq_pointer_of_formKind {u : GoType} (hk : u.formKind = .pointer) :
    u = .pointer u.formElem := by
  cases u <;> simp_all [GoType.formKind, GoType.formElem]
  rename_i b; cases b <;> simp_all [Basic.kind]

-- A pointer to `t`'s element type is assignable to `t`, named or not: what
-- `initValue` stores into a nil pointer.
theorem assignable_pointer_elem {t : GoType} (hk : t.kind env = .pointer) :
    assignable env (.pointer (t.elem env)) t = true := by
  cases t with
  | named n =>
      have hu := eq_pointer_of_formKind (by simpa [GoType.kind] using hk)
      simp [assignable, GoType.underlying, GoType.isUnnamed, GoType.elem, ← hu]
  | pointer e => simp [assignable, GoType.elem, GoType.formElem]
  | _ => simp [GoType.kind, GoType.formKind] at hk; try (rename_i b; cases b <;> simp [Basic.kind] at hk)

-- Everything `Set` does when it does not panic.
theorem Value.set_eq_ok {h h' : Heap} {v x : Value} (hs : Value.set env h v x = .ok h') :
    ∃ t a xt xloc, v = .mk t (.cell a) false ∧ x = .mk xt xloc false ∧
      assignable env xt t = true ∧
      h' = h.write a (if t.kind env = .interface && xt.kind env != .interface then
        .boxed xt (xloc.read h) else xloc.read h) := by
  unfold Value.set at hs
  split at hs <;> try cases hs
  split at hs
  · cases hs; exact ⟨_, _, _, _, rfl, rfl, by assumption, rfl⟩
  · cases hs

theorem Value.set_of_assignable (h : Heap) (t : GoType) (a : Nat) (xt : GoType) (xloc : Loc)
    (hx : assignable env xt t = true) :
    Value.set env h (.mk t (.cell a) false) (.mk xt xloc false) =
      .ok (h.write a (if t.kind env = .interface && xt.kind env != .interface then
        .boxed xt (xloc.read h) else xloc.read h)) := by
  simp [Value.set, hx]

end Reflect

end AnyMapper

namespace AnyMapper

-- `h'` holds what `h` held, except that some cells holding nil now refer to fresh
-- cells: the only change the initialisation of nil pointers, maps and slices makes.
def Heap.InitOnly (h h' : Heap) : Prop :=
  h.length ≤ h'.length ∧ ∀ a < h.length,
    (h'[a]?).map Cell.ty = (h[a]?).map Cell.ty ∧
      (h'.read a = h.read a ∨ (h.read a = .nil ∧ ∃ b, h.length ≤ b ∧ h'.read a = .ref b))

-- The same, except at the cell `a`, which may have been written.
def Heap.InitOnlyExcept (a : Nat) (h h' : Heap) : Prop :=
  h.length ≤ h'.length ∧ ∀ c < h.length, c ≠ a →
    (h'[c]?).map Cell.ty = (h[c]?).map Cell.ty ∧
      (h'.read c = h.read c ∨ (h.read c = .nil ∧ ∃ b, h.length ≤ b ∧ h'.read c = .ref b))

-- A write to a cell allocated since `h` changes nothing `h` held.
theorem Heap.InitOnlyExcept.initOnly {h h' : Heap} {a : Nat} (hh : h.InitOnlyExcept a h')
    (ha : h.length ≤ a) : h.InitOnly h' :=
  ⟨hh.1, fun c hc => hh.2 c hc (by omega)⟩

namespace Heap.InitOnly

theorem refl (h : Heap) : h.InitOnly h := ⟨le_rfl, fun _ _ => ⟨rfl, .inl rfl⟩⟩

theorem except {h h' : Heap} (hh : h.InitOnly h') (a : Nat) : h.InitOnlyExcept a h' :=
  ⟨hh.1, fun c hc _ => hh.2 c hc⟩

-- A cell that two steps each left alone or initialised was left alone or initialised
-- by both: an initialised cell holds no nil for the second step to initialise again.
theorem read_trans {h₁ h₂ h₃ : Heap} {c : Nat} (hl : h₁.length ≤ h₂.length)
    (d₁₂ : h₂.read c = h₁.read c ∨ (h₁.read c = .nil ∧ ∃ b, h₁.length ≤ b ∧ h₂.read c = .ref b))
    (d₂₃ : h₃.read c = h₂.read c ∨ (h₂.read c = .nil ∧ ∃ b, h₂.length ≤ b ∧ h₃.read c = .ref b)) :
    h₃.read c = h₁.read c ∨ (h₁.read c = .nil ∧ ∃ b, h₁.length ≤ b ∧ h₃.read c = .ref b) := by
  rcases d₁₂ with e₁₂ | ⟨hnil, b, hb, e₁₂⟩ <;> rcases d₂₃ with e₂₃ | ⟨hnil', b', hb', e₂₃⟩
  · exact .inl (e₂₃.trans e₁₂)
  · exact .inr ⟨e₁₂ ▸ hnil', b', hl.trans hb', e₂₃⟩
  · exact .inr ⟨hnil, b, hb, e₂₃.trans e₁₂⟩
  · simp [e₁₂] at hnil'

theorem trans_except {h₁ h₂ h₃ : Heap} {a : Nat} (h₁₂ : h₁.InitOnly h₂)
    (h₂₃ : h₂.InitOnlyExcept a h₃) : h₁.InitOnlyExcept a h₃ := by
  refine ⟨h₁₂.1.trans h₂₃.1, fun c hc hca => ?_⟩
  obtain ⟨ty₁₂, d₁₂⟩ := h₁₂.2 c hc
  obtain ⟨ty₂₃, d₂₃⟩ := h₂₃.2 c (lt_of_lt_of_le hc h₁₂.1) hca
  exact ⟨ty₂₃.trans ty₁₂, read_trans h₁₂.1 d₁₂ d₂₃⟩

theorem trans {h₁ h₂ h₃ : Heap} (h₁₂ : h₁.InitOnly h₂) (h₂₃ : h₂.InitOnly h₃) : h₁.InitOnly h₃ :=
  (h₁₂.trans_except (h₂₃.except h₂.length)).initOnly h₁₂.1

theorem alloc (h : Heap) (c : Cell) : h.InitOnly (h.alloc c) := by
  refine ⟨by simp, fun a ha => ⟨?_, .inl (Heap.read_alloc_lt h c ha)⟩⟩
  simp [Heap.alloc, List.getElem?_append_left ha]

theorem write_except {h h' : Heap} (hh : h.InitOnly h') (a : Nat) (d : Data) :
    h.InitOnlyExcept a (h'.write a d) := by
  refine ⟨by simpa using hh.1, fun c hc hca => ?_⟩
  rw [Heap.read_write_ne h' _ (Ne.symm hca)]
  exact ⟨(Heap.getElem?_write_ty h' a c _).trans (hh.2 c hc).1, (hh.2 c hc).2⟩

-- Writing a reference to a cell fresh since `h` over a nil.
theorem write_fresh {h h' : Heap} (hh : h.InitOnly h') {a b : Nat} (hnil : h'.read a = .nil)
    (hb : h.length ≤ b) : h.InitOnly (h'.write a (.ref b)) := by
  refine ⟨by simpa using hh.1, fun a' ha' => ?_⟩
  obtain ⟨hty, hd⟩ := hh.2 a' ha'
  refine ⟨(Heap.getElem?_write_ty h' a a' _).trans hty, ?_⟩
  by_cases he : a = a'
  · subst he
    have hold : h.read a = .nil := by rcases hd with e | ⟨e, -⟩ <;> simp_all
    exact .inr ⟨hold, b, hb, Heap.read_write_self h' _ (lt_of_lt_of_le ha' hh.1)⟩
  · rwa [Heap.read_write_ne h' _ he]

-- Cells allocated since `h` are not constrained.
theorem write_new {h h' : Heap} (hh : h.InitOnly h') {a : Nat} (d : Data) (ha : h.length ≤ a) :
    h.InitOnly (h'.write a d) :=
  (hh.write_except a d).initOnly ha

end Heap.InitOnly

-- The same, except at the cells of `as`, each of which may have been written: what a
-- sequence of steps leaves that each wrote at most one variable.
def Heap.InitOnlyOutside (as : List Nat) (h h' : Heap) : Prop :=
  h.length ≤ h'.length ∧ ∀ c < h.length, c ∉ as →
    (h'[c]?).map Cell.ty = (h[c]?).map Cell.ty ∧
      (h'.read c = h.read c ∨ (h.read c = .nil ∧ ∃ b, h.length ≤ b ∧ h'.read c = .ref b))

theorem Heap.InitOnly.outside {h h' : Heap} (hh : h.InitOnly h') (as : List Nat) :
    h.InitOnlyOutside as h' :=
  ⟨hh.1, fun c hc _ => hh.2 c hc⟩

theorem Heap.InitOnlyExcept.outside {h h' : Heap} {a : Nat} (hh : h.InitOnlyExcept a h') :
    h.InitOnlyOutside [a] h' :=
  ⟨hh.1, fun c hc hca => hh.2 c hc (fun he => hca (he ▸ List.mem_singleton_self c))⟩

-- Outside no cell at all, only initialisations.
theorem Heap.InitOnlyOutside.initOnly {h h' : Heap} (hh : h.InitOnlyOutside [] h') : h.InitOnly h' :=
  ⟨hh.1, fun c hc => hh.2 c hc (List.not_mem_nil c)⟩

theorem Heap.InitOnlyOutside.trans {h₁ h₂ h₃ : Heap} {as bs : List Nat}
    (h₁₂ : h₁.InitOnlyOutside as h₂) (h₂₃ : h₂.InitOnlyOutside bs h₃) :
    h₁.InitOnlyOutside (as ++ bs) h₃ := by
  refine ⟨h₁₂.1.trans h₂₃.1, fun c hc hcs => ?_⟩
  rw [List.mem_append, not_or] at hcs
  obtain ⟨ty₁₂, d₁₂⟩ := h₁₂.2 c hc hcs.1
  obtain ⟨ty₂₃, d₂₃⟩ := h₂₃.2 c (lt_of_lt_of_le hc h₁₂.1) hcs.2
  exact ⟨ty₂₃.trans ty₁₂, Heap.InitOnly.read_trans h₁₂.1 d₁₂ d₂₃⟩

-- `Set` writes one variable: the one it sets.
theorem Value.set_initOnlyExcept {env : TypeEnv} {h h' : Heap} {v x : Value}
    (hs : Value.set env h v x = .ok h') : ∃ t a, v = .mk t (.cell a) false ∧ h.InitOnlyExcept a h' := by
  obtain ⟨t, a, xt, xloc, rfl, -, -, rfl⟩ := Value.set_eq_ok env hs
  exact ⟨t, a, rfl, (Heap.InitOnly.refl h).write_except a _⟩

end AnyMapper
