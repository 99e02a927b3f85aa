import AnyMapper.SimpleType
import AnyMapper.Mapper

namespace AnyMapper

section Unwrap

variable (env : TypeEnv) (m : Mapper)

-- The loop of `srcValue`. Each unit of fuel is one iteration; `none` means the loop
-- had not exited when the fuel ran out.
def srcLoop (h : Heap) : Nat → Value → Option Value
  | 0, _ => none
  | fuel + 1, v =>
      if v.kind env = .pointer || v.kind env = .interface then
        if isSimpleType env v.type then some v else srcLoop h fuel (v.elem env h)
      else some v

-- `srcValue`.
def srcValue (h : Heap) (fuel : Nat) (v : Value) : Option Value :=
  if !v.isValid then some v
  else
    match m.hooks.sourceValueHook with
    | some hook => if (hook h v).isValid then some (hook h v) else srcLoop env h fuel v
    | none => srcLoop env h fuel v

-- `initValue`. `Set` cannot panic here: `v` is settable and the new value's type is
-- assignable to `v`'s, so the error branch is never taken.
def initValue (h : Heap) (v : Value) : Heap :=
  if (v.kind env).toCtorIdx < Kind.map.toCtorIdx || (v.kind env).toCtorIdx > Kind.slice.toCtorIdx ||
      !v.isNil h || !v.canSet then h
  else
    let assign : Value × Heap → Heap := fun x =>
      match Value.set env x.2 v x.1 with
      | .ok h' => h'
      | .error _ => x.2
    match v.kind env with
    | .pointer => assign (reflectNew env h (v.type.elem env))
    | .map => assign (makeMap h v.type)
    | .slice => assign (makeSlice env h v.type)
    | _ => h

-- One iteration of the loop of `dstValue`: it returns, or it goes on with memory as
-- `initValue` left it, the next value and the last settable value seen so far.
def dstStep (h : Heap) (v settable : Value) : (Value × Heap) ⊕ (Heap × Value × Value) :=
  if !v.isValid then .inl (settable, h)
  else
    let h := initValue env h v
    if v.canSet && isSimpleType env v.type then .inl (v, h)
    else if m.hasMapper v.type then .inl (v, h)
    else if v.kind env = .map && !v.isNil h then .inl (v, h)
    else
      let settable := if v.canSet then v else settable
      if v.kind env != .interface && v.kind env != .pointer then .inl (settable, h)
      else .inr (h, v.elem env h, settable)

-- The loop of `dstValue`, one iteration per unit of fuel as in `srcLoop`.
def dstLoop : Nat → Heap → Value → Value → Option (Value × Heap)
  | 0, _, _, _ => none
  | fuel + 1, h, v, settable =>
      match dstStep env m h v settable with
      | .inl r => some r
      | .inr (h, v, settable) => dstLoop fuel h v settable

-- `dstValue`: the value to map into, and memory after the nil pointers, maps and
-- slices on the way were initialised.
def dstValue (h : Heap) (fuel : Nat) (v : Value) : Option (Value × Heap) :=
  if !v.isValid then some (v, h)
  else
    match m.hooks.destinationValueHook with
    | some hook =>
        if (hook h v).isValid then some (hook h v, h) else dstStart h fuel v
    | none => dstStart h fuel v
where
  dstStart (h : Heap) (fuel : Nat) (v : Value) : Option (Value × Heap) :=
    if v.kind env != .interface && v.kind env != .pointer && v.canSet then some (v, h)
    else dstLoop env m fuel h v .invalid

end Unwrap

section Loops

variable {env : TypeEnv} {m : Mapper}

@[simp] theorem Value.kind_invalid : Value.invalid.kind env = .invalid := rfl

@[simp] theorem srcValue_invalid (h : Heap) (fuel : Nat) : srcValue env m h fuel .invalid = some .invalid :=
  rfl

-- The unwrapping reads `Hooks` and `Mappers` of the mapper and nothing else.
theorem srcValue_congr {m' : Mapper} (hh : m.hooks = m'.hooks) : srcValue env m = srcValue env m' := by
  funext h fuel v
  simp only [srcValue, hh]

theorem dstValue_congr {m' : Mapper} (hh : m.hooks = m'.hooks) (hm : m.mappers = m'.mappers) :
    dstValue env m = dstValue env m' := by
  have hstep : dstStep env m = dstStep env m' := by
    funext h v s
    simp only [dstStep, Config.hasMapper, hm]
  have hloop : ∀ fuel, dstLoop env m fuel = dstLoop env m' fuel := by
    intro fuel
    induction fuel with
    | zero => rfl
    | succ fuel ih => funext h v s; simp only [dstLoop, hstep, ih]
  funext h fuel v
  simp only [dstValue, dstValue.dstStart, hh, hloop]

-- The check `isSimpleType(v.Type())` inside the loop of `srcValue` never holds: the
-- loop runs only on pointers and interfaces, and no such type is simple.
theorem isSimpleType_type_of_indirect {v : Value}
    (hk : v.kind env = .pointer ∨ v.kind env = .interface) : isSimpleType env v.type = false := by
  cases v with
  | invalid => simp at hk
  | mk t loc ro => exact isSimpleType_of_kind env (by simpa [Value.kind] using hk.imp_right .inl)

-- One iteration of the loop of `srcValue`: it steps into pointers and interfaces and
-- stops at anything else.
theorem srcLoop_succ (h : Heap) (fuel : Nat) (v : Value) :
    srcLoop env h (fuel + 1) v =
      if v.kind env = .pointer ∨ v.kind env = .interface then srcLoop env h fuel (v.elem env h)
      else some v := by
  rw [srcLoop]
  split_ifs with h₁ h₂ h₃ <;> simp_all [isSimpleType_type_of_indirect]

-- So `srcValue`'s loop never returns a pointer or an interface: it looks through every
-- pointer and interface, whatever `Mappers` holds.
theorem srcLoop_not_indirect {h : Heap} {fuel : Nat} {v r : Value}
    (hr : srcLoop env h fuel v = some r) : r.kind env ≠ .pointer ∧ r.kind env ≠ .interface := by
  induction fuel generalizing v with
  | zero => simp [srcLoop] at hr
  | succ fuel ih =>
      rw [srcLoop_succ] at hr
      split_ifs at hr with hk
      · exact ih hr
      · cases hr
        exact not_or.mp hk

-- What `srcValue` returns: the zero `Value` as it is, the hook's valid result, or what
-- its loop returns, whatever the fuel.
theorem srcValue_cases (h : Heap) (v : Value) :
    (v.isValid = false ∧ ∀ fuel, srcValue env m h fuel v = some v) ∨
      (∃ hook, m.hooks.sourceValueHook = some hook ∧ (hook h v).isValid = true ∧
        ∀ fuel, srcValue env m h fuel v = some (hook h v)) ∨
      ∀ fuel, srcValue env m h fuel v = srcLoop env h fuel v := by
  unfold srcValue
  by_cases hv : v.isValid
  · cases hk : m.hooks.sourceValueHook with
    | none => exact .inr (.inr fun _ => by simp [hv])
    | some hook =>
        by_cases hh : (hook h v).isValid
        · exact .inr (.inl ⟨hook, rfl, hh, fun _ => by simp [hv, hh]⟩)
        · exact .inr (.inr fun _ => by simp [hv, hh])
  · exact .inl ⟨by simpa using hv, fun _ => by simp [hv]⟩

-- Without a `SourceValueHook`, `srcValue` never returns a pointer or an interface.
theorem srcValue_kind_direct {h : Heap} {fuel : Nat} {v r : Value}
    (hook : m.hooks.sourceValueHook = none) (hr : srcValue env m h fuel v = some r) :
    r.kind env ≠ .pointer ∧ r.kind env ≠ .interface := by
  rcases srcValue_cases h v with ⟨hv, hs⟩ | ⟨_, hk, -⟩ | hs
  · rw [hs] at hr
    cases hr
    cases v <;> simp_all [Value.isValid]
  · simp [hook] at hk
  · exact srcLoop_not_indirect (by rwa [← hs])

-- So a provider registered for a pointer or interface type is never consulted for a
-- source.
theorem srcValue_not_indirect {h : Heap} {fuel : Nat} {v r : Value}
    (hook : m.hooks.sourceValueHook = none) (hr : srcValue env m h fuel v = some r) :
    r.kind env ≠ .pointer ∧ r.kind env ≠ .interface :=
  srcValue_kind_direct hook hr

theorem srcValue_not_indirect_pointer :
    (Value.mk intTy (.cell 0) false).kind structEnv ≠ .pointer ∧
      (Value.mk intTy (.cell 0) false).kind structEnv ≠ .interface :=
  srcValue_not_indirect rfl (show srcValue structEnv Mapper.new [⟨intTy, .lit 7⟩] 2
      (.mk (.pointer intTy) (.direct (.ref 0)) false) = some (.mk intTy (.cell 0) false) by
    simp [srcValue, srcLoop_succ, Value.isValid, Value.type, Value.kind, Value.elem, GoType.kind,
      GoType.formKind, GoType.elem, GoType.formElem, Loc.read, intTy, Basic.kind])

-- Without a hook, a value that is neither a pointer nor an interface is its own source
-- value, and a settable one is its own destination value.
theorem srcValue_of_direct {h : Heap} {fuel : Nat} {v : Value}
    (hook : m.hooks.sourceValueHook = none)
    (hk : v.kind env ≠ .pointer ∧ v.kind env ≠ .interface) : srcValue env m h (fuel + 1) v = some v := by
  rcases srcValue_cases h v with ⟨-, hs⟩ | ⟨_, hk', -⟩ | hs
  · exact hs _
  · simp [hook] at hk'
  · rw [hs, srcLoop_succ, if_neg (by simpa using hk)]

theorem srcValue_eq_srcLoop (hook : m.hooks.sourceValueHook = none) {h : Heap} {fuel : Nat}
    {v : Value} (hv : v.isValid = true) : srcValue env m h fuel v = srcLoop env h fuel v := by
  simp [srcValue, hv, hook]

-- And all `srcValue` can return for it.
theorem srcValue_eq_of_direct {h : Heap} {fuel : Nat} {v r : Value}
    (hook : m.hooks.sourceValueHook = none)
    (hk : v.kind env ≠ .pointer ∧ v.kind env ≠ .interface) (hr : srcValue env m h fuel v = some r) :
    r = v := by
  rcases srcValue_cases h v with ⟨-, hs⟩ | ⟨_, hk', -⟩ | hs
  · exact (Option.some.inj ((hs fuel).symm.trans hr)).symm
  · simp [hook] at hk'
  · rw [hs] at hr
    cases fuel with
    | zero => cases hr
    | succ fuel =>
        rw [srcLoop_succ, if_neg (not_or.mpr hk)] at hr
        exact (Option.some.inj hr).symm

theorem dstValue_of_settable {h : Heap} {fuel : Nat} {v : Value}
    (hook : m.hooks.destinationValueHook = none) (hs : v.canSet = true)
    (hk : v.kind env ≠ .pointer ∧ v.kind env ≠ .interface) : dstValue env m h fuel v = some (v, h) := by
  simp [dstValue, dstValue.dstStart, hook, hs, hk]

theorem srcLoop_succ_of_some {h : Heap} {fuel : Nat} {v r : Value}
    (hr : srcLoop env h fuel v = some r) : srcLoop env h (fuel + 1) v = some r := by
  induction fuel generalizing v with
  | zero => simp [srcLoop] at hr
  | succ fuel ih =>
      rw [srcLoop_succ] at hr ⊢
      split_ifs at hr ⊢
      exacts [ih hr, hr]

theorem srcValue_succ_of_some {h : Heap} {fuel : Nat} {v r : Value}
    (hr : srcValue env m h fuel v = some r) : srcValue env m h (fuel + 1) v = some r := by
  rcases srcValue_cases h v with ⟨-, hs⟩ | ⟨_, -, -, hs⟩ | hs <;> rw [hs] at hr ⊢
  · exact hr
  · exact hr
  · exact srcLoop_succ_of_some hr

-- Everything `initValue` can do: nothing, or point a settable nil pointer, map or slice
-- at a cell it allocates, holding a zero element, an empty map or an empty backing array.
-- `Set` never panics here: the new value's type is assignable to the variable's.
theorem initValue_cases (h : Heap) (v : Value) :
    initValue env h v = h ∨ ∃ t a c, v = .mk t (.cell a) false ∧ h.read a = .nil ∧
      initValue env h v = (h.alloc c).write a (.ref h.length) ∧
      ((t.kind env = .pointer ∧ c = ⟨t.elem env, zero env (t.elem env)⟩) ∨
        (t.kind env = .map ∧ c = ⟨t, .lit 0⟩) ∨
        (t.kind env = .slice ∧ c = ⟨.array 0 (t.elem env), .lit 0⟩)) := by
  unfold initValue
  split_ifs with hg
  · exact .inl rfl
  · simp only [Bool.or_eq_true, decide_eq_true_eq, Bool.not_eq_true', not_or,
      Bool.not_eq_false] at hg
    obtain ⟨⟨-, hnil⟩, hset⟩ := hg
    obtain ⟨t, a, rfl⟩ := Value.canSet_iff.mp hset
    have hnil' : h.read a = .nil := by simpa [Value.isNil, Value.read, Loc.read] using hnil
    split <;> rename_i hk <;> simp only [Value.kind] at hk
    · exact .inr ⟨t, a, _, rfl, hnil', by simp [reflectNew, Value.type, Loc.read, hk,
        Value.set_of_assignable env _ _ _ _ _ (assignable_pointer_elem env hk)], .inl ⟨hk, rfl⟩⟩
    · exact .inr ⟨t, a, _, rfl, hnil', by simp [makeMap, Value.type, Loc.read, hk,
        Value.set_of_assignable env _ _ _ _ _ (assignable_self env t)], .inr (.inl ⟨hk, rfl⟩)⟩
    · exact .inr ⟨t, a, _, rfl, hnil', by simp [makeSlice, Value.type, Loc.read, hk,
        Value.set_of_assignable env _ _ _ _ _ (assignable_self env t)], .inr (.inr ⟨hk, rfl⟩)⟩
    · exact .inl rfl

-- `initValue` changes memory only by initialising a settable nil pointer, map or slice.
theorem initValue_initOnly (h : Heap) (v : Value) : h.InitOnly (initValue env h v) := by
  rcases initValue_cases h v with he | ⟨t, a, c, -, hnil, he, -⟩ <;> rw [he]
  · exact .refl h
  · by_cases ha : a < h.length
    · exact (Heap.InitOnly.alloc h c).write_fresh (by rwa [Heap.read_alloc_lt h c ha]) le_rfl
    · exact (Heap.InitOnly.alloc h c).write_new _ (by omega)

theorem initValue_of_canSet_false {h : Heap} {v : Value} (hv : v.canSet = false) :
    initValue env h v = h := by
  simp [initValue, hv]

theorem initValue_of_kind {h : Heap} {v : Value}
    (hk : v.kind env ≠ .map ∧ v.kind env ≠ .pointer ∧ v.kind env ≠ .slice) :
    initValue env h v = h := by
  unfold initValue
  split_ifs
  · rfl
  · split <;> simp_all

-- A settable nil pointer is pointed at a fresh zero variable of its element type.
theorem initValue_nil_pointer {h : Heap} {t : GoType} {a : Nat} (hk : t.kind env = .pointer)
    (hnil : h.read a = .nil) :
    initValue env h (.mk t (.cell a) false) =
      (h.alloc ⟨t.elem env, zero env (t.elem env)⟩).write a (.ref h.length) := by
  simp [initValue, Value.kind, hk, Value.isNil, Value.read, Loc.read, hnil, Value.canSet,
    reflectNew, Kind.toCtorIdx, Value.type, Value.set_of_assignable env _ _ _ _ _ (assignable_pointer_elem env hk)]

@[simp] theorem dstStep_invalid (h : Heap) (s : Value) : dstStep env m h .invalid s = .inl (s, h) :=
  rfl

theorem dstLoop_succ (fuel : Nat) (h : Heap) (v s : Value) :
    dstLoop env m (fuel + 1) h v s =
      match dstStep env m h v s with
      | .inl r => some r
      | .inr (h', v', s') => dstLoop env m fuel h' v' s' := rfl

-- An iteration goes on only from a valid pointer or interface, into its `Elem`.
theorem dstStep_eq_inr {h : Heap} {v s : Value} {x : Heap × Value × Value}
    (hs : dstStep env m h v s = .inr x) :
    v.isValid = true ∧ (v.kind env = .pointer ∨ v.kind env = .interface) ∧
      x = (initValue env h v, v.elem env (initValue env h v), if v.canSet then v else s) := by
  unfold dstStep at hs
  by_cases hv : v.isValid <;>
    simp only [hv, Bool.not_true, Bool.not_false, if_true, if_false, Bool.false_eq_true] at hs
  · split_ifs at hs with h₁ h₂ h₃ h₄ <;> cases hs <;>
    · simp only [bne_iff_ne, ne_eq, Bool.and_eq_true, not_and_or, not_not] at h₄
      exact ⟨hv, h₄.symm, by simp_all⟩
  · cases hs

-- An iteration returns the value it is at or the last settable one, in memory as it
-- found it or as `initValue` left it.
theorem dstStep_eq_inl {h h' : Heap} {v s r : Value} (hs : dstStep env m h v s = .inl (r, h')) :
    (r = v ∨ r = s) ∧ (h' = h ∨ h' = initValue env h v) := by
  unfold dstStep at hs
  by_cases hv : v.isValid <;>
    simp only [hv, Bool.not_true, Bool.not_false, if_true, if_false, Bool.false_eq_true] at hs
  · split_ifs at hs <;> cases hs <;> simp
  · cases hs
    exact ⟨.inr rfl, .inl rfl⟩

theorem dstLoop_succ_of_some {fuel : Nat} {h : Heap} {v s : Value} {r : Value × Heap}
    (hr : dstLoop env m fuel h v s = some r) : dstLoop env m (fuel + 1) h v s = some r := by
  induction fuel generalizing h v s with
  | zero => simp [dstLoop] at hr
  | succ fuel ih =>
      rw [dstLoop_succ] at hr ⊢
      split at hr
      · exact hr
      · exact ih hr

-- Whatever `dstValue` returns, it changed memory only by initialising nil pointers,
-- maps and slices.
theorem dstLoop_initOnly {fuel : Nat} {h h' : Heap} {v s r : Value}
    (hr : dstLoop env m fuel h v s = some (r, h')) : h.InitOnly h' := by
  induction fuel generalizing h v s with
  | zero => simp [dstLoop] at hr
  | succ fuel ih =>
      rw [dstLoop_succ] at hr
      split at hr
      · next hs =>
          cases hr
          rcases (dstStep_eq_inl hs).2 with rfl | rfl
          exacts [.refl _, initValue_initOnly _ _]
      · next hs =>
          obtain ⟨-, -, hx⟩ := dstStep_eq_inr hs
          simp only [Prod.mk.injEq] at hx
          obtain ⟨rfl, rfl, rfl⟩ := hx
          exact (initValue_initOnly h v).trans (ih hr)

-- What `dstValue` returns: the value as it is (the zero `Value`, or a settable value
-- that is neither a pointer nor an interface), the hook's valid result, or what its
-- loop returns, whatever the fuel.
theorem dstValue_cases (h : Heap) (v : Value) :
    ((v.isValid = false ∨ v.canSet = true) ∧ ∀ fuel, dstValue env m h fuel v = some (v, h)) ∨
      (∃ hook, m.hooks.destinationValueHook = some hook ∧ (hook h v).isValid = true ∧
        ∀ fuel, dstValue env m h fuel v = some (hook h v, h)) ∨
      ∀ fuel, dstValue env m h fuel v = dstLoop env m fuel h v .invalid := by
  unfold dstValue dstValue.dstStart
  by_cases hv : v.isValid
  · have start : ((v.isValid = false ∨ v.canSet = true) ∧ ∀ fuel,
        dstValue.dstStart env m h fuel v = some (v, h)) ∨
        ∀ fuel, dstValue.dstStart env m h fuel v = dstLoop env m fuel h v .invalid := by
      unfold dstValue.dstStart
      by_cases hc : (v.kind env != .interface && v.kind env != .pointer && v.canSet) = true
      · exact .inl ⟨.inr (by simp_all), fun _ => by simp [hc]⟩
      · exact .inr fun _ => by simp [hc]
    cases hk : m.hooks.destinationValueHook with
    | none =>
        rcases start with ⟨hs, hd⟩ | hd
        · exact .inl ⟨hs, fun fuel => by simpa [hv, dstValue.dstStart] using hd fuel⟩
        · exact .inr (.inr fun fuel => by simpa [hv, dstValue.dstStart] using hd fuel)
    | some hook =>
        by_cases hh : (hook h v).isValid
        · exact .inr (.inl ⟨hook, rfl, hh, fun _ => by simp [hv, hh]⟩)
        · rcases start with ⟨hs, hd⟩ | hd
          · exact .inl ⟨hs, fun fuel => by simpa [hv, hh, dstValue.dstStart] using hd fuel⟩
          · exact .inr (.inr fun fuel => by simpa [hv, hh, dstValue.dstStart] using hd fuel)
  · exact .inl ⟨.inl (by simpa using hv), fun _ => by simp [hv]⟩

theorem dstValue_initOnly {fuel : Nat} {h h' : Heap} {v r : Value}
    (hr : dstValue env m h fuel v = some (r, h')) : h.InitOnly h' := by
  rcases dstValue_cases h v with ⟨-, hd⟩ | ⟨_, -, -, hd⟩ | hd <;> rw [hd] at hr
  · cases hr; exact .refl h
  · cases hr; exact .refl h
  · exact dstLoop_initOnly hr

theorem dstValue_succ_of_some {h : Heap} {fuel : Nat} {v : Value} {r : Value × Heap}
    (hr : dstValue env m h fuel v = some r) : dstValue env m h (fuel + 1) v = some r := by
  rcases dstValue_cases h v with ⟨-, hd⟩ | ⟨_, -, -, hd⟩ | hd <;> rw [hd] at hr ⊢
  · exact hr
  · exact hr
  · exact dstLoop_succ_of_some hr

-- The fuel is a bound and nothing more: what the unwrapping returns with some fuel, it
-- returns with any more.
theorem srcValue_mono {h : Heap} {fuel fuel' : Nat} {v r : Value} (hle : fuel ≤ fuel')
    (hr : srcValue env m h fuel v = some r) : srcValue env m h fuel' v = some r := by
  induction hle with
  | refl => exact hr
  | step _ ih => exact srcValue_succ_of_some ih

-- A provider registered for a pointer type does not stop `srcValue`: the source `&x`
-- of type `*int` is unwrapped to `x` although `Mappers` holds a provider for `*int`.
theorem srcValue_passes_pointer_provider (env : TypeEnv) (p : MapFuncProvider) :
    let m : Mapper := { Mapper.new with
      mappers := fun t => if t = .pointer intTy then some (some p) else Mapper.new.mappers t }
    let v : Value := .mk (.pointer intTy) (.direct (.ref 0)) false
    m.hasMapper v.type = true ∧ srcValue env m [⟨intTy, .lit 7⟩] 2 v = some (.mk intTy (.cell 0) false) := by
  simp [srcValue, srcLoop_succ, Value.isValid, Value.type, Value.kind, Value.elem, GoType.kind,
    GoType.formKind, GoType.elem, GoType.formElem, Loc.read, intTy, Basic.kind, Mapper.new,
    Config.hasMapper]

end Loops

end AnyMapper
