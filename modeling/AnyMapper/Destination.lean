import AnyMapper.Map
import AnyMapper.Chain

namespace AnyMapper

section Destination

variable {env : TypeEnv} {b : Builtins} {m : Mapper}

-- What `dstValue` may hand to a `MapFunc`: a settable value, a value of a type with a
-- provider, or a non-nil map, which is kept even when it was passed by value.
def DstShape (env : TypeEnv) (m : Mapper) (h : Heap) (r : Value) : Prop :=
  r.canSet = true ∨ m.hasMapper r.type = true ∨ (r.kind env = .map ∧ r.isNil h = false)

-- The loop's fallback, the last settable value it saw, is settable or the zero `Value`.
private def Fallback (s : Value) : Prop := s = .invalid ∨ s.canSet = true

private theorem Fallback.canSet {s : Value} (hs : Fallback s) (hv : s.isValid = true) :
    s.canSet = true := by
  rcases hs with rfl | hs
  exacts [absurd hv (by simp [Value.isValid]), hs]

private theorem dstStep_shape {h h' : Heap} {v s r : Value} (hs : Fallback s)
    (hst : dstStep env m h v s = .inl (r, h')) (hv : r.isValid = true) : DstShape env m h' r := by
  unfold dstStep at hst
  by_cases hvalid : v.isValid <;>
    simp only [hvalid, Bool.not_true, Bool.not_false, if_true, if_false, Bool.false_eq_true] at hst
  · split_ifs at hst with h₁ h₂ h₃ h₄ h₅ <;> cases hst
    · exact .inl (by simp_all)
    · exact .inr (.inl h₂)
    · exact .inr (.inr (by simpa using h₃))
    · exact .inl h₅
    · exact .inl (hs.canSet hv)
  · cases hst
    exact .inl (hs.canSet hv)

private theorem dstLoop_shape {fuel : Nat} {h h' : Heap} {v s r : Value} (hs : Fallback s)
    (hr : dstLoop env m fuel h v s = some (r, h')) (hv : r.isValid = true) : DstShape env m h' r := by
  induction fuel generalizing h v s with
  | zero => simp [dstLoop] at hr
  | succ fuel ih =>
      rw [dstLoop_succ] at hr
      split at hr
      · next hst => cases hr; exact dstStep_shape hs hst hv
      · next hst =>
          obtain ⟨-, -, hx⟩ := dstStep_eq_inr hst
          simp only [Prod.mk.injEq] at hx
          obtain ⟨rfl, rfl, rfl⟩ := hx
          refine ih ?_ hr
          split_ifs with hc
          exacts [.inr hc, hs]

theorem dstValue_dstShape {fuel : Nat} {h h' : Heap} {v r : Value}
    (hook : m.hooks.destinationValueHook = none) (hr : dstValue env m h fuel v = some (r, h'))
    (hv : r.isValid = true) : DstShape env m h' r := by
  rcases dstValue_cases h v with ⟨hs, hd⟩ | ⟨_, hk, -⟩ | hd
  · rw [hd] at hr
    cases hr
    exact .inl (hs.resolve_left (by simp [hv]))
  · simp [hook] at hk
  · exact dstLoop_shape (.inl rfl) (by rwa [← hd]) hv

-- Without a `DestinationValueHook`, every valid destination `dstValue` returns has
-- one of the three shapes.
theorem dstValue_shape {fuel : Nat} {h h' : Heap} {v r : Value}
    (hook : m.hooks.destinationValueHook = none) (hr : dstValue env m h fuel v = some (r, h'))
    (hv : r.isValid = true) : DstShape env m h' r :=
  dstValue_dstShape hook hr hv

-- `dstValue` on a map passed by value keeps it: it is not settable, but not nil.
private theorem dstValue_map_by_value (env : TypeEnv) :
    dstValue env Mapper.new [⟨.map stringTy intTy, .lit 1⟩, ⟨.map stringTy intTy, .lit 0⟩] 3
        (.mk (.map stringTy intTy) (.direct (.ref 1)) false) =
      some (.mk (.map stringTy intTy) (.direct (.ref 1)) false,
        [⟨.map stringTy intTy, .lit 1⟩, ⟨.map stringTy intTy, .lit 0⟩]) := by
  simp [dstValue, dstValue.dstStart, dstLoop, dstStep, Value.isValid, Value.kind, Value.canSet,
    Value.isNil, Value.read, Loc.read, Value.type, GoType.kind, GoType.formKind, GoType.isNamed,
    initValue_of_canSet_false, Config.hasMapper]

theorem dstValue_shape_map_by_value :
    DstShape structEnv Mapper.new
      [⟨.map stringTy intTy, .lit 1⟩, ⟨.map stringTy intTy, .lit 0⟩]
      (.mk (.map stringTy intTy) (.direct (.ref 1)) false) :=
  dstValue_shape rfl (dstValue_map_by_value structEnv) rfl

-- `Map(map[string]int{"a": 1}, map[string]int{})` on `New()`: `dstValue` keeps the
-- map passed by value, `mapperFor` picks `mapDirect` for the two equal simple types,
-- and `Set` panics on the unaddressable map.
theorem map_by_value_map_panics (env : TypeEnv) (b : Builtins) :
    (Mapper.new.mapperFor env b Mapper.new.context (.map stringTy intTy) (.map stringTy intTy)).map
        (·.1.mapFunc) = .ok (some .mapDirect) ∧
      Mapper.new.map env b 4 (.boxed (.map stringTy intTy) (.ref 0))
        (.boxed (.map stringTy intTy) (.ref 1))
        [⟨.map stringTy intTy, .lit 1⟩, ⟨.map stringTy intTy, .lit 0⟩] =
      .panic "reflect: reflect.Value.Set using unaddressable value" := by
  have hf : Mapper.new.mapperFor env b Mapper.new.context (.map stringTy intTy) (.map stringTy intTy) =
      .ok (⟨.map stringTy intTy, .map stringTy intTy, some .mapDirect⟩,
        Mapper.newCaching ⟨.map stringTy intTy, .map stringTy intTy, some .mapDirect⟩) := by
    simp [Mapper.mapperFor, Config.resolve, Mapper.lookup, Mapper.new, simpleBasics, stringTy, intTy,
      Except.map, Mapper.newCaching]
  refine ⟨by rw [hf]; rfl, ?_⟩
  rw [Mapper.map, mapRefl, valueOf, valueOf, mapReflContext_of_unwrapped
    (srcValue_of_direct rfl (by simp [Value.kind, GoType.kind, GoType.formKind]))
    (dstValue_map_by_value env)]
  simp [Value.isValid, Value.type, runMapFunc, show (Mapper.new.context <|> Mapper.new.context) =
    Mapper.new.context from rfl, hf, mapDirect, Value.set]

-- When `MapReflContext` fails before any `MapFunc` runs (an invalid source or
-- destination, or no `MapFunc` for the pair), it returns the error with memory as
-- `dstValue` left it: every variable holds what it held, except nil pointers, maps and
-- slices on the destination's chain, which now refer to fresh variables.
theorem mapReflContext_error_before_mapFunc {fuel : Nat} {ctx : Option Context}
    {src dst srcVal dstVal : Value} {h h' : Heap}
    (hs : srcValue env m h fuel src = some srcVal)
    (hd : dstValue env m h fuel dst = some (dstVal, h'))
    (hno : srcVal.isValid = false ∨ dstVal.isValid = false ∨ ∃ tm m',
      m.mapperFor env b (ctx <|> m.context) srcVal.type dstVal.type = .ok (tm, m') ∧ tm.mapFunc = none) :
    (∃ e m', mapReflContext env b (fuel + 1) m ctx src dst h = .ret (some e, h', m')) ∧
      h.InitOnly h' ∧ h.InitsOnChain env dst h' := by
  obtain ⟨hI, -⟩ := dstValue_chain hd
  refine ⟨?_, hI.init, hI.inits⟩
  rw [mapReflContext_of_unwrapped hs hd]
  rcases hno with hv | hv | ⟨tm, m', hf, hv⟩
  · simp [hv]
  · split_ifs <;> simp_all
  · split_ifs <;> simp [hf, runMapFunc, hv]

-- `dstValue(&p)` with `var p *int` nil: `p` is pointed at a fresh `int`, which is returned.
private theorem dstValue_pointer_to_nil_pointer :
    dstValue structEnv Mapper.new [⟨.pointer intTy, .nil⟩] 3
        (.mk (.pointer (.pointer intTy)) (.direct (.ref 0)) false) =
      some (.mk intTy (.cell 1) false, [⟨.pointer intTy, .ref 1⟩, ⟨intTy, .lit 0⟩]) := by
  simp [dstValue, dstValue.dstStart, dstLoop, dstStep, Value.isValid, Value.kind, Value.canSet,
    Value.isNil, Value.read, Loc.read, Value.type, GoType.kind, GoType.formKind, GoType.isNamed,
    Value.elem, GoType.elem, GoType.formElem, initValue_nil_pointer, initValue_of_canSet_false,
    initValue_of_kind, Heap.read, intTy, Basic.kind, zero, Heap.alloc, Heap.write, Config.hasMapper]

-- `Map(nil, &p)` with `var p *int`: the source is invalid, yet `dstValue` has already
-- pointed `p` at a fresh `int`.
theorem map_invalid_source_initialises_destination :
    Mapper.new.map structEnv noBuiltins 4 .nil
        (.boxed (.pointer (.pointer intTy)) (.ref 0)) [⟨.pointer intTy, .nil⟩] =
      .ret (some .invalidSrc, [⟨.pointer intTy, .ref 1⟩, ⟨intTy, .lit 0⟩], Mapper.new) := by
  simp only [Mapper.map, mapRefl, valueOf]
  rw [mapReflContext_of_unwrapped (srcValue_invalid _ _) dstValue_pointer_to_nil_pointer]
  rfl

theorem map_invalid_source_initOnly :
    (∃ e m', mapReflContext structEnv noBuiltins 4 Mapper.new none .invalid
        (.mk (.pointer (.pointer intTy)) (.direct (.ref 0)) false) [⟨.pointer intTy, .nil⟩] =
        .ret (some e, [⟨.pointer intTy, .ref 1⟩, ⟨intTy, .lit 0⟩], m')) ∧
      Heap.InitOnly [⟨.pointer intTy, .nil⟩] [⟨.pointer intTy, .ref 1⟩, ⟨intTy, .lit 0⟩] ∧
      Heap.InitsOnChain structEnv (.mk (.pointer (.pointer intTy)) (.direct (.ref 0)) false)
        [⟨.pointer intTy, .nil⟩] [⟨.pointer intTy, .ref 1⟩, ⟨intTy, .lit 0⟩] :=
  mapReflContext_error_before_mapFunc (srcValue_invalid _ _) dstValue_pointer_to_nil_pointer (.inl rfl)

end Destination

end AnyMapper
