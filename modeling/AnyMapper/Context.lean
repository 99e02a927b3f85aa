import AnyMapper.Map

namespace AnyMapper

-- Mapping into an `any` variable `x` through `&x`.

section NilAny

variable {env : TypeEnv} {b : Builtins}

-- `MapReflContext(ctx, src, &x)` with `x` a nil `any`, no value hooks and no provider for
-- `any` or `*any`: `dstValue` steps from `&x` into `x` and stops there, and if
-- `mapperFor` picks `mapAny`, the unwrapped source is stored in `x`, boxed with its
-- type, and the call returns nil.
theorem mapReflContext_into_nil_any {m m' : Mapper} {ctx : Option Context} {src : Value} {t : GoType}
    {loc : Loc} {h : Heap} {a fuel : Nat} {tm : TypeMapper}
    (hsh : m.hooks.sourceValueHook = none) (hdh : m.hooks.destinationValueHook = none)
    (hp : m.hasMapper (.pointer anyTy) = false) (hany : m.hasMapper anyTy = false) (hnil : h.read a = .nil)
    (hs : srcValue env m h fuel src = some (.mk t loc false))
    (hf : m.mapperFor env b (ctx <|> m.context) t anyTy = .ok (tm, m')) (hmf : tm.mapFunc = some .mapAny) :
    mapReflContext env b (fuel + 4) m ctx src (.mk (.pointer anyTy) (.direct (.ref a)) false) h =
      .ret (none, h.write a (.boxed t (loc.read h)), m') := by
  have hk := srcValue_kind_direct hsh hs
  have hka : anyTy.kind env = .interface := rfl
  simp only [Value.kind] at hk
  -- `dstValue(&x)`: one step into `x`, one into the nil it holds, and back to `x`
  have h₁ : dstStep env m h (.mk (.pointer anyTy) (.direct (.ref a)) false) .invalid =
      .inr (h, .mk anyTy (.cell a) false, .invalid) := by
    simp [dstStep, Value.isValid, initValue_of_canSet_false, Value.canSet, Value.type, hp, Value.kind,
      GoType.kind, GoType.formKind, Value.elem, Loc.read, GoType.elem, GoType.formElem]
  have h₂ : dstStep env m h (.mk anyTy (.cell a) false) .invalid =
      .inr (h, .invalid, .mk anyTy (.cell a) false) := by
    have hsimple : isSimpleType env anyTy = false := isSimpleType_interface env .nil
    simp [dstStep, Value.isValid, initValue_of_kind, Value.kind, hka, Value.canSet, Value.type, hany,
      hsimple, Value.elem, Loc.read, hnil]
  have hd : dstValue env m h (fuel + 3) (.mk (.pointer anyTy) (.direct (.ref a)) false) =
      some (.mk anyTy (.cell a) false, h) := by
    simp only [dstValue, dstValue.dstStart, hdh, Value.isValid, Value.canSet, Bool.not_true,
      Bool.false_eq_true, Bool.and_false, if_false, dstLoop_succ, h₁, h₂, dstStep_invalid]
  rw [mapReflContext_of_unwrapped (srcValue_mono (by omega) hs) hd]
  simp only [Value.isValid, Bool.not_true, Bool.false_eq_true, if_false, Value.type, hf,
    Outcome.ofExcept_ok, Outcome.ret_bind, runMapFunc, hmf]
  -- `mapAny` finds `x` nil and assigns the source, boxed with its type
  have hx : (Value.mk anyTy (.cell a) false).isNil h = true := by
    simp [Value.isNil, Value.read, Loc.read, hnil]
  have hset : Value.set env h (.mk anyTy (.cell a) false) (.mk t loc false) =
      .ok (h.write a (.boxed t (loc.read h))) := by
    rw [Value.set_of_assignable env _ _ _ _ _ (by simp [assignable, GoType.underlying, anyTy])]
    simp [hk.2, hka]
  simp only [mapAny, hx, hset, Bool.not_true, Bool.false_and, Bool.false_eq_true, if_false,
    Outcome.ofExcept_ok, Outcome.ret_bind, Outcome.pure_eq]

end NilAny

-- `Map(5, &x)` with `var x any` on `New()`: `x` now holds the `int` 5.
theorem map_int_into_nil_any :
    mapReflContext structEnv noBuiltins 6 Mapper.new none
      (.mk intTy (.direct (.lit 5)) false) (.mk (.pointer anyTy) (.direct (.ref 0)) false)
      [⟨anyTy, .nil⟩] =
      .ret (none, [⟨anyTy, .boxed intTy (.lit 5)⟩], Mapper.newCaching ⟨intTy, anyTy, some .mapAny⟩) :=
  mapReflContext_into_nil_any rfl rfl (by simp [Config.hasMapper, GoType.isNamed])
    (by simp [Config.hasMapper, anyTy, GoType.isNamed]) (by rfl)
    (srcValue_of_direct rfl (by simp [Value.kind, GoType.kind, GoType.formKind, intTy, Basic.kind]))
    (show Mapper.new.mapperFor structEnv noBuiltins (none <|> Mapper.new.context) intTy anyTy =
        .ok (⟨intTy, anyTy, some .mapAny⟩, Mapper.newCaching ⟨intTy, anyTy, some .mapAny⟩) by
      simp [Mapper.mapperFor, Config.resolve, Mapper.lookup, Mapper.new, Except.map, intTy, anyTy,
        GoType.isNamed, Builtins.callProvider, simpleBasics, Mapper.newCaching, cacheStore, timeTy,
        bigIntTy, bigFloatTy, bigRatTy]) rfl

-- A hook, the program's provider `other 0`, that for every destination of type `int`
-- hands out a `MapFunc` failing in strict mode. The `MapFunc`, `other 0`, reads nothing
-- but the context it is given.
def strictBuiltins (b : Builtins) : Builtins :=
  { b with
    provider := fun p c src dst =>
      if p = .other 0 then (if dst = intTy then some (.other 0) else none) else b.provider p c src dst
    mapFunc := fun n m ctx src dst h =>
      if n = 0 then
        match ctx with
        | none => .panic nilDereference
        | some c => .ret (if c.strictTypes then some (.other "strict mode") else none, h, m)
      else b.mapFunc n m ctx src dst h }

-- `New()` with that hook, and `strict` as the `StrictTypes` of its default context.
def strictMapper (strict : Bool) : Mapper :=
  { Mapper.new with
    context := Mapper.new.context.map fun c => { c with strictTypes := strict }
    hooks := { mapFuncHook := some (.other 0) } }

-- `MapReflContext(ctx, int(5), &x)` with `var x any = 0` and the same `ctx` on both
-- mappers. `mapAny` maps into a fresh `int` through `m.MapRefl`, which passes the
-- mapper's own context, so the result follows the default `StrictTypes`, not `ctx`'s.
theorem mapReflContext_follows_default_context (env : TypeEnv) (b : Builtins) (strict : Bool) :
    Prod.fst <$> mapReflContext env (strictBuiltins b) 4 (strictMapper strict) Mapper.new.context
      (.mk intTy (.direct (.lit 5)) false) (.mk (.pointer anyTy) (.direct (.ref 0)) false)
      [⟨anyTy, .boxed intTy (.lit 0)⟩] =
      .ret (if strict then some (.invalidMapping intTy anyTy "") else none) := by
  have hint : ∀ loc, (Value.mk intTy loc false).kind env ≠ .pointer ∧
      (Value.mk intTy loc false).kind env ≠ .interface := by
    simp [Value.kind, GoType.kind, GoType.formKind, intTy, Basic.kind]
  -- `x` holds an `int`; `dstValue(&x)` stops at the interface `x`
  have hd : dstValue env (strictMapper strict) [⟨anyTy, .boxed intTy (.lit 0)⟩] 3
      (.mk (.pointer anyTy) (.direct (.ref 0)) false) =
      some (.mk anyTy (.cell 0) false, [⟨anyTy, .boxed intTy (.lit 0)⟩]) := by
    simp [dstValue, dstValue.dstStart, dstLoop, dstStep, Value.isValid, Value.kind, Value.canSet,
      Value.isNil, Value.read, Loc.read, Value.type, GoType.kind, GoType.formKind, strictMapper,
      GoType.isNamed, Value.elem, GoType.elem, GoType.formElem, initValue_of_canSet_false,
      initValue_of_kind, Heap.read, anyTy, intTy, Basic.kind, Config.hasMapper]
  rw [mapReflContext_of_unwrapped (srcValue_of_direct rfl (hint _)) hd]
  -- the outer call: `mapperFor` picks `mapAny` for `int` into `any` and caches it
  have hm' : ∃ m' : Mapper, m' = { strictMapper strict with
      cacheMap := some (cacheStore (fun _ _ => none) ⟨intTy, anyTy, some .mapAny⟩) } := ⟨_, rfl⟩
  obtain ⟨m', hm'⟩ := hm'
  have hf : (strictMapper strict).mapperFor env (strictBuiltins b) Mapper.new.context intTy anyTy =
      .ok (⟨intTy, anyTy, some .mapAny⟩, m') := by
    simp [Mapper.mapperFor, Config.resolve, Mapper.lookup, strictMapper, strictBuiltins, Mapper.new,
      Except.map, GoType.isNamed, intTy, anyTy, Builtins.callProvider, hm', cacheStore, timeTy, bigIntTy,
      bigFloatTy, bigRatTy]
  simp only [Value.isValid, Bool.not_true, Bool.false_eq_true, if_false, Value.type,
    show (Mapper.new.context <|> (strictMapper strict).context) = Mapper.new.context from rfl, hf,
    Outcome.ofExcept_ok, Outcome.ret_bind, runMapFunc]
  -- `mapAny`: the source is mapped into a fresh `int` variable
  have hd' : dstValue env m' (reflectNew env [⟨anyTy, .boxed intTy (.lit 0)⟩] intTy).2 3
      (reflectNew env [⟨anyTy, .boxed intTy (.lit 0)⟩] intTy).1 =
      some (.mk intTy (.cell 1) false, [⟨anyTy, .boxed intTy (.lit 0)⟩, ⟨intTy, .lit 0⟩]) := by
    simp [dstValue, dstValue.dstStart, hm', strictMapper, dstLoop, dstStep, Value.isValid,
      Value.kind, Value.canSet, Value.isNil, Value.read, Loc.read, Value.type, GoType.kind,
      GoType.formKind, GoType.isNamed, Value.elem, GoType.elem, GoType.formElem,
      initValue_of_canSet_false, reflectNew, zero, initValue_of_kind, Heap.read, Heap.alloc, intTy,
      anyTy, Basic.kind, Config.hasMapper]
  rw [mapAny_of_nonNil (by rfl) (by rfl) (by simpa [Value.elem, Value.type, GoType.kind,
    GoType.formKind, anyTy, Loc.read, Heap.read] using hd')]
  have hd'' : dstValue env m' [⟨anyTy, .boxed intTy (.lit 0)⟩, ⟨intTy, .lit 0⟩] 2
      (.mk intTy (.cell 1) false) =
      some (.mk intTy (.cell 1) false, [⟨anyTy, .boxed intTy (.lit 0)⟩, ⟨intTy, .lit 0⟩]) :=
    dstValue_of_settable (by rw [hm']; rfl) rfl (hint _)
  simp only [Bool.false_eq_true, if_false, anyTy] at hd'' ⊢
  -- the nested `MapRefl` runs the hook's `MapFunc` with `m'.context`, the default one
  rw [mapReflContext_of_unwrapped (srcValue_of_direct (by rw [hm']; rfl) (hint _)) hd'']
  cases strict <;> simp [Value.isValid, Value.type, runMapFunc, Mapper.mapperFor, Config.resolve,
    Mapper.lookup, hm', strictMapper, strictBuiltins, Mapper.new, intTy, newInvalidMappingError,
    Value.set, Value.elem, reflectNew, GoType.kind, GoType.formKind, Loc.read, Heap.read, assignable,
    GoType.underlying, anyTy, Basic.kind, Except.map, cacheStore, timeTy, bigIntTy, bigFloatTy,
    bigRatTy, GoType.isNamed, Builtins.callProvider, simpleBasics]

end AnyMapper
