import AnyMapper.Unwrap
import AnyMapper.MapperFor

namespace AnyMapper


section Map

variable (env : TypeEnv) (b : Builtins)

-- `mapDirect`.
def mapDirect (m : Mapper) (src dst : Value) (h : Heap) : MapResult := do
  let h ← Outcome.ofExcept (Value.set env h dst src)
  return (none, h, m)

-- `mapAny`, given the mapper's `MapRefl` to call back into. An interface's `Elem` is
-- never settable, so a non-nil destination always takes the first branch.
def mapAny (mapRefl : Mapper → Value → Value → Heap → MapResult) (fuel : Nat) (m : Mapper)
    (src dst : Value) (h : Heap) : MapResult :=
  if !dst.isNil h && !(dst.elem env h).canSet then do
    let (auxVal, h) := reflectNew env h (dst.elem env h).type
    let (auxDst, h) ← Outcome.ofOption (dstValue env m h fuel auxVal)
    let (err, h, m) ← mapRefl m src auxDst h
    if err.isSome then return (some (newInvalidMappingError src.type dst.type ""), h, m)
    let h ← Outcome.ofExcept (Value.set env h dst (auxVal.elem env h))
    return (none, h, m)
  else do
    let h ← Outcome.ofExcept (Value.set env h dst src)
    return (none, h, m)

-- `typeMapper.mapRefl` for a `MapFunc` chosen by `mapperFor`. The nil-`typeMapper`
-- branch of the source is left out: `mapperFor` never returns nil.
def runMapFunc (mapRefl : Mapper → Value → Value → Heap → MapResult) (fuel : Nat) (m : Mapper)
    (ctx : Option Context) (tm : TypeMapper) (src dst : Value) (h : Heap) : MapResult :=
  match tm.mapFunc with
  | none => .ret (some (newInvalidMappingError src.type dst.type ""), h, m)
  | some .mapDirect => mapDirect env m src dst h
  | some .mapAny => mapAny env mapRefl fuel m src dst h
  | some (.other n) => b.mapFunc n m ctx src dst h

-- `MapReflContext`: a nil context stands for the mapper's own. The fuel bounds the
-- unwrapping loops and the depth of nested mappings.
def mapReflContext : Nat → Mapper → Option Context → Value → Value → Heap → MapResult
  | 0, _, _, _, _, _ => .diverge
  | fuel + 1, m, ctx, src, dst, h => do
      let ctx := ctx <|> m.context
      let srcVal ← Outcome.ofOption (srcValue env m h fuel src)
      let (dstVal, h) ← Outcome.ofOption (dstValue env m h fuel dst)
      if !srcVal.isValid then return (some .invalidSrc, h, m)
      if !dstVal.isValid then return (some .invalidDst, h, m)
      let (tm, m) ← Outcome.ofExcept (m.mapperFor env b ctx srcVal.type dstVal.type)
      runMapFunc env b (fun m src dst h => mapReflContext fuel m m.context src dst h)
        fuel m ctx tm srcVal dstVal h

-- `MapRefl`: the mapper's own context.
def mapRefl (fuel : Nat) (m : Mapper) (src dst : Value) (h : Heap) : MapResult :=
  mapReflContext env b fuel m m.context src dst h

-- `reflect.ValueOf` of an `any`: nil gives the zero `Value`.
def valueOf : Data → Value
  | .boxed t d => .mk t (.direct d) false
  | _ => .invalid

-- `Map` and `MapContext`, whose arguments are `any` values.
def Mapper.map (fuel : Nat) (m : Mapper) (src dst : Data) (h : Heap) : MapResult :=
  mapRefl env b fuel m (valueOf src) (valueOf dst) h

def Mapper.mapContext (fuel : Nat) (m : Mapper) (ctx : Option Context) (src dst : Data)
    (h : Heap) : MapResult :=
  mapReflContext env b fuel m ctx (valueOf src) (valueOf dst) h

end Map

end AnyMapper

namespace AnyMapper

section Spec

variable {env : TypeEnv} {b : Builtins}

-- `MapReflContext` once both unwrappings are done: the sentinel errors, or the
-- `MapFunc` that `mapperFor` picks for the two types, run on memory as `dstValue`
-- left it.
theorem mapReflContext_of_unwrapped {fuel : Nat} {m : Mapper} {ctx : Option Context}
    {src dst srcVal dstVal : Value} {h h' : Heap}
    (hs : srcValue env m h fuel src = some srcVal)
    (hd : dstValue env m h fuel dst = some (dstVal, h')) :
    mapReflContext env b (fuel + 1) m ctx src dst h =
      if !srcVal.isValid then .ret (some .invalidSrc, h', m)
      else if !dstVal.isValid then .ret (some .invalidDst, h', m)
      else
        Outcome.ofExcept (m.mapperFor env b (ctx <|> m.context) srcVal.type dstVal.type) >>= fun x =>
          runMapFunc env b (fun m src dst h => mapReflContext env b fuel m m.context src dst h)
            fuel x.2 (ctx <|> m.context) x.1 srcVal dstVal h' := by
  simp only [mapReflContext, hs, hd, Outcome.ofOption_some, Outcome.ret_bind]
  split_ifs <;> rfl

-- `mapAny` into a non-nil interface: map into a fresh variable of the boxed type, then
-- store that variable's value in the interface.
theorem mapAny_of_nonNil {mapRefl : Mapper → Value → Value → Heap → MapResult} {fuel : Nat}
    {m : Mapper} {src dst auxDst : Value} {h h' : Heap}
    (hnil : dst.isNil h = false) (helem : (dst.elem env h).canSet = false)
    (hd : dstValue env m (reflectNew env h (dst.elem env h).type).2 fuel
      (reflectNew env h (dst.elem env h).type).1 = some (auxDst, h')) :
    mapAny env mapRefl fuel m src dst h =
      (mapRefl m src auxDst h' >>= fun r =>
        if r.1.isSome then .ret (some (newInvalidMappingError src.type dst.type ""), r.2.1, r.2.2)
        else (Outcome.ofExcept (Value.set env r.2.1 dst
            ((reflectNew env h (dst.elem env h).type).1.elem env r.2.1)) >>= fun h =>
          .ret (none, h, r.2.2))) := by
  simp only [mapAny, hnil, helem, Bool.not_false, Bool.and_self, if_true, hd,
    Outcome.ofOption_some, Outcome.ret_bind]
  rfl

-- `mapDirect` returns only when `Set` succeeds, and then with no error.
theorem mapDirect_eq_ret {m m' : Mapper} {src dst : Value} {h h' : Heap} {e : Option MapError}
    (hr : mapDirect env m src dst h = .ret (e, h', m')) :
    e = none ∧ m' = m ∧ Value.set env h dst src = .ok h' := by
  simp only [mapDirect, Outcome.bind_eq_ret, Outcome.ofExcept_eq_ret, Outcome.pure_eq,
    Outcome.ret.injEq, Prod.mk.injEq] at hr
  obtain ⟨h₂, hset, rfl, rfl, rfl⟩ := hr
  exact ⟨rfl, rfl, hset⟩

-- Everything `mapAny` can do when it returns. Into a nil interface, or one whose boxed
-- value can be set, it is `Set` of the source. Otherwise it maps into a fresh variable of
-- the boxed type, then returns its own error in place of any the nested mapping met, or
-- sets the interface to that variable.
theorem mapAny_eq_ret {mapRefl : Mapper → Value → Value → Heap → MapResult} {fuel : Nat}
    {m m' : Mapper} {src dst : Value} {h h' : Heap} {e : Option MapError}
    (hr : mapAny env mapRefl fuel m src dst h = .ret (e, h', m')) :
    (e = none ∧ m' = m ∧ Value.set env h dst src = .ok h') ∨
      (dst.isNil h = false ∧ (dst.elem env h).canSet = false ∧ ∃ aux h₃ e₄ h₄,
        dstValue env m (reflectNew env h (dst.elem env h).type).2 fuel
          (reflectNew env h (dst.elem env h).type).1 = some (aux, h₃) ∧
        mapRefl m src aux h₃ = .ret (e₄, h₄, m') ∧
        ((e₄.isSome = true ∧ e = some (newInvalidMappingError src.type dst.type "") ∧ h' = h₄) ∨
          (e₄ = none ∧ e = none ∧ Value.set env h₄ dst
            ((reflectNew env h (dst.elem env h).type).1.elem env h₄) = .ok h'))) := by
  unfold mapAny at hr
  split_ifs at hr with hc
  · simp only [Bool.and_eq_true, Bool.not_eq_true'] at hc
    simp only [Outcome.bind_eq_ret] at hr
    obtain ⟨⟨aux, h₃⟩, haux, ⟨e₄, h₄, m₄⟩, hnest, hr⟩ := hr
    refine .inr ⟨hc.1, hc.2, aux, h₃, e₄, h₄, Outcome.ofOption_eq_ret.mp haux, ?_⟩
    split_ifs at hr with he₄
    · cases hr
      exact ⟨hnest, .inl ⟨he₄, rfl, rfl⟩⟩
    · obtain ⟨rfl, rfl, hset⟩ := mapDirect_eq_ret hr
      exact ⟨hnest, .inr ⟨Option.not_isSome_iff_eq_none.mp he₄, rfl, hset⟩⟩
  · exact .inl (mapDirect_eq_ret hr)

-- `mapDirect` panics only when `Set` does, with `Set`'s message.
theorem mapDirect_eq_panic {m : Mapper} {src dst : Value} {h : Heap} {msg : String}
    (hr : mapDirect env m src dst h = .panic msg) : Value.set env h dst src = .error msg := by
  simpa [mapDirect, Outcome.bind_eq_panic, Outcome.ofExcept_eq_panic] using hr

theorem mapReflContext_succ (fuel : Nat) (m : Mapper) (ctx : Option Context) (src dst : Value)
    (h : Heap) :
    mapReflContext env b (fuel + 1) m ctx src dst h =
      (Outcome.ofOption (srcValue env m h fuel src) >>= fun srcVal =>
        Outcome.ofOption (dstValue env m h fuel dst) >>= fun x =>
          if !srcVal.isValid then .ret (some .invalidSrc, x.2, m)
          else if !x.1.isValid then .ret (some .invalidDst, x.2, m)
          else
            Outcome.ofExcept (m.mapperFor env b (ctx <|> m.context) srcVal.type x.1.type) >>= fun y =>
              runMapFunc env b (fun m src dst h => mapReflContext env b fuel m m.context src dst h)
                fuel y.2 (ctx <|> m.context) y.1 srcVal x.1 x.2) := by
  rfl

-- Everything a call that returns did: it unwrapped both values, then returned a
-- sentinel error with memory as `dstValue` left it, or ran the `MapFunc` `mapperFor`
-- picked on the two valid values.
theorem mapReflContext_cases {fuel : Nat} {m : Mapper} {ctx : Option Context}
    {src dst : Value} {h : Heap} {r : Option MapError × Heap × Mapper}
    (hr : mapReflContext env b fuel m ctx src dst h = .ret r) :
    ∃ fuel' s d h₁, fuel = fuel' + 1 ∧ srcValue env m h fuel' src = some s ∧
      dstValue env m h fuel' dst = some (d, h₁) ∧
      ((r.2.1 = h₁ ∧ r.2.2 = m) ∨ (s.isValid = true ∧ d.isValid = true ∧ ∃ tm m₁,
        m.mapperFor env b (ctx <|> m.context) s.type d.type = .ok (tm, m₁) ∧
        runMapFunc env b (fun m src dst h => mapReflContext env b fuel' m m.context src dst h)
          fuel' m₁ (ctx <|> m.context) tm s d h₁ = .ret r)) := by
  cases fuel with
  | zero => cases hr
  | succ fuel =>
      rw [mapReflContext_succ, Outcome.bind_eq_ret] at hr
      obtain ⟨s, hs, hr⟩ := hr
      rw [Outcome.bind_eq_ret] at hr
      obtain ⟨⟨d, h₁⟩, hd, hr⟩ := hr
      refine ⟨fuel, s, d, h₁, rfl, Outcome.ofOption_eq_ret.mp hs, Outcome.ofOption_eq_ret.mp hd, ?_⟩
      split_ifs at hr with h₁ h₂
      · cases hr; exact .inl ⟨rfl, rfl⟩
      · cases hr; exact .inl ⟨rfl, rfl⟩
      · obtain ⟨⟨tm, m₁⟩, hf, hr⟩ := Outcome.bind_eq_ret.mp hr
        exact .inr ⟨by simpa using h₁, by simpa using h₂, tm, m₁, Outcome.ofExcept_eq_ret.mp hf, hr⟩

-- A call that panics unwrapped both values and found both valid, and then `mapperFor`
-- or the `MapFunc` it picked panicked: the unwrapping and the sentinel errors never panic.
theorem mapReflContext_eq_panic {fuel : Nat} {m : Mapper} {ctx : Option Context}
    {src dst : Value} {h : Heap} {msg : String}
    (hr : mapReflContext env b fuel m ctx src dst h = .panic msg) :
    ∃ fuel' s d h₁, fuel = fuel' + 1 ∧ srcValue env m h fuel' src = some s ∧
      dstValue env m h fuel' dst = some (d, h₁) ∧ s.isValid = true ∧ d.isValid = true ∧
      (m.mapperFor env b (ctx <|> m.context) s.type d.type = .error msg ∨ ∃ tm m₁,
        m.mapperFor env b (ctx <|> m.context) s.type d.type = .ok (tm, m₁) ∧
        runMapFunc env b (fun m src dst h => mapReflContext env b fuel' m m.context src dst h)
          fuel' m₁ (ctx <|> m.context) tm s d h₁ = .panic msg) := by
  cases fuel with
  | zero => cases hr
  | succ fuel =>
      simp only [mapReflContext_succ, Outcome.bind_eq_panic, Outcome.ofOption_ne_panic, false_or,
        Outcome.ofOption_eq_ret] at hr
      obtain ⟨s, hs, ⟨d, h₁⟩, hd, hr⟩ := hr
      refine ⟨fuel, s, d, h₁, rfl, hs, hd, ?_⟩
      split_ifs at hr with hs₀ hd₀
      refine ⟨by simpa using hs₀, by simpa using hd₀, ?_⟩
      rcases Outcome.bind_eq_panic.mp hr with hf | ⟨⟨tm, m₁⟩, hf, hr⟩
      · exact .inl (Outcome.ofExcept_eq_panic.mp hf)
      · exact .inr ⟨tm, m₁, Outcome.ofExcept_eq_ret.mp hf, hr⟩

end Spec

end AnyMapper
