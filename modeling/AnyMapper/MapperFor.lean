import AnyMapper.SimpleType
import AnyMapper.Mapper

namespace AnyMapper

section MapperFor

variable (env : TypeEnv) (b : Builtins)

-- Calling the provider an entry of `Mappers` holds, if there is one: a nil func panics.
def Builtins.callProvider (c : Config) (src dst : GoType) :
    Option (Option MapFuncProvider) → Except String (Option MapFunc)
  | none => .ok none
  | some none => .error nilDereference
  | some (some p) => .ok (b.provider p c src dst)

-- The body of `mapperFor` below the cache: the `MapFunc` it settles on, by the hook,
-- then direct assignment of equal simple types, then the source and the destination
-- providers, then `mapAny` for an `any` destination, then the built-in mappers.
def Config.resolve (m : Config) (src dst : GoType) : Except String (Option MapFunc) :=
  match m.hooks.mapFuncHook.bind (fun hook => b.provider hook m src dst) with
  | some fn => .ok (some fn)
  | none =>
      let (isSrcSimple, isDstSimple, sameTypes) :=
        if src = dst then (isSimpleType env src, isSimpleType env src, true)
        else (isSimpleType env src, isSimpleType env dst, false)
      if sameTypes && isSrcSimple then .ok (some .mapDirect)
      else
        let srcMapper := if !isSrcSimple then m.mappers src else none
        match b.callProvider m src dst srcMapper with
        | .error msg => .error msg
        | .ok (some fn) => .ok (some fn)
        | .ok none =>
            let dstMapper := if !sameTypes && !isDstSimple then m.mappers dst else none
            match b.callProvider m src dst dstMapper with
            | .error msg => .error msg
            | .ok (some fn) => .ok (some fn)
            | .ok none =>
                if srcMapper.isSome || dstMapper.isSome then .ok none
                else if dst = anyTy then .ok (some .mapAny)
                else .ok (b.builtInTypesMapper m src dst)

-- `cacheMap[typePair{tm.SrcType, tm.DstType}] = tm` on a non-nil map.
def cacheStore (c : GoType → GoType → Option TypeMapper) (tm : TypeMapper) :
    GoType → GoType → Option TypeMapper :=
  fun s d => if s = tm.srcType ∧ d = tm.dstType then some tm else c s d

-- `mapperFor`, which reads `ctx.DisableCache` first. With the cache enabled, an entry
-- cached for the pair is returned as it is; otherwise the deferred function stores the
-- entry built, and panics on a nil `cacheMap`, also after a provider panicked.
def Mapper.mapperFor (m : Mapper) (ctx : Option Context) (src dst : GoType) :
    Except String (TypeMapper × Mapper) :=
  match ctx with
  | none => .error nilDereference
  | some ctx =>
      if !ctx.disableCache then
        match m.lookup src dst with
        | some v => .ok (v, m)
        | none =>
            match m.cacheMap with
            | none => .error nilMapAssignment
            | some c => (m.resolve env b src dst).map fun fn =>
                (⟨src, dst, fn⟩, { m with cacheMap := some (cacheStore c ⟨src, dst, fn⟩) })
      else (m.resolve env b src dst).map fun fn => (⟨src, dst, fn⟩, m)

-- Everything `mapperFor` can do when it returns: hand back the entry cached for the
-- pair, or build one from `resolve`, which it stores when the cache is enabled.
theorem mapperFor_eq_ok {m m' : Mapper} {ctx : Option Context} {s d : GoType} {tm : TypeMapper}
    (h : m.mapperFor env b ctx s d = .ok (tm, m')) :
    ∃ c, ctx = some c ∧
      ((c.disableCache = false ∧ m.lookup s d = some tm ∧ m' = m) ∨
        (m.resolve env b s d = .ok tm.mapFunc ∧ tm.srcType = s ∧ tm.dstType = d ∧
          ((c.disableCache = true ∧ m' = m) ∨
            (c.disableCache = false ∧ m.lookup s d = none ∧ ∃ cache, m.cacheMap = some cache ∧
              m' = { m with cacheMap := some (cacheStore cache tm) })))) := by
  unfold Mapper.mapperFor at h
  rcases ctx with _ | c
  · cases h
  refine ⟨c, rfl, ?_⟩
  cases hc : c.disableCache <;> simp only [hc, Bool.not_false, Bool.not_true, if_true,
    Bool.false_eq_true, if_false] at h
  · split at h
    · next v hv => cases h; exact .inl ⟨rfl, hv, rfl⟩
    · next hl =>
        split at h
        · cases h
        · next cache hcache =>
            cases hr : m.resolve env b s d <;> rw [hr] at h <;> cases h
            exact .inr ⟨rfl, rfl, rfl, .inr ⟨rfl, hl, cache, hcache, rfl⟩⟩
  · cases hr : m.resolve env b s d <;> rw [hr] at h <;> cases h
    exact .inr ⟨rfl, rfl, rfl, .inl ⟨rfl, rfl⟩⟩

-- `mapperFor` writes the cache and nothing else.
theorem mapperFor_toConfig {m m' : Mapper} {ctx : Option Context} {s d : GoType} {tm : TypeMapper}
    (h : m.mapperFor env b ctx s d = .ok (tm, m')) : m'.toConfig = m.toConfig := by
  obtain ⟨c, -, ⟨-, -, rfl⟩ | ⟨-, -, -, ⟨-, rfl⟩ | ⟨-, -, cache, -, rfl⟩⟩⟩ := mapperFor_eq_ok env b h <;> rfl

-- Nor does it make a nil cache non-nil, or the other way round.
theorem mapperFor_isSome {m m' : Mapper} {ctx : Option Context} {s d : GoType} {tm : TypeMapper}
    (h : m.mapperFor env b ctx s d = .ok (tm, m')) : m'.cacheMap.isSome = m.cacheMap.isSome := by
  obtain ⟨c, -, ⟨-, -, rfl⟩ | ⟨-, -, -, ⟨-, rfl⟩ | ⟨-, -, cache, hc, rfl⟩⟩⟩ := mapperFor_eq_ok env b h
  all_goals simp [*]

-- What `mapperFor` leaves in the cache: with the cache enabled, the pair maps to the
-- returned entry.
theorem mapperFor_lookup {m m' : Mapper} {c : Context} {s d : GoType} {tm : TypeMapper}
    (h : m.mapperFor env b (some c) s d = .ok (tm, m')) (s' d' : GoType) :
    m'.lookup s' d' = if c.disableCache = false ∧ s' = s ∧ d' = d then some tm else m.lookup s' d' := by
  obtain ⟨c', hc', hr⟩ := mapperFor_eq_ok env b h
  cases hc'
  rcases hr with ⟨hdc, hl, rfl⟩ | ⟨-, hs, hd, ⟨hdc, rfl⟩ | ⟨hdc, -, cache, hcache, rfl⟩⟩
  · split_ifs with hsd
    · obtain ⟨-, rfl, rfl⟩ := hsd; exact hl
    · rfl
  · simp [hdc]
  · simp only [Mapper.lookup, cacheStore, hcache, Option.some_bind, hdc, true_and, hs, hd]

end MapperFor

-- `New()` after a first call of `mapperFor` that cached `tm`, for concrete runs.
def Mapper.newCaching (tm : TypeMapper) : Mapper :=
  { Mapper.new with cacheMap := some (cacheStore (fun _ _ => none) tm) }

end AnyMapper
