import AnyMapper.Cache
import AnyMapper.Fresh

namespace AnyMapper

-- What a caller observes of a mapping call: the error it returns and the memory it
-- leaves, not the mapper with its cache.
def callOutput (r : Option MapError × Heap × Mapper) : Option MapError × Heap := (r.1, r.2.1)

-- Two results a caller cannot tell apart, whose mappers are related by `R`.
def SameOutput (R : Mapper → Mapper → Prop) (r r' : Option MapError × Heap × Mapper) : Prop :=
  callOutput r = callOutput r' ∧ R r.2.2 r'.2.2

-- Two contexts neither of which is nil.
def NonNil (ctx ctx' : Option Context) : Prop := ctx.isSome ∧ ctx'.isSome

section Relations

variable (env : TypeEnv) (b : Builtins)

-- Two mappers of one configuration whose caches agree with it and are nil alike: a
-- mapper and its `Copy()`, or a mapper before and after some `mapperFor` calls.
structure Mapper.SameUpToCache (m m' : Mapper) : Prop where
  config : m.toConfig = m'.toConfig
  sound : m.CacheSound env b
  sound' : m'.CacheSound env b
  nil : m.cacheMap.isSome = m'.cacheMap.isSome

-- And neither the caches nor the default contexts are nil.
def Mapper.SameCached (m m' : Mapper) : Prop :=
  m.SameUpToCache env b m' ∧ m.cacheMap.isSome ∧ m.context.isSome

-- The `MapFunc`s of other files, on mappers related by `R` and with contexts related by
-- `C`, return alike and hand back mappers related by `R`: they see nothing of the mapper
-- and of the context that the relations do not keep.
def Builtins.Oblivious (R : Mapper → Mapper → Prop) (C : Option Context → Option Context → Prop) : Prop :=
  ∀ n m m' ctx ctx' s d h, R m m' → C ctx ctx' →
    (b.mapFunc n m ctx s d h).Rel (SameOutput R) (b.mapFunc n m' ctx' s d h)

-- What a proof that related mappers answer alike needs of the relations: related mappers
-- share `Hooks` and `Mappers` and have related default contexts, and `mapperFor` on them
-- with related contexts returns alike and leaves related mappers.
structure Simulation (R : Mapper → Mapper → Prop) (C : Option Context → Option Context → Prop) :
    Prop where
  hooks : ∀ {m m'}, R m m' → m.hooks = m'.hooks
  mappers : ∀ {m m'}, R m m' → m.mappers = m'.mappers
  context : ∀ {m m'}, R m m' → C m.context m'.context
  mapperFor : ∀ {m m' ctx ctx' s d}, R m m' → C ctx ctx' →
    (Outcome.ofExcept (m.mapperFor env b ctx s d)).Rel (fun x x' => x.1 = x'.1 ∧ R x.2 x'.2)
      (Outcome.ofExcept (m'.mapperFor env b ctx' s d))

end Relations

section Simulation

variable {env : TypeEnv} {b : Builtins}

theorem noBuiltins_oblivious (R : Mapper → Mapper → Prop) (C : Option Context → Option Context → Prop) :
    noBuiltins.Oblivious R C :=
  fun _ _ _ _ _ _ _ _ hR _ => ⟨rfl, hR⟩

-- Two `mapperFor` calls that return the same or panic alike, and leave related mappers.
theorem mapperFor_rel {R : Mapper → Mapper → Prop} {m m' : Mapper} {ctx ctx' : Option Context}
    {s d : GoType}
    (hfst : (m.mapperFor env b ctx s d).map Prod.fst = (m'.mapperFor env b ctx' s d).map Prod.fst)
    (hsnd : ∀ tm m₁ tm' m₁', m.mapperFor env b ctx s d = .ok (tm, m₁) →
      m'.mapperFor env b ctx' s d = .ok (tm', m₁') → R m₁ m₁') :
    (Outcome.ofExcept (m.mapperFor env b ctx s d)).Rel (fun x x' => x.1 = x'.1 ∧ R x.2 x'.2)
      (Outcome.ofExcept (m'.mapperFor env b ctx' s d)) := by
  revert hfst hsnd
  rcases m.mapperFor env b ctx s d with e | ⟨tm, m₁⟩ <;>
    rcases m'.mapperFor env b ctx' s d with e' | ⟨tm', m₁'⟩ <;>
    simp only [Except.map, Except.error.injEq, Except.ok.injEq, reduceCtorEq, false_imp_iff,
      imp_false, IsEmpty.forall_iff]
  · exact fun he _ => he
  · exact fun htm hR => ⟨htm, hR _ _ _ _ rfl rfl⟩

theorem Mapper.SameUpToCache.mapperFor {m m' m₁ m₁' : Mapper} (hv : m.SameUpToCache env b m')
    {ctx ctx' : Option Context} {s d : GoType} {tm tm' : TypeMapper}
    (hf : m.mapperFor env b ctx s d = .ok (tm, m₁)) (hf' : m'.mapperFor env b ctx' s d = .ok (tm', m₁')) :
    m₁.SameUpToCache env b m₁' :=
  ⟨by rw [mapperFor_toConfig env b hf, mapperFor_toConfig env b hf', hv.config],
    (hv.sound.mapperFor hf).2, (hv.sound'.mapperFor hf').2,
    by rw [mapperFor_isSome env b hf, mapperFor_isSome env b hf', hv.nil]⟩

-- A mapper and another of its configuration answer `mapperFor` alike.
theorem Mapper.SameUpToCache.simulation : Simulation env b (Mapper.SameUpToCache env b) Eq where
  hooks hv := congrArg Config.hooks hv.config
  mappers hv := congrArg Config.mappers hv.config
  context hv := congrArg Config.context hv.config
  mapperFor := by
    rintro m m' ctx _ s d hv rfl
    refine mapperFor_rel ?_ fun _ _ _ _ hf hf' => hv.mapperFor hf hf'
    rw [hv.sound.mapperFor_fst, hv.sound'.mapperFor_fst, hv.config, hv.nil]

-- With non-nil caches `DisableCache` is not seen, and neither is any other field of a
-- non-nil context.
theorem Mapper.SameCached.simulation : Simulation env b (Mapper.SameCached env b) NonNil where
  hooks hv := congrArg Config.hooks hv.1.config
  mappers hv := congrArg Config.mappers hv.1.config
  context hv := ⟨hv.2.2, by rw [← hv.1.config]; exact hv.2.2⟩
  mapperFor := by
    rintro m m' ctx ctx' s d ⟨hv, hn, hc⟩ ⟨h₁, h₂⟩
    obtain ⟨c, rfl⟩ := Option.isSome_iff_exists.mp h₁
    obtain ⟨c', rfl⟩ := Option.isSome_iff_exists.mp h₂
    refine mapperFor_rel ?_ fun _ _ _ _ hf hf' => ⟨hv.mapperFor hf hf',
      by rw [mapperFor_isSome env b hf, hn], by rw [congrArg Config.context (mapperFor_toConfig env b hf), hc]⟩
    rw [hv.sound.mapperFor_fst, hv.sound'.mapperFor_fst, hv.config, ← hv.nil, hn]
    simp [Config.typeMapperFor]

variable {R : Mapper → Mapper → Prop} {C : Option Context → Option Context → Prop}
  (hS : Simulation env b R C)
include hS

theorem mapAny_rel {mapRefl mapRefl' : Mapper → Value → Value → Heap → MapResult} {fuel : Nat}
    {m m' : Mapper} (hR : R m m')
    (hrefl : ∀ s d h, (mapRefl m s d h).Rel (SameOutput R) (mapRefl' m' s d h)) (src dst : Value) (h : Heap) :
    (mapAny env mapRefl fuel m src dst h).Rel (SameOutput R) (mapAny env mapRefl' fuel m' src dst h) := by
  unfold mapAny
  rw [dstValue_congr (hS.hooks hR) (hS.mappers hR)]
  split_ifs
  · refine Outcome.Rel.bind_same _ fun ⟨auxDst, h₁⟩ => (hrefl _ _ _).bind ?_
    -- after the nested call only its error and memory are read
    rintro ⟨e, h₂, m₂⟩ ⟨e', h₂', m₂'⟩ ⟨he, hR₂⟩
    simp only [callOutput, Prod.mk.injEq] at he
    obtain ⟨rfl, rfl⟩ := he
    dsimp only
    split_ifs
    · exact ⟨rfl, hR₂⟩
    · exact Outcome.Rel.bind_same _ fun _ => Outcome.Rel.bind_same _ fun _ => ⟨rfl, hR₂⟩
  · exact Outcome.Rel.bind_same _ fun _ => ⟨rfl, hR⟩

theorem runMapFunc_rel (hb : b.Oblivious R C) {mapRefl mapRefl' : Mapper → Value → Value → Heap → MapResult}
    {fuel : Nat} {m m' : Mapper} (hR : R m m')
    (hrefl : ∀ s d h, (mapRefl m s d h).Rel (SameOutput R) (mapRefl' m' s d h)) {ctx ctx' : Option Context}
    (hC : C ctx ctx') (tm : TypeMapper) (src dst : Value) (h : Heap) :
    (runMapFunc env b mapRefl fuel m ctx tm src dst h).Rel (SameOutput R)
      (runMapFunc env b mapRefl' fuel m' ctx' tm src dst h) := by
  unfold runMapFunc
  split
  · exact ⟨rfl, hR⟩
  · exact Outcome.Rel.bind_same _ fun _ => ⟨rfl, hR⟩
  · exact mapAny_rel hS hR hrefl src dst h
  · exact hb _ _ _ _ _ _ _ _ hR hC

-- Mappers related by a simulation, called with related contexts, answer every mapping
-- call alike, nested mappings included, when the `MapFunc`s of other files do.
theorem mapReflContext_rel (hb : b.Oblivious R C) (fuel : Nat) :
    ∀ {m m' : Mapper} {ctx ctx' : Option Context}, R m m' → C (ctx <|> m.context) (ctx' <|> m'.context) →
      ∀ src dst h, (mapReflContext env b fuel m ctx src dst h).Rel (SameOutput R)
        (mapReflContext env b fuel m' ctx' src dst h) := by
  induction fuel with
  | zero => intros; trivial
  | succ fuel ih =>
      intro m m' ctx ctx' hR hC src dst h
      rw [mapReflContext_succ, mapReflContext_succ, srcValue_congr (hS.hooks hR),
        dstValue_congr (hS.hooks hR) (hS.mappers hR)]
      refine Outcome.Rel.bind_same _ fun s => Outcome.Rel.bind_same _ fun ⟨d, h₁⟩ => ?_
      split_ifs
      · exact ⟨rfl, hR⟩
      · exact ⟨rfl, hR⟩
      refine (hS.mapperFor hR hC).bind ?_
      rintro ⟨tm, m₁⟩ ⟨_, m₁'⟩ ⟨rfl, hR₁⟩
      -- the nested calls pass each mapper's own context
      have hself : ∀ o : Option Context, (o <|> o) = o := fun o => by cases o <;> rfl
      have hC₁ : C (m₁.context <|> m₁.context) (m₁'.context <|> m₁'.context) := by
        rw [hself, hself]; exact hS.context hR₁
      exact runMapFunc_rel hS hb hR₁ (fun s d h => ih hR₁ hC₁ s d h) hC tm s d h₁

end Simulation

section Observable

variable {env : TypeEnv} {b : Builtins}

-- Every error a call returns is `InvalidSrcErr` for an invalid unwrapped source,
-- `InvalidDstErr` for an invalid unwrapped destination, the mapping error for the two
-- unwrapped types with no reason, or the error of the `MapFunc` of another file that
-- `mapperFor` picked for them. The mapping error is the one `typeMapper.mapRefl` returns
-- when no `MapFunc` applies and the one `mapAny` returns in place of whatever error its
-- nested mapping met; its `Error()` names the two types.
theorem mapReflContext_error_cases {fuel : Nat} {m : Mapper} {ctx : Option Context}
    {src dst : Value} {h h' : Heap} {m' : Mapper} {e : MapError}
    (hr : mapReflContext env b fuel m ctx src dst h = .ret (some e, h', m')) :
    ∃ fuel' s d h₁, srcValue env m h fuel' src = some s ∧ dstValue env m h fuel' dst = some (d, h₁) ∧
      ((s.isValid = false ∧ e = .invalidSrc) ∨ (s.isValid = true ∧ d.isValid = false ∧ e = .invalidDst) ∨
        (s.isValid = true ∧ d.isValid = true ∧ e = newInvalidMappingError s.type d.type "" ∧
          e.error = "mapper: cannot map " ++ s.type.string ++ " to " ++ d.type.string) ∨
        (s.isValid = true ∧ d.isValid = true ∧ ∃ tm m₁ n,
          m.mapperFor env b (ctx <|> m.context) s.type d.type = .ok (tm, m₁) ∧ tm.mapFunc = some (.other n) ∧
          b.mapFunc n m₁ (ctx <|> m.context) s d h₁ = .ret (some e, h', m'))) := by
  obtain ⟨fuel, s, d, h₁, rfl, hsv, hdv, hr'⟩ := mapReflContext_cases hr
  refine ⟨fuel, s, d, h₁, hsv, hdv, ?_⟩
  have hmapping : e = newInvalidMappingError s.type d.type "" →
      e = newInvalidMappingError s.type d.type "" ∧
        e.error = "mapper: cannot map " ++ s.type.string ++ " to " ++ d.type.string :=
    fun he => ⟨he, by simp [he, newInvalidMappingError, MapError.error]⟩
  rw [mapReflContext_of_unwrapped hsv hdv] at hr
  split_ifs at hr with hs hd
  · cases hr
    exact .inl ⟨by simpa using hs, rfl⟩
  · cases hr
    exact .inr (.inl ⟨by simpa using hs, by simpa using hd, rfl⟩)
  have hs' : s.isValid = true := by simpa using hs
  have hd' : d.isValid = true := by simpa using hd
  obtain ⟨⟨tm, m₁⟩, hf, hr⟩ := Outcome.bind_eq_ret.mp hr
  replace hf := Outcome.ofExcept_eq_ret.mp hf
  -- `mapDirect` and `Set` return nil; only a missing `MapFunc`, a failed nested mapping
  -- or a `MapFunc` of another file err
  unfold runMapFunc at hr
  split at hr
  · cases hr
    exact .inr (.inr (.inl ⟨hs', hd', hmapping rfl⟩))
  · cases (mapDirect_eq_ret hr).1
  · rcases mapAny_eq_ret hr with ⟨⟨⟩, -⟩ | ⟨-, -, _, _, _, _, -, -, ⟨-, he, -⟩ | ⟨-, ⟨⟩, -⟩⟩
    exact .inr (.inr (.inl ⟨hs', hd', hmapping (Option.some_injective _ he)⟩))
  · next n hn => exact .inr (.inr (.inr ⟨hs', hd', tm, m₁, n, hf, hn, hr⟩))

end Observable

-- `New()` after a call that cached `int` to `any` and then `int` to `string`.
def anyStringMapper : Mapper :=
  { Mapper.new with
    cacheMap := some (cacheStore (cacheStore (fun _ _ => none) ⟨intTy, anyTy, some .mapAny⟩)
      ⟨intTy, stringTy, none⟩) }

-- `Map(5, &x)` with `var x any = ""` on `New()`: `mapAny` maps into a fresh `string`,
-- finds no `MapFunc` for `int` to `string` and fails.
theorem map_int_into_any_string :
    mapReflContext structEnv noBuiltins 4 Mapper.new none
      (.mk intTy (.direct (.lit 5)) false) (.mk (.pointer anyTy) (.direct (.ref 0)) false)
      [⟨anyTy, .boxed stringTy (.lit 0)⟩] =
      .ret (some (newInvalidMappingError intTy anyTy ""),
        [⟨anyTy, .boxed stringTy (.lit 0)⟩, ⟨stringTy, .lit 0⟩], anyStringMapper) := by
  have hint : intTy.kind structEnv ≠ .pointer ∧ intTy.kind structEnv ≠ .interface := by
    simp [GoType.kind, GoType.formKind, intTy, Basic.kind]
  have hstr : stringTy.kind structEnv ≠ .pointer ∧ stringTy.kind structEnv ≠ .interface := by
    simp [GoType.kind, GoType.formKind, stringTy, Basic.kind]
  -- `x` holds a `string`; `dstValue(&x)` stops at the interface `x`
  have hd : dstValue structEnv Mapper.new [⟨anyTy, .boxed stringTy (.lit 0)⟩] 3
      (.mk (.pointer anyTy) (.direct (.ref 0)) false) =
      some (.mk anyTy (.cell 0) false, [⟨anyTy, .boxed stringTy (.lit 0)⟩]) := by
    simp [dstValue, dstValue.dstStart, dstLoop, dstStep, Value.isValid, Value.kind, Value.canSet,
      Value.isNil, Value.read, Loc.read, Value.type, GoType.kind, GoType.formKind, Config.hasMapper,
      GoType.isNamed, Value.elem, GoType.elem, GoType.formElem, initValue_of_canSet_false,
      initValue_of_kind, Heap.read, anyTy, stringTy, Basic.kind]
  rw [mapReflContext_of_unwrapped (srcValue_of_direct (v := .mk intTy (.direct (.lit 5)) false) rfl hint) hd]
  have hf : Mapper.new.mapperFor structEnv noBuiltins (none <|> Mapper.new.context) intTy anyTy =
      .ok (⟨intTy, anyTy, some .mapAny⟩, Mapper.newCaching ⟨intTy, anyTy, some .mapAny⟩) := by
    simp [Mapper.mapperFor, Config.resolve, Mapper.lookup, Mapper.new, Except.map, intTy, anyTy,
      GoType.isNamed, Builtins.callProvider, simpleBasics, Mapper.newCaching, cacheStore, timeTy,
      bigIntTy, bigFloatTy, bigRatTy]
  simp only [Value.isValid, Bool.not_true, Bool.false_eq_true, if_false, Value.type, hf,
    Outcome.ofExcept_ok, Outcome.ret_bind, runMapFunc]
  -- `mapAny` maps the source into a fresh `string`, where no `MapFunc` maps `int` to `string`
  rw [mapAny_of_nonNil (by rfl) (by rfl) (dstValue_reflectNew rfl (by rfl) hstr 1)]
  rw [initValue_of_kind (by simp [Value.kind, hstr.1, stringTy, GoType.kind, GoType.formKind, Basic.kind])]
  simp only [List.length_singleton]
  rw [mapReflContext_of_unwrapped (srcValue_of_direct (v := .mk intTy (.direct (.lit 5)) false) rfl hint)
    (dstValue_of_settable (v := .mk stringTy (.cell 1) false) rfl rfl hstr)]
  have hf' : (Mapper.newCaching ⟨intTy, anyTy, some .mapAny⟩).mapperFor structEnv noBuiltins
      ((Mapper.newCaching ⟨intTy, anyTy, some .mapAny⟩).context <|> (Mapper.newCaching ⟨intTy, anyTy, some .mapAny⟩).context)
      intTy stringTy = .ok (⟨intTy, stringTy, none⟩, { Mapper.newCaching ⟨intTy, anyTy, some .mapAny⟩ with
        cacheMap := some (cacheStore (cacheStore (fun _ _ => none) ⟨intTy, anyTy, some .mapAny⟩) ⟨intTy, stringTy, none⟩) }) := by
    simp [Mapper.mapperFor, Config.resolve, Mapper.lookup, Mapper.new, Except.map, intTy, anyTy, stringTy,
      GoType.isNamed, Builtins.callProvider, simpleBasics, Mapper.newCaching, cacheStore, noBuiltins]
  simp only [Value.isValid, Bool.not_true, Bool.false_eq_true, if_false, Value.type, hf',
    Outcome.ofExcept_ok, Outcome.ret_bind, runMapFunc, Option.isSome_some, if_true]
  rfl

-- The call reports `int` to `any`, the pair of the unwrapped types.
theorem map_into_any_string_error_cases : ∃ fuel' s d h₁,
    srcValue structEnv Mapper.new [⟨anyTy, .boxed stringTy (.lit 0)⟩] fuel'
        (.mk intTy (.direct (.lit 5)) false) = some s ∧
      dstValue structEnv Mapper.new [⟨anyTy, .boxed stringTy (.lit 0)⟩] fuel'
        (.mk (.pointer anyTy) (.direct (.ref 0)) false) = some (d, h₁) ∧
      ((s.isValid = false ∧ newInvalidMappingError intTy anyTy "" = .invalidSrc) ∨
        (s.isValid = true ∧ d.isValid = false ∧ newInvalidMappingError intTy anyTy "" = .invalidDst) ∨
        (s.isValid = true ∧ d.isValid = true ∧ newInvalidMappingError intTy anyTy "" = newInvalidMappingError s.type d.type "" ∧
          (newInvalidMappingError intTy anyTy "").error = "mapper: cannot map " ++ s.type.string ++ " to " ++ d.type.string) ∨
        (s.isValid = true ∧ d.isValid = true ∧ ∃ tm m₁ n,
          Mapper.new.mapperFor structEnv noBuiltins (none <|> Mapper.new.context) s.type d.type = .ok (tm, m₁) ∧
          tm.mapFunc = some (.other n) ∧
          noBuiltins.mapFunc n m₁ (none <|> Mapper.new.context) s d h₁ =
            .ret (some (newInvalidMappingError intTy anyTy ""),
              [⟨anyTy, .boxed stringTy (.lit 0)⟩, ⟨stringTy, .lit 0⟩], anyStringMapper))) :=
  mapReflContext_error_cases map_int_into_any_string

end AnyMapper
