import AnyMapper.Map

namespace AnyMapper

-- What a program does with a mapper between calls: ask it for a `typeMapper`, or change
-- its configuration, writing an entry of `Mappers` (`none` deletes it) or `Hooks`.
inductive Op where
  | mapperFor (ctx : Option Context) (src dst : GoType)
  | setMapper (t : GoType) (p : Option (Option MapFuncProvider))
  | setHooks (hooks : Hooks)

def Op.isCall : Op → Bool
  | .mapperFor .. => true
  | _ => false

-- A call that reads the cache entry for the pair, and fills it when it is missing.
def Op.caches (s d : GoType) : Op → Bool
  | .mapperFor (some ctx) s' d' => !ctx.disableCache && decide (s' = s) && decide (d' = d)
  | _ => false

-- The configuration after an operation: `m.Mappers[t] = p` or `m.Hooks = hooks`.
def Config.apply (c : Config) : Op → Config
  | .mapperFor .. => c
  | .setMapper t p => { c with mappers := fun t' => if t' = t then p else c.mappers t' }
  | .setHooks hooks => { c with hooks := hooks }

section Run

variable (env : TypeEnv) (b : Builtins)

-- One operation on the mapper; a call may panic.
def Mapper.step (m : Mapper) : Op → Except String Mapper
  | .mapperFor ctx src dst => (m.mapperFor env b ctx src dst).map Prod.snd
  | .setMapper t p => .ok { m with toConfig := m.toConfig.apply (.setMapper t p) }
  | .setHooks hooks => .ok { m with toConfig := m.toConfig.apply (.setHooks hooks) }

-- A run of operations, which ends at the first panic.
def Mapper.run (m : Mapper) : List Op → Except String Mapper
  | [] => .ok m
  | op :: ops =>
      match m.step env b op with
      | .ok m' => m'.run ops
      | .error msg => .error msg

variable {env b}

theorem Mapper.run_cons_eq_ok {m m' : Mapper} {op : Op} {ops : List Op} :
    m.run env b (op :: ops) = .ok m' ↔ ∃ m₁, m.step env b op = .ok m₁ ∧ m₁.run env b ops = .ok m' := by
  simp only [Mapper.run]
  split <;> simp_all

theorem Mapper.run_append {m m₁ : Mapper} {ops : List Op} (h : m.run env b ops = .ok m₁)
    (ops' : List Op) : m.run env b (ops ++ ops') = m₁.run env b ops' := by
  induction ops generalizing m with
  | nil => cases h; rfl
  | cons op ops ih =>
      obtain ⟨m₂, hs, hr⟩ := Mapper.run_cons_eq_ok.mp h
      simp only [List.cons_append, Mapper.run, hs]
      exact ih hr

-- An operation changes the configuration as `Config.apply` says, and leaves the cache
-- nil or not as it was.
theorem Mapper.step_toConfig {m m' : Mapper} {op : Op} (h : m.step env b op = .ok m') :
    m'.toConfig = m.toConfig.apply op ∧ m'.cacheMap.isSome = m.cacheMap.isSome := by
  cases op with
  | mapperFor ctx s d =>
      simp only [Mapper.step] at h
      cases hf : m.mapperFor env b ctx s d with
      | error => rw [hf] at h; cases h
      | ok x =>
          rw [hf] at h
          cases h
          exact ⟨mapperFor_toConfig env b hf, mapperFor_isSome env b hf⟩
  | setMapper t p => cases h; exact ⟨rfl, rfl⟩
  | setHooks hooks => cases h; exact ⟨rfl, rfl⟩

theorem Mapper.run_toConfig {m m' : Mapper} {ops : List Op} (h : m.run env b ops = .ok m') :
    m'.toConfig = ops.foldl Config.apply m.toConfig ∧ m'.cacheMap.isSome = m.cacheMap.isSome := by
  induction ops generalizing m with
  | nil => cases h; exact ⟨rfl, rfl⟩
  | cons op ops ih =>
      obtain ⟨m₁, hs, hr⟩ := Mapper.run_cons_eq_ok.mp h
      obtain ⟨hc, hn⟩ := Mapper.step_toConfig hs
      obtain ⟨hc', hn'⟩ := ih hr
      exact ⟨by rw [hc', hc]; rfl, hn'.trans hn⟩

variable (env b)

-- Every cache entry is stored under its own pair of types and holds what `mapperFor`
-- would build now, from the present configuration.
def Mapper.CacheSound (m : Mapper) : Prop :=
  ∀ s d tm, m.lookup s d = some tm → m.resolve env b s d = .ok tm.mapFunc ∧ tm.srcType = s ∧ tm.dstType = d

-- `New()` and `Copy()` start from an empty cache.
theorem Mapper.new_cacheSound : Mapper.new.CacheSound env b := by
  intro s d tm h
  simp at h

theorem Mapper.copy_cacheSound {m m' : Mapper} (h : m.copy = .ok m') : m'.CacheSound env b := by
  unfold Mapper.copy at h
  split at h <;> cases h
  intro s d tm h
  simp [Mapper.lookup] at h

variable {env b}

-- With a sound cache, a call that returns hands back the entry the uncached procedure
-- builds, and keeps the cache sound.
theorem Mapper.CacheSound.mapperFor {m m' : Mapper} (hm : m.CacheSound env b) {ctx : Option Context}
    {s d : GoType} {tm : TypeMapper} (h : m.mapperFor env b ctx s d = .ok (tm, m')) :
    (m.resolve env b s d = .ok tm.mapFunc ∧ tm.srcType = s ∧ tm.dstType = d) ∧ m'.CacheSound env b := by
  have hfresh : m.resolve env b s d = .ok tm.mapFunc ∧ tm.srcType = s ∧ tm.dstType = d := by
    obtain ⟨c, -, ⟨-, hl, -⟩ | ⟨hr, hs, hd, -⟩⟩ := mapperFor_eq_ok env b h
    exacts [hm s d tm hl, ⟨hr, hs, hd⟩]
  refine ⟨hfresh, fun s' d' tm' hl => ?_⟩
  rw [mapperFor_toConfig env b h]
  obtain ⟨c, rfl, -⟩ := mapperFor_eq_ok env b h
  rw [mapperFor_lookup env b h] at hl
  split_ifs at hl with hc
  · obtain ⟨-, rfl, rfl⟩ := hc
    cases hl
    exact hfresh
  · exact hm s' d' tm' hl

variable (env b) in
-- What `mapperFor` returns from a configuration whose cache agrees with it: the cache
-- shows only in whether it is nil.
def Config.typeMapperFor (c : Config) (cached : Bool) :
    Option Context → GoType → GoType → Except String TypeMapper
  | none, _, _ => .error nilDereference
  | some ctx, s, d =>
      if !ctx.disableCache && !cached then .error nilMapAssignment
      else TypeMapper.mk s d <$> c.resolve env b s d

theorem Mapper.CacheSound.mapperFor_fst {m : Mapper} (hm : m.CacheSound env b) (ctx : Option Context)
    (s d : GoType) :
    (m.mapperFor env b ctx s d).map Prod.fst = m.toConfig.typeMapperFor env b m.cacheMap.isSome ctx s d := by
  rcases ctx with _ | c
  · rfl
  simp only [Mapper.mapperFor, Config.typeMapperFor]
  cases hdc : c.disableCache
  · simp only [Bool.not_false, Bool.true_and, if_true]
    cases hl : m.lookup s d with
    | some tm =>
        obtain ⟨hr, rfl, rfl⟩ := hm s d tm hl
        have hc : m.cacheMap.isSome = true := by
          cases hc : m.cacheMap <;> simp_all [Mapper.lookup]
        simp [hc, hr, Except.map]
    | none =>
        cases m.cacheMap with
        | none => rfl
        | some cache => cases m.resolve env b s d <;> rfl
  · simp only [Bool.not_true, Bool.false_and, Bool.false_eq_true, if_false]
    cases m.resolve env b s d <;> rfl

-- The configuration under which the cache entry for the pair was built, after the
-- operations `ops` from configuration `c` with an entry built under `past` before: the
-- first call that fills it.
def Config.cachedUnder (s d : GoType) (past : Option Config) (c : Config) : List Op → Option Config
  | [] => past
  | op :: ops => cachedUnder s d (past <|> if op.caches s d then some c else none) (c.apply op) ops

variable (env b)

-- The cache entry for the pair is the one `resolve` builds under `past`, or none.
def Mapper.Memo (m : Mapper) (s d : GoType) : Option Config → Prop
  | none => m.lookup s d = none
  | some c => ∃ fn, c.resolve env b s d = .ok fn ∧ m.lookup s d = some ⟨s, d, fn⟩

variable {env b}

-- An operation keeps the entry for the pair, or fills a missing one under the present
-- configuration.
theorem Mapper.Memo.step {m m' : Mapper} {s d : GoType} {past : Option Config}
    (hm : m.Memo env b s d past) {op : Op} (h : m.step env b op = .ok m') :
    m'.Memo env b s d (past <|> if op.caches s d then some m.toConfig else none) := by
  cases op with
  | setMapper t p => cases h; cases past <;> exact hm
  | setHooks hooks => cases h; cases past <;> exact hm
  | mapperFor ctx s' d' =>
      simp only [Mapper.step] at h
      cases hf : m.mapperFor env b ctx s' d' with
      | error => rw [hf] at h; cases h
      | ok x =>
          rw [hf] at h
          cases h
          obtain ⟨c, rfl, hr⟩ := mapperFor_eq_ok env b hf
          have hl := mapperFor_lookup env b hf s d
          by_cases hc : c.disableCache = false ∧ s = s' ∧ d = d'
          · obtain ⟨hdc, rfl, rfl⟩ := hc
            have hcaches : (Op.mapperFor (some c) s d).caches s d = true := by simp [Op.caches, hdc]
            rw [if_pos ⟨hdc, rfl, rfl⟩] at hl
            cases past with
            | some c₀ =>
                obtain ⟨fn, hfn, hl₀⟩ := hm
                -- the entry was there: the call hands it back
                rcases hr with ⟨-, hl', -⟩ | ⟨-, -, -, ⟨hdc', -⟩ | ⟨-, hl', -⟩⟩
                · exact ⟨fn, hfn, hl.trans (Option.some.inj (hl'.symm.trans hl₀) ▸ rfl)⟩
                · rw [hdc] at hdc'; cases hdc'
                · rw [hl₀] at hl'; cases hl'
            | none =>
                -- it was missing: the call builds it under the present configuration
                rcases hr with ⟨-, hl', -⟩ | ⟨hres, hs, hd, -⟩
                · rw [show m.lookup s d = none from hm] at hl'; cases hl'
                · obtain ⟨⟨s₀, d₀, fn⟩, m₁⟩ := x
                  dsimp only at hs hd hl hres
                  subst hs hd
                  simp only [hcaches, if_true, Option.none_orElse]
                  exact ⟨fn, hres, hl⟩
          · have hcaches : (Op.mapperFor (some c) s' d').caches s d = false := by
              rw [Bool.eq_false_iff]
              intro hcc
              simp only [Op.caches, Bool.and_eq_true, Bool.not_eq_true', decide_eq_true_eq] at hcc
              exact hc ⟨hcc.1.1, hcc.1.2.symm, hcc.2.symm⟩
            rw [if_neg hc] at hl
            simp only [hcaches, Bool.false_eq_true, if_false, Option.orElse_none]
            cases past with
            | none => exact hl.trans hm
            | some c₀ => obtain ⟨fn, hfn, hl₀⟩ := hm; exact ⟨fn, hfn, hl.trans hl₀⟩

theorem Mapper.Memo.run {s d : GoType} {ops : List Op} :
    ∀ {m m' : Mapper} {past : Option Config}, m.Memo env b s d past → m.run env b ops = .ok m' →
      m'.Memo env b s d (Config.cachedUnder s d past m.toConfig ops) := by
  induction ops with
  | nil => intro m m' past hm h; cases h; exact hm
  | cons op ops ih =>
      intro m m' past hm h
      obtain ⟨m₁, hs, hr⟩ := Mapper.run_cons_eq_ok.mp h
      have := ih (hm.step hs) hr
      rwa [(Mapper.step_toConfig hs).1] at this

-- The configuration the entry for the pair is built under after the run `ops` from `m`:
-- `m`'s own if the pair is cached already, else that of the run's first call that fills it.
def Mapper.cachedUnder (m : Mapper) (ops : List Op) (s d : GoType) : Option Config :=
  Config.cachedUnder s d (if (m.lookup s d).isSome then some m.toConfig else none) m.toConfig ops

variable (env b)

-- What a call `mapperFor(ctx, s, d)` returns after the run `ops` from `m`: a nil context
-- panics; with `DisableCache` the entry is built under the present configuration; with
-- the cache enabled it is the one built under the configuration of the run's first call
-- for the pair, and a pair not cached yet is built now, or panics on a nil `cacheMap`.
def mapperForAfterRun (m : Mapper) (ops : List Op) (ctx : Option Context) (s d : GoType) :
    Except String TypeMapper :=
  match ctx with
  | none => .error nilDereference
  | some c =>
      if c.disableCache then TypeMapper.mk s d <$> (ops.foldl Config.apply m.toConfig).resolve env b s d
      else
        match m.cachedUnder ops s d with
        | some c₀ => TypeMapper.mk s d <$> c₀.resolve env b s d
        | none =>
            if m.cacheMap.isSome then TypeMapper.mk s d <$> (ops.foldl Config.apply m.toConfig).resolve env b s d
            else .error nilMapAssignment

variable {env b}

theorem Mapper.CacheSound.memo {m : Mapper} (hm : m.CacheSound env b) (s d : GoType) :
    m.Memo env b s d (if (m.lookup s d).isSome then some m.toConfig else none) := by
  cases hl : m.lookup s d with
  | none => exact hl
  | some tm =>
      obtain ⟨hr, rfl, rfl⟩ := hm s d tm hl
      exact ⟨tm.mapFunc, hr, hl⟩

theorem Except.map_mk_eq {α : Type} {f : α → TypeMapper} (x : Except String α) :
    f <$> x = x.map f := rfl

-- For every run of a mapper whose cache agrees with its configuration (`New()`,
-- `Copy()`), with updates of `Mappers` and `Hooks` in between, every later call of
-- `mapperFor` returns what `mapperForAfterRun` says.
theorem mapperFor_after_run {m m' : Mapper} (hm : m.CacheSound env b) {ops : List Op}
    (hrun : m.run env b ops = .ok m') (ctx : Option Context) (s d : GoType) :
    (m'.mapperFor env b ctx s d).map Prod.fst = mapperForAfterRun env b m ops ctx s d := by
  obtain ⟨hconf, hnil⟩ := Mapper.run_toConfig hrun
  have hmemo := (hm.memo s d).run hrun
  rcases ctx with _ | c
  · rfl
  simp only [mapperForAfterRun, Mapper.mapperFor, Mapper.cachedUnder, ← hconf]
  cases hdc : c.disableCache
  · simp only [Bool.not_false, if_true, Bool.false_eq_true, if_false]
    generalize Config.cachedUnder s d _ m.toConfig ops = past at hmemo
    cases past with
    | some c₀ =>
        obtain ⟨fn, hfn, hl⟩ := hmemo
        simp [hl, hfn, Except.map]
    | none =>
        simp only [show m'.lookup s d = none from hmemo, ← hnil]
        cases m'.cacheMap with
        | none => rfl
        | some cache => cases m'.resolve env b s d <;> rfl
  · simp only [Bool.not_true, Bool.false_eq_true, if_false, if_true]
    cases m'.resolve env b s d <;> rfl

end Run

-- A `Builtins` whose providers all hand out `mapDirect`.
def directProviders : Builtins := { noBuiltins with provider := fun _ _ _ _ => some .mapDirect }

-- `New()` after `Map(1, &x)` with `var x any`, which caches `mapAny` for `int` to `any`,
-- and then registering a provider for `any`.
def staleMapper : Mapper :=
  { Mapper.newCaching ⟨intTy, anyTy, some .mapAny⟩ with
    mappers := fun t => if t = anyTy then some (some (.other 0)) else Mapper.new.mappers t }

private theorem new_run_staleMapper :
    Mapper.new.run structEnv directProviders
      [.mapperFor Mapper.new.context intTy anyTy, .setMapper anyTy (some (some (.other 0)))] =
      .ok staleMapper := by
  simp [Mapper.run, Mapper.step, Mapper.mapperFor, Config.resolve, Mapper.lookup, Mapper.new,
    Config.apply, Except.map, intTy, anyTy, timeTy, bigIntTy, bigFloatTy, bigRatTy, GoType.isNamed,
    directProviders, noBuiltins, Builtins.callProvider, simpleBasics, staleMapper, Mapper.newCaching, cacheStore]

theorem mapperFor_after_run_new :
    (Mapper.new.CacheSound structEnv directProviders ∧
      Mapper.new.run structEnv directProviders
        [.mapperFor Mapper.new.context intTy anyTy, .setMapper anyTy (some (some (.other 0)))] =
        .ok staleMapper) ∧
      (staleMapper.mapperFor structEnv directProviders Mapper.new.context intTy anyTy).map Prod.fst =
        mapperForAfterRun structEnv directProviders Mapper.new
          [.mapperFor Mapper.new.context intTy anyTy, .setMapper anyTy (some (some (.other 0)))]
          Mapper.new.context intTy anyTy :=
  ⟨⟨Mapper.new_cacheSound _ _, new_run_staleMapper⟩,
    mapperFor_after_run (Mapper.new_cacheSound _ _) new_run_staleMapper _ _ _⟩

-- After that run the call still returns the cached `mapAny`, although the uncached
-- procedure now picks the new provider's `mapDirect`.
theorem mapperFor_returns_stale_entry :
    Mapper.new.run structEnv directProviders
        [.mapperFor Mapper.new.context intTy anyTy, .setMapper anyTy (some (some (.other 0)))] =
        .ok staleMapper ∧
      (staleMapper.mapperFor structEnv directProviders Mapper.new.context intTy anyTy).map (·.1.mapFunc) =
        .ok (some .mapAny) ∧
      staleMapper.resolve structEnv directProviders intTy anyTy = .ok (some .mapDirect) := by
  refine ⟨new_run_staleMapper, ?_, ?_⟩ <;>
  simp [Mapper.mapperFor, Config.resolve, Mapper.lookup, Mapper.new, Except.map, intTy, anyTy,
    timeTy, bigIntTy, bigFloatTy, bigRatTy, GoType.isNamed, directProviders, noBuiltins,
    Builtins.callProvider, simpleBasics, staleMapper, Mapper.newCaching, cacheStore]

section Calls

variable {env : TypeEnv} {b : Builtins}

variable (env b) in
-- The `MapFunc`s of other files change the mapper only as mapping calls do: by a run of
-- `mapperFor` calls, which fill the cache.
def Builtins.ActsAsCalls : Prop :=
  ∀ n m ctx s d h r, b.mapFunc n m ctx s d h = .ret r →
    ∃ ops : List Op, (∀ op ∈ ops, op.isCall = true) ∧ m.run env b ops = .ok r.2.2

theorem noBuiltins_actsAsCalls : noBuiltins.ActsAsCalls env := by
  intro n m ctx s d h r hr
  cases hr
  exact ⟨[], by simp, rfl⟩

private theorem runMapFunc_preserves (P : Mapper → Prop) {mapRefl : Mapper → Value → Value → Heap → MapResult}
    (hrefl : ∀ m s d h r, P m → mapRefl m s d h = .ret r → P r.2.2)
    (hbody : ∀ n m ctx s d h r, P m → b.mapFunc n m ctx s d h = .ret r → P r.2.2) {fuel : Nat}
    {m : Mapper} {ctx : Option Context} {tm : TypeMapper} {src dst : Value} {h : Heap}
    {r : Option MapError × Heap × Mapper} (hm : P m)
    (hr : runMapFunc env b mapRefl fuel m ctx tm src dst h = .ret r) : P r.2.2 := by
  obtain ⟨e, h', m'⟩ := r
  unfold runMapFunc at hr
  split at hr
  · cases hr; exact hm
  · exact (mapDirect_eq_ret hr).2.1 ▸ hm
  · rcases mapAny_eq_ret hr with ⟨-, rfl, -⟩ | ⟨-, -, _, _, _, _, -, hnest, -⟩
    · exact hm
    · exact (hrefl _ _ _ _ _ hm hnest :)
  · exact hbody _ _ _ _ _ _ _ hm hr

-- A property of mappers that every `mapperFor` call keeps, and the `MapFunc`s of other
-- files keep, is kept by `MapReflContext`, nested mappings included.
theorem mapReflContext_preserves (P : Mapper → Prop)
    (hcall : ∀ m ctx s d tm m', P m → m.mapperFor env b ctx s d = .ok (tm, m') → P m')
    (hbody : ∀ n m ctx s d h r, P m → b.mapFunc n m ctx s d h = .ret r → P r.2.2) {fuel : Nat} :
    ∀ {m : Mapper} {ctx : Option Context} {src dst : Value} {h : Heap}
      {r : Option MapError × Heap × Mapper},
      P m → mapReflContext env b fuel m ctx src dst h = .ret r → P r.2.2 := by
  induction fuel with
  | zero => intro m ctx src dst h r _ hr; cases hr
  | succ fuel ih =>
      intro m ctx src dst h r hm hr
      obtain ⟨_, s, d, h₁, he, -, -, hr | ⟨-, -, tm, m₁, hf, hr⟩⟩ := mapReflContext_cases hr
      · exact hr.2 ▸ hm
      · cases he
        exact runMapFunc_preserves P (fun m' _ _ _ _ hm' hr' => ih hm' hr') hbody (hcall _ _ _ _ _ _ hm hf) hr

-- So, when the `MapFunc`s of other files change the mapper only by mapping calls, a
-- mapping call acts on the mapper as a run of `mapperFor` calls: it fills the cache and
-- changes nothing else.
theorem mapReflContext_acts_as_calls (hb : b.ActsAsCalls env) {fuel : Nat} {m : Mapper}
    {ctx : Option Context} {src dst : Value} {h : Heap} {r : Option MapError × Heap × Mapper}
    (hr : mapReflContext env b fuel m ctx src dst h = .ret r) :
    ∃ ops : List Op, (∀ op ∈ ops, op.isCall = true) ∧ m.run env b ops = .ok r.2.2 := by
  refine mapReflContext_preserves (fun m' => ∃ ops : List Op, (∀ op ∈ ops, op.isCall = true) ∧
    m.run env b ops = .ok m') ?_ ?_ ⟨[], by simp, rfl⟩ hr
  · rintro m' ctx' s d tm m'' ⟨ops, hops, hrun⟩ hf
    refine ⟨ops ++ [.mapperFor ctx' s d], ?_, ?_⟩
    · simp only [List.mem_append, List.mem_singleton]
      rintro op (hop | rfl)
      exacts [hops op hop, rfl]
    · rw [Mapper.run_append hrun]
      simp [Mapper.run, Mapper.step, hf, Except.map]
  · rintro n m' ctx' s d h' r' ⟨ops, hops, hrun⟩ hbr
    obtain ⟨ops', hops', hrun'⟩ := hb n m' ctx' s d h' r' hbr
    refine ⟨ops ++ ops', ?_, by rw [Mapper.run_append hrun, hrun']⟩
    simp only [List.mem_append]
    rintro op (hop | hop)
    exacts [hops op hop, hops' op hop]

-- `New()` caches `mapDirect` for `int` to `int`, and its cache stays sound.
theorem Mapper.new_mapperFor_int :
    Mapper.new.mapperFor env b Mapper.new.context intTy intTy =
      .ok (⟨intTy, intTy, some .mapDirect⟩, Mapper.newCaching ⟨intTy, intTy, some .mapDirect⟩) := by
  simp [Mapper.mapperFor, Config.resolve, Mapper.lookup, Mapper.new, intTy, Except.map,
    Mapper.newCaching, simpleBasics]

theorem Mapper.newCaching_int_cacheSound :
    (Mapper.newCaching ⟨intTy, intTy, some .mapDirect⟩).CacheSound env b :=
  ((Mapper.new_cacheSound env b).mapperFor Mapper.new_mapperFor_int).2

-- `Map(5, &x)` with `var x int` on `New()`: `x` is set to 5, after one call of `mapperFor`,
-- for `int` to `int`.
theorem map_int_into_int :
    mapReflContext structEnv noBuiltins 3 Mapper.new none
      (.mk intTy (.direct (.lit 5)) false) (.mk (.pointer intTy) (.direct (.ref 0)) false)
      [⟨intTy, .lit 0⟩] =
      .ret (none, [⟨intTy, .lit 5⟩], Mapper.newCaching ⟨intTy, intTy, some .mapDirect⟩) := by
  have hs : srcValue structEnv Mapper.new [⟨intTy, .lit 0⟩] 2
      (.mk intTy (.direct (.lit 5)) false) = some (.mk intTy (.direct (.lit 5)) false) :=
    srcValue_of_direct rfl (by simp [Value.kind, GoType.kind, GoType.formKind, intTy, Basic.kind])
  have hd : dstValue structEnv Mapper.new [⟨intTy, .lit 0⟩] 2
      (.mk (.pointer intTy) (.direct (.ref 0)) false) =
      some (.mk intTy (.cell 0) false, [⟨intTy, .lit 0⟩]) := by
    simp [dstValue, dstValue.dstStart, dstLoop, dstStep, Value.isValid, Value.kind, Value.canSet,
      Value.type, GoType.kind, GoType.formKind, GoType.isNamed, Value.elem, GoType.elem,
      GoType.formElem, Loc.read, Heap.read, initValue_of_canSet_false, initValue_of_kind, intTy,
      Basic.kind, simpleBasics, Config.hasMapper]
  rw [mapReflContext_of_unwrapped hs hd]
  simp [Value.isValid, Value.type, runMapFunc, Mapper.mapperFor, Config.resolve, Mapper.lookup,
    Mapper.new, simpleBasics, intTy, mapDirect, Value.set, assignable, Loc.read, GoType.kind,
    GoType.formKind, Basic.kind, Heap.write, Except.map, Mapper.newCaching, cacheStore]

theorem map_int_acts_as_calls : ∃ ops : List Op, (∀ op ∈ ops, op.isCall = true) ∧
    Mapper.new.run structEnv noBuiltins ops = .ok (Mapper.newCaching ⟨intTy, intTy, some .mapDirect⟩) :=
  mapReflContext_acts_as_calls noBuiltins_actsAsCalls map_int_into_int

end Calls

end AnyMapper
