import AnyMapper.WellTyped
import AnyMapper.Observable

namespace AnyMapper

-- One call of a client: `MapReflContext(ctx, src, dst)`.
structure Call where
  ctx : Option Context
  src : Value
  dst : Value

section Session

variable (env : TypeEnv) (b : Builtins)

-- A client's calls on one mapper, one after another: each on the memory the one before
-- left and with the mapper it handed back, whose cache it may have filled. No call
-- changes `Mappers` or `Hooks` in between. The session stops at a call that panics or
-- runs out of fuel.
def Mapper.session (fuel : Nat) : Mapper → Heap → List Call →
    Outcome (List (Option MapError) × Heap × Mapper)
  | m, h, [] => .ret ([], h, m)
  | m, h, c :: calls => do
      let (e, h, m) ← mapReflContext env b fuel m c.ctx c.src c.dst h
      let (es, h, m) ← Mapper.session fuel m h calls
      return (e :: es, h, m)

end Session

-- What the client observes of a session: the errors, one a call, and the memory left.
def sessionOutput (r : List (Option MapError) × Heap × Mapper) : List (Option MapError) × Heap :=
  (r.1, r.2.1)

section Runs

variable {env : TypeEnv} {b : Builtins}

theorem Mapper.session_cons (fuel : Nat) (m : Mapper) (h : Heap) (c : Call) (calls : List Call) :
    m.session env b fuel h (c :: calls) =
      (mapReflContext env b fuel m c.ctx c.src c.dst h >>= fun r =>
        r.2.2.session env b fuel r.2.1 calls >>= fun r' => .ret (r.1 :: r'.1, r'.2.1, r'.2.2)) :=
  rfl

-- A session that returns ran its first call to the end, then the rest of the session on
-- the memory and the mapper that call left.
theorem Mapper.session_cons_eq_ret {fuel : Nat} {m m' : Mapper} {h h' : Heap} {c : Call}
    {calls : List Call} {es : List (Option MapError)}
    (hr : m.session env b fuel h (c :: calls) = .ret (es, h', m')) :
    ∃ e h₁ m₁ es₁, mapReflContext env b fuel m c.ctx c.src c.dst h = .ret (e, h₁, m₁) ∧
      m₁.session env b fuel h₁ calls = .ret (es₁, h', m') ∧ es = e :: es₁ := by
  rw [Mapper.session_cons, Outcome.bind_eq_ret] at hr
  obtain ⟨⟨e, h₁, m₁⟩, hcall, hr⟩ := hr
  rw [Outcome.bind_eq_ret] at hr
  obtain ⟨⟨es₁, h₂, m₂⟩, hrest, hr⟩ := hr
  cases hr
  exact ⟨e, h₁, m₁, es₁, hcall, hrest, rfl⟩

-- Each call of a session keeps Go's type safety, the configuration and a sound cache, so
-- the whole session does.
theorem Mapper.session_wellTyped {fuel : Nat} {m : Mapper} (hm : m.KeepsWellTyped env b)
    {h : Heap} (hh : h.WellTyped env) {calls : List Call}
    (hcalls : ∀ c ∈ calls, c.src.WellTyped env h ∧ c.dst.WellTyped env h)
    {es : List (Option MapError)} {h' : Heap} {m' : Mapper}
    (hr : m.session env b fuel h calls = .ret (es, h', m')) :
    KeptWellTyped env b h m.toConfig (none, h', m') := by
  induction calls generalizing m h es with
  | nil =>
      cases hr
      exact ⟨hh, .refl _, rfl, hm.sound⟩
  | cons c calls ih =>
      obtain ⟨e, h₁, m₁, es₁, hcall, hrest, rfl⟩ := Mapper.session_cons_eq_ret hr
      have hc := hcalls c (List.mem_cons_self _ _)
      obtain ⟨hh₁, hk₁, hc₁, hs₁⟩ := mapReflContext_wellTyped hm hh hc.1 hc.2 hcall
      obtain ⟨hh₂, hk₂, hc₂, hs₂⟩ := ih (hm.of_config hc₁ hs₁) hh₁
        (fun c' hc' => ((hcalls c' (List.mem_cons_of_mem _ hc')).imp (·.mono hk₁) (·.mono hk₁))) hrest
      exact ⟨hh₂, hk₁.trans hk₂, hc₂.trans hc₁, hs₂⟩

-- A session keeps Go's type safety and the mapper's configuration: from well-typed memory
-- and calls on well-typed values, every session that returns leaves well-typed memory in
-- which every variable kept its type, and a mapper that still keeps memory well typed,
-- with the `Context`, `Hooks` and `Mappers` it had.
theorem Mapper.session_keeps_well_typed {fuel : Nat} {m : Mapper} (hm : m.KeepsWellTyped env b)
    {h : Heap} (hh : h.WellTyped env) {calls : List Call}
    (hcalls : ∀ c ∈ calls, c.src.WellTyped env h ∧ c.dst.WellTyped env h)
    {es : List (Option MapError)} {h' : Heap} {m' : Mapper}
    (hr : m.session env b fuel h calls = .ret (es, h', m')) :
    h'.WellTyped env ∧ h.TypesKept h' ∧ m'.KeepsWellTyped env b ∧ m'.context = m.context ∧
      m'.hooks = m.hooks ∧ m'.mappers = m.mappers := by
  obtain ⟨hh', hk', hc', hs'⟩ := Mapper.session_wellTyped hm hh hcalls hr
  exact ⟨hh', hk', hm.of_config hc' hs', congrArg Config.context hc', congrArg Config.hooks hc',
    congrArg Config.mappers hc'⟩

-- Without changes to `Mappers` or `Hooks` between calls the cache stays invisible over a
-- whole session, when the `MapFunc`s of other files do not read it: on two mappers of one
-- configuration whose caches agree with it and are nil alike, such as a mapper and its
-- `Copy()`, every sequence of calls returns the same errors and leaves the same memory,
-- or panics alike, or needs more fuel alike.
theorem Mapper.session_cache_invisible {fuel : Nat} {m m' : Mapper} (hv : m.SameUpToCache env b m')
    (hb : b.Oblivious (Mapper.SameUpToCache env b) Eq) (h : Heap) (calls : List Call) :
    sessionOutput <$> m.session env b fuel h calls = sessionOutput <$> m'.session env b fuel h calls := by
  suffices hrel : ∀ {m m' : Mapper} (h : Heap), m.SameUpToCache env b m' →
      (m.session env b fuel h calls).Rel
        (fun r r' => sessionOutput r = sessionOutput r' ∧ r.2.2.SameUpToCache env b r'.2.2)
        (m'.session env b fuel h calls) from
    (hrel h hv).map_eq fun _ _ => And.left
  induction calls with
  | nil => exact fun _ hv => ⟨rfl, hv⟩
  | cons c calls ih =>
      intro m m' h hv
      rw [Mapper.session_cons, Mapper.session_cons]
      refine (mapReflContext_rel Mapper.SameUpToCache.simulation hb fuel hv
        (by rw [congrArg Config.context hv.config]) _ _ _).bind ?_
      -- the first call returned alike; the rest of the session runs on related mappers
      rintro ⟨e, h₁, m₁⟩ ⟨e', h₁', m₁'⟩ ⟨he, hv₁⟩
      simp only [callOutput, Prod.mk.injEq] at he
      obtain ⟨rfl, rfl⟩ := he
      refine (ih h₁ hv₁).bind ?_
      rintro ⟨es, h₂, m₂⟩ ⟨es', h₂', m₂'⟩ ⟨hes, hv₂⟩
      simp only [sessionOutput, Prod.mk.injEq] at hes
      obtain ⟨rfl, rfl⟩ := hes
      exact ⟨rfl, hv₂⟩

end Runs

-- After `Map(5, &x)` has cached `int` to `int`, two more calls `Map(7, &x)` and
-- `Map(8, &x)` return and write the same on the mapper and on its `Copy()`.
theorem map_twice_as_on_copy :
    (Mapper.newCaching ⟨intTy, intTy, some .mapDirect⟩).copy = .ok Mapper.new ∧
      sessionOutput <$> (Mapper.newCaching ⟨intTy, intTy, some .mapDirect⟩).session structEnv noBuiltins 3
          [⟨intTy, .lit 5⟩]
          [⟨none, .mk intTy (.direct (.lit 7)) false, .mk (.pointer intTy) (.direct (.ref 0)) false⟩,
            ⟨none, .mk intTy (.direct (.lit 8)) false, .mk (.pointer intTy) (.direct (.ref 0)) false⟩] =
        sessionOutput <$> Mapper.new.session structEnv noBuiltins 3 [⟨intTy, .lit 5⟩]
          [⟨none, .mk intTy (.direct (.lit 7)) false, .mk (.pointer intTy) (.direct (.ref 0)) false⟩,
            ⟨none, .mk intTy (.direct (.lit 8)) false, .mk (.pointer intTy) (.direct (.ref 0)) false⟩] :=
  ⟨rfl, Mapper.session_cache_invisible
    (⟨rfl, Mapper.newCaching_int_cacheSound, Mapper.new_cacheSound structEnv noBuiltins, rfl⟩ :
      (Mapper.newCaching ⟨intTy, intTy, some .mapDirect⟩).SameUpToCache structEnv noBuiltins Mapper.new)
    (noBuiltins_oblivious _ _) _ _⟩

-- `Map(5, &x)` with `var x int` on `New()`, as a session of one call.
theorem map_int_session :
    Mapper.new.session structEnv noBuiltins 3 [⟨intTy, .lit 0⟩]
      [⟨none, .mk intTy (.direct (.lit 5)) false, .mk (.pointer intTy) (.direct (.ref 0)) false⟩] =
      .ret ([none], [⟨intTy, .lit 5⟩], Mapper.newCaching ⟨intTy, intTy, some .mapDirect⟩) := by
  rw [Mapper.session_cons, map_int_into_int]
  rfl

-- A session of one call, `Map(5, &x)` with `var x int` on `New()`, keeps memory well typed
-- and the mapper's configuration.
theorem map_int_session_keeps_well_typed :
    Heap.WellTyped structEnv [⟨intTy, .lit 5⟩] ∧ Heap.TypesKept [⟨intTy, .lit 0⟩] [⟨intTy, .lit 5⟩] ∧
      (Mapper.newCaching ⟨intTy, intTy, some .mapDirect⟩).KeepsWellTyped structEnv noBuiltins ∧
      (Mapper.newCaching ⟨intTy, intTy, some .mapDirect⟩).context = Mapper.new.context ∧
      (Mapper.newCaching ⟨intTy, intTy, some .mapDirect⟩).hooks = Mapper.new.hooks ∧
      (Mapper.newCaching ⟨intTy, intTy, some .mapDirect⟩).mappers = Mapper.new.mappers :=
  Mapper.session_keeps_well_typed Mapper.new_keepsWellTyped (int_var_wellTyped 0).1
    (by simpa using ⟨(int_var_wellTyped 0).2.1, (int_var_wellTyped 0).2.2⟩) map_int_session

end AnyMapper
