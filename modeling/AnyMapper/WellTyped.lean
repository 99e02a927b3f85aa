import AnyMapper.Cache

namespace AnyMapper

-- Go's type safety as memory sees it: a pointer refers to a variable of its element
-- type, an interface boxes a value of a dynamic type that is no interface, and the
-- type of a variable never changes. The mapper keeps this by itself; the hooks and the
-- `MapFunc`s of the package's other files are assumed to keep it too.

section Defs

variable (env : TypeEnv)

-- What a variable of type `t` may hold.
def Data.WellTyped (h : Heap) (t : GoType) : Data → Prop
  | .nil => True
  | .ref a => t.kind env ≠ .interface ∧
      (t.kind env = .pointer → (h[a]?).map Cell.ty = some (t.elem env))
  | .boxed dt d => t.kind env = .interface ∧ dt.kind env ≠ .interface ∧ Data.WellTyped h dt d
  | .lit _ => t.kind env ≠ .pointer ∧ t.kind env ≠ .interface

-- Every variable holds what its type allows.
def Heap.WellTyped (h : Heap) : Prop :=
  ∀ a t, (h[a]?).map Cell.ty = some t → Data.WellTyped env h t (h.read a)

-- A `reflect.Value` into well-typed memory: a variable of the value's own type, or a
-- copy of data its type allows.
def Value.WellTyped (h : Heap) : Value → Prop
  | .invalid => True
  | .mk t (.cell a) _ => (h[a]?).map Cell.ty = some t
  | .mk t (.direct d) _ => Data.WellTyped env h t d

end Defs

-- The variables of `h` are still there in `h'`, with their types.
def Heap.TypesKept (h h' : Heap) : Prop :=
  ∀ (a : Nat) (t : GoType), (h[a]?).map Cell.ty = some t → (h'[a]?).map Cell.ty = some t

namespace Heap.TypesKept

theorem refl (h : Heap) : h.TypesKept h := fun _ _ => id

theorem trans {h₁ h₂ h₃ : Heap} (h₁₂ : h₁.TypesKept h₂) (h₂₃ : h₂.TypesKept h₃) :
    h₁.TypesKept h₃ :=
  fun a t ht => h₂₃ a t (h₁₂ a t ht)

theorem write (h : Heap) (a : Nat) (d : Data) : h.TypesKept (h.write a d) :=
  fun b _ ht => (Heap.getElem?_write_ty h a b d).trans ht

theorem alloc (h : Heap) (c : Cell) : h.TypesKept (h.alloc c) :=
  fun _ _ ht => (Heap.ty_alloc_lt h c (Heap.lt_length_of_ty ht)).trans ht

theorem of_initOnly {h h' : Heap} (hh : h.InitOnly h') : h.TypesKept h' :=
  fun a _ ht => (hh.2 a (Heap.lt_length_of_ty ht)).1.trans ht

end Heap.TypesKept

section Lemmas

variable {env : TypeEnv} {h h' : Heap}

-- Kind and element type are those of the underlying type.
theorem GoType.kind_eq_formKind_underlying (t : GoType) :
    t.kind env = (GoType.underlying env t).formKind := by
  cases t <;> rfl

theorem GoType.elem_eq_formElem_underlying (t : GoType) :
    t.elem env = (GoType.underlying env t).formElem := by
  cases t <;> rfl

theorem Data.WellTyped.mono (hk : h.TypesKept h') {t : GoType} {d : Data}
    (hd : Data.WellTyped env h t d) : Data.WellTyped env h' t d := by
  induction d generalizing t with
  | ref a => exact ⟨hd.1, fun hp => hk a _ (hd.2 hp)⟩
  | boxed dt d ih => exact ⟨hd.1, hd.2.1, ih hd.2.2⟩
  | _ => exact hd

theorem Value.WellTyped.mono (hk : h.TypesKept h') {v : Value} (hv : v.WellTyped env h) :
    v.WellTyped env h' := by
  match v, hv with
  | .invalid, _ => trivial
  | .mk t (.cell a) _, hv => exact hk a t hv
  | .mk t (.direct d) _, hv => exact Data.WellTyped.mono hk hv

-- What a variable may hold depends on its type's kind and, for a pointer, element type.
theorem Data.WellTyped.of_kind {t t' : GoType} (hk : t'.kind env = t.kind env)
    (he : t.kind env = .pointer → t'.elem env = t.elem env) {d : Data}
    (hd : Data.WellTyped env h t d) : Data.WellTyped env h t' d := by
  cases d with
  | nil => trivial
  | ref a => exact ⟨hk ▸ hd.1, fun hp => he (hk ▸ hp) ▸ hd.2 (hk ▸ hp)⟩
  | boxed dt d => exact ⟨hk ▸ hd.1, hd.2⟩
  | lit n => simpa only [Data.WellTyped, hk] using hd

-- What `Set` stores into a variable of type `t` from a value of an assignable type `xt`
-- without boxing it is allowed there.
theorem Data.WellTyped.of_assignable {xt t : GoType} (ha : assignable env xt t = true)
    (hbox : t.kind env = .interface → xt.kind env = .interface) {d : Data}
    (hd : Data.WellTyped env h xt d) : Data.WellTyped env h t d := by
  simp only [assignable, Bool.or_eq_true, beq_iff_eq, Bool.and_eq_true] at ha
  rcases ha with (rfl | ⟨-, hu⟩) | hu
  · exact hd
  · exact hd.of_kind (by rw [GoType.kind_eq_formKind_underlying t,
      GoType.kind_eq_formKind_underlying xt, hu])
      fun _ => by rw [GoType.elem_eq_formElem_underlying t, GoType.elem_eq_formElem_underlying xt, hu]
  · have hi : t.kind env = .interface := by rw [GoType.kind_eq_formKind_underlying, hu]; rfl
    exact hd.of_kind (by rw [hi, hbox hi]) fun hp => by rw [hbox hi] at hp; cases hp

theorem Data.WellTyped.zero (t : GoType) : Data.WellTyped env h t (zero env t) := by
  unfold AnyMapper.zero
  split <;> simp_all [Data.WellTyped]

-- What a well-typed value reads is allowed by its type.
theorem Value.WellTyped.read (hh : h.WellTyped env) {t : GoType} {loc : Loc} {ro : Bool}
    (hv : (Value.mk t loc ro).WellTyped env h) : Data.WellTyped env h t (loc.read h) := by
  cases loc with
  | cell a => exact hh a t hv
  | direct d => exact hv

-- `Elem` of a well-typed value is well typed: a variable of the pointer's element type,
-- or the value an interface boxes.
theorem Value.WellTyped.elem (hh : h.WellTyped env) {v : Value} (hv : v.WellTyped env h) :
    (v.elem env h).WellTyped env h := by
  match v, hv with
  | .invalid, _ => trivial
  | .mk t loc ro, hv =>
      have hd := hv.read hh
      simp only [Value.elem]
      split
      · next hd' => rw [hd'] at hd; exact hd.2.2
      · next a hk hd' => rw [hd'] at hd; exact hd.2 hk
      · trivial

theorem Heap.WellTyped.write (hh : h.WellTyped env) {a : Nat} {t : GoType} {d : Data}
    (ha : (h[a]?).map Cell.ty = some t) (hd : Data.WellTyped env h t d) :
    (h.write a d).WellTyped env := by
  intro b tb hb
  have hk := Heap.TypesKept.write h a d
  rw [Heap.getElem?_write_ty] at hb
  by_cases hab : a = b
  · subst hab
    obtain rfl : t = tb := Option.some.inj (ha.symm.trans hb)
    rw [Heap.read_write_self h d (Heap.lt_length_of_ty ha)]
    exact hd.mono hk
  · rw [Heap.read_write_ne h d hab]
    exact (hh b tb hb).mono hk

theorem Heap.WellTyped.alloc (hh : h.WellTyped env) {c : Cell}
    (hc : Data.WellTyped env (h.alloc c) c.ty c.data) : (h.alloc c).WellTyped env := by
  intro a t ha
  by_cases hlt : a < h.length
  · rw [Heap.ty_alloc_lt h c hlt] at ha
    rw [Heap.read_alloc_lt h c hlt]
    exact (hh a t ha).mono (Heap.TypesKept.alloc h c)
  · have hlen : a = h.length := by
      have := Heap.lt_length_of_ty ha
      simp only [Heap.length_alloc] at this
      omega
    subst hlen
    rw [Heap.ty_alloc_length] at ha
    cases ha
    rw [Heap.read_alloc_length]
    exact hc

-- `reflect.New` allocates a zero variable and points at it.
theorem Heap.WellTyped.reflectNew (hh : h.WellTyped env) (t : GoType) :
    (reflectNew env h t).2.WellTyped env ∧
      (reflectNew env h t).1.WellTyped env (reflectNew env h t).2 ∧
      h.TypesKept (reflectNew env h t).2 :=
  ⟨hh.alloc (Data.WellTyped.zero t),
    ⟨by simp [GoType.kind, GoType.formKind], fun _ => Heap.ty_alloc_length h _⟩,
    Heap.TypesKept.alloc h _⟩

-- `initValue` points a nil pointer at a zero variable of its element type, and a nil
-- map or slice at a fresh runtime object.
theorem Heap.WellTyped.initValue (hh : h.WellTyped env) {v : Value} (hv : v.WellTyped env h) :
    (initValue env h v).WellTyped env := by
  rcases initValue_cases h v with he | ⟨t, a, c, rfl, -, he, hc⟩
  · rwa [he]
  rw [he]
  have hkept := Heap.TypesKept.alloc h c
  have hc' : Data.WellTyped env (h.alloc c) c.ty c.data := by
    rcases hc with ⟨-, rfl⟩ | ⟨hk, rfl⟩ | ⟨-, rfl⟩
    · exact Data.WellTyped.zero _
    · simp [Data.WellTyped, hk]
    · simp [Data.WellTyped, GoType.kind, GoType.formKind]
  refine (hh.alloc hc').write (hkept a t hv) ⟨?_, fun hp => ?_⟩
  · rcases hc with ⟨hk, -⟩ | ⟨hk, -⟩ | ⟨hk, -⟩ <;> simp [hk]
  · rcases hc with ⟨-, rfl⟩ | ⟨hk, -⟩ | ⟨hk, -⟩
    · exact Heap.ty_alloc_length h _
    all_goals simp [hk] at hp

-- A non-nil interface variable boxes a value of a type that is no interface.
theorem Heap.WellTyped.boxed_of_interface (hh : h.WellTyped env) {a : Nat} {t : GoType}
    (ht : (h[a]?).map Cell.ty = some t) (hk : t.kind env = .interface) (hnil : h.read a ≠ .nil) :
    ∃ T D, h.read a = .boxed T D ∧ T.kind env ≠ .interface := by
  have hwt := hh a t ht
  cases hd : h.read a with
  | nil => exact absurd hd hnil
  | ref _ => rw [hd] at hwt; exact absurd hk hwt.1
  | boxed T D => rw [hd] at hwt; exact ⟨T, D, rfl, hwt.2.1⟩
  | lit _ => rw [hd] at hwt; exact absurd hk hwt.2

-- `Set` stores what the variable's type allows: the value as it is, or boxed with its
-- type into an interface.
theorem Value.set_wellTyped (hh : h.WellTyped env) {v x : Value} (hv : v.WellTyped env h)
    (hx : x.WellTyped env h) (hs : Value.set env h v x = .ok h') :
    h'.WellTyped env ∧ h.TypesKept h' := by
  obtain ⟨t, a, xt, xloc, rfl, rfl, ha, rfl⟩ := Value.set_eq_ok env hs
  refine ⟨hh.write hv ?_, Heap.TypesKept.write h a _⟩
  have hd := hx.read hh
  by_cases hbox : t.kind env = .interface ∧ xt.kind env ≠ .interface
  · rw [if_pos (by simpa [bne_iff_ne] using hbox)]
    exact ⟨hbox.1, hbox.2, hd⟩
  · rw [if_neg (by simpa [bne_iff_ne] using hbox)]
    exact hd.of_assignable ha fun hi => by simpa [hi] using hbox

end Lemmas

section Mapper

variable (env : TypeEnv) (b : Builtins)

-- What a step of a mapping call leaves when it keeps Go's type safety, from memory `h` on
-- a mapper of configuration `c`: well-typed memory whose variables kept their types, and
-- a mapper of configuration `c` whose cache is sound.
def KeptWellTyped (h : Heap) (c : Config) (r : Option MapError × Heap × Mapper) : Prop :=
  r.2.1.WellTyped env ∧ h.TypesKept r.2.1 ∧ r.2.2.toConfig = c ∧ r.2.2.CacheSound env b

-- The `MapFunc` of another file named `n`, run on a mapper of configuration `c` with a
-- sound cache, from well-typed memory and values, keeps Go's type safety.
def Builtins.KeepsWellTyped (c : Config) (n : Nat) : Prop :=
  ∀ m ctx src dst h r, m.toConfig = c → m.CacheSound env b → h.WellTyped env →
    src.WellTyped env h → dst.WellTyped env h → b.mapFunc n m ctx src dst h = .ret r →
      KeptWellTyped env b h c r

-- The parts of a mapper that come from outside mapper.go keep memory well typed: the
-- value hooks return well-typed values and every `MapFunc` of another file `mapperFor`
-- may hand out keeps Go's type safety. The cache agrees with the configuration.
structure Mapper.KeepsWellTyped (m : Mapper) : Prop where
  sound : m.CacheSound env b
  sourceHook : ∀ hook, m.hooks.sourceValueHook = some hook →
    ∀ h v, h.WellTyped env → v.WellTyped env h → (hook h v).WellTyped env h
  destinationHook : ∀ hook, m.hooks.destinationValueHook = some hook →
    ∀ h v, h.WellTyped env → v.WellTyped env h → (hook h v).WellTyped env h
  mapFuncs : ∀ s d n, m.resolve env b s d = .ok (some (.other n)) → b.KeepsWellTyped env m.toConfig n

end Mapper

section Preservation

variable {env : TypeEnv} {b : Builtins} {h h' : Heap}

-- Only the configuration and the soundness of the cache matter.
theorem Mapper.KeepsWellTyped.of_config {m m' : Mapper} (hm : m.KeepsWellTyped env b)
    (hc : m'.toConfig = m.toConfig) (hs : m'.CacheSound env b) : m'.KeepsWellTyped env b := by
  have hk : m'.hooks = m.hooks := congrArg Config.hooks hc
  refine ⟨hs, by rw [hk]; exact hm.sourceHook, by rw [hk]; exact hm.destinationHook, fun s d n hn => ?_⟩
  rw [hc] at hn ⊢
  exact hm.mapFuncs s d n hn

theorem Mapper.KeepsWellTyped.mapperFor {m m' : Mapper} (hm : m.KeepsWellTyped env b)
    {ctx : Option Context} {s d : GoType} {tm : TypeMapper}
    (hf : m.mapperFor env b ctx s d = .ok (tm, m')) : m'.KeepsWellTyped env b :=
  hm.of_config (mapperFor_toConfig env b hf) (hm.sound.mapperFor hf).2

theorem srcLoop_wellTyped (hh : h.WellTyped env) {fuel : Nat} {v r : Value}
    (hv : v.WellTyped env h) (hr : srcLoop env h fuel v = some r) : r.WellTyped env h := by
  induction fuel generalizing v with
  | zero => simp [srcLoop] at hr
  | succ fuel ih =>
      rw [srcLoop_succ] at hr
      split_ifs at hr
      · exact ih (hv.elem hh) hr
      · cases hr; exact hv

theorem srcValue_wellTyped {m : Mapper} (hm : m.KeepsWellTyped env b) (hh : h.WellTyped env)
    {fuel : Nat} {v r : Value} (hv : v.WellTyped env h) (hr : srcValue env m h fuel v = some r) :
    r.WellTyped env h := by
  rcases srcValue_cases h v with ⟨-, hs⟩ | ⟨hook, hk, -, hs⟩ | hs <;> rw [hs] at hr
  · cases hr; exact hv
  · cases hr; exact hm.sourceHook hook hk h v hh hv
  · exact srcLoop_wellTyped hh hv hr

-- The loop of `dstValue` keeps memory well typed, and the value it returns is.
theorem dstLoop_wellTyped {m : Mapper} {h h' : Heap} (hh : h.WellTyped env) {fuel : Nat}
    {v s r : Value}
    (hv : v.WellTyped env h) (hs : s.WellTyped env h) (hr : dstLoop env m fuel h v s = some (r, h')) :
    h'.WellTyped env ∧ h.TypesKept h' ∧ r.WellTyped env h' := by
  induction fuel generalizing h v s with
  | zero => simp [dstLoop] at hr
  | succ fuel ih =>
      have hinit : h.TypesKept (initValue env h v) :=
        Heap.TypesKept.of_initOnly (initValue_initOnly h v)
      rw [dstLoop_succ] at hr
      split at hr
      · next hst =>
          cases hr
          obtain ⟨hrv, rfl | rfl⟩ := dstStep_eq_inl hst
          · exact ⟨hh, .refl _, by rcases hrv with rfl | rfl <;> assumption⟩
          · exact ⟨hh.initValue hv, hinit, by rcases hrv with rfl | rfl <;> exact Value.WellTyped.mono hinit ‹_›⟩
      · next hst =>
          obtain ⟨-, -, hx⟩ := dstStep_eq_inr hst
          simp only [Prod.mk.injEq] at hx
          obtain ⟨rfl, rfl, rfl⟩ := hx
          have hh₁ := hh.initValue hv
          have hv₁ := hv.mono hinit
          obtain ⟨hh', hk, hr'⟩ := ih hh₁ (hv₁.elem hh₁) (by split <;> exact Value.WellTyped.mono hinit ‹_›) hr
          exact ⟨hh', hinit.trans hk, hr'⟩

theorem dstValue_wellTyped {m : Mapper} (hm : m.KeepsWellTyped env b) (hh : h.WellTyped env)
    {fuel : Nat} {v r : Value} (hv : v.WellTyped env h) (hr : dstValue env m h fuel v = some (r, h')) :
    h'.WellTyped env ∧ h.TypesKept h' ∧ r.WellTyped env h' := by
  rcases dstValue_cases h v with ⟨-, hd⟩ | ⟨hook, hk, -, hd⟩ | hd <;> rw [hd] at hr
  · cases hr; exact ⟨hh, .refl h, hv⟩
  · cases hr; exact ⟨hh, .refl h, hm.destinationHook hook hk h v hh hv⟩
  · exact dstLoop_wellTyped hh hv (show Value.invalid.WellTyped env h from trivial) hr

variable {mapRefl : Mapper → Value → Value → Heap → MapResult} {fuel : Nat} {m : Mapper}
  {src dst : Value} {r : Option MapError × Heap × Mapper}

-- `Set` of a well-typed value into a well-typed variable, on a mapper that keeps memory
-- well typed.
theorem KeptWellTyped.set (hm : m.KeepsWellTyped env b) (hh : h.WellTyped env)
    (hs : src.WellTyped env h) (hd : dst.WellTyped env h) (hset : Value.set env h dst src = .ok h') :
    KeptWellTyped env b h m.toConfig (none, h', m) :=
  ⟨(Value.set_wellTyped hh hd hs hset).1, (Value.set_wellTyped hh hd hs hset).2, rfl, hm.sound⟩

-- `mapAny` keeps Go's type safety when the mapping it nests does: `reflect.New` of the
-- boxed type, `dstValue` on it and the final `Set` each keep it.
theorem mapAny_wellTyped (hm : m.KeepsWellTyped env b)
    (hrefl : ∀ s d h r, h.WellTyped env → s.WellTyped env h → d.WellTyped env h →
      mapRefl m s d h = .ret r → KeptWellTyped env b h m.toConfig r)
    (hh : h.WellTyped env) (hs : src.WellTyped env h) (hd : dst.WellTyped env h)
    (hr : mapAny env mapRefl fuel m src dst h = .ret r) : KeptWellTyped env b h m.toConfig r := by
  obtain ⟨e, h', m'⟩ := r
  rcases mapAny_eq_ret hr with ⟨rfl, rfl, hset⟩ | ⟨-, -, aux, h₃, e₄, h₄, haux, hnest, hout⟩
  · exact KeptWellTyped.set hm hh hs hd hset
  obtain ⟨hh₂, hv₂, hk₂⟩ := hh.reflectNew (dst.elem env h).type
  obtain ⟨hh₃, hk₃, haux₃⟩ := dstValue_wellTyped hm hh₂ hv₂ haux
  obtain ⟨hh₄, hk₄, hc₄, hs₄⟩ := hrefl _ _ _ _ hh₃ ((hs.mono hk₂).mono hk₃) haux₃ hnest
  have hk : h.TypesKept h₄ := (hk₂.trans hk₃).trans hk₄
  rcases hout with ⟨-, -, rfl⟩ | ⟨-, -, hset⟩
  · exact ⟨hh₄, hk, hc₄, hs₄⟩
  · obtain ⟨hh₅, hk₅⟩ := Value.set_wellTyped hh₄ (hd.mono hk) (((hv₂.mono hk₃).mono hk₄).elem hh₄) hset
    exact ⟨hh₅, hk.trans hk₅, hc₄, hs₄⟩

theorem runMapFunc_wellTyped (hm : m.KeepsWellTyped env b)
    (hrefl : ∀ s d h r, h.WellTyped env → s.WellTyped env h → d.WellTyped env h →
      mapRefl m s d h = .ret r → KeptWellTyped env b h m.toConfig r)
    {ctx : Option Context} {tm : TypeMapper}
    (htm : ∀ n, tm.mapFunc = some (.other n) → b.KeepsWellTyped env m.toConfig n)
    (hh : h.WellTyped env) (hs : src.WellTyped env h) (hd : dst.WellTyped env h)
    (hr : runMapFunc env b mapRefl fuel m ctx tm src dst h = .ret r) :
    KeptWellTyped env b h m.toConfig r := by
  obtain ⟨e, h', m'⟩ := r
  unfold runMapFunc at hr
  split at hr
  · cases hr; exact ⟨hh, .refl h, rfl, hm.sound⟩
  · obtain ⟨rfl, rfl, hset⟩ := mapDirect_eq_ret hr
    exact KeptWellTyped.set hm hh hs hd hset
  · exact mapAny_wellTyped hm hrefl hh hs hd hr
  · exact htm _ ‹_› m ctx src dst h _ rfl hm.sound hh hs hd hr

-- A mapping call keeps Go's type safety and hands back a mapper of the configuration it
-- was given, with a sound cache.
theorem mapReflContext_wellTyped {ctx : Option Context} (hm : m.KeepsWellTyped env b)
    (hh : h.WellTyped env) (hsrc : src.WellTyped env h) (hdst : dst.WellTyped env h)
    (hr : mapReflContext env b fuel m ctx src dst h = .ret r) : KeptWellTyped env b h m.toConfig r := by
  induction fuel generalizing m ctx src dst h r with
  | zero => cases hr
  | succ fuel ih =>
      obtain ⟨_, s, d, h₁, he, hsv, hdv, hr | ⟨-, -, tm, m₁, hf, hr⟩⟩ := mapReflContext_cases hr
      all_goals
        cases he
        obtain ⟨hh₁, hk₁, hd₁⟩ := dstValue_wellTyped hm hh hdst hdv
      · obtain ⟨e, h', m'⟩ := r
        obtain ⟨rfl, rfl⟩ := hr
        exact ⟨hh₁, hk₁, rfl, hm.sound⟩
      · have hc := mapperFor_toConfig env b hf
        have hm₁ := hm.mapperFor hf
        obtain ⟨hh', hk', hc', hs'⟩ := runMapFunc_wellTyped hm₁
          (fun _ _ _ _ hh hs hd hr => ih hm₁ hh hs hd hr)
          (fun n hn => by rw [hc]; exact hm.mapFuncs _ _ n (by rw [(hm.sound.mapperFor hf).1.1, hn]))
          hh₁ ((srcValue_wellTyped hm hh hsrc hsv).mono hk₁) hd₁ hr
        exact ⟨hh', hk₁.trans hk', hc'.trans hc, hs'⟩

end Preservation

-- Package functions that do nothing keep Go's type safety, so `New()` keeps memory well
-- typed with them.
theorem noBuiltins_keepsWellTyped {env : TypeEnv} (c : Config) (n : Nat) :
    noBuiltins.KeepsWellTyped env c n := by
  rintro m ctx src dst h r hc hs hh - - hr
  cases hr
  exact ⟨hh, .refl h, hc, hs⟩

theorem Mapper.new_keepsWellTyped {env : TypeEnv} : Mapper.new.KeepsWellTyped env noBuiltins :=
  ⟨Mapper.new_cacheSound env noBuiltins, by simp, by simp, fun _ _ n _ => noBuiltins_keepsWellTyped _ n⟩

-- `var x int` holding `n`, the `int` 5 and `&x`.
theorem int_var_wellTyped (n : Nat) :
    Heap.WellTyped structEnv [⟨intTy, .lit n⟩] ∧
      (Value.mk intTy (.direct (.lit 5)) false).WellTyped structEnv [⟨intTy, .lit n⟩] ∧
      (Value.mk (.pointer intTy) (.direct (.ref 0)) false).WellTyped structEnv [⟨intTy, .lit n⟩] := by
  refine ⟨fun a t ha => ?_, ?_, ?_⟩
  · rcases a with _ | a <;> simp [intTy] at ha
    subst ha
    simp [Heap.read, Data.WellTyped, GoType.kind, GoType.formKind, Basic.kind]
  · simp [Value.WellTyped, Data.WellTyped, intTy, GoType.kind, GoType.formKind, Basic.kind]
  · simp [Value.WellTyped, Data.WellTyped, GoType.kind, GoType.formKind, GoType.elem, GoType.formElem]

end AnyMapper
