import AnyMapper.Unwrap

namespace AnyMapper

-- Memory allocated during a call of `MapReflContext`, by `initValue` and by the
-- `reflect.New` of `mapAny`. Nothing there boxes a value, so a mapping into a variable
-- allocated there finds no interface holding a value.

section Fresh

variable (env : TypeEnv)

-- What a cell allocated since memory had `n` cells may hold: no boxed value, nil in an
-- interface, and references only to cells allocated since, a pointer's to a cell of its
-- element type.
def FreshData (n : Nat) (h : Heap) (t : GoType) : Data → Prop
  | .nil => True
  | .lit _ => t.kind env ≠ .interface
  | .ref a => t.kind env ≠ .interface ∧ n ≤ a ∧
      (t.kind env = .pointer → (h[a]?).map Cell.ty = some (t.elem env))
  | .boxed _ _ => False

-- Every cell from `n` on holds fresh data of its type.
def Heap.Fresh (n : Nat) (h : Heap) : Prop :=
  ∀ a t, n ≤ a → (h[a]?).map Cell.ty = some t → FreshData env n h t (h.read a)

-- A value in that part of memory: a cell allocated since, of the value's own type, or
-- a copy of fresh data; never read-only.
def Value.Fresh (n : Nat) (h : Heap) : Value → Prop
  | .invalid => True
  | .mk t (.cell a) ro => n ≤ a ∧ (h[a]?).map Cell.ty = some t ∧ ro = false
  | .mk t (.direct d) ro => FreshData env n h t d ∧ ro = false

end Fresh

section FreshLemmas

variable {env : TypeEnv} {n : Nat} {h h' : Heap}

theorem FreshData.mono (hh : h.InitOnly h') {t : GoType} {d : Data} (hd : FreshData env n h t d) :
    FreshData env n h' t d := by
  cases d with
  | ref a =>
      refine ⟨hd.1, hd.2.1, fun hk => ?_⟩
      have ha := hd.2.2 hk
      rw [(hh.2 a (Heap.lt_length_of_ty ha)).1, ha]
  | _ => exact hd

theorem Value.Fresh.mono (hh : h.InitOnly h') {v : Value} (hv : v.Fresh env n h) :
    v.Fresh env n h' := by
  match v, hv with
  | .invalid, _ => trivial
  | .mk t (.cell a) ro, ⟨hn, ht, hro⟩ =>
      exact ⟨hn, (hh.2 a (Heap.lt_length_of_ty ht)).1.trans ht, hro⟩
  | .mk t (.direct d) ro, ⟨hd, hro⟩ => exact ⟨hd.mono hh, hro⟩

theorem FreshData.zero (t : GoType) : FreshData env n h t (zero env t) := by
  unfold AnyMapper.zero
  split <;> simp_all [FreshData]

-- What a fresh value reads is fresh data of its type.
theorem Value.Fresh.read (hh : h.Fresh env n) {t : GoType} {loc : Loc} {ro : Bool}
    (hv : (Value.mk t loc ro).Fresh env n h) : FreshData env n h t (loc.read h) := by
  cases loc with
  | cell a => exact hh a t hv.1 hv.2.1
  | direct d => exact hv.1

-- Everything `Elem` does on a fresh value: the zero `Value`, or, for a pointer, a cell
-- allocated since, of the pointer's element type.
theorem Value.Fresh.elem_eq (hh : h.Fresh env n) {v : Value} (hv : v.Fresh env n h) :
    v.elem env h = .invalid ∨ ∃ a, v.kind env = .pointer ∧
      v.elem env h = .mk (v.type.elem env) (.cell a) false ∧ n ≤ a ∧
      (h[a]?).map Cell.ty = some (v.type.elem env) := by
  match v, hv with
  | .invalid, _ => exact .inl rfl
  | .mk t loc ro, hv =>
      have hd := hv.read hh
      have hro : ro = false := by
        cases loc with
        | cell => exact hv.2.2
        | direct => exact hv.2
      subst hro
      simp only [Value.elem]
      split
      · next hd' => rw [hd'] at hd; exact hd.elim
      · next a hk hd' => rw [hd'] at hd; exact .inr ⟨a, hk, rfl, hd.2.1, hd.2.2 hk⟩
      · exact .inl rfl

theorem Value.Fresh.elem (hh : h.Fresh env n) {v : Value} (hv : v.Fresh env n h) :
    (v.elem env h).Fresh env n h := by
  rcases hv.elem_eq hh with he | ⟨a, -, he, hn, ht⟩ <;> rw [he]
  exacts [trivial, ⟨hn, ht, rfl⟩]

-- A fresh interface is nil.
theorem Value.Fresh.isNil (hh : h.Fresh env n) {v : Value} (hv : v.Fresh env n h)
    (hk : v.kind env = .interface) : v.isNil h = true := by
  match v, hv with
  | .mk t loc ro, hv =>
      have hd := hv.read hh
      simp only [Value.kind] at hk
      simp only [Value.isNil, Value.read, decide_eq_true_eq]
      cases hl : loc.read h <;> rw [hl] at hd
      · exact absurd hk hd.1
      · exact hd.elim
      · exact absurd hk hd

-- `initValue` keeps the fresh part of memory fresh, on a value whose variable, if it is
-- in that part, is of the value's type: the cell it allocates holds a zero value, an
-- empty map or an empty backing array, and the reference it writes points there.
theorem Heap.Fresh.initValue_of (hh : h.Fresh env n) {v : Value}
    (hv : ∀ t a ro, v = .mk t (.cell a) ro → n ≤ a → (h[a]?).map Cell.ty = some t) :
    (initValue env h v).Fresh env n := by
  have hinit : h.InitOnly (AnyMapper.initValue env h v) := initValue_initOnly h v
  rcases initValue_cases h v with he | ⟨t, a, c, rfl, -, he, hc⟩
  · rwa [he]
  rw [he] at hinit ⊢
  have hk : t.kind env ≠ .interface := by
    rcases hc with ⟨hk, -⟩ | ⟨hk, -⟩ | ⟨hk, -⟩ <;> simp [hk]
  intro b tb hb htb
  rw [Heap.getElem?_write_ty] at htb
  by_cases hba : b = a
  · -- the initialised variable, in the fresh part
    subst hba
    have hta := hv t b false rfl hb
    have ha : b < h.length := Heap.lt_length_of_ty hta
    rw [Heap.ty_alloc_lt h c ha, hta, Option.some_inj] at htb
    subst htb
    rw [Heap.read_write_self _ _ (by simp; omega)]
    refine ⟨hk, by omega, fun hp => ?_⟩
    rw [Heap.getElem?_write_ty, Heap.ty_alloc_length]
    rcases hc with ⟨-, rfl⟩ | ⟨hm, -⟩ | ⟨hs, -⟩
    · rfl
    · simp [hm] at hp
    · simp [hs] at hp
  have hbl : b ≤ h.length := by have := Heap.lt_length_of_ty htb; simp at this; omega
  rw [Heap.read_write_ne _ _ (Ne.symm hba)]
  rcases hbl.lt_or_eq with hbl | rfl
  · rw [Heap.ty_alloc_lt h c hbl] at htb
    rw [Heap.read_alloc_lt h c hbl]
    exact (hh b tb hb htb).mono hinit
  · -- the allocated cell
    rw [Heap.ty_alloc_length, Option.some_inj] at htb
    subst htb
    rw [Heap.read_alloc_length]
    rcases hc with ⟨-, rfl⟩ | ⟨hm, rfl⟩ | ⟨-, rfl⟩
    · exact FreshData.zero _
    · simp [FreshData, hm]
    · simp [FreshData, GoType.kind, GoType.formKind]

theorem Heap.Fresh.initValue (hh : h.Fresh env n) {v : Value} (hv : v.Fresh env n h) :
    (initValue env h v).Fresh env n :=
  hh.initValue_of fun _ _ _ he _ => by subst he; exact hv.2.1

-- `reflect.New` returns a fresh pointer into memory that is fresh from where it was.
theorem Heap.Fresh.reflectNew (h : Heap) (t : GoType) :
    (reflectNew env h t).2.Fresh env h.length ∧
      (reflectNew env h t).1.Fresh env h.length (reflectNew env h t).2 := by
  refine ⟨fun a ta ha hta => ?_, ⟨by simp [GoType.kind, GoType.formKind], le_rfl, fun _ => ?_⟩, rfl⟩
  · obtain rfl : a = h.length := by
      have := Heap.lt_length_of_ty hta
      simp [AnyMapper.reflectNew] at this
      omega
    simp only [AnyMapper.reflectNew, Heap.ty_alloc_length, Option.some_inj] at hta
    subst hta
    simp only [AnyMapper.reflectNew, Heap.read_alloc_length]
    exact FreshData.zero _
  · exact Heap.ty_alloc_length h _

end FreshLemmas

section FreshLoop

variable {env : TypeEnv} {m : Mapper} {n : Nat} {h : Heap} {v s : Value}

variable {depth : GoType → Nat} (hdepth : ∀ t, t.kind env = .pointer → depth (t.elem env) < depth t)
include hdepth

end FreshLoop

section ReflectNew

variable {env : TypeEnv} {m : Mapper}

-- `dstValue` stops at a variable it can set whose type is no pointer or interface.
theorem dstStep_of_settable {h : Heap} {v s : Value} (hc : v.canSet = true)
    (hk : v.kind env ≠ .pointer ∧ v.kind env ≠ .interface) :
    dstStep env m h v s = .inl (v, initValue env h v) := by
  obtain ⟨t, a, rfl⟩ := Value.canSet_iff.mp hc
  simp only [dstStep, Value.isValid, Value.canSet, Bool.not_false, Bool.not_true, Bool.true_and,
    if_false, Bool.false_eq_true]
  split_ifs with h₁ h₂ h₃ h₄ <;> try rfl
  simp_all

-- `dstValue` on `reflect.New(T)` for a type `T` that is no pointer or interface, with no
-- provider for `*T`: two iterations, to the fresh variable, initialised.
theorem dstValue_reflectNew (hook : m.hooks.destinationValueHook = none) {h : Heap} {T : GoType}
    (hp : m.hasMapper (.pointer T) = false) (hk : T.kind env ≠ .pointer ∧ T.kind env ≠ .interface)
    (fuel : Nat) :
    dstValue env m (reflectNew env h T).2 (fuel + 2) (reflectNew env h T).1 =
      some (.mk T (.cell h.length) false,
        initValue env (reflectNew env h T).2 (.mk T (.cell h.length) false)) := by
  have hptr : (GoType.pointer T).kind env = .pointer := rfl
  have hstep : dstStep env m (reflectNew env h T).2 (reflectNew env h T).1 .invalid =
      .inr ((reflectNew env h T).2, .mk T (.cell h.length) false, .invalid) := by
    simp [dstStep, reflectNew, Value.isValid, Value.canSet, Value.type, Value.kind, hptr, hp,
      initValue_of_canSet_false, Value.elem, Loc.read, GoType.elem, GoType.formElem]
  simp only [dstValue, dstValue.dstStart, reflectNew, Value.isValid, hook, Value.kind, hptr,
    Value.canSet] at hstep ⊢
  simp only [Bool.not_true, Bool.false_eq_true, if_false, bne_self_eq_false, Bool.and_false]
  rw [dstLoop_succ, hstep]
  exact (dstLoop_succ ..).trans (by rw [dstStep_of_settable (v := .mk T (.cell h.length) false) rfl hk])

end ReflectNew

end AnyMapper
