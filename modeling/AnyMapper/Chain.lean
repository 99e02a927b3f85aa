import AnyMapper.Unwrap

namespace AnyMapper

-- No variable below address `n`.
def Value.Above (n : Nat) : Value → Prop
  | .mk _ (.cell a) _ => n ≤ a
  | _ => True

-- The values the loop of `srcValue` passes from `v`, stepping into the `Elem` of every
-- pointer and interface on the way, here only of those that are no variable below `n`.
inductive SrcReach (env : TypeEnv) (h : Heap) (n : Nat) (v : Value) : Value → Prop
  | refl : SrcReach env h n v v
  | tail {w : Value} : SrcReach env h n v w → w.Above n →
      (w.kind env = .pointer ∨ w.kind env = .interface) → SrcReach env h n v (w.elem env h)

-- Data that refers only to cells from `n` on and boxes nothing, as zero values and the
-- references `initValue` writes do.
def Data.RefsFrom (n : Nat) : Data → Prop
  | .ref b => n ≤ b
  | .boxed _ _ => False
  | _ => True

-- The zero `Value`, or a variable allocated since memory had `n` cells.
def Value.Allocated (n : Nat) : Value → Prop
  | .invalid => True
  | .mk _ (.cell a) _ => n ≤ a
  | .mk _ (.direct _) _ => False

-- Every variable `h` had that holds something else in `h'` is a pointer, map or slice
-- that `v` reaches in `h` by stepping into pointers and interfaces.
def Heap.InitsOnChain (env : TypeEnv) (v : Value) (h h' : Heap) : Prop :=
  ∀ c < h.length, h'.read c ≠ h.read c → ∃ t, SrcReach env h 0 v (.mk t (.cell c) false) ∧
    (t.kind env = .pointer ∨ t.kind env = .map ∨ t.kind env = .slice)

-- Where `dstValue`'s loop from `v₀` in `h` may be: on the chain `v₀` has in `h`, or in
-- memory the loop allocated.
def OnChain (env : TypeEnv) (h : Heap) (v₀ v : Value) : Prop :=
  SrcReach env h 0 v₀ v ∨ v.Allocated h.length

-- What the loop keeps of memory: it only initialises nil pointers, maps and slices on
-- the chain of `v₀`, and what it allocates refers only to what it allocated.
structure ChainInv (env : TypeEnv) (h : Heap) (v₀ : Value) (h₁ : Heap) : Prop where
  init : h.InitOnly h₁
  refs : ∀ a, h.length ≤ a → (h₁.read a).RefsFrom h.length
  inits : h.InitsOnChain env v₀ h₁

section Chain

variable {env : TypeEnv} {h h₁ : Heap} {n : Nat} {u v w v₀ : Value}

theorem Value.above_zero (v : Value) : v.Above 0 := by
  match v with
  | .invalid => trivial
  | .mk _ (.cell _) _ => exact Nat.zero_le _
  | .mk _ (.direct _) _ => trivial

theorem SrcReach.trans (h₁ : SrcReach env h n u v) (h₂ : SrcReach env h n v w) :
    SrcReach env h n u w := by
  induction h₂ with
  | refl => exact h₁
  | tail _ ha hk ih => exact ih.tail ha hk

theorem Value.elem_mk_congr {h' : Heap} {t : GoType} {loc : Loc} {ro : Bool}
    (hl : loc.read h' = loc.read h) : (Value.mk t loc ro).elem env h' = (Value.mk t loc ro).elem env h := by
  simp only [Value.elem, hl]

theorem Data.RefsFrom.zero (t : GoType) : (zero env t).RefsFrom n := by
  unfold AnyMapper.zero
  split <;> trivial

-- `Elem` of a value that reads data referring only to cells from `n` on is the zero
-- `Value` or such a cell.
theorem Value.elem_allocated {t : GoType} {loc : Loc} {ro : Bool} (hd : (loc.read h).RefsFrom n) :
    ((Value.mk t loc ro).elem env h).Allocated n := by
  simp only [Value.elem]
  split
  · next hb => rw [hb] at hd; exact hd.elim
  · next hb => rw [hb] at hd; exact hd
  · trivial

theorem OnChain.start : OnChain env h v₀ v₀ := .inl .refl

theorem OnChain.invalid : OnChain env h v₀ .invalid := .inr trivial

theorem ChainInv.start : ChainInv env h v₀ h :=
  ⟨.refl h, fun a ha => by rw [Heap.read_of_length_le h ha]; trivial, fun _ _ hne => absurd rfl hne⟩

-- `initValue` on a value on the chain changes, among the variables there were, only the
-- value's own: a nil pointer, map or slice that `v₀` reaches.
theorem ChainInv.initValue (hI : ChainInv env h v₀ h₁) (hv : OnChain env h v₀ v) :
    ChainInv env h v₀ (initValue env h₁ v) := by
  rcases @initValue_cases env h₁ v with he | ⟨t, a, x, rfl, -, he, hk⟩
  · rw [he]; exact hI
  have hx : x.data.RefsFrom h.length := by
    rcases hk with ⟨-, rfl⟩ | ⟨-, rfl⟩ | ⟨-, rfl⟩
    exacts [Data.RefsFrom.zero _, trivial, trivial]
  have hlen : h.length ≤ h₁.length := hI.init.1
  refine ⟨hI.init.trans (initValue_initOnly h₁ _), fun c hc => ?_, fun c hc hne => ?_⟩
  · -- the written reference and the allocated cell point into fresh memory
    rw [he]
    by_cases hca : c = a
    · subst hca
      by_cases hcl : c < (h₁.alloc x).length
      · rw [Heap.read_write_self _ _ hcl]; exact hlen
      · rw [Heap.read_of_length_le _ (by simp only [Heap.length_write]; omega)]; trivial
    rw [Heap.read_write_ne _ _ (Ne.symm hca)]
    by_cases hcl : c < h₁.length
    · rw [Heap.read_alloc_lt _ _ hcl]; exact hI.refs c hc
    · by_cases hce : c = h₁.length
      · subst hce; rw [Heap.read_alloc_length]; exact hx
      · rw [Heap.read_of_length_le _ (by simp; omega)]; trivial
  · by_cases h₁c : h₁.read c = h.read c
    swap
    · exact hI.inits c hc h₁c
    -- `initValue` wrote `c`: the value is the variable at `c`
    obtain rfl : c = a := by
      by_contra hca
      rw [he, Heap.read_write_ne _ _ (Ne.symm hca), Heap.read_alloc_lt _ _ (lt_of_lt_of_le hc hlen)] at hne
      exact hne h₁c
    rcases hv with hr | ha
    · exact ⟨t, hr, hk.imp (·.1) (Or.imp (·.1) (·.1))⟩
    · exact absurd ha (by simp only [Value.Allocated]; omega)

-- `Elem` of a pointer or an interface on the chain is on the chain: a variable the loop
-- has not initialised leads where it led in `h`, one it has leads to a fresh cell.
theorem OnChain.elem (hI : ChainInv env h v₀ h₁) (hv : OnChain env h v₀ v)
    (hk : v.kind env = .pointer ∨ v.kind env = .interface) : OnChain env h v₀ (v.elem env h₁) := by
  match v with
  | .invalid => exact .invalid
  | .mk t loc ro =>
      by_cases hl : loc.read h₁ = loc.read h
      · rcases hv with hr | ha
        · rw [Value.elem_mk_congr hl]
          exact .inl (hr.tail (Value.above_zero _) hk)
        · obtain ⟨c, rfl⟩ : ∃ c, loc = .cell c := by
            cases loc with
            | cell c => exact ⟨c, rfl⟩
            | direct => exact ha.elim
          exact .inr (Value.elem_allocated (hI.refs c ha))
      obtain ⟨c, rfl⟩ : ∃ c, loc = .cell c := by
        cases loc with
        | cell c => exact ⟨c, rfl⟩
        | direct => exact absurd rfl hl
      refine .inr (Value.elem_allocated ?_)
      by_cases hc : c < h.length
      · -- initialised since: it refers to a fresh cell
        obtain ⟨-, b, hb, he⟩ := (hI.init.2 c hc).2.resolve_left hl
        simp only [Loc.read, he]
        exact hb
      · exact hI.refs c (by omega)

variable {m : Mapper}

-- The loop of `dstValue` keeps the invariant and stays on the chain.
theorem dstLoop_chain : ∀ {fuel : Nat} {h₁ h₂ : Heap} {v s d : Value},
    dstLoop env m fuel h₁ v s = some (d, h₂) → ChainInv env h v₀ h₁ → OnChain env h v₀ v →
      OnChain env h v₀ s → ChainInv env h v₀ h₂ ∧ OnChain env h v₀ d := by
  intro fuel
  induction fuel with
  | zero => intro h₁ h₂ v s d hr; cases hr
  | succ fuel ih =>
      intro h₁ h₂ v s d hr hI hv hs
      rw [dstLoop_succ] at hr
      split at hr
      · next hst =>
          cases hr
          obtain ⟨hrv, hh'⟩ := dstStep_eq_inl hst
          have hd : OnChain env h v₀ d := by
            rcases hrv with rfl | rfl
            exacts [hv, hs]
          rcases hh' with rfl | rfl
          exacts [⟨hI, hd⟩, ⟨hI.initValue hv, hd⟩]
      · next hst =>
          obtain ⟨-, hk, hx⟩ := dstStep_eq_inr hst
          simp only [Prod.mk.injEq] at hx
          obtain ⟨rfl, rfl, rfl⟩ := hx
          have hI' := hI.initValue hv
          refine ih hr hI' (hv.elem hI' hk) ?_
          split
          exacts [hv, hs]

-- `dstValue` changes only nil pointers, maps and slices on its argument's chain, and
-- without a `DestinationValueHook` returns a value on that chain or one it allocated.
theorem dstValue_chain {fuel : Nat} {d : Value} (hr : dstValue env m h fuel v₀ = some (d, h₁)) :
    ChainInv env h v₀ h₁ ∧ (m.hooks.destinationValueHook = none → OnChain env h v₀ d) := by
  rcases dstValue_cases (m := m) h v₀ with ⟨-, hdv⟩ | ⟨_, hk, -, hdv⟩ | hdv <;> rw [hdv] at hr
  · cases hr
    exact ⟨.start, fun _ => .start⟩
  · cases hr
    exact ⟨.start, fun hdh => by simp [hdh] at hk⟩
  · obtain ⟨hI, hd⟩ := dstLoop_chain hr .start .start .invalid
    exact ⟨hI, fun _ => hd⟩

end Chain

end AnyMapper
