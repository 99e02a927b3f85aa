import AnyMapper.Map
import AnyMapper.Chain

namespace AnyMapper

-- The rank of a datum under a rank of cells: one more than the rank of the cell it
-- points to, or of the value it boxes.
def Data.rank (rank : Nat → Nat) : Data → Nat
  | .ref a => rank a + 1
  | .boxed _ d => d.rank rank + 1
  | _ => 0

def Value.rank (rank : Nat → Nat) (h : Heap) : Value → Nat
  | .invalid => 0
  | .mk _ loc _ => (loc.read h).rank rank + 1

-- Every reference in the datum, or of the value, stays below `n`.
def Data.Within (n : Nat) : Data → Prop
  | .ref a => a < n
  | .boxed _ d => d.Within n
  | _ => True

def Value.Within (n : Nat) : Value → Prop
  | .invalid => True
  | .mk _ (.cell a) _ => a < n
  | .mk _ (.direct d) _ => d.Within n

section Chains

variable {env : TypeEnv} {m : Mapper} {h : Heap} {rank : Nat → Nat} {v₀ : Value}

section Fresh

variable {depth : GoType → Nat} (hdepth : ∀ t, t.kind env = .pointer → depth (t.elem env) < depth t)
include hdepth

end Fresh

end Chains

section Return

variable {env : TypeEnv} {m : Mapper} {h : Heap} {rank : Nat → Nat} {depth : GoType → Nat}

end Return

namespace Outcome

-- `y` is what `x` is, unless `x` ran out of fuel: the order in which more fuel moves.
def Extends {α : Type} (x y : Outcome α) : Prop := x = .diverge ∨ x = y

theorem Extends.refl {α : Type} (x : Outcome α) : x.Extends x := .inr rfl

theorem Extends.bind {α β : Type} {x y : Outcome α} {f g : α → Outcome β} (hxy : x.Extends y)
    (hfg : ∀ a, (f a).Extends (g a)) : (x >>= f).Extends (y >>= g) := by
  rcases hxy with rfl | rfl
  · exact .inl rfl
  · cases x with
    | ret a => exact hfg a
    | panic msg => exact .refl _
    | diverge => exact .inl rfl

theorem Extends.ofOption {α : Type} {o o' : Option α} (h : ∀ a, o = some a → o' = some a) :
    (Outcome.ofOption o).Extends (Outcome.ofOption o') := by
  cases o with
  | none => exact .inl rfl
  | some a => rw [h a rfl]; exact .refl _

theorem Extends.eq {α : Type} {x y : Outcome α} (hxy : x.Extends y) (hx : x ≠ .diverge) : y = x :=
  (hxy.resolve_left hx).symm

end Outcome

section Fuel

variable {env : TypeEnv} {b : Builtins}

private theorem mapAny_extends {mapRefl mapRefl' : Mapper → Value → Value → Heap → MapResult}
    (hrefl : ∀ m s d h, (mapRefl m s d h).Extends (mapRefl' m s d h)) {fuel : Nat} {m : Mapper}
    {src dst : Value} {h : Heap} :
    (mapAny env mapRefl fuel m src dst h).Extends (mapAny env mapRefl' (fuel + 1) m src dst h) := by
  unfold mapAny
  split_ifs
  · refine .bind (.ofOption fun _ => dstValue_succ_of_some) fun x => ?_
    exact .bind (hrefl _ _ _ _) fun _ => .refl _
  · exact .refl _

private theorem runMapFunc_extends {mapRefl mapRefl' : Mapper → Value → Value → Heap → MapResult}
    (hrefl : ∀ m s d h, (mapRefl m s d h).Extends (mapRefl' m s d h)) {fuel : Nat} {m : Mapper}
    {ctx : Option Context} {tm : TypeMapper} {src dst : Value} {h : Heap} :
    (runMapFunc env b mapRefl fuel m ctx tm src dst h).Extends
      (runMapFunc env b mapRefl' (fuel + 1) m ctx tm src dst h) := by
  unfold runMapFunc
  split
  · exact .refl _
  · exact .refl _
  · exact mapAny_extends hrefl
  · exact .refl _

theorem mapReflContext_extends (fuel : Nat) :
    ∀ (m : Mapper) (ctx : Option Context) (src dst : Value) (h : Heap),
      (mapReflContext env b fuel m ctx src dst h).Extends
        (mapReflContext env b (fuel + 1) m ctx src dst h) := by
  induction fuel with
  | zero => intros; exact .inl rfl
  | succ fuel ih =>
      intro m ctx src dst h
      rw [mapReflContext_succ, mapReflContext_succ]
      refine .bind (.ofOption fun _ => srcValue_succ_of_some) fun srcVal =>
        .bind (.ofOption fun _ => dstValue_succ_of_some) fun x => ?_
      split_ifs
      · exact .refl _
      · exact .refl _
      · exact .bind (.refl _) fun y => runMapFunc_extends fun m s d h => ih m _ s d h

-- The fuel is a bound and nothing more: a call that returns or panics with some fuel
-- does the same with any more.
theorem mapReflContext_mono {fuel fuel' : Nat} (hle : fuel ≤ fuel') {m : Mapper}
    {ctx : Option Context} {src dst : Value} {h : Heap} {r : MapResult}
    (hr : mapReflContext env b fuel m ctx src dst h = r) (hne : r ≠ .diverge) :
    mapReflContext env b fuel' m ctx src dst h = r := by
  induction hle with
  | refl => exact hr
  | step _ ih => exact (mapReflContext_extends _ m ctx src dst h).eq (ih ▸ hne) |>.trans ih

end Fuel
end AnyMapper
