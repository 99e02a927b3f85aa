import AnyMapper.Fresh
import AnyMapper.Termination
import AnyMapper.Cache

namespace AnyMapper

namespace Outcome

end Outcome

section Rule

variable (env : TypeEnv) (b : Builtins)

-- No hook, provider or built-in mapper of a configuration hands out `mapAny`: `mapperFor`
-- picks it only for an `any` destination.
def Config.MapAnyOnlyByRule (c : Config) : Prop :=
  (∀ p, c.hooks.mapFuncHook = some p → ∀ s d, b.provider p c s d ≠ some .mapAny) ∧
    (∀ t p, c.mappers t = some (some p) → ∀ s d, b.provider p c s d ≠ some .mapAny) ∧
    ∀ s d, b.builtInTypesMapper c s d ≠ some .mapAny

-- Every `MapFunc` of another file that the configuration hands out returns or panics.
def Config.MapFuncsReturn (c : Config) : Prop :=
  ∀ s d n, c.resolve env b s d = .ok (some (.other n)) →
    ∀ m ctx src dst h, b.mapFunc n m ctx src dst h ≠ .diverge

variable {env b}

end Rule

section Returns

variable {env : TypeEnv} {b : Builtins}

-- After `mapperFor` the mapper keeps to the rule, and its `MapFunc`s of other files return.
theorem Config.MapAnyOnlyByRule.mapperFor {m m₁ : Mapper} (hrule : m.MapAnyOnlyByRule b)
    (hret : m.MapFuncsReturn env b) {ctx : Option Context} {s d : GoType} {tm : TypeMapper}
    (hf : m.mapperFor env b ctx s d = .ok (tm, m₁)) : m₁.MapAnyOnlyByRule b ∧ m₁.MapFuncsReturn env b := by
  rw [mapperFor_toConfig env b hf]
  exact ⟨hrule, hret⟩

section Nested

variable {depth : GoType → Nat} (hdepth : ∀ t, t.kind env = .pointer → depth (t.elem env) < depth t)
include hdepth

end Nested

end Returns

end AnyMapper
