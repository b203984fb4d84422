import SchemaOverlay.Overlay.Inheritance

/-!
# Selection of transformers

Which transformers are applied to a bound column: of the registry's candidates
those that a declared filter admits, and without one those that apply by
default.
-/

namespace SchemaOverlay.Resolver

/-- The candidates that the settings leave, or that apply by default where they decide nothing. -/
def admitted (candidates : List TransformerDefinition) (settings : Option TransformSettings) :
    List TransformerDefinition :=
  match settings.bind (·.filterTransformers? candidates) with
  | some kept => kept
  | none => candidates.filter (·.isDefault)

/-- The transformers for a bound column, in the order of the registry; none when none is left. -/
def selectTransformers (resolver : Resolver) (binding : Binding) (custom : Option Bool) :
    Action (Option (List Transformer)) := do
  let candidates := resolver.transformers.candidates binding.column custom
  if candidates.isEmpty then return none
  else
    let id ← resolver.bindingSettings binding false
    let settings ← Action.read fun store => id.map store.contents
    let kept := admitted candidates settings
    if kept.isEmpty then return none
    else return some (kept.map (·.transformer))

end SchemaOverlay.Resolver
