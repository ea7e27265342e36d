import CrudLayer.Event.Directive

namespace CrudLayer

/-- A list of directives. Of two that are equally specific the later one decides. -/
abbrev Filter := List Directive

namespace Filter

def decisive? (f : Filter) (e : Event) : Option Directive :=
  (f.filter (·.concerns e)).foldl (fun best d =>
    match best with
    | some b => if d.covers b then some d else some b
    | none => some d) none

def shows (f : Filter) (e : Event) : Bool :=
  match f.decisive? e with
  | some d => d.threshold.admits e.level
  | none => false

/-- The filter that a text with commas spells, if all of its directives can be read. Without any,
it shows errors only. -/
def parse? (text : String) : Option Filter :=
  let pieces := ((text.toList.splitOn ',').map String.ofList).filter (!·.isEmpty)
  if pieces.isEmpty then some [{ threshold := some .error }]
  else pieces.mapM Directive.parse?

end Filter
end CrudLayer
