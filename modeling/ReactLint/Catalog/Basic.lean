import ReactLint.Analysis
import ReactLint.Catalog.Accessibility
import ReactLint.Catalog.Components
import ReactLint.Catalog.Hooks
import ReactLint.Catalog.Render

/-!
# The catalog

The built-in rules. Their order decides between issues of one severity on one line.
-/

namespace ReactLint

namespace Catalog

def rules : List Rule :=
  [useEffectMissingDeps, useMemoMissingDeps, useStateInitializer,
    inlineArrowFunction, inlineObjectLiteral, arrayIndexKey, memoChildInlineFunction,
    missingAlt, missingLabel, memoMissingLargeComponent, consoleCall]

def find? (id : String) : Option Rule := rules.find? fun r => r.id == id

theorem ids_rules : rules.map Rule.id =
    ["A001", "A002", "A003", "B001", "B002", "B003", "B004", "C001", "C002", "D001", "E001"] := rfl

theorem nodup_ids : (rules.map Rule.id).Nodup := by rw [ids_rules]; decide

end Catalog

def Registry.default : Registry := { rules := Catalog.rules }

end ReactLint
