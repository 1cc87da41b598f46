import ReactLint.Regex.Basic
import ReactLint.Rule.Basic

/-!
# Rules on accessibility

Images without a description and form controls without a label.
-/

namespace ReactLint.Catalog

open Regex

def missingAltRegex : Regex :=
  .ofList (anyCase "<img" ++
    [someBlanks, .ahead true (.ofList (many .notNewline :: anyCase "alt="))])

/-- An image after some of whose blanks no `alt=` follows on the same line. -/
def missingAlt : Rule where
  id := "C001"
  type := "a11y-missing-alt"
  title := "Image element missing `alt` prop"
  why := "The `alt` prop is essential for screen readers to describe the image content to " ++
      "visually impaired users. Missing it severely impacts accessibility."
  fix := "Add the `alt` prop with a meaningful description of the image content. Use " ++
      "`alt=\"\"` for purely decorative images."
  severity := .high
  pattern :=
    { source := "<img\\s+(?!.*alt=)"
      flags := 2
      regex := missingAltRegex
      groupCount := 0 }

def missingLabelRegex : Regex :=
  .ofList (anyCase "<" ++
    .group 1 (oneOf [anyCase "input", anyCase "textarea", anyCase "select"]) ::
    [someBlanks, .ahead true (.ofList [many .notNewline,
      .group 2 (oneOf [anyCase "id=", anyCase "aria-label=", anyCase "aria-labelledby="])])])

/-- A form control after some of whose blanks no id and no label follows on the same line. -/
def missingLabel : Rule where
  id := "C002"
  type := "a11y-missing-label"
  title := "Form control missing label"
  why := "Form elements like `<input>`, `<textarea>`, and `<select>` must be associated " ++
      "with a label for accessibility. Users relying on assistive technology may not be " ++
      "able to interact with the control."
  fix := "Use the standard `<label htmlFor=\"...\">` element or use the `aria-label` attribute."
  severity := .medium
  pattern :=
    { source := "<(input|textarea|select)\\s+(?!.*(id=|aria-label=|aria-labelledby=))"
      flags := 2
      regex := missingLabelRegex
      groupCount := 2 }

end ReactLint.Catalog
