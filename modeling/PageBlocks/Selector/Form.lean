import PageBlocks.Selector.Basic
/-!
# Selectors for links and form controls

The states of links and controls, such as `:link` or `:disabled`, are conditions on names and
attributes.  Each is written here as the selector that it stands for.
-/

namespace PageBlocks.Selector

/-- An element of the given name, in any vocabulary. -/
def named (name : String) : Selector :=
  test (.name .unwritten name)

/-- An element of one of the given names. -/
def namedOneOf (names : List String) : Selector :=
  any (names.map named)

/-- An element of pages with the given name. -/
def page (name : String) : Selector :=
  both (test .pageElement) (named name)

/-- An element of pages with one of the given names. -/
def pageOneOf (names : List String) : Selector :=
  both (test .pageElement) (namedOneOf names)

/-- The element has an attribute. -/
def withAttribute (name : String) : Selector :=
  test (.attribute ⟨.unwritten, name, .present, [], false⟩)

/-- The element has an attribute of a given value. -/
def withValue (name value : String) : Selector :=
  test (.attribute ⟨.unwritten, name, .equal, value.toList, name = "type"⟩)

/-- The `type` of the element is one of those given. -/
def withTypeOf (types : List String) : Selector :=
  any (types.map (withValue "type"))

/-- Links that lead somewhere. -/
def link : Selector :=
  all [pageOneOf ["a", "area"], withAttribute "href"]

/-- Chosen boxes, buttons and options. -/
def checked : Selector :=
  either
    (all [page "input", withTypeOf ["checkbox", "radio"], withAttribute "checked"])
    (all [page "option", withAttribute "selected"])

/-- What is chosen from the start, and the button that submits a form by default. -/
def byDefault : Selector :=
  either checked
    (all [pageOneOf ["button", "input"], withValue "type" "submit",
      .follows .descendant (page "form"), test .firstSubmit])

/-- Controls that are neither on nor off. -/
def indeterminate : Selector :=
  any [
    all [page "input", withValue "type" "checkbox", withAttribute "indeterminate"],
    all [page "input", withValue "type" "radio",
      either (not (withAttribute "name")) (withValue "name" ""), not (withAttribute "checked")],
    all [page "progress", not (withAttribute "value")],
    all [page "input", withValue "type" "radio", withAttribute "name",
      not (withValue "name" ""), not (withAttribute "checked"), test .undecided]]

/-- Inputs that are seen. -/
def visibleInput : Selector :=
  all [named "input", not (withValue "type" "hidden")]

/-- Controls that a field set can switch off. -/
def fieldControl : Selector :=
  both (test .pageElement)
    (either visibleInput (namedOneOf ["button", "select", "textarea", "fieldset"]))

/-- Controls that can be switched off. -/
def control : Selector :=
  either fieldControl (pageOneOf ["optgroup", "option"])

/-- A field set that is switched off. -/
def disabledFields : Selector :=
  all [page "fieldset", withAttribute "disabled"]

/-- Controls that are switched off, on their own or by the group around them. -/
def disabled : Selector :=
  any [
    all [control, withAttribute "disabled"],
    all [page "option", .follows .child (all [page "optgroup", withAttribute "disabled"])],
    all [fieldControl, .follows .child disabledFields],
    all [fieldControl, .follows .descendant
      (all [test .pageElement, not (all [named "legend", nth 1 false true]),
        .follows .child disabledFields])]]

/-- Controls that are not switched off. -/
def enabled : Selector :=
  all [control, not disabled]

/-- Controls that must be filled in. -/
def required : Selector :=
  all [pageOneOf ["input", "select", "textarea"], withAttribute "required"]

/-- Controls that need not be filled in. -/
def optional : Selector :=
  all [pageOneOf ["input", "select", "textarea"], not (withAttribute "required")]

/-- An input without a `type`, or with an empty one. -/
def untyped : Selector :=
  either (not (withAttribute "type")) (withValue "type" "")

/-- A control that says what to fill in. -/
def withPlaceholder : Selector :=
  all [withAttribute "placeholder", not (withValue "placeholder" "")]

/-- Controls that show what to fill in, because they are empty. -/
def placeholderShown : Selector :=
  either
    (all [page "input",
      either untyped
        (withTypeOf ["text", "search", "url", "tel", "email", "password", "number"]),
      withPlaceholder, either (not (withAttribute "value")) (withValue "value" "")])
    (all [page "textarea", withPlaceholder, test .blankContent])

/-- Elements whose content the reader of the page can change. -/
def readWrite : Selector :=
  either
    (all [test .pageElement,
      either (named "textarea")
        (all [named "input",
          either untyped
            (withTypeOf ["date", "datetime-local", "email", "month", "number", "password",
              "search", "tel", "text", "time", "url", "week"])]),
      not (either (withAttribute "readonly") disabled)])
    (all [test .pageElement,
      either (withValue "contenteditable" "")
        (test (.attribute ⟨.unwritten, "contenteditable", .equal, "true".toList, true⟩))])

/-- Elements whose content the reader of the page cannot change. -/
def readOnly : Selector :=
  all [test .pageElement, not readWrite]

/-- Inputs with a least or a greatest value. -/
def bounded : Selector :=
  all [page "input",
    withTypeOf ["date", "month", "week", "time", "datetime-local", "number", "range"],
    either (withAttribute "min") (withAttribute "max")]

/-- States that no element of a page at rest is in. -/
def absentStates : List String :=
  ["active", "autofill", "buffering", "current", "focus", "focus-visible", "focus-within",
    "fullscreen", "future", "host", "hover", "local-link", "modal", "past", "paused",
    "picture-in-picture", "playing", "popover-open", "seeking", "stalled", "target",
    "target-within", "user-invalid", "visited", "volume-locked"]

/-- The selector of a state or a place without arguments, by its name. -/
def ofStateName (name : String) : Option Selector :=
  match name with
  | "any-link" | "link" => some link
  | "checked" => some checked
  | "default" => some byDefault
  | "defined" => some (test .defined)
  | "disabled" => some disabled
  | "empty" => some (test .empty)
  | "enabled" => some enabled
  | "first-child" => some (nth 1 false false)
  | "first-of-type" => some (nth 1 false true)
  | "in-range" => some (both bounded (test .inRange))
  | "indeterminate" => some indeterminate
  | "last-child" => some (nth 1 true false)
  | "last-of-type" => some (nth 1 true true)
  | "muted" => some (all [pageOneOf ["video", "audio"], withAttribute "muted"])
  | "only-child" => some (all [nth 1 false false, nth 1 true false])
  | "only-of-type" => some (all [nth 1 false true, nth 1 true true])
  | "open" => some (all [pageOneOf ["details", "dialog"], withAttribute "open"])
  | "optional" => some optional
  | "out-of-range" => some (both bounded (test .outOfRange))
  | "placeholder-shown" => some placeholderShown
  | "read-only" => some readOnly
  | "read-write" => some readWrite
  | "required" => some required
  | "root" => some (test .root)
  | "scope" => some (test .scope)
  | _ => if absentStates.contains name then some never else none

end PageBlocks.Selector
