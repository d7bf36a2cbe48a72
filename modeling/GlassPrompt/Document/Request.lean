import GlassPrompt.Markup.Tag

/-!
# Request settings

A request tag carries settings for the model.  Values are kept as they are written; a setting that is
only named is `true`.

* `requestSettingNames` — the settings that a request may have.
* `RequestSettings.ofAttributes` — the settings of a request tag.
-/

namespace GlassPrompt

/-- The names of the settings. -/
def requestSettingNames : List Text :=
  ["model".toList, "temperature".toList, "maxTokens".toList, "stopSequence".toList,
    "onResponse".toList]

/-- The settings of a request, each as it is written. -/
structure RequestSettings where
  model : Option Text
  temperature : Option Text
  maxTokens : Option Text
  stopSequence : Option Text
  onResponse : Option Text
  deriving DecidableEq, Repr

/-- The written form of an attribute value. -/
def AttributeValue.written : AttributeValue → Text
  | .flag => "true".toList
  | .text value => value

/-- The settings among the attributes of a tag; other attributes are passed over. -/
def RequestSettings.ofAttributes (attributes : Attributes) : RequestSettings :=
  let setting name := (attributes.get? name).map AttributeValue.written
  { model := setting "model".toList
    temperature := setting "temperature".toList
    maxTokens := setting "maxTokens".toList
    stopSequence := setting "stopSequence".toList
    onResponse := setting "onResponse".toList }

end GlassPrompt
