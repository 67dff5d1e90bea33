import ShapeScene.Page.Template
import ShapeScene.Scene.Codec

/-!
# Scenes as pages

A page is the template with its places filled. The title is escaped for markup, and the scene is
compact JSON in which no text can close the script that holds it.
-/

namespace ShapeScene.Page

/-- Where the graphics library is fetched from. -/
def libraryAddress : String := "https://cdnjs.cloudflare.com/ajax/libs/three.js/r128/three.min.js"

/-- A place of the template. -/
def place (name : String) : String := "\x7b\x7b" ++ name ++ "\x7d\x7d"

/-- A character as it stands in markup. -/
def escapedChar (char : Char) : List Char :=
  if char = '&' then "&amp;".toList
  else if char = '<' then "&lt;".toList
  else if char = '>' then "&gt;".toList
  else if char = '"' then "&quot;".toList
  else if char = '\'' then "&#39;".toList
  else [char]

/-- A text as it stands in markup. -/
def escaped (text : String) : String := String.ofList (text.toList.flatMap escapedChar)

/-- The scene as it stands in a script: compact JSON, where every slash behind a less-than sign
has a backslash in front. -/
def sceneLiteral (content : SceneContent) : String :=
  Text.replaceAll "</" "<\\/" (Json.compact content.toDatum)

/-- The options as they stand in a script. -/
def optionsLiteral (options : SceneOptions) : String := Json.compact options.toDatum

/-- The page of a scene. The places are filled one after the other. -/
def html (record : SceneRecord) : String :=
  Text.replaceAll (place "options") (optionsLiteral record.options)
    (Text.replaceAll (place "scene") (sceneLiteral record.scene)
      (Text.replaceAll (place "three_js") libraryAddress
        (Text.replaceAll (place "title") (escaped record.name) template)))

end ShapeScene.Page
