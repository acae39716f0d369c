/-
Elements of a page.

Each element command stands for a tag; some commands read their arguments
in a way of their own, which is the role of the element. An opening tag
carries the id, the style, the attributes of the role, the custom
attributes in the order of the source, and the class.

* `Element.find?` — the element of a command name;
* `Element.attributes` — what the opening tag carries;
* `Element.markup` — the element as markup.
-/
import LivePage.Source.Arguments

namespace LivePage

/-- How an element reads its arguments. -/
inductive Role where
  /-- The first value is the content. -/
  | plain
  /-- The first value is the content, and the size gives the level of the tag. -/
  | heading
  /-- The first value is the address and the second the content. -/
  | link
  /-- The first value or `src` is the address; there is no content. -/
  | image
  /-- The first value or `placeholder` is the hint; there is no content. -/
  | field
  /-- A checkbox or a radio button, labelled by the first value. -/
  | toggle
deriving DecidableEq, Repr

/-- A command that puts an element on the page. -/
structure Element where
  /-- The name of the command. -/
  name : Text
  /-- The tag that it stands for. -/
  tag : Text
  /-- How it reads its arguments. -/
  role : Role
deriving DecidableEq, Repr

namespace Element

/-- An element without a role of its own. -/
def ofTag (name tag : String) : Element :=
  ⟨name.toList, tag.toList, .plain⟩

/-- The element commands. -/
def all : List Element :=
  [ofTag "Section" "section", ofTag "Container" "div", ofTag "Header" "header",
    ofTag "Footer" "footer", ofTag "Nav" "nav", ofTag "Main" "main", ofTag "Aside" "aside",
    ofTag "Article" "article", ofTag "Div" "div", ⟨"Title".toList, "h1".toList, .heading⟩,
    ofTag "Text" "p", ofTag "Paragraph" "p", ofTag "Span" "span",
    ⟨"Link".toList, "a".toList, .link⟩, ofTag "Button" "button",
    ⟨"Input".toList, "input".toList, .field⟩, ofTag "Textarea" "textarea",
    ofTag "Select" "select", ofTag "Option" "option",
    ⟨"Checkbox".toList, "input".toList, .toggle⟩, ⟨"Radio".toList, "input".toList, .toggle⟩,
    ⟨"Image".toList, "img".toList, .image⟩, ofTag "Video" "video", ofTag "Audio" "audio",
    ofTag "Canvas" "canvas", ofTag "Ul" "ul", ofTag "Ol" "ol", ofTag "Li" "li",
    ofTag "Menu" "menu", ofTag "Table" "table", ofTag "Tr" "tr", ofTag "Td" "td",
    ofTag "Th" "th"]

/-- The element of a command name. -/
def find? (name : Text) : Option Element :=
  all.find? (·.name == name)

/-- The tag of an element with its arguments. A heading has level 1 unless `size` says
otherwise. -/
def tagWith (e : Element) (args : Arguments) : Text :=
  match e.role with
  | .heading => 'h' :: (args.attr? "size".toList).getD ['1']
  | _ => e.tag

/-- The content of an element. -/
def content (e : Element) (args : Arguments) : Text :=
  match e.role with
  | .link => args.param 1
  | .image | .field => []
  | .plain | .heading | .toggle => args.param 0

/-- The attributes that the role of an element gives. -/
def ownAttributes (e : Element) (args : Arguments) : List (Text × Text) :=
  match e.role with
  | .link => [("href".toList, args.param 0)]
  | .image => [("src".toList, (args.attr? "src".toList).getD (args.param 0))]
  | .field =>
    [("type".toList, (args.attr? "type".toList).getD "text".toList),
      ("placeholder".toList, (args.attr? "placeholder".toList).getD (args.param 0))]
  | .toggle => [("type".toList, lowerAscii e.name)]
  | .plain | .heading => []

/-- The attributes that an element uses up and never copies. -/
def reserved (e : Element) : List Text :=
  ["size".toList, "src".toList, "type".toList, "id".toList] ++
    if e.role = .field then ["placeholder".toList] else []

/-- The attributes of the source that are copied. -/
def customAttributes (e : Element) (args : Arguments) : List (Text × Text) :=
  args.attrs.filter fun entry => !e.reserved.contains entry.1

/-- All attributes of the opening tag, in order. -/
def attributes (e : Element) (args : Arguments) (id style : Text) : List (Text × Text) :=
  [("id".toList, id), ("style".toList, style)] ++ e.ownAttributes args ++
    e.customAttributes args ++
    [("class".toList, "moe-element moe-".toList ++ lowerAscii e.name)]

end Element

/-- An attribute as markup, after a space. -/
def attributeMarkup (entry : Text × Text) : Text :=
  ' ' :: entry.1 ++ "=\"".toList ++ entry.2 ++ ['"']

/-- An opening tag. -/
def openingTag (tag : Text) (attributes : List (Text × Text)) : Text :=
  '<' :: tag ++ attributes.flatMap attributeMarkup ++ ['>']

/-- A closing tag. -/
def closingTag (tag : Text) : Text :=
  "</".toList ++ tag ++ ['>']

/-- The tags that have no content and no closing tag. -/
def voidTags : List Text :=
  ["img".toList, "input".toList, "br".toList, "hr".toList]

/-- An element as markup. It is closed at once unless it opens a block or is void. -/
def Element.markup (e : Element) (args : Arguments) (opens : Bool) (id style : Text) : Text :=
  openingTag (e.tagWith args) (e.attributes args id style) ++ e.content args ++
    if opens || voidTags.contains (e.tagWith args) then [] else closingTag (e.tagWith args)

end LivePage
