import Reckoner.Documentation.Example
import Reckoner.Documentation.Formula
import Reckoner.Documentation.Margin
import Reckoner.Documentation.Signature
import Reckoner.Text.Case

/-!
A page about a module: its title, its introduction as a quotation, its description, and a
section for each of its public functions and classes.

* §1 `Module` and `Member` — what a page is about.
* §2 `Module.listed` — the members that have a section, in source order.
* §3 `Module.page` — the page.
-/

namespace Reckoner.Documentation

/-! ## §1 Modules -/

/-- What a member of a module is. -/
inductive MemberKind where
  | function
  | type
  | value
  deriving DecidableEq, Repr

/-- A member of a module. -/
structure Member where
  kind : MemberKind
  name : String
  doc : Option String := none
  parameters : List String := []
  /-- The module where the member was made, if it is another one. -/
  home : Option String := none
  /-- Where the member stands in the source text. -/
  place : Nat

/-- A module. -/
structure Module where
  name : String
  doc : Option String := none
  /-- The members, in the order in which they were made. -/
  members : List Member := []

/-! ## §2 Sections -/

namespace Member

/-- The documentation of a member without its margin. -/
def text (m : Member) : String :=
  (m.doc.map withoutMargin).getD ""

/-- The mark of members that are left out. -/
def hiddenMark : List Char := ":nodoc:".toList

/-- Whether a text stands somewhere inside another one. -/
def occurs (part : List Char) : List Char → Bool
  | [] => part.isEmpty
  | c :: cs => part.isPrefixOf (c :: cs) || occurs part cs

/-- Whether a member is left out by its own documentation. -/
def isHidden (m : Member) : Bool :=
  occurs hiddenMark m.text.toList

/-- Whether a member is a public function or class of the module itself. -/
def isPublic (moduleName : String) (m : Member) : Bool :=
  !m.name.startsWith "_" && m.kind != .value && (m.home.getD moduleName) == moduleName

end Member

/-- Members where each name counts once: the last one made. -/
def lastByName (members : List Member) : List Member :=
  members.reverse.foldl (fun kept m => if kept.any (·.name == m.name) then kept else m :: kept) []

/-- The members that have a section, in source order. -/
def Module.listed (m : Module) : List Member :=
  (((lastByName m.members).filter (Member.isPublic m.name)).mergeSort
    (fun a b => a.place ≤ b.place)).filter (fun x => !x.isHidden)

/-! ## §3 Pages -/

/-- The last part of a dotted name. -/
def shortName (name : String) : String :=
  ((Text.pieces '.' name.toList).getLast?.map String.ofList).getD name

/-- The title of a page: the words of the module's short name. -/
def titleOf (name : String) : String :=
  Text.capitalized (String.ofList ((shortName name).toList.map fun c => if c == '_' then ' ' else c))

/-- The text before the first empty line, and the text after it. -/
def splitParagraph : List Char → List Char × List Char
  | '\n' :: '\n' :: rest => ([], rest)
  | [] => ([], [])
  | c :: rest =>
      let (first, others) := splitParagraph rest
      (c :: first, others)

/-- A text with quotation marks at the head of its lines. -/
def quotation (text : String) : String :=
  "> " ++ String.intercalate "\n> " ((Text.pieces '\n' text.toList).map String.ofList)

/-- The lines about a module as a whole. -/
def Module.introduction (m : Module) : List String :=
  let doc := (m.doc.map withoutMargin).getD ""
  if doc.isEmpty then []
  else
    let (intro, description) := splitParagraph doc.toList
    [quotation (renderFormulas (String.ofList intro)), ""] ++
      if description.isEmpty then []
      else [fenceExamples (renderFormulas (String.ofList description)), ""]

/-- The word before the signature of a member. -/
def Member.keyword (m : Member) : String :=
  if m.kind == .type then "class" else "def"

/-- The names that the parameters of a member may use: those of the types before it. -/
def Module.scopeAt (m : Module) (place : Nat) : Source.Scope :=
  let types := m.members.filter fun x => x.kind == .type && x.place < place
  types.reverse.map (fun x => (x.name, .kind ((x.home.getD m.name) ++ "." ++ x.name))) ++
    [("__name__", .text m.name)]

/-- The signature of a member after its name. -/
def Module.signatureOf (m : Module) (x : Member) : String :=
  signature (if x.kind == .type then some x.name else none) (m.scopeAt x.place) x.parameters

/-- The lines of the section about a member. -/
def Module.sectionLines (m : Module) (x : Member) : List String :=
  ["### " ++ x.name, ""] ++
    (if x.text.isEmpty then [] else [fenceExamples (renderFormulas x.text), ""]) ++
    [openingFence, x.keyword ++ " " ++ x.name ++ m.signatureOf x, closingFence, ""]

/-- The page about a module. -/
def Module.page (m : Module) : String :=
  Text.unlines (["# " ++ titleOf m.name, ""] ++ m.introduction ++ m.listed.flatMap m.sectionLines)

end Reckoner.Documentation
