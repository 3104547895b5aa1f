import MarkerScan.Delivery.Retry
import MarkerScan.Item.Basic
import MarkerScan.Notion.Schema
/-
  MarkerScan.Notion.Page — an item as the properties of a page.

  Each field goes to the property that fits it, and a field without one is left out; only
  a database without a title property cannot take the item. The status is the open option
  of the first property of kind `status`, or, in a database without one, of the `select`
  property for it.
-/

namespace MarkerScan.Notion

def filePathNames : List String := ["파일 경로", "File", "Path", "File Path"]
def lineNames : List String := ["라인 번호", "Line", "Line Number"]
def priorityPropertyNames : List String := ["우선순위", "Priority"]
def assigneeNames : List String := ["담당자", "Assignee", "Owner"]
def tagNames : List String := ["태그", "Tags", "Labels"]

def textValue (s : String) : Json := .array [.object [("text", .object [("content", .string s)])]]

def richText (s : String) : Json := .object [("rich_text", textValue s)]

def named (s : String) : Json := .object [("name", .string s)]

def select (option : String) : Json := .object [("select", named option)]

/-- The property for the status of an item, with its value. -/
def statusEntry? (s : Schema) : Option (String × Json) :=
  match s.ofKind? "status" with
  | some (name, p) => p.openOption?.map fun o => (name, .object [("status", named o)])
  | none => match s.statusSelect? with
    | some (name, p) => p.openOption?.map fun o => (name, select o)
    | none => none

/-- The properties to write, one after the other; a later one replaces an earlier one of its name. -/
def pageEntries (s : Schema) (title : String) (i : Item) : List (Option (String × Json)) :=
  [some (title, .object [("title", textValue i.content)]),
   (s.named? "rich_text" filePathNames).map fun p => (p.1, richText i.filePath),
   (s.named? "number" lineNames).map fun p => (p.1, .object [("number", Json.ofNat i.line)]),
   statusEntry? s,
   (s.named? "select" priorityPropertyNames).bind fun p => i.priority.map fun l => (p.1, select (p.2.priorityOption l)),
   (s.named? "rich_text" assigneeNames).bind fun p => i.assignee.map fun a => (p.1, richText a),
   (s.named? "multi_select" tagNames).bind fun p =>
     i.tags.map fun tags => (p.1, .object [("multi_select", .array (tags.map named))])]

/-- The properties of the page of an item, in the order of their names. -/
def pageProperties (s : Schema) (i : Item) : Except DeliveryError Json :=
  match s.ofKind? "title" with
  | none => .error (.permanent "Notion database has no title property")
  | some (title, _) => .ok (Json.ofFields ((pageEntries s title i).filterMap id))

end MarkerScan.Notion
