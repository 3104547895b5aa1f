import MarkerScan.Item.Basic
import MarkerScan.Json.Basic
/-
  MarkerScan.Slack.Message — items as messages of blocks.

  An item on its own is a section with its path and one with its line. A digest has a
  header with the number of items, a divider, for each file a section with its path and
  one for each item, with a divider after it if there are several files, and a context
  with the time at the end. It is cut into messages of 45 blocks.
-/

namespace MarkerScan.Slack

/-- The most blocks of one message. -/
def blockLimit : Nat := 45

def itemLine (i : Item) : String :=
  "• *Line " ++ toString i.line ++ ":* " ++ i.content
    ++ (match i.priority with
      | some p => " *[" ++ p.label ++ "]*"
      | none => "")
    ++ (match i.assignee with
      | some a => " @" ++ a
      | none => "")
    ++ String.join ((i.tags.getD []).map (" #" ++ ·))

def markdown (text : String) : Json := .object [("type", .string "mrkdwn"), ("text", .string text)]

def textSection (text : String) : Json := .object [("type", .string "section"), ("text", markdown text)]

def divider : Json := .object [("type", .string "divider")]

def itemBlocks (i : Item) : List Json := [textSection ("*" ++ i.filePath ++ "*"), textSection (itemLine i)]

/-- The message of one item. -/
def itemMessage (i : Item) : Json := .object [("text", .string i.content), ("blocks", .array (itemBlocks i))]

def header (items : List Item) : Json :=
  .object [("type", .string "header"),
    ("text", .object [("type", .string "plain_text"),
      ("text", .string ("TODO list (" ++ toString items.length ++ ")"))])]

def context (time : String) (items : List Item) : Json :=
  .object [("type", .string "context"),
    ("elements", .array [markdown (toString items.length ++ " TODOs | generated " ++ time)])]

/-- The blocks of one file. -/
def groupBlocks (several : Bool) (group : String × List Item) : List Json :=
  textSection ("*" ++ group.1 ++ "*") :: group.2.map (fun i => textSection (itemLine i))
    ++ if several then [divider] else []

/-- All blocks of a digest. -/
def digest (time : String) (items : List Item) : List Json :=
  let groups := Item.byFile items
  header items :: divider :: groups.flatMap (groupBlocks (decide (1 < groups.length))) ++ [context time items]

/-- A list cut into pieces of `n`, the last one shorter if it has to be; `left` bounds their number. -/
def cut {α : Type} (n : Nat) : Nat → List α → List (List α)
  | _, [] => []
  | 0, _ => []
  | left + 1, xs => xs.take n :: cut n left (xs.drop n)

/-- The messages of a digest, each a list of blocks. -/
def digestMessages (time : String) (items : List Item) : List (List Json) :=
  let blocks := digest time items
  cut blockLimit blocks.length blocks

def digestMessage (blocks : List Json) : Json := .object [("text", .string "TODO list"), ("blocks", .array blocks)]

def testMessage : Json := .object [("text", .string "todoscout connection test")]

end MarkerScan.Slack
