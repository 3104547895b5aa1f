import MarkerScan.Json.Reader
/-
  MarkerScan.Json.Outline — a JSON text whose values are looked at later, or never.

  What nobody looks at only has to be well formed: a number may be of any size, a string
  may hold half a character, and arrays and objects may be as deep as they like. So the
  outline of a text keeps every field of an object where it stands, the same key as often
  as it comes up, and evaluates nothing.

  Strings and keys that are texts are kept as they are. Numbers are not told apart: the
  outline has a zero for each of them, and also for a string that is no text and for an
  object with such a key. It is meant for decoders that take no numbers, which refuse a
  zero wherever they look at it.
-/

namespace MarkerScan.Json

/-- What stands for a value that is not kept. -/
def unkept : Json := .number (.whole 0)

/-- What follows the closing quote of a string, whether it is a text or not. -/
def skipString : List Char → Option (List Char)
  | [] => none
  | '"' :: rest => some rest
  | '\\' :: 'u' :: a :: b :: c :: d :: rest => if (hex4? a b c d).isSome then skipString rest else none
  | '\\' :: c :: rest => if (simpleEscape? c).isSome then skipString rest else none
  | c :: rest => if c.toNat < 0x20 then none else skipString rest

/-- A string whose opening quote has been read, if it is a text, and what follows it. -/
def outlineString? (s : List Char) : Option (Option String × List Char) :=
  match stringBody .plain [] s with
  | some (text, rest) => some (some text, rest)
  | none => (skipString s).map fun rest => (none, rest)

/-- What follows a number. -/
def skipNumber (s : List Char) : Option (List Char) := do
  let s := match s with
    | '-' :: rest => rest
    | _ => s
  let (_, s) ← wholePart? s
  let (_, s) ← fractionPart? s
  let (_, s) ← exponentPart? s
  return s

/-- An object, if its keys are texts. -/
def outlineObject (fields : List (Option String × Json)) : Json :=
  match fields.mapM fun f => f.1.map fun key => (key, f.2) with
  | some fields => .object fields
  | none => unkept

mutual
/-- A value, and what follows it. -/
def outlineValue? : Nat → List Char → Option (Json × List Char)
  | 0, _ => none
  | fuel + 1, s =>
    match skipSpaces s with
    | [] => none
    | '"' :: rest => (outlineString? rest).map fun r => (r.1.elim unkept .string, r.2)
    | '[' :: rest =>
      match skipSpaces rest with
      | ']' :: rest => some (.array [], rest)
      | rest => outlineItems? fuel [] rest
    | '{' :: rest =>
      match skipSpaces rest with
      | '}' :: rest => some (.object [], rest)
      | rest => outlineFields? fuel [] rest
    | 'n' :: 'u' :: 'l' :: 'l' :: rest => some (.null, rest)
    | 't' :: 'r' :: 'u' :: 'e' :: rest => some (.bool true, rest)
    | 'f' :: 'a' :: 'l' :: 's' :: 'e' :: rest => some (.bool false, rest)
    | s => (skipNumber s).map fun rest => (unkept, rest)

/-- The items of an array from the next one on; `read` holds those before it, the latest first. -/
def outlineItems? : Nat → List Json → List Char → Option (Json × List Char)
  | 0, _, _ => none
  | fuel + 1, read, s =>
    match outlineValue? fuel s with
    | none => none
    | some (v, rest) =>
      match skipSpaces rest with
      | ',' :: rest => outlineItems? fuel (v :: read) rest
      | ']' :: rest => some (.array (v :: read).reverse, rest)
      | _ => none

/-- The fields of an object from the next one on. -/
def outlineFields? : Nat → List (Option String × Json) → List Char → Option (Json × List Char)
  | 0, _, _ => none
  | fuel + 1, read, s =>
    match skipSpaces s with
    | '"' :: rest =>
      match outlineString? rest with
      | none => none
      | some (key, rest) =>
        match skipSpaces rest with
        | ':' :: rest =>
          match outlineValue? fuel rest with
          | none => none
          | some (v, rest) =>
            match skipSpaces rest with
            | ',' :: rest => outlineFields? fuel ((key, v) :: read) rest
            | '}' :: rest => some (outlineObject ((key, v) :: read).reverse, rest)
            | _ => none
        | _ => none
    | _ => none
end

/-- The outline of a whole text. -/
def outline? (s : List Char) : Option Json :=
  match outlineValue? (fuelFor s) s with
  | some (v, rest) => if (skipSpaces rest).isEmpty then some v else none
  | none => none

end MarkerScan.Json
