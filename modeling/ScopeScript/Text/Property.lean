import ScopeScript.Text.Category
import ScopeScript.Text.Script
import ScopeScript.Text.Space
import ScopeScript.Text.WordChar

/-!
# Properties of characters

The sets that the Unicode character database gives a name to: general categories, scripts, and
those of the properties that hold or do not which are listed here. Of a name neither case nor
blanks, hyphens and underscores count, nor does an `is` in front.
-/

namespace ScopeScript

/-- What counts of a name. The short name of a property that begins with `is` is kept. -/
def looseName (name : List Char) : List Char :=
  let significant := fun (text : List Char) =>
    (text.filter fun c => c.toNat < 0x80 && !(c == ' ' || c == '_' || c == '-')).map Char.toLower
  match name with
  | c :: d :: rest =>
    if c.toLower == 'i' && d.toLower == 's' then
      match significant rest with
      | ['c'] => ['i', 's', 'c']
      | rest => rest
    else significant name
  | _ => significant name

/-- Whether one of the names is meant. -/
def isNamed (name : List Char) (names : List String) : Bool :=
  names.any fun n => looseName n.toList == looseName name

/-- The table of a name. -/
def findTable? (name : List Char) (tables : List CharTable) : Option CharTable :=
  tables.find? fun t => isNamed name t.names

/-! ## General categories and scripts -/

/-- The characters in some of the general categories. -/
def inCategories (members : List String) : CharSet :=
  let tables := generalCategories.filter fun t => t.names.any members.contains
  .ofRows (tables.flatMap (·.rows))

/-- The characters that are assigned. -/
def assignedChars : CharSet := .ofRows (generalCategories.flatMap (·.rows))

/-- The set of a general category, or of some together. -/
def category? (name : List Char) : Option CharSet :=
  match categoryGroups.find? fun g => isNamed name g.1 with
  | some (_, members) => some (inCategories members)
  | none =>
    match findTable? name generalCategories with
    | some t => some (.ofRows t.rows)
    | none =>
      if isNamed name ["Any"] then some .all
      else if isNamed name ["ASCII"] then some (.upTo 0x7F)
      else if isNamed name ["Assigned"] then some assignedChars
      else if isNamed name ["Cn", "Unassigned"] then some assignedChars.complement
      else if isNamed name ["C", "Other"] then
        some ((inCategories ["Cc", "Cf", "Co"]).union assignedChars.complement)
      else none

/-- The set of a script. -/
def script? (name : List Char) : Option CharSet :=
  (findTable? name scripts).map fun t => .ofRows t.rows

/-! ## Properties that hold or do not -/

/-- Lowercase characters that are not letters of that category. -/
def otherLowercase : List String :=
  ["aa ba 2b0-2b8 2c0-2c1 2e0-2e4 345 37a 10fc 1d2c-1d6a 1d78 1d9b-1dbf 2071 207f 2090-209c",
   "2170-217f 24d0-24e9 2c7c-2c7d a69c-a69d a770 a7f2-a7f4 a7f8-a7f9 ab5c-ab5f ab69 10780",
   "10783-10785 10787-107b0 107b2-107ba 1e030-1e06d"]

/-- Uppercase characters that are not letters of that category. -/
def otherUppercase : List String :=
  ["2160-216f 24b6-24cf 1f130-1f149 1f150-1f169 1f170-1f189"]

/-- Lowercase characters. -/
def lowercaseChars : CharSet := (inCategories ["Ll"]).union (.ofRows otherLowercase)

/-- Uppercase characters. -/
def uppercaseChars : CharSet := (inCategories ["Lu"]).union (.ofRows otherUppercase)

/-- Alphabetic characters. -/
def alphabeticChars : CharSet := wordChars.difference (decimalDigits.union wordMarks)

/-- Properties with tables of their own. -/
def propertyTables : List CharTable := [
  ⟨["AHex", "ASCII_Hex_Digit"], ["30-39 41-46 61-66"]⟩,
  ⟨["Hex", "Hex_Digit"], ["30-39 41-46 61-66 ff10-ff19 ff21-ff26 ff41-ff46"]⟩,
  ⟨["Ideo", "Ideographic"],
    ["3006-3007 3021-3029 3038-303a 3400-4dbf 4e00-9fff f900-fa6d fa70-fad9 16fe4 17000-187f7",
     "18800-18cd5 18cff-18d08 1b170-1b2fb 20000-2a6df 2a700-2b739 2b740-2b81d 2b820-2cea1",
     "2ceb0-2ebe0 2ebf0-2ee5d 2f800-2fa1d 30000-3134a 31350-323af"]⟩,
  ⟨["Emoji"],
    ["23 2a 30-39 a9 ae 203c 2049 2122 2139 2194-2199 21a9-21aa 231a-231b 2328 23cf 23e9-23f3",
     "23f8-23fa 24c2 25aa-25ab 25b6 25c0 25fb-25fe 2600-2604 260e 2611 2614-2615 2618 261d 2620",
     "2622-2623 2626 262a 262e-262f 2638-263a 2640 2642 2648-2653 265f-2660 2663 2665-2666 2668",
     "267b 267e-267f 2692-2697 2699 269b-269c 26a0-26a1 26a7 26aa-26ab 26b0-26b1 26bd-26be",
     "26c4-26c5 26c8 26ce-26cf 26d1 26d3-26d4 26e9-26ea 26f0-26f5 26f7-26fa 26fd 2702 2705",
     "2708-270d 270f 2712-2716/2 271d 2721 2728 2733-2734 2744 2747 274c 274e 2753-2755 2757",
     "2763-2764 2795-2797 27a1 27b0 27bf 2934-2935 2b05-2b07 2b1b-2b1c 2b50 2b55 3030 303d 3297",
     "3299 1f004 1f0cf 1f170-1f171 1f17e-1f17f 1f18e 1f191-1f19a 1f1e6-1f1ff 1f201-1f202 1f21a",
     "1f22f 1f232-1f23a 1f250-1f251 1f300-1f321 1f324-1f393 1f396-1f397 1f399-1f39b 1f39e-1f3f0",
     "1f3f3-1f3f5 1f3f7-1f4fd 1f4ff-1f53d 1f549-1f54e 1f550-1f567 1f56f-1f570 1f573-1f57a 1f587",
     "1f58a-1f58d 1f590 1f595-1f596 1f5a4-1f5a5 1f5a8 1f5b1-1f5b2 1f5bc 1f5c2-1f5c4 1f5d1-1f5d3",
     "1f5dc-1f5de 1f5e1 1f5e3 1f5e8 1f5ef 1f5f3 1f5fa-1f64f 1f680-1f6c5 1f6cb-1f6d2 1f6d5-1f6d7",
     "1f6dc-1f6e5 1f6e9 1f6eb-1f6ec 1f6f0 1f6f3-1f6fc 1f7e0-1f7eb 1f7f0 1f90c-1f93a 1f93c-1f945",
     "1f947-1f9ff 1fa70-1fa7c 1fa80-1fa89 1fa8f-1fac6 1face-1fadc 1fadf-1fae9 1faf0-1faf8"]⟩,
  ⟨["EPres", "Emoji_Presentation"],
    ["231a-231b 23e9-23ec 23f0 23f3 25fd-25fe 2614-2615 2648-2653 267f 2693 26a1 26aa-26ab",
     "26bd-26be 26c4-26c5 26ce 26d4 26ea 26f2-26f3 26f5 26fa 26fd 2705 270a-270b 2728 274c 274e",
     "2753-2755 2757 2795-2797 27b0 27bf 2b1b-2b1c 2b50 2b55 1f004 1f0cf 1f18e 1f191-1f19a",
     "1f1e6-1f1ff 1f201 1f21a 1f22f 1f232-1f236 1f238-1f23a 1f250-1f251 1f300-1f320 1f32d-1f335",
     "1f337-1f37c 1f37e-1f393 1f3a0-1f3ca 1f3cf-1f3d3 1f3e0-1f3f0 1f3f4 1f3f8-1f43e 1f440",
     "1f442-1f4fc 1f4ff-1f53d 1f54b-1f54e 1f550-1f567 1f57a 1f595-1f596 1f5a4 1f5fb-1f64f",
     "1f680-1f6c5 1f6cc 1f6d0-1f6d2 1f6d5-1f6d7 1f6dc-1f6df 1f6eb-1f6ec 1f6f4-1f6fc 1f7e0-1f7eb",
     "1f7f0 1f90c-1f93a 1f93c-1f945 1f947-1f9ff 1fa70-1fa7c 1fa80-1fa89 1fa8f-1fac6 1face-1fadc",
     "1fadf-1fae9 1faf0-1faf8"]⟩]

/-- The set of a property that holds or does not. -/
def property? (name : List Char) : Option CharSet :=
  if isNamed name ["Alpha", "Alphabetic"] then some alphabeticChars
  else if isNamed name ["Lower", "Lowercase"] then some lowercaseChars
  else if isNamed name ["Upper", "Uppercase"] then some uppercaseChars
  else if isNamed name ["Cased"] then
    some ((lowercaseChars.union uppercaseChars).union (inCategories ["Lt"]))
  else if isNamed name ["WSpace", "White_Space", "space"] then some spaceChars
  else (findTable? name propertyTables).map fun t => .ofRows t.rows

/-! ## Names -/

/-- The set of a single name, first among the properties. -/
def setOfName? (name : List Char) : Option CharSet :=
  property? name <|> category? name <|> script? name

/-- The sets that the values of a property have, by their names. -/
def valuesOf? (name : List Char) : Option (List Char → Option CharSet) :=
  if isNamed name ["gc", "General_Category"] then some category?
  else if isNamed name ["sc", "Script"] then some script?
  else none

end ScopeScript
