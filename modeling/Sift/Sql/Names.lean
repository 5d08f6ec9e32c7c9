/-!
# Names in SQL

How the names of columns and tables are written, and which type a column is known to have.
-/

namespace Sift.Sql

/-- A name in double quotes, with the quotes inside it doubled. -/
def quoteName (name : String) : String :=
  String.ofList ('"' :: name.toList.flatMap (fun c => if c = '"' then ['"', '"'] else [c]) ++ ['"'])

def splitDots : List Char → List (List Char)
  | [] => [[]]
  | c :: rest =>
    match splitDots rest with
    | [] => [[c]]
    | part :: parts => if c = '.' then [] :: part :: parts else (c :: part) :: parts

/-- A table's name, each of its parts between dots quoted on its own. -/
def quoteTable (name : String) : String :=
  ".".intercalate ((splitDots name.toList).map fun part => quoteName (String.ofList part))

def column (field : String) : String := "t." ++ quoteName field

structure ColumnTypes where
  entries : List (String × String)

namespace ColumnTypes

def empty : ColumnTypes := ⟨[]⟩

def insert (t : ColumnTypes) (column type : String) : ColumnTypes :=
  ⟨(column, type) :: t.entries.filter (·.1 != column)⟩

def ofList (l : List (String × String)) : ColumnTypes :=
  l.foldl (fun t e => t.insert e.1 e.2) empty

def get? (t : ColumnTypes) (column : String) : Option String := t.entries.lookup column

def size (t : ColumnTypes) : Nat := t.entries.length

def isEmpty (t : ColumnTypes) : Bool := t.entries.isEmpty

/-- Whether a type compares with text as it is. -/
def isCharacterType (type : String) : Bool :=
  ["text", "character", "citext", "name"].any fun start => start.toList.isPrefixOf type.toList

/-- The type that a text must be cast to before it is compared with a column, where the type of
the column is known and is not one of the character types. -/
def castTarget? (t : ColumnTypes) (column : String) : Option String :=
  (t.get? column).filter fun type => !isCharacterType type

/-- The type that a column was given last counts. -/
theorem get?_insert (t : ColumnTypes) (column type other : String) :
    (t.insert column type).get? other = if other = column then some type else t.get? other := by
  obtain ⟨es⟩ := t
  by_cases h : other = column
  · simp [insert, get?, h]
  · have h' : (other == column) = false := by simpa using h
    simp only [insert, get?, List.lookup_cons, h', if_neg h]
    induction es with
    | nil => rfl
    | cons e rest ih =>
      obtain ⟨c, y⟩ := e
      by_cases hc : c = column
      · subst hc; simp [List.lookup_cons, h', ih]
      · by_cases ho : other = c
        · subst ho; simp [hc]
        · have ho' : (other == c) = false := by simpa using ho
          simp [hc, List.lookup_cons, ho', ih]

end ColumnTypes

end Sift.Sql
