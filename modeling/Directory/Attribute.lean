import Directory.Ascending
import Directory.Error
import Directory.Text.Letters
import Directory.Text.Octets
/-! Attributes: named sets of values, and collections of attributes in which no name occurs twice.
The letter case of a name is kept, but not told apart. -/
namespace Directory

abbrev ValueSet := Ascending (fun value : Octets => value)

structure Attribute where
  name : String
  values : ValueSet
  deriving DecidableEq

namespace Attribute

def ofList (name : String) (values : List Octets) : Attribute := ⟨name, .ofList values⟩

def key (attr : Attribute) : String := foldCase attr.name

def alike (a b : Attribute) : Bool := sameName a.name b.name && a.values == b.values

def contains (attr : Attribute) (value : Octets) : Bool :=
  (attr.values.find? value).isSome

def insert (attr : Attribute) (value : Octets) : Attribute :=
  { attr with values := attr.values.insert value }

def erase (attr : Attribute) (value : Octets) : Attribute :=
  { attr with values := attr.values.erase value }

def texts (attr : Attribute) : List String := attr.values.toList.filterMap Octets.text?

end Attribute

/-- Attributes in the order of their names without letter case. -/
abbrev Attributes := Ascending Attribute.key

namespace Attributes

def get? (attributes : Attributes) (name : String) : Option Attribute :=
  attributes.find? (foldCase name)

def insertNew (attributes : Attributes) (attr : Attribute) : Except Error Attributes :=
  match attributes.find? attr.key with
  | some _ => .error (.duplicateAttribute attr.name)
  | none => .ok (attributes.insert attr)

def ofList (list : List Attribute) : Except Error Attributes := list.foldlM insertNew ∅

def remove (attributes : Attributes) (name : String) : Attributes := attributes.erase (foldCase name)

def update (attributes : Attributes) (name : String) (change : ValueSet → ValueSet) : Attributes :=
  match get? attributes name with
  | some attr => attributes.insert ⟨attr.name, change attr.values⟩
  | none => attributes

/-- Add a value under a name. The first to use a name decides its spelling. -/
def addValue (attributes : Attributes) (name : String) (value : Octets) : Attributes :=
  attributes.insert (((get? attributes name).getD (.ofList name [])).insert value)

def ofPairs (pairs : List (String × Octets)) : Attributes :=
  pairs.foldl (fun attributes (name, value) => addValue attributes name value) ∅

def firstText? (attributes : Attributes) (name : String) : Option String :=
  (get? attributes name).bind fun attr => attr.texts.head?

def alike (a b : Attributes) : Bool :=
  a.size == b.size && (a.toList.zip b.toList).all fun (x, y) => x.alike y

end Attributes

end Directory
