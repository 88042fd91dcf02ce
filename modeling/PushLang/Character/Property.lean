import PushLang.Character.Age
import PushLang.Character.Script
import PushLang.Character.Segment

namespace PushLang.Property

/-- A name without what makes no difference in it. -/
def normalize (name : List Char) : String :=
  let (isCut, rest) :=
    match name with
    | i :: s :: rest =>
      if i.toLower = 'i' ∧ s.toLower = 's' then (true, rest) else (false, name)
    | name => (false, name)
  let kept := rest.filter fun c => c ≠ ' ' ∧ c ≠ '_' ∧ c ≠ '-' ∧ c.toNat < 0x80
  let text := String.ofList (kept.map Char.toLower)
  if isCut && text == "c" then "isc" else text

/-- The characters with a trait, in a category or of a script, whichever has that name. -/
def find? (name : List Char) : Option CharSet :=
  let name := normalize name
  (((derived? name).or (Trait.find? name)).or (Category.find? name)).or (Script.find? name)

def findValue? (property value : List Char) : Option CharSet :=
  let value := normalize value
  match normalize property with
  | "gc" | "generalcategory" => Category.find? value
  | "sc" | "script" => Script.find? value
  | "scx" | "scriptextensions" => Script.findUsed? value
  | "age" => Age.find? value
  | "gcb" | "graphemeclusterbreak" => Grapheme.find? value
  | "wb" | "wordbreak" => Word.find? value
  | "sb" | "sentencebreak" => Sentence.find? value
  | _ => none

end PushLang.Property
