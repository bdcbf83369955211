namespace CliMetadata

/-- A type whose values are spelled by keywords. -/
class Keyword (α : Type) where
  all : List α
  text : α → String
  aliases : α → List String := fun _ ↦ []

namespace Keyword

variable {α : Type} [Keyword α]

def ofExact? (word : String) : Option α := (all (α := α)).find? fun a ↦ text a == word

/-- The value with this spelling or alias; the case of ASCII letters does not count. -/
def ofText? (word : String) : Option α :=
  (all (α := α)).find? fun a ↦
    (text a :: aliases a).any fun spelling ↦ spelling.toLower == word.toLower

end Keyword

end CliMetadata
