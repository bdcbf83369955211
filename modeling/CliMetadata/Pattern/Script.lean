import CliMetadata.Pattern.Category
import CliMetadata.Text.ScriptData

namespace CliMetadata.CharClass

def scripts : List Script := scriptsAToC ++ scriptsDToK ++ scriptsLToO ++ scriptsPToZ

def findScript? (name : String) : Option Script :=
  (scripts ++ [common, inherited]).find? (·.names.contains name)

def script? (name : String) : Option CharSet := (findScript? name).map (.ofRanges ·.ranges)

/-- What a script uses. A shared character counts for the scripts that share it alone. -/
def scriptExtension? (name : String) : Option CharSet :=
  (findScript? name).map fun s ↦
    let all := CharSet.ofRanges (s.ranges ++ s.shared)
    if s.names = common.names ∨ s.names = inherited.names then
      all.diff (.ofRanges (scripts.flatMap (·.shared)))
    else all

end CliMetadata.CharClass
